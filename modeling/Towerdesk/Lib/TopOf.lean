import Towerdesk.Lib.Keyset

/-!
# The latest of a merge

The latest `n` of several sources together. It is enough to read the latest `n` of each source:
an element that its own source cuts off has `n` later ones beside it already. What is listed
then is what a reader means by the latest: newest first, as many as there are up to `n`, and
nothing left out is later than anything listed.
-/

namespace TopOf

open Keyset (sorted sorted_filter mem_sorted perm_sorted pairwise_sorted)

variable {α κ : Type*} [LinearOrder κ] {key : α → κ} {n : ℕ}

def latest (key : α → κ) (n : ℕ) (rows : List α) : List α := (sorted key rows).take n

structure IsLatest (key : α → κ) (n : ℕ) (rows items : List α) : Prop where
  newestFirst : items.Pairwise fun a b => key b < key a
  listed : ∀ a ∈ items, a ∈ rows
  length_eq : items.length = min n rows.length
  leftOut : ∀ a ∈ rows, a ∉ items → ∀ b ∈ items, key a < key b

section Latest

variable {rows : List α}

theorem mem_of_mem_latest {a : α} (h : a ∈ latest key n rows) : a ∈ rows := by
  have hmem : a ∈ sorted key rows := List.mem_of_mem_take h
  exact mem_sorted.mp hmem

theorem isLatest_latest (hnodup : (rows.map key).Nodup) :
    IsLatest key n rows (latest key n rows) where
  newestFirst := (pairwise_sorted hnodup).sublist (List.take_sublist _ _)
  listed _ := mem_of_mem_latest
  length_eq := by
    have hperm : (sorted key rows).Perm rows := perm_sorted
    rw [latest, List.length_take, hperm.length_eq]
  leftOut a ha hnot b hb := by
    have hsplit : sorted key rows = latest key n rows ++ (sorted key rows).drop n :=
      (List.take_append_drop n (sorted key rows)).symm
    have hsorted := pairwise_sorted hnodup
    have hmem : a ∈ sorted key rows := mem_sorted.mpr ha
    rw [hsplit] at hsorted hmem
    have hrest := (List.mem_append.mp hmem).resolve_left hnot
    exact (List.pairwise_append.mp hsorted).2.2 b hb a hrest

theorem latest_map {β : Type*} {f : β → α} {rows : List β} :
    latest key n (rows.map f) = (latest (key ∘ f) n rows).map f := by
  have hsorted := List.map_insertionSort (r := fun a b => key (f b) ≤ key (f a))
    (s := fun a b => key b ≤ key a) f rows fun a _ b _ => Iff.rfl
  rw [latest, latest, List.map_take]
  exact congrArg (List.take n) hsorted.symm

theorem nodup_latest (hnodup : (rows.map key).Nodup) : ((latest key n rows).map key).Nodup :=
  ((perm_sorted.map key).nodup_iff.mpr hnodup).sublist ((List.take_sublist _ _).map key)

theorem mem_take_iff {l : List α} (h : l.Pairwise fun a b => key b < key a) {a : α} (ha : a ∈ l) :
    a ∈ l.take n ↔ l.countP (fun b => key a < key b) < n := by
  induction l generalizing n with
  | nil => simp at ha
  | cons b l ih =>
    obtain ⟨hfirst, hrest⟩ := List.pairwise_cons.mp h
    cases n with
    | zero => simp
    | succ n =>
      rw [List.take_succ_cons, List.mem_cons, List.countP_cons]
      rcases List.mem_cons.mp ha with rfl | ha
      · have hnone : l.countP (fun b => key a < key b) = 0 :=
          List.countP_eq_zero.mpr fun b hb => by simpa using (hfirst b hb).le
        simp [hnone]
      · have hlt := hfirst a ha
        have hne : a ≠ b := fun heq => hlt.ne (congrArg key heq)
        rw [ih hrest ha]
        simp [hne, hlt]

theorem mem_latest_iff (hnodup : (rows.map key).Nodup) {a : α} (ha : a ∈ rows) :
    a ∈ latest key n rows ↔ rows.countP (fun b => key a < key b) < n := by
  rw [latest, mem_take_iff (pairwise_sorted hnodup) (mem_sorted.mpr ha),
    perm_sorted.countP_eq]

theorem take_filter {l : List α} {p : α → Bool} (h : ∀ a ∈ l.take n, p a = true) :
    (l.filter p).take n = l.take n := by
  induction l generalizing n with
  | nil => rfl
  | cons a l ih =>
    cases n with
    | zero => simp
    | succ n =>
      rw [List.take_succ_cons] at h ⊢
      obtain ⟨ha, hl⟩ := List.forall_mem_cons.mp h
      rw [List.filter_cons_of_pos ha, List.take_succ_cons, ih hl]

/-- The latest are not changed by leaving out others. -/
theorem latest_of_subset (hnodup : (rows.map key).Nodup) {kept : List α}
    (hkept : (kept.map key).Nodup) (hsub : kept ⊆ rows)
    (hlatest : ∀ a ∈ latest key n rows, a ∈ kept) : latest key n kept = latest key n rows := by
  classical
  have hsorted := pairwise_sorted hnodup
  have hsortedKept := pairwise_sorted hkept
  have hperm : (sorted key kept).Perm ((sorted key rows).filter (· ∈ kept)) := by
    rw [List.perm_ext_iff_of_nodup (hsortedKept.imp fun h heq => h.ne' (congrArg key heq))
      ((hsorted.imp fun h heq => h.ne' (congrArg key heq)).filter _)]
    intro a
    simp only [mem_sorted, List.mem_filter, decide_eq_true_eq]
    exact ⟨fun ha => ⟨hsub ha, ha⟩, And.right⟩
  have heq : sorted key kept = (sorted key rows).filter (· ∈ kept) :=
    hperm.eq_of_pairwise (fun a b _ _ hab hba => absurd hab hba.not_gt) hsortedKept
      (hsorted.filter _)
  rw [latest, heq, take_filter fun a ha => decide_eq_true (hlatest a ha)]
  rfl

end Latest

section Merge

variable {sources : List (List α)}

theorem nodup_merge (hnodup : (sources.flatten.map key).Nodup) :
    ((sources.map (latest key n)).flatten.map key).Nodup := by
  induction sources with
  | nil => exact hnodup
  | cons source sources ih =>
    simp only [List.map_cons, List.flatten_cons, List.map_append] at hnodup ⊢
    obtain ⟨hsource, hsources, hdisjoint⟩ := List.nodup_append'.mp hnodup
    refine (nodup_latest hsource).append (ih hsources) ?_
    intro k hk hk'
    obtain ⟨a, ha, rfl⟩ := List.mem_map.mp hk
    obtain ⟨b, hb, hab⟩ := List.mem_map.mp hk'
    obtain ⟨cut, hcut, hb⟩ := List.mem_flatten.mp hb
    obtain ⟨other, hother, rfl⟩ := List.mem_map.mp hcut
    refine hdisjoint (List.mem_map_of_mem (mem_of_mem_latest ha)) ?_
    rw [← hab]
    exact List.mem_map_of_mem (List.mem_flatten_of_mem hother (mem_of_mem_latest hb))

/-- What is listed is the latest of the rows that count exactly when every row counts that is
as late as one of them. -/
theorem isLatest_filter_iff {rows : List α} (hnodup : (rows.map key).Nodup) (hn : 0 < n) {p : α → Bool}
    (hp : ∀ a ∈ rows, ∀ b ∈ rows, key a ≤ key b → p b = true → p a = true) :
    IsLatest key n (rows.filter p) (latest key n rows) ↔ ∀ a ∈ rows, p a = true := by
  constructor
  · intro h a ha
    cases hrows : sorted key rows with
    | nil =>
      have hmem : a ∈ sorted key rows := mem_sorted.mpr ha
      rw [hrows] at hmem
      cases hmem
    | cons b rest =>
      obtain ⟨hb, hgreatest⟩ := Keyset.head_sorted (List.head?_eq_some_iff.mpr ⟨rest, hrows⟩)
      have hlisted : b ∈ latest key n rows := by
        rw [latest, hrows, List.take_cons hn]
        exact List.mem_cons_self
      exact hp a ha b hb (hgreatest a ha) (List.mem_filter.mp (h.listed b hlisted)).2
  · intro h
    rw [List.filter_eq_self.mpr h]
    exact isLatest_latest hnodup

/-- Each source may be cut to its own latest before they are merged. -/
theorem latest_merge (hnodup : (sources.flatten.map key).Nodup) :
    latest key n (sources.map (latest key n)).flatten = latest key n sources.flatten := by
  refine latest_of_subset hnodup (nodup_merge hnodup) ?_ ?_
  · intro a ha
    obtain ⟨cut, hcut, ha⟩ := List.mem_flatten.mp ha
    obtain ⟨source, hsource, rfl⟩ := List.mem_map.mp hcut
    exact List.mem_flatten_of_mem hsource (mem_of_mem_latest ha)
  · intro a ha
    obtain ⟨source, hsource, hmem⟩ := List.mem_flatten.mp (mem_of_mem_latest ha)
    have hsub : source.Sublist sources.flatten := List.sublist_flatten_of_mem hsource
    have hfew := (mem_latest_iff hnodup (mem_of_mem_latest ha)).mp ha
    have hown : a ∈ latest key n source :=
      (mem_latest_iff (hnodup.sublist (hsub.map key)) hmem).mpr
        (hsub.countP_le.trans_lt hfew)
    exact List.mem_flatten_of_mem (List.mem_map_of_mem hsource) hown

end Merge

end TopOf
