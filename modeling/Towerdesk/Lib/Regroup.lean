import Towerdesk.Lib.Keyset
import Mathlib.Logic.Function.Basic

/-!
# Batched reads

Rows read for many keys at once are folded, in their order, into a map that has an entry for
each key. The entry of a key is the fold of that key's rows alone. So a batch answers each of
its sources as a batch of that source alone does, where its reads leave out no row of a key that
is asked for.
-/

namespace Regroup

variable {α β γ κ ω σ : Type*}

section Collect

variable [DecidableEq κ] {key : α → Option κ} {step : Option β → α → Option β} {rows : List α} {k : κ}

/-- A row changes the entry of its key, if it has one. -/
def put (key : α → Option κ) (step : Option β → α → Option β) (entries : κ → Option β) (a : α) :
    κ → Option β :=
  match key a with
  | none => entries
  | some k => Function.update entries k (step (entries k) a)

/-- The map after the loop over the rows. -/
def collect (key : α → Option κ) (step : Option β → α → Option β) (rows : List α) :
    κ → Option β :=
  rows.foldl (put key step) fun _ => none

def rowsOf (key : α → Option κ) (rows : List α) (k : κ) : List α :=
  rows.filter fun a => key a = some k

theorem put_of_eq {entries : κ → Option β} {a : α} (h : key a = some k) :
    put key step entries a k = step (entries k) a := by
  rw [put, h]
  exact Function.update_self k _ entries

theorem put_of_ne {entries : κ → Option β} {a : α} (h : key a ≠ some k) :
    put key step entries a k = entries k := by
  cases ha : key a with
  | none => simp only [put, ha]
  | some k' =>
    have hne : k ≠ k' := fun hkk => h (by rw [ha, hkk])
    simp only [put, ha]
    exact Function.update_of_ne hne _ entries

theorem foldl_put_apply (entries : κ → Option β) :
    rows.foldl (put key step) entries k = (rowsOf key rows k).foldl step (entries k) := by
  induction rows generalizing entries with
  | nil => rfl
  | cons a rows ih =>
    rw [List.foldl_cons, ih]
    by_cases h : key a = some k
    · have hcons : rowsOf key (a :: rows) k = a :: rowsOf key rows k :=
        List.filter_cons_of_pos (by simpa using h)
      rw [hcons, List.foldl_cons, put_of_eq h]
    · have hskip : rowsOf key (a :: rows) k = rowsOf key rows k :=
        List.filter_cons_of_neg (by simpa using h)
      rw [hskip, put_of_ne h]

/-- The entry of a key comes from the rows of that key alone. -/
theorem collect_apply : collect key step rows k = (rowsOf key rows k).foldl step none :=
  foldl_put_apply _

end Collect

section Steps

variable [DecidableEq κ] {key : α → Option κ} {rows : List α} {k : κ}

/-- The rows of a key one after the other. -/
def push (entry : Option (List α)) (a : α) : Option (List α) := some (entry.getD [] ++ [a])

/-- The first value of a key, where rows without one are passed over. -/
def keepFirst (value : α → Option β) (entry : Option β) (a : α) : Option β := entry.or (value a)

/-- The last value of a key. -/
def replace (value : α → β) (_ : Option β) (a : α) : Option β := some (value a)

theorem foldl_push (entry : Option (List α)) :
    (rows.foldl push entry).getD [] = entry.getD [] ++ rows := by
  induction rows generalizing entry with
  | nil => rw [List.foldl_nil, List.append_nil]
  | cons a rows ih =>
    rw [List.foldl_cons, ih, push, Option.getD_some, List.append_assoc, List.singleton_append]

theorem foldl_keepFirst {value : α → Option β} (entry : Option β) :
    rows.foldl (keepFirst value) entry = entry.or (rows.findSome? value) := by
  induction rows generalizing entry with
  | nil => simp
  | cons a rows ih =>
    rw [List.foldl_cons, ih, keepFirst, Option.or_assoc, List.findSome?_cons]
    cases value a <;> rfl

theorem foldl_replace {value : α → β} {b : β} (hne : rows ≠ []) (hsame : ∀ a ∈ rows, value a = b)
    (entry : Option β) : rows.foldl (replace value) entry = some b := by
  induction rows generalizing entry with
  | nil => exact absurd rfl hne
  | cons a rows ih =>
    rw [List.foldl_cons]
    obtain rfl | hrest := eq_or_ne rows []
    · rw [List.foldl_nil, replace, hsame a List.mem_cons_self]
    · exact ih hrest (fun b hb => hsame b (List.mem_cons_of_mem a hb)) _

@[simp] theorem collect_push : (collect key push rows k).getD [] = rowsOf key rows k := by
  rw [collect_apply, foldl_push, Option.getD_none, List.nil_append]

@[simp] theorem collect_keepFirst {value : α → Option β} :
    collect key (keepFirst value) rows k = (rowsOf key rows k).findSome? value := by
  rw [collect_apply, foldl_keepFirst, Option.none_or]

theorem collect_first {value : α → β} :
    collect key (keepFirst fun a => some (value a)) rows k =
      (rowsOf key rows k).head?.map value := by
  rw [collect_keepFirst, ← List.head?_filterMap, ← List.head?_map]
  exact congrArg List.head? (congrFun List.filterMap_eq_map _)

end Steps

theorem nodup_order {rows : List α} {order : α → ω} {ident : α → κ}
    (hident : ∀ a b, order a = order b → ident a = ident b) (h : (rows.map ident).Nodup) :
    (rows.map order).Nodup := by
  have hpairwise : rows.Pairwise fun a b => ident a ≠ ident b := List.pairwise_map.mp h
  exact List.pairwise_map.mpr (hpairwise.imp fun hne heq => hne (hident _ _ heq))

section FindMany

variable [DecidableEq κ] [LinearOrder ω] {order : α → ω} {p : α → Bool} {rows : List α}
variable {key : α → Option κ} {k : κ}

/-- `findMany` with a condition and a descending order. -/
def findMany (order : α → ω) (p : α → Bool) (rows : List α) : List α :=
  Keyset.sorted order (rows.filter p)

/-- A key is given by a read for many what a read for it alone gives, where the first finds
with the key what the second finds. -/
theorem rowsOf_findMany {own : α → Bool} (hnodup : (rows.map order).Nodup)
    (hown : ∀ a ∈ rows, own a = true ↔ key a = some k ∧ p a = true) :
    rowsOf key (findMany order p rows) k = findMany order own rows := by
  have hsub : ((rows.filter p).map order).Nodup := hnodup.sublist (List.filter_sublist.map order)
  rw [rowsOf, findMany, ← Keyset.sorted_filter hsub, List.filter_filter]
  refine congrArg (Keyset.sorted order) (List.filter_congr fun a ha => ?_)
  rw [Bool.eq_iff_iff, Bool.and_eq_true, decide_eq_true_eq]
  exact (hown a ha).symm

end FindMany

section Sources

variable {ident : σ → κ} {seen : List κ} {sources : List σ} {s : σ}

theorem nodup_eraseDups [DecidableEq κ] : ∀ l : List κ, l.eraseDups.Nodup
  | [] => List.nodup_nil
  | k :: l => by
    rw [List.eraseDups_cons, List.nodup_cons]
    have hshorter : (l.filter fun b => !b == k).length ≤ l.length := List.length_filter_le _ l
    exact ⟨by simp [List.mem_eraseDups], nodup_eraseDups _⟩
termination_by l => l.length

/-- `new Set` of what is read off the sources. -/
def distinct [DecidableEq κ] (f : σ → κ) (sources : List σ) : List κ := (sources.map f).eraseDups

theorem contains_distinct [DecidableEq κ] {f : σ → κ} (hs : s ∈ sources) :
    (distinct f sources).contains (f s) = true := by
  rw [List.contains_iff_mem, distinct, List.mem_eraseDups]
  exact List.mem_map_of_mem hs

/-- Sources of one identity are the same source. -/
def Consistent (ident : σ → κ) (sources : List σ) : Prop :=
  ∀ a ∈ sources, ∀ b ∈ sources, ident a = ident b → a = b

section Dedupe

variable [DecidableEq κ]

/-- The first source of each identity not yet seen. -/
def dedupeBy (ident : σ → κ) : List κ → List σ → List σ
  | _, [] => []
  | seen, s :: sources =>
    if ident s ∈ seen then dedupeBy ident seen sources
    else s :: dedupeBy ident (ident s :: seen) sources

theorem dedupeBy_subset : dedupeBy ident seen sources ⊆ sources := by
  induction sources generalizing seen with
  | nil => exact List.Subset.refl _
  | cons a sources ih =>
    rw [dedupeBy]
    split
    · exact List.Subset.trans ih (List.subset_cons_self a sources)
    · exact List.cons_subset_cons a ih

theorem exists_mem_dedupeBy (hs : s ∈ sources) (hseen : ident s ∉ seen) :
    ∃ s' ∈ dedupeBy ident seen sources, ident s' = ident s := by
  induction sources generalizing seen with
  | nil => cases hs
  | cons a sources ih =>
    rw [dedupeBy]
    by_cases hfirst : ident a = ident s
    · rw [hfirst, if_neg hseen]
      exact ⟨a, List.mem_cons_self, hfirst⟩
    · have hrest : s ∈ sources :=
        (List.mem_cons.mp hs).resolve_left fun hsa => hfirst (congrArg ident hsa.symm)
      split
      · exact ih hrest hseen
      · have hseen' : ident s ∉ ident a :: seen := fun hmem =>
          (List.mem_cons.mp hmem).elim (fun heq => hfirst heq.symm) hseen
        obtain ⟨s', hs', hident⟩ := ih hrest hseen'
        exact ⟨s', List.mem_cons_of_mem a hs', hident⟩

theorem Consistent.mem_dedupeBy (h : Consistent ident sources) :
    s ∈ dedupeBy ident [] sources ↔ s ∈ sources := by
  constructor
  · exact fun hs => dedupeBy_subset hs
  · intro hs
    have hunseen : ident s ∉ [] := List.not_mem_nil
    obtain ⟨s', hs', hident⟩ := exists_mem_dedupeBy hs hunseen
    rwa [← h s' (dedupeBy_subset hs') s hs hident]

theorem Consistent.dedupeBy (h : Consistent ident sources) :
    Consistent ident (dedupeBy ident [] sources) :=
  fun a ha b hb => h a (dedupeBy_subset ha) b (dedupeBy_subset hb)

/-- The map with the value of each source, in a list where each identity is kept once. -/
def batch (ident : σ → κ) (value : List σ → σ → γ) (sources : List σ) : κ → Option γ :=
  let uniqueSources := dedupeBy ident [] sources
  if uniqueSources.length = 0 then fun _ => none
  else collect (fun s => some (ident s)) (replace (value uniqueSources)) uniqueSources

theorem collect_replace {value : σ → γ} (h : Consistent ident sources) (hs : s ∈ sources) :
    collect (fun a => some (ident a)) (replace value) sources (ident s) = some (value s) := by
  have hmem : s ∈ rowsOf (fun a => some (ident a)) sources (ident s) :=
    List.mem_filter.mpr ⟨hs, by simp⟩
  rw [collect_apply]
  refine foldl_replace (List.ne_nil_of_mem hmem) (fun a ha => ?_) none
  obtain ⟨ha, hident⟩ := List.mem_filter.mp ha
  rw [h a ha s hs (by simpa using hident)]

theorem Consistent.batch_apply {value : List σ → σ → γ} (h : Consistent ident sources)
    (hs : s ∈ sources) :
    batch ident value sources (ident s) = some (value (Regroup.dedupeBy ident [] sources) s) := by
  have hmem : s ∈ Regroup.dedupeBy ident [] sources := h.mem_dedupeBy.mpr hs
  rw [batch, if_neg (List.length_pos_of_mem hmem).ne', collect_replace h.dedupeBy hmem]

end Dedupe

/-- In every batch of valid sources each one is answered by what it is itself. -/
def Answers (valid : σ → Prop) (ident : σ → κ) (build : List σ → κ → Option γ)
    (answer : σ → γ) : Prop :=
  ∀ sources, Consistent ident sources → (∀ s ∈ sources, valid s) →
    ∀ s ∈ sources, build sources (ident s) = some (answer s)

theorem answers_batch [DecidableEq κ] {valid : σ → Prop} {value : List σ → σ → γ} {answer : σ → γ}
    (h : ∀ sources, ∀ s ∈ sources, valid s → value sources s = answer s) :
    Answers valid ident (batch ident value) answer := by
  intro sources hsources hvalid s hs
  rw [hsources.batch_apply hs, h _ s (hsources.mem_dedupeBy.mpr hs) (hvalid s hs)]

theorem Answers.alone {valid : σ → Prop} {build : List σ → κ → Option γ} {answer : σ → γ}
    (h : Answers valid ident build answer) (hsources : Consistent ident sources)
    (hvalid : ∀ s ∈ sources, valid s) (hs : s ∈ sources) :
    build sources (ident s) = build [s] (ident s) := by
  have hself : Consistent ident [s] := fun a ha b hb _ =>
    (List.mem_singleton.mp ha).trans (List.mem_singleton.mp hb).symm
  rw [h sources hsources hvalid s hs,
    h [s] hself (fun a ha => List.mem_singleton.mp ha ▸ hvalid s hs) s List.mem_cons_self]

section Entries

variable [DecidableEq κ] {ident : σ → κ} {rows : List σ} {r : σ} {k : κ} {p : σ → Bool}

/-- The map that the rows are put into one after the other: of each identity the last row. -/
def entries (ident : σ → κ) (rows : List σ) : κ → Option σ :=
  collect (fun a => some (ident a)) (replace id) rows

/-- The entries of the map, in the order in which the identities came first. -/
def values (ident : σ → κ) (rows : List σ) : List σ :=
  (distinct ident rows).filterMap (entries ident rows)

theorem foldl_replace_id (entry : Option σ) :
    rows.foldl (replace id) entry = rows.getLast?.or entry := by
  induction rows generalizing entry with
  | nil => rfl
  | cons a rows ih =>
    rw [List.foldl_cons, ih, List.getLast?_cons, replace, id]
    cases rows.getLast? <;> rfl

theorem entries_apply :
    entries ident rows k = (rowsOf (fun a => some (ident a)) rows k).getLast? := by
  rw [entries, collect_apply, foldl_replace_id, Option.or_none]

theorem mem_of_entries (h : entries ident rows k = some r) : r ∈ rows ∧ ident r = k := by
  rw [entries_apply] at h
  have hmem := List.mem_of_getLast? h
  simpa [rowsOf] using hmem

theorem isSome_entries : (entries ident rows k).isSome = true ↔ ∃ r ∈ rows, ident r = k := by
  rw [entries_apply, List.getLast?_isSome, rowsOf, Ne, List.filter_eq_nil_iff]
  simp

theorem entries_filter (h : ∀ a ∈ rows, ident a = k → p a = true) :
    entries ident (rows.filter p) k = entries ident rows k := by
  rw [entries_apply, entries_apply, rowsOf, rowsOf, List.filter_filter]
  refine congrArg List.getLast? (List.filter_congr fun a ha => ?_)
  by_cases hk : ident a = k
  · simp [hk, h a ha hk]
  · simp [hk]

theorem entries_of_consistent (h : Consistent ident rows) :
    entries ident rows k = some r ↔ r ∈ rows ∧ ident r = k := by
  constructor
  · exact mem_of_entries
  · intro hr
    obtain ⟨r', hr'⟩ := Option.isSome_iff_exists.mp (isSome_entries.mpr ⟨r, hr⟩)
    obtain ⟨hmem, hident⟩ := mem_of_entries hr'
    rw [hr', h r' hmem r hr.1 (hident.trans hr.2.symm)]

theorem entries_of_nodup (hnodup : (rows.map ident).Nodup) :
    entries ident rows k = some r ↔ r ∈ rows ∧ ident r = k :=
  entries_of_consistent fun _ ha _ hb => List.inj_on_of_nodup_map hnodup ha hb

theorem mem_values : r ∈ values ident rows ↔ entries ident rows (ident r) = some r := by
  rw [values, List.mem_filterMap]
  constructor
  · rintro ⟨k, -, hk⟩
    rwa [(mem_of_entries hk).2]
  · intro h
    refine ⟨ident r, ?_, h⟩
    rw [distinct, List.mem_eraseDups]
    exact List.mem_map_of_mem (mem_of_entries h).1

theorem map_values : (values ident rows).map ident = distinct ident rows := by
  have hkeys : ∀ k ∈ distinct ident rows, ((entries ident rows k).map ident) = some k := by
    intro k hk
    rw [distinct, List.mem_eraseDups, List.mem_map] at hk
    obtain ⟨r, hr⟩ := Option.isSome_iff_exists.mp (isSome_entries.mpr hk)
    rw [hr, Option.map_some, (mem_of_entries hr).2]
  rw [values, List.map_filterMap, List.filterMap_congr hkeys, List.filterMap_some]

theorem nodup_values : ((values ident rows).map ident).Nodup := by
  rw [map_values]
  exact nodup_eraseDups _

end Entries

/-- A condition on what the rows are made of can be left to the rows. -/
theorem filterMap_filter_key [DecidableEq κ] {f : α → Option β} {p : α → Bool} (key : α → κ)
    {keyOf : β → κ} {k : κ} (h : ∀ a b, f a = some b → keyOf b = key a) (rows : List α) :
    (rows.filter fun a => p a && decide (key a = k)).filterMap f =
      ((rows.filter p).filterMap f).filter (keyOf · = k) := by
  rw [List.filter_filterMap, List.filterMap_filter, List.filterMap_filter]
  refine List.filterMap_congr fun a _ => ?_
  cases hf : f a with
  | none => simp
  | some b =>
    have hkey : keyOf b = key a := h a b hf
    by_cases hk : key a = k
    · simp [hkey, hk, Option.filter]
    · simp [hkey, hk, Option.filter]

end Sources

end Regroup
