import Mathlib.Data.List.Sort
import Mathlib.Order.Basic

/-!
# Keyset pagination

Rows in strictly descending order of a key are read in pages: a page has the next rows
below a cursor, and the cursor of the following page is made from its last row. `Visits`
says what a reader sees who follows the cursors to the end. Where a cursor stands for a
key at or below its row, the reader sees every row once, in order, exactly when no two
rows that a page boundary parts have such a key between them.
-/

namespace Keyset

variable {α κ : Type*} [LinearOrder κ]

section Order

variable {key : α → κ} {rows : List α}

def sorted (key : α → κ) (rows : List α) : List α := rows.insertionSort fun a b => key b ≤ key a

@[simp] theorem mem_sorted {a : α} : a ∈ sorted key rows ↔ a ∈ rows :=
  List.mem_insertionSort _

theorem perm_sorted : (sorted key rows).Perm rows := List.perm_insertionSort _ _

theorem pairwise_le_sorted : (sorted key rows).Pairwise fun a b => key b ≤ key a := by
  have : IsTrans α fun a b => key b ≤ key a := ⟨fun _ _ _ hab hbc => hbc.trans hab⟩
  have : Std.Total fun a b : α => key b ≤ key a := ⟨fun a b => le_total (key b) (key a)⟩
  exact List.pairwise_insertionSort _ _

theorem head_sorted {a : α} (h : (sorted key rows).head? = some a) :
    a ∈ rows ∧ ∀ b ∈ rows, key b ≤ key a := by
  refine ⟨mem_sorted.mp (List.mem_of_mem_head? h), fun b hb => ?_⟩
  obtain ⟨rest, hrest⟩ := List.head?_eq_some_iff.mp h
  have hb' : b ∈ a :: rest := hrest ▸ mem_sorted.mpr hb
  have hpairwise : (a :: rest).Pairwise fun a b => key b ≤ key a := hrest ▸ pairwise_le_sorted
  rcases List.mem_cons.mp hb' with rfl | hb'
  · exact le_refl _
  · exact List.rel_of_pairwise_cons hpairwise hb'

theorem pairwise_sorted (hnodup : (rows.map key).Nodup) :
    (sorted key rows).Pairwise fun a b => key b < key a := by
  have hle : (sorted key rows).Pairwise fun a b => key b ≤ key a := pairwise_le_sorted
  have hne : (sorted key rows).Pairwise fun a b => key a ≠ key b := by
    rw [← List.pairwise_map, ← List.Nodup]
    exact (perm_sorted.map key).nodup_iff.mpr hnodup
  exact (hle.and hne).imp fun h => lt_of_le_of_ne h.1 h.2.symm

theorem sorted_filter (hnodup : (rows.map key).Nodup) (p : α → Bool) :
    sorted key (rows.filter p) = (sorted key rows).filter p := by
  have hsub : ((rows.filter p).map key).Nodup := hnodup.sublist ((List.filter_sublist).map key)
  have hperm : (sorted key (rows.filter p)).Perm ((sorted key rows).filter p) :=
    perm_sorted.trans (perm_sorted.symm.filter p)
  refine hperm.eq_of_pairwise (fun a b _ _ hab hba => absurd hab hba.not_gt)
    (pairwise_sorted hsub) ((pairwise_sorted hnodup).filter p)

end Order

section Ranks

variable {rank : α → ℕ} {rows : List α}

/-- The first rows have the lowest ranks, so a rank is served with what the lower ones leave. -/
theorem length_filter_take (h : rows.Pairwise fun a b => rank a ≤ rank b) (r n : ℕ) :
    ((rows.take n).filter (rank · = r)).length =
      min (rows.filter (rank · = r)).length (n - (rows.filter (rank · < r)).length) := by
  induction rows generalizing n with
  | nil => simp
  | cons a rows ih =>
    obtain ⟨hfirst, hrest⟩ := List.pairwise_cons.mp h
    cases n with
    | zero => simp
    | succ n =>
      rw [List.take_succ_cons]
      obtain hlt | heq | hgt := Nat.lt_trichotomy (rank a) r
      · have hne : rank a ≠ r := hlt.ne
        simp only [List.filter_cons, hne, hlt, decide_false, decide_true, if_true,
          Bool.false_eq_true, if_false, List.length_cons, ih hrest]
        omega
      · have hbefore : rows.filter (rank · < r) = [] :=
          List.filter_eq_nil_iff.mpr fun b hb => by simpa [← heq] using hfirst b hb
        simp only [List.filter_cons, heq, lt_self_iff_false, decide_false, decide_true, if_true,
          Bool.false_eq_true, if_false, List.length_cons, ih hrest, hbefore, List.length_nil]
        omega
      · have hnone : ∀ b ∈ a :: rows, rank b ≠ r := by
          refine List.forall_mem_cons.mpr ⟨hgt.ne', fun b hb => ?_⟩
          exact (hgt.trans_le (hfirst b hb)).ne'
        have hall : (a :: rows).filter (rank · = r) = [] :=
          List.filter_eq_nil_iff.mpr fun b hb => by simpa using hnone b hb
        have htake : (a :: rows.take n).filter (rank · = r) = [] :=
          List.filter_eq_nil_iff.mpr fun b hb => by
            simpa using hnone b (List.take_subset (n + 1) (a :: rows) hb)
        rw [hall, htake]
        simp

end Ranks

section Pages

variable (key : α → κ) (limit : ℕ) (rows : List α)

def below (c : Option κ) : List α :=
  match c with
  | none => rows
  | some k => rows.filter fun a => key a < k

def window (c : Option κ) : List α := (below key rows c).take (limit + 1)

def pageItems (c : Option κ) : List α := (window key limit rows c).take limit

def pageLast (c : Option κ) : Option α :=
  if limit < (window key limit rows c).length then (pageItems key limit rows c).getLast?
  else none

/-- What a reader sees who follows the cursors until there is none. A cursor that cannot
be read back ends nothing. -/
inductive Visits (cursor : α → Option κ) : Option κ → List α → Prop
  | last {c : Option κ} (h : pageLast key limit rows c = none) :
      Visits cursor c (pageItems key limit rows c)
  | more {c : Option κ} {a : α} {k : κ} {rest : List α}
      (h : pageLast key limit rows c = some a) (hk : cursor a = some k)
      (hrest : Visits cursor (some k) rest) :
      Visits cursor c (pageItems key limit rows c ++ rest)

/-- At every page boundary the next row is below the cursor of the last one. -/
def Seamless (cursor : α → Option κ) : Prop :=
  ∀ pre a b post, rows = pre ++ a :: b :: post → limit ∣ pre.length + 1 →
    ∃ k, cursor a = some k ∧ key b < k

end Pages

variable {key : α → κ} {limit : ℕ} {rows : List α} {cursor : α → Option κ}

theorem pageItems_eq (c : Option κ) :
    pageItems key limit rows c = (below key rows c).take limit := by
  simp [pageItems, window, List.take_take]

theorem pageLast_of_le {c : Option κ} (h : (below key rows c).length ≤ limit) :
    pageLast key limit rows c = none := by
  have hwindow : ¬ limit < (window key limit rows c).length := by
    rw [window, List.length_take]
    omega
  exact if_neg hwindow

theorem pageLast_of_split {c : Option κ} {pre post : List α} {a b : α}
    (h : below key rows c = pre ++ a :: b :: post) (hlimit : pre.length + 1 = limit) :
    pageLast key limit rows c = some a := by
  have hwindow : limit < (window key limit rows c).length := by
    rw [window, h, List.length_take]
    simp only [List.length_append, List.length_cons]
    omega
  have hitems : pageItems key limit rows c = pre ++ [a] := by
    rw [pageItems_eq, h, List.append_cons, List.take_left' (by simpa using hlimit)]
  rw [pageLast, if_pos hwindow, hitems, List.getLast?_concat]

theorem mem_below {c : Option κ} {k : κ} (hc : c = some k) {a : α} (ha : a ∈ below key rows c) :
    key a < k := by
  subst hc
  simpa using (List.mem_filter.mp ha).2

theorem Visits.lt (hle : ∀ a k, cursor a = some k → k ≤ key a) {c : Option κ} {seen : List α}
    (h : Visits key limit rows cursor c seen) : ∀ k, c = some k → ∀ a ∈ seen, key a < k := by
  induction h with
  | last h =>
    intro k hc a ha
    rw [pageItems_eq] at ha
    exact mem_below hc (List.mem_of_mem_take ha)
  | @more c last k' rest h hk hrest ih =>
    intro k hc a ha
    have hitem : ∀ b ∈ pageItems key limit rows c, key b < k := by
      intro b hb
      rw [pageItems_eq] at hb
      exact mem_below hc (List.mem_of_mem_take hb)
    rcases List.mem_append.mp ha with ha | ha
    · exact hitem a ha
    · have hlast : last ∈ pageItems key limit rows c := by
        unfold pageLast at h
        split_ifs at h
        exact List.mem_of_getLast? h
      exact ((ih k' rfl a ha).trans_le (hle last k' hk)).trans (hitem last hlast)

theorem Visits.mem {c : Option κ} {seen : List α} (h : Visits key limit rows cursor c seen) :
    ∀ a ∈ seen, a ∈ rows := by
  have hitem : ∀ c, ∀ a ∈ pageItems key limit rows c, a ∈ rows := by
    intro c a ha
    rw [pageItems_eq] at ha
    have hbelow := List.mem_of_mem_take ha
    cases c with
    | none => exact hbelow
    | some k => exact (List.mem_filter.mp hbelow).1
  induction h with
  | last h => exact hitem _
  | more h hk hrest ih =>
    intro a ha
    rcases List.mem_append.mp ha with ha | ha
    · exact hitem _ a ha
    · exact ih a ha

theorem pairwise_below (hsorted : rows.Pairwise fun a b => key b < key a) (c : Option κ) :
    (below key rows c).Pairwise fun a b => key b < key a := by
  cases c with
  | none => exact hsorted
  | some k => exact hsorted.filter _

theorem pairwise_pageItems (hsorted : rows.Pairwise fun a b => key b < key a) (c : Option κ) :
    (pageItems key limit rows c).Pairwise fun a b => key b < key a := by
  rw [pageItems_eq]
  exact (pairwise_below hsorted c).sublist (List.take_sublist _ _)

theorem pageLast_le (hsorted : rows.Pairwise fun a b => key b < key a) {c : Option κ} {a b : α}
    (hlast : pageLast key limit rows c = some b) (ha : a ∈ pageItems key limit rows c) :
    key b ≤ key a := by
  have hitems : (pageItems key limit rows c).Pairwise fun a b => key b < key a :=
    pairwise_pageItems hsorted c
  unfold pageLast at hlast
  split_ifs at hlast
  obtain ⟨init, hinit⟩ := List.getLast?_eq_some_iff.mp hlast
  rw [hinit] at ha hitems
  obtain hbefore | hsame := List.mem_append.mp ha
  · exact ((List.pairwise_append.mp hitems).2.2 a hbefore b (List.mem_singleton_self b)).le
  · rw [List.mem_singleton.mp hsame]

/-- What is seen is in order, and so without repetition. -/
theorem Visits.pairwise (hle : ∀ a k, cursor a = some k → k ≤ key a)
    (hsorted : rows.Pairwise fun a b => key b < key a) {c : Option κ} {seen : List α}
    (h : Visits key limit rows cursor c seen) : seen.Pairwise fun a b => key b < key a := by
  induction h with
  | last h => exact pairwise_pageItems hsorted _
  | @more c last k rest h hk hrest ih =>
    refine List.pairwise_append.mpr ⟨pairwise_pageItems hsorted _, ih, fun a ha b hb => ?_⟩
    exact (hrest.lt hle k rfl b hb).trans_le ((hle last k hk).trans (pageLast_le hsorted h ha))

theorem visits_of_le {c : Option κ} {seen : List α} (h : (below key rows c).length ≤ limit) :
    Visits key limit rows cursor c seen ↔ seen = below key rows c := by
  have hnone := pageLast_of_le h
  have hitems : pageItems key limit rows c = below key rows c := by
    rw [pageItems_eq, List.take_of_length_le h]
  constructor
  · intro hv
    cases hv with
    | last _ => exact hitems
    | more hmore _ _ => simp [hnone] at hmore
  · rintro rfl
    exact hitems ▸ .last hnone

theorem visits_of_split {c : Option κ} {pre post : List α} {a b : α}
    (h : below key rows c = pre ++ a :: b :: post) (hlimit : pre.length + 1 = limit)
    {seen : List α} :
    Visits key limit rows cursor c (pre ++ a :: seen) ↔
      ∃ k, cursor a = some k ∧ Visits key limit rows cursor (some k) seen := by
  have hlast := pageLast_of_split h hlimit
  have hitems : pageItems key limit rows c = pre ++ [a] := by
    rw [pageItems_eq, h, List.append_cons, List.take_left' (by simpa using hlimit)]
  constructor
  · intro hv
    generalize hall : pre ++ a :: seen = all at hv
    cases hv with
    | last hnone => simp [hlast] at hnone
    | more hmore hk hrest =>
      obtain rfl := Option.some.inj (hlast.symm.trans hmore)
      rw [hitems, ← List.append_cons] at hall
      obtain rfl := (List.cons.inj (List.append_cancel_left hall)).2
      exact ⟨_, hk, hrest⟩
  · rintro ⟨k, hk, hrest⟩
    have hv := Visits.more hlast hk hrest
    rwa [hitems, ← List.append_cons] at hv

theorem below_of_between {done rest : List α} {k : κ}
    (hdone : ∀ a ∈ done, k ≤ key a) (hrest : ∀ a ∈ rest, key a < k) :
    below key (done ++ rest) (some k) = rest := by
  show (done ++ rest).filter (fun a => key a < k) = rest
  rw [List.filter_append]
  have hnone : done.filter (fun a => key a < k) = [] := by
    refine List.filter_eq_nil_iff.mpr fun a ha => ?_
    simpa using hdone a ha
  have hall : rest.filter (fun a => key a < k) = rest := by
    refine List.filter_eq_self.mpr fun a ha => ?_
    simpa using hrest a ha
  rw [hnone, hall, List.nil_append]

theorem seamless_append {pre tail : List α} {a : α} (hlimit : pre.length + 1 = limit) :
    Seamless key limit (pre ++ a :: tail) cursor ↔
      (∀ b post, tail = b :: post → ∃ k, cursor a = some k ∧ key b < k) ∧
        Seamless key limit tail cursor := by
  constructor
  · intro h
    refine ⟨?_, fun pre' x y post htail hdvd => ?_⟩
    · rintro b post rfl
      exact h pre a b post rfl (hlimit ▸ Nat.dvd_refl _)
    · refine h (pre ++ a :: pre') x y post (by simp [htail]) ?_
      have hlength : (pre ++ a :: pre').length + 1 = limit + (pre'.length + 1) := by
        simp only [List.length_append, List.length_cons]
        omega
      rw [hlength]
      exact Nat.dvd_add (Nat.dvd_refl limit) hdvd
  · rintro ⟨hfirst, hrest⟩ pre' x y post hsplit hdvd
    have hlong : pre.length ≤ pre'.length := by
      have := Nat.le_of_dvd (Nat.succ_pos _) hdvd
      omega
    -- the boundary is the first one, or it lies past it
    rcases List.append_eq_append_iff.mp hsplit with ⟨mid, hpre', hmid⟩ | ⟨mid, hpre, hmid⟩
    · cases mid with
      | nil =>
        obtain ⟨rfl, rfl⟩ := List.cons.inj hmid
        exact hfirst y post rfl
      | cons z mid =>
        obtain ⟨rfl, htail⟩ := List.cons.inj hmid
        refine hrest mid x y post htail ?_
        have hlength : pre'.length + 1 = limit + (mid.length + 1) := by
          rw [hpre']
          simp only [List.length_append, List.length_cons]
          omega
        rw [hlength] at hdvd
        exact (Nat.dvd_add_right (Nat.dvd_refl limit)).mp hdvd
    · have hmid_nil : mid = [] := by
        rw [hpre, List.length_append] at hlong
        exact List.eq_nil_of_length_eq_zero (by omega)
      subst hmid_nil
      obtain ⟨rfl, htail⟩ := List.cons.inj (hmid : x :: y :: post = a :: tail)
      exact hfirst y post htail.symm

theorem seamless_of_le (h : rows.length ≤ limit) : Seamless key limit rows cursor := by
  intro pre a b post hrows hdvd
  have hle := Nat.le_of_dvd (Nat.succ_pos _) hdvd
  rw [hrows] at h
  simp only [List.length_append, List.length_cons] at h
  omega

theorem exists_boundary (hlimit : 0 < limit) (h : limit < rows.length) :
    ∃ pre a b post, rows = pre ++ a :: b :: post ∧ pre.length + 1 = limit := by
  have hdrop : (rows.drop (limit - 1)).length = rows.length - (limit - 1) := List.length_drop
  match hrest : rows.drop (limit - 1) with
  | [] => simp only [hrest, List.length_nil] at hdrop; omega
  | [a] => simp only [hrest, List.length_cons, List.length_nil] at hdrop; omega
  | a :: b :: post =>
    refine ⟨rows.take (limit - 1), a, b, post, ?_, ?_⟩
    · rw [← hrest, List.take_append_drop]
    · rw [List.length_take]
      omega

theorem visits_rest_iff (hlimit : 0 < limit) (hle : ∀ a k, cursor a = some k → k ≤ key a)
    (hsorted : rows.Pairwise fun a b => key b < key a) (n : ℕ) :
    ∀ (done rest : List α) (c : Option κ), rest.length = n → rows = done ++ rest →
      below key rows c = rest →
      (Visits key limit rows cursor c rest ↔ Seamless key limit rest cursor) := by
  induction n using Nat.strong_induction_on with
  | _ n ih =>
    intro done rest c hn hrows hbelow
    by_cases hshort : rest.length ≤ limit
    · refine iff_of_true ?_ (seamless_of_le hshort)
      rw [visits_of_le (by rwa [hbelow]), hbelow]
    · -- the first page and the row after it
      obtain ⟨pre, a, b, post, rfl, hpre⟩ := exists_boundary hlimit (Nat.lt_of_not_le hshort)
      rw [visits_of_split hbelow hpre, seamless_append hpre]
      have hshorter : (b :: post).length < n := by
        rw [← hn]
        simp only [List.length_append, List.length_cons]
        omega
      have hsplit : rows = (done ++ pre ++ [a]) ++ b :: post := by
        rw [hrows]
        simp
      rw [hsplit, List.pairwise_append] at hsorted
      obtain ⟨hdone, htail, hacross⟩ := hsorted
      have hdone_le : ∀ x ∈ done ++ pre ++ [a], key a ≤ key x := by
        intro x hx
        rcases List.mem_append.mp hx with hx | hx
        · exact ((List.pairwise_append.mp hdone).2.2 x hx a (List.mem_singleton_self a)).le
        · rw [List.mem_singleton.mp hx]
      have htail_le : ∀ x ∈ b :: post, key x ≤ key b := by
        intro x hx
        rcases List.mem_cons.mp hx with rfl | hx
        · exact le_rfl
        · exact ((List.pairwise_cons.mp htail).1 x hx).le
      -- a cursor between the two rows leaves the rest, and no other does
      have hnext : ∀ k, cursor a = some k → key b < k → (Visits key limit rows cursor (some k)
          (b :: post) ↔ Seamless key limit (b :: post) cursor) := by
        intro k hk hbk
        refine ih _ hshorter (done ++ pre ++ [a]) (b :: post) (some k) rfl hsplit ?_
        rw [hsplit]
        exact below_of_between (fun x hx => (hle a k hk).trans (hdone_le x hx))
          fun x hx => (htail_le x hx).trans_lt hbk
      constructor
      · rintro ⟨k, hk, hvisits⟩
        have hbk : key b < k := hvisits.lt hle k rfl b List.mem_cons_self
        refine ⟨?_, (hnext k hk hbk).mp hvisits⟩
        intro b' post' heq
        obtain ⟨rfl, -⟩ := List.cons.inj heq
        exact ⟨k, hk, hbk⟩
      · rintro ⟨hfirst, hseamless⟩
        obtain ⟨k, hk, hbk⟩ := hfirst b post rfl
        exact ⟨k, hk, (hnext k hk hbk).mpr hseamless⟩

/-- A query that filters by the cursor before it sorts finds the window. -/
theorem sorted_below {p : α → Bool} (hnodup : (rows.map key).Nodup) (c : Option κ) :
    sorted key (rows.filter fun a => p a && c.all fun k => key a < k) =
      below key (sorted key (rows.filter p)) c := by
  have hsplit : (rows.filter fun a => p a && c.all fun k => key a < k) =
      (rows.filter p).filter fun a => c.all fun k => key a < k := by
    rw [List.filter_filter]
    simp only [Bool.and_comm]
  have hkeys : ((rows.filter p).map key).Nodup := hnodup.sublist ((List.filter_sublist).map key)
  rw [hsplit, sorted_filter hkeys]
  cases c with
  | none => exact List.filter_eq_self.mpr fun _ _ => rfl
  | some k => rfl

/-- A reader sees every row once, in order, exactly when the boundaries are seamless. -/
theorem visits_iff (hlimit : 0 < limit) (hle : ∀ a k, cursor a = some k → k ≤ key a)
    (hsorted : rows.Pairwise fun a b => key b < key a) :
    Visits key limit rows cursor none rows ↔ Seamless key limit rows cursor :=
  visits_rest_iff hlimit hle hsorted rows.length [] rows none rfl rfl rfl

end Keyset
