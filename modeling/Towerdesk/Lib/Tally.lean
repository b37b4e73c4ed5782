import Towerdesk.Lib.Regroup
import Mathlib.Algebra.BigOperators.Group.List.Basic
import Mathlib.Algebra.Ring.Int.Defs
import Mathlib.Tactic.Ring

/-!
# Tallies joined by key

Rows are grouped by a key on one side and summed up; the other side asks for the sums of a
series of keys, and a key without a group counts zero. The series has every row as often as the
series names its key.
-/

namespace Tally

variable {α κ : Type*} {weight : α → ℤ} {rows : List α}

def total (weight : α → ℤ) (rows : List α) : ℤ := (rows.map weight).sum

@[simp] theorem total_nil : total weight [] = 0 := rfl

@[simp] theorem total_cons (a : α) : total weight (a :: rows) = weight a + total weight rows := rfl

theorem total_one : total (fun _ => 1) rows = rows.length := by
  induction rows with
  | nil => rfl
  | cons a rows ih =>
    rw [total_cons, ih, List.length_cons]
    omega

theorem total_add (weight' : α → ℤ) :
    total (fun a => weight a + weight' a) rows = total weight rows + total weight' rows :=
  List.sum_map_add

theorem total_congr {weight' : α → ℤ} (h : ∀ a ∈ rows, weight a = weight' a) :
    total weight rows = total weight' rows :=
  congrArg List.sum (List.map_congr_left h)

theorem total_filter (p : α → Bool) :
    total weight (rows.filter p) = total (fun a => if p a then weight a else 0) rows := by
  induction rows with
  | nil => rfl
  | cons a rows ih =>
    rw [List.filter_cons, total_cons, ← ih]
    split_ifs
    · rfl
    · exact (zero_add _).symm

theorem total_ite_one (p : α → Bool) : total (fun a => if p a then 1 else 0) rows = rows.countP p := by
  rw [← total_filter, total_one, List.countP_eq_length_filter]

/-- Of two conditions one of which is the stronger, as many rows meet one as the other only if
the same rows do. -/
theorem countP_eq_iff {p q : α → Bool} (h : ∀ a ∈ rows, p a = true → q a = true) :
    rows.countP p = rows.countP q ↔ ∀ a ∈ rows, p a = q a := by
  induction rows with
  | nil => simp
  | cons a rows ih =>
    obtain ⟨ha, hrows⟩ := List.forall_mem_cons.mp h
    have hle : rows.countP p ≤ rows.countP q := List.countP_mono_left hrows
    rw [List.forall_mem_cons, ← ih hrows, List.countP_cons, List.countP_cons]
    cases hp : p a with
    | true => simp [ha hp]
    | false =>
      cases hq : q a with
      | true =>
        simp only [Bool.false_eq_true, if_false, if_true, false_and, iff_false]
        omega
      | false => simp

section Groups

variable [DecidableEq κ] {key : α → κ}

/-- `GROUP BY` a key. -/
def groupBy (key : α → κ) (rows : List α) : List (κ × List α) :=
  (Regroup.distinct key rows).map fun k => (k, rows.filter fun a => key a = k)

/-- `new Map` of entries. -/
def toMap (entries : List (κ × ℤ)) : κ → Option ℤ :=
  Regroup.collect (fun entry => some entry.1) (Regroup.replace Prod.snd) entries

/-- The sums of the groups, as entries under their keys. -/
def sums (key : α → κ) (weight : α → ℤ) (rows : List α) : List (κ × ℤ) :=
  (groupBy key rows).map fun group => (group.1, total weight group.2)

theorem toMap_sums (k : κ) :
    (toMap (sums key weight rows) k).getD 0 = total weight (rows.filter fun a => key a = k) := by
  rw [toMap, Regroup.collect_apply]
  have hvalue : ∀ entry ∈ Regroup.rowsOf (fun entry => some entry.1) (sums key weight rows) k,
      entry.2 = total weight (rows.filter fun a => key a = k) := by
    intro entry hentry
    obtain ⟨hmem, hkey⟩ := List.mem_filter.mp hentry
    obtain ⟨group, hgroup, rfl⟩ := List.mem_map.mp hmem
    obtain ⟨k', -, rfl⟩ := List.mem_map.mp hgroup
    obtain rfl : k' = k := by simpa using hkey
    rfl
  by_cases hempty : Regroup.rowsOf (fun entry => some entry.1) (sums key weight rows) k = []
  · have hnone : rows.filter (fun a => key a = k) = [] := by
      rw [List.filter_eq_nil_iff]
      intro a ha hk
      obtain rfl : key a = k := by simpa using hk
      have hgroup : (key a, total weight (rows.filter fun b => key b = key a)) ∈ sums key weight rows := by
        refine List.mem_map.mpr ⟨(key a, rows.filter fun b => key b = key a), ?_, rfl⟩
        refine List.mem_map.mpr ⟨key a, ?_, rfl⟩
        exact List.contains_iff_mem.mp (Regroup.contains_distinct ha)
      have hmem : (key a, total weight (rows.filter fun b => key b = key a)) ∈
          Regroup.rowsOf (fun entry => some entry.1) (sums key weight rows) (key a) :=
        List.mem_filter.mpr ⟨hgroup, by simp⟩
      rw [hempty] at hmem
      cases hmem
    rw [hempty, hnone]
    rfl
  · rw [Regroup.foldl_replace hempty hvalue]
    rfl

/-- Each row is counted once for every time that its key is asked for. -/
theorem sum_filter_total (series : List κ) :
    (series.map fun k => total weight (rows.filter fun a => key a = k)).sum =
      total (fun a => series.count (key a) * weight a) rows := by
  induction series with
  | nil => simp [total]
  | cons k series ih =>
    rw [List.map_cons, List.sum_cons, ih, total_filter, ← total_add]
    refine total_congr fun a _ => ?_
    rw [List.count_cons]
    by_cases hk : key a = k
    · simp only [hk, decide_true, if_true, beq_self_eq_true, Nat.cast_add, Nat.cast_one]
      ring
    · have hk' : ¬ k = key a := fun h => hk h.symm
      simp [hk, hk']

theorem sum_toMap_sums (series : List κ) :
    (series.map fun k => (toMap (sums key weight rows) k).getD 0).sum =
      total (fun a => series.count (key a) * weight a) rows := by
  simp only [toMap_sums]
  exact sum_filter_total series

/-- The sums of all groups together are the sum of all rows. -/
theorem sum_sums : ((sums key weight rows).map Prod.snd).sum = total weight rows := by
  have hsums : (sums key weight rows).map Prod.snd =
      (Regroup.distinct key rows).map fun k => total weight (rows.filter fun a => key a = k) := by
    simp only [sums, groupBy, List.map_map]
    rfl
  rw [hsums, sum_filter_total]
  refine total_congr fun a ha => ?_
  have hmem : key a ∈ Regroup.distinct key rows :=
    List.contains_iff_mem.mp (Regroup.contains_distinct ha)
  have hone : (Regroup.distinct key rows).count (key a) = 1 :=
    List.count_eq_one_of_mem (Regroup.nodup_eraseDups _) hmem
  rw [hone, Nat.cast_one, one_mul]

end Groups

end Tally
