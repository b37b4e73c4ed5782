import Mathlib.Data.List.Basic
import Mathlib.Algebra.BigOperators.Group.List.Basic
import Mathlib.Algebra.GroupWithZero.Nat
import Mathlib.Order.Lattice

/-!
# Reading up to a mark

A reader of a growing list keeps one mark: what is later than the mark is unread, and where
there is no mark yet everything is. A summary that looks at the latest entry alone can tell
whether anything is unread, and how much only when it is at most one. A log of what was posted
and by whom, and of who read when, says what each reader is still owed.
-/

namespace Watermark

section Unread

variable {α β τ : Type*} [LinearOrder τ] {time : α → τ} {mark : Option τ} {l l' : List α}

def unread (time : α → τ) (mark : Option τ) (l : List α) : List α :=
  match mark with
  | none => l
  | some t => l.filter fun a => t < time a

theorem mem_unread {a : α} : a ∈ unread time mark l ↔ a ∈ l ∧ ∀ t, mark = some t → t < time a := by
  cases mark with
  | none => simp [unread]
  | some t => simp [unread]

theorem unread_perm (h : l.Perm l') : (unread time mark l).Perm (unread time mark l') := by
  cases mark with
  | none => exact h
  | some t => exact h.filter _

/-- The latest entry alone is unread or not: it counts for one. -/
theorem length_unread_latest (h : l.Pairwise fun a b => time b ≤ time a) :
    (unread time mark (l.take 1)).length = min 1 (unread time mark l).length := by
  cases l with
  | nil => cases mark <;> rfl
  | cons a rest =>
    have htake : (a :: rest).take 1 = [a] := rfl
    rw [htake]
    cases mark with
    | none =>
      simp only [unread, List.length_cons, List.length_nil]
      omega
    | some t =>
      by_cases ha : t < time a
      · simp only [unread, List.filter_cons, List.filter_nil, decide_eq_true ha, if_true,
          List.length_cons, List.length_nil]
        omega
      · have hrest : rest.filter (fun b => t < time b) = [] := by
          refine List.filter_eq_nil_iff.mpr fun b hb => ?_
          have hle : time b ≤ time a := List.rel_of_pairwise_cons h hb
          simpa using hle.trans (not_lt.mp ha)
        simp [unread, ha, hrest]

end Unread

section Totals

variable {γ : Type*} {f : γ → ℕ} {l : List γ}

theorem sum_min_one_le : (l.map fun c => min 1 (f c)).sum ≤ (l.map f).sum := by
  induction l with
  | nil => simp
  | cons c l ih =>
    simp only [List.map_cons, List.sum_cons]
    omega

/-- Summaries add up to the total exactly when none of them hides anything. -/
theorem sum_min_one_eq_iff :
    (l.map fun c => min 1 (f c)).sum = (l.map f).sum ↔ ∀ c ∈ l, f c ≤ 1 := by
  induction l with
  | nil => simp
  | cons c l ih =>
    have hle : (l.map fun c => min 1 (f c)).sum ≤ (l.map f).sum := sum_min_one_le
    rw [List.forall_mem_cons, ← ih]
    simp only [List.map_cons, List.sum_cons]
    omega

end Totals

section Log

variable {υ α : Type*}

inductive Entry (υ α : Type*)
  | posted (a : α)
  | marked (u : υ)

variable [DecidableEq υ] (author : α → υ) (u : υ)

/-- What others posted since the reader last posted or marked; the log has its newest entry
first. -/
def owed : List (Entry υ α) → List α
  | [] => []
  | .posted a :: log => if author a = u then [] else a :: owed log
  | .marked v :: log => if v = u then [] else owed log

variable {author u} {a b : α} {v : υ} {log : List (Entry υ α)}

theorem owed_posted_self (h : author a = u) : owed author u (.posted a :: log) = [] := if_pos h

theorem owed_posted_other (h : author a ≠ u) :
    owed author u (.posted a :: log) = a :: owed author u log := if_neg h

theorem owed_marked_self : owed author u (.marked u :: log) = [] := if_pos rfl

theorem owed_marked_other (h : v ≠ u) : owed author u (.marked v :: log) = owed author u log :=
  if_neg h

theorem posted_of_mem_owed (h : a ∈ owed author u log) : Entry.posted a ∈ log := by
  induction log with
  | nil => cases h
  | cons e log ih =>
    cases e with
    | posted b =>
      by_cases hb : author b = u
      · rw [owed_posted_self hb] at h
        cases h
      · rw [owed_posted_other hb] at h
        rcases List.mem_cons.mp h with rfl | h
        · exact List.mem_cons_self
        · exact List.mem_cons_of_mem _ (ih h)
    | marked v =>
      by_cases hv : v = u
      · rw [hv, owed_marked_self] at h
        cases h
      · rw [owed_marked_other hv] at h
        exact List.mem_cons_of_mem _ (ih h)

end Log

end Watermark
