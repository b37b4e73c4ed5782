import Mathlib.Data.List.Basic

/-!
# Replaying changes

A log of changes, each of one field to a new value, leaves behind the last value it
gives a field, or the value the field had before. A log of differences leads from any
state it was taken against to the state it was taken towards.
-/

namespace Replay

variable {ε κ ν : Type*} [DecidableEq κ] (field : ε → κ) (after : ε → ν)

def replay (es : List ε) (before : ν) (k : κ) : ν :=
  es.foldl (fun v e => if field e = k then after e else v) before

variable {field after} {es fs : List ε} {v : ν} {k : κ}

theorem replay_append :
    replay field after (es ++ fs) v k = replay field after fs (replay field after es v k) k := by
  simp [replay]

theorem replay_eq_of_forall {w : ν} (hafter : ∀ e ∈ es, field e = k → after e = w)
    (hbefore : (∀ e ∈ es, field e ≠ k) → v = w) : replay field after es v k = w := by
  induction es generalizing v with
  | nil => exact hbefore (by simp)
  | cons e es ih =>
    have htail : ∀ e' ∈ es, field e' = k → after e' = w :=
      fun e' he' => hafter e' (List.mem_cons_of_mem e he')
    change replay field after es (if field e = k then after e else v) k = w
    by_cases hk : field e = k
    · rw [if_pos hk]
      exact ih htail fun _ => hafter e List.mem_cons_self hk
    · rw [if_neg hk]
      refine ih htail fun hnone => hbefore fun e' he' => ?_
      rcases List.mem_cons.mp he' with rfl | he'
      · exact hk
      · exact hnone e' he'

theorem replay_differences {previous current : κ → ν}
    (hafter : ∀ e ∈ es, after e = current (field e))
    (hcomplete : previous k ≠ current k → ∃ e ∈ es, field e = k) (hv : v = previous k) :
    replay field after es v k = current k := by
  refine replay_eq_of_forall (fun e he hk => hk ▸ hafter e he) fun hnone => ?_
  by_contra hne
  obtain ⟨e, he, hk⟩ := hcomplete (hv ▸ hne)
  exact hnone e he hk

end Replay
