import Towerdesk.Lib.Run
import Mathlib.Logic.Function.Basic

/-!
# Processes over a shared state

Any number of processes, each with a state of its own, take turns on a shared one. A
turn is one step of one process, with an input that stands for whatever the outside
decides there. An invariant of the shared state together with an assertion on each
process holds along a run when a step keeps both its own assertion and the others'.
-/

namespace Interleaving

variable {π ν τ σ : Type*}

structure Machine (π ν τ σ : Type*) where
  step : π → ν → τ → σ → τ × σ

structure Config (π τ σ : Type*) where
  shared : σ
  locals : π → τ

def Config.start (s : σ) (l : τ) : Config π τ σ := ⟨s, fun _ => l⟩

section Steps

variable [DecidableEq π] (M : Machine π ν τ σ)

def next (m : π × ν) (c : Config π τ σ) : Config π τ σ where
  shared := (M.step m.1 m.2 (c.locals m.1) c.shared).2
  locals := Function.update c.locals m.1 (M.step m.1 m.2 (c.locals m.1) c.shared).1

def AtStep (g : π → ν → τ → σ → Prop) (m : π × ν) (c : Config π τ σ) : Prop :=
  g m.1 m.2 (c.locals m.1) c.shared

instance decidableAtStep (g : π → ν → τ → σ → Prop) [∀ p v l s, Decidable (g p v l s)]
    (m : π × ν) (c : Config π τ σ) : Decidable (AtStep g m c) :=
  inferInstanceAs (Decidable (g m.1 m.2 (c.locals m.1) c.shared))

variable {M}

theorem next_self (p : π) (v : ν) (c : Config π τ σ) :
    (next M (p, v) c).locals p = (M.step p v (c.locals p) c.shared).1 := by
  simp [next]

theorem next_other {p q : π} (v : ν) (c : Config π τ σ) (h : q ≠ p) :
    (next M (p, v) c).locals q = c.locals q := by
  simp [next, h]

end Steps

/-- What is known of the shared state and, for each process, of its own. -/
structure Coherent (I : σ → Prop) (J : π → τ → σ → Prop) (c : Config π τ σ) : Prop where
  shared : I c.shared
  locals : ∀ p, J p (c.locals p) c.shared

section Coherence

variable [DecidableEq π] {M : Machine π ν τ σ} {I : σ → Prop} {J : π → τ → σ → Prop}
  {g : π → ν → τ → σ → Prop}

theorem coherent_next {m : π × ν} {c : Config π τ σ}
    (hself : I (M.step m.1 m.2 (c.locals m.1) c.shared).2 ∧
      J m.1 (M.step m.1 m.2 (c.locals m.1) c.shared).1
        (M.step m.1 m.2 (c.locals m.1) c.shared).2)
    (hother : ∀ q, q ≠ m.1 →
      J q (c.locals q) (M.step m.1 m.2 (c.locals m.1) c.shared).2) :
    Coherent I J (next M m c) := by
  refine ⟨hself.1, fun q => ?_⟩
  by_cases hq : q = m.1
  · subst hq
    rw [next_self]
    exact hself.2
  · rw [next_other m.2 c hq]
    exact hother q hq

/-- The rule for interleavings. -/
theorem coherent_exec
    (hself : ∀ p v l s, I s → J p l s → g p v l s →
      I (M.step p v l s).2 ∧ J p (M.step p v l s).1 (M.step p v l s).2)
    (hother : ∀ p v l s q k, q ≠ p → I s → J p l s → g p v l s → J q k s →
      J q k (M.step p v l s).2)
    {c : Config π τ σ} {ms : List (π × ν)} (hc : Coherent I J c)
    (hg : Run.Along (Interleaving.next M) (AtStep g) c ms) :
    Coherent I J (Run.exec (Interleaving.next M) c ms) := by
  refine Run.exec_inv_along (I := Coherent I J) (fun m c hc hm => ?_) hc hg
  have hp := hc.locals m.1
  refine coherent_next (hself _ _ _ _ hc.shared hp hm) fun q hq => ?_
  exact hother _ _ _ _ q _ hq hc.shared hp hm (hc.locals q)

/-- When no assertion mentions the shared state, only the step's own is at stake. -/
theorem locals_exec {J : π → τ → Prop} (hself : ∀ p v l s, J p l → J p (M.step p v l s).1)
    {c : Config π τ σ} (hc : ∀ p, J p (c.locals p)) (ms : List (π × ν)) (p : π) :
    J p ((Run.exec (Interleaving.next M) c ms).locals p) := by
  refine Run.exec_inv (I := fun c : Config π τ σ => ∀ p, J p (c.locals p)) ?_ ms hc p
  intro m c hc q
  by_cases hq : q = m.1
  · subst hq
    rw [next_self]
    exact hself _ _ _ _ (hc _)
  · rw [next_other m.2 c hq]
    exact hc q

end Coherence

end Interleaving
