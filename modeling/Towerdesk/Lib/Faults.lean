import Towerdesk.Lib.Transaction

/-!
# A database that fails

Services that read and commit as in `Transaction`, over a database that may lose one
of the steps it is asked to take. A lost step throws; inside a transaction, whether at
its begin, at a statement or at its commit, it also rolls the transaction back. The
rules say when a service that has got this far keeps what is known of its failures.
-/

namespace Faults

open Transaction (Statement commit Ends)

variable {σ ω ε δ α β : Type}

/-- A state, and how many more steps the database takes before it loses one. -/
structure World (σ : Type) where
  state : σ
  failsIn : Option ℕ

def Misses (f : Option ℕ) (k : ℕ) : Prop := ∀ n ∈ f, k ≤ n

def after (f : Option ℕ) (k : ℕ) : Option ℕ := f.map (· - k)

@[simp] theorem misses_none (k : ℕ) : Misses none k := nofun

@[simp] theorem misses_some {n k : ℕ} : Misses (some n) k ↔ k ≤ n := by
  simp [Misses]

@[simp] theorem after_none (k : ℕ) : after none k = none := rfl

@[simp] theorem after_some (n k : ℕ) : after (some n) k = some (n - k) := rfl

section Steps

variable (apply : ω → σ → Except δ σ) (raise : δ → ε) (lost : ε)

def step : EStateM ε (World σ) Unit := fun w =>
  match w.failsIn with
  | some 0 => .error lost { w with failsIn := none }
  | some (n + 1) => .ok () { w with failsIn := some n }
  | none => .ok () w

def eval (f : σ → Except ε α) : EStateM ε (World σ) α := fun w =>
  match f w.state with
  | .ok a => .ok a w
  | .error e => .error e w

/-- Reads that follow one another are one step: whichever of them is lost, the same
error is thrown from the same state. -/
def read (f : σ → Except ε α) : EStateM ε (World σ) α := do
  step lost
  eval f

def put (s : σ) : EStateM ε (World σ) Unit := fun w => .ok () { w with state := s }

def attempt : List (Statement σ ω ε) → EStateM ε (World σ) Unit
  | [] => step lost
  | st :: ss => do
    step lost
    let s ← eval (Transaction.perform apply raise st)
    put s
    attempt ss

def transaction (ss : List (Statement σ ω ε)) : EStateM ε (World σ) Unit := fun w =>
  match (step lost >>= fun _ => attempt apply raise lost ss) w with
  | .ok u w' => .ok u w'
  | .error e w' => .error e { w' with state := w.state }

def steps (ss : List (Statement σ ω ε)) : ℕ := ss.length + 2

end Steps

section Rules

variable {apply : ω → σ → Except δ σ} {raise : δ → ε} {lost : ε} {s s' : σ} {f : Option ℕ}
  {ss : List (Statement σ ω ε)}

theorem step_cases (s : σ) (f : Option ℕ) :
    (Misses f 1 ∧ step lost ⟨s, f⟩ = .ok () ⟨s, after f 1⟩) ∨
      (¬ Misses f 1 ∧ step lost ⟨s, f⟩ = .error lost ⟨s, none⟩) := by
  match f with
  | none => exact .inl ⟨misses_none 1, rfl⟩
  | some 0 => exact .inr ⟨by simp, rfl⟩
  | some (n + 1) => exact .inl ⟨by simp, rfl⟩

theorem step_bind_of_misses {k : Unit → EStateM ε (World σ) β} (h : Misses f 1) :
    (step lost >>= k) ⟨s, f⟩ = k () ⟨s, after f 1⟩ := by
  obtain ⟨-, hstep⟩ | ⟨hhit, -⟩ := @step_cases σ ε lost s f
  · simp only [bind, EStateM.bind, hstep]
  · exact absurd h hhit

theorem step_bind_of_hits {k : Unit → EStateM ε (World σ) β} (h : ¬ Misses f 1) :
    (step lost >>= k) ⟨s, f⟩ = .error lost ⟨s, none⟩ := by
  obtain ⟨hmiss, -⟩ | ⟨-, hstep⟩ := @step_cases σ ε lost s f
  · exact absurd hmiss h
  · simp only [bind, EStateM.bind, hstep]

theorem misses_succ {f : Option ℕ} {k : ℕ} :
    Misses f (k + 1) ↔ Misses f 1 ∧ Misses (after f 1) k := by
  cases f with
  | none => simp
  | some n =>
    rw [after_some, misses_some, misses_some, misses_some]
    omega

theorem after_after (f : Option ℕ) (j k : ℕ) : after (after f j) k = after f (j + k) := by
  cases f with
  | none => rfl
  | some n => simp [Nat.sub_sub]

theorem attempt_eq_ok {u : Unit} {w : World σ} :
    attempt apply raise lost ss ⟨s, f⟩ = .ok u w ↔
      Misses f (ss.length + 1) ∧ commit apply raise ss s = .ok w.state ∧
        w.failsIn = after f (ss.length + 1) := by
  obtain ⟨s', g⟩ := w
  induction ss generalizing s f with
  | nil =>
    obtain ⟨hmiss, hstep⟩ | ⟨hhit, hstep⟩ := @step_cases σ ε lost s f
    · have hnil : commit apply raise [] s = .ok s' ↔ s = s' := Transaction.commit_nil
      simp [attempt, hstep, hmiss, hnil, eq_comm]
    · simp [attempt, hstep, hhit]
  | cons st ss ih =>
    rw [attempt, List.length_cons, misses_succ, commit, Outcome.bind_eq_ok]
    by_cases hmiss : Misses f 1
    · rw [step_bind_of_misses hmiss]
      cases hst : Transaction.perform apply raise st s with
      | error e => simp [bind, EStateM.bind, eval, hst]
      | ok s₁ =>
        have hrun : attempt apply raise lost ss ⟨s₁, after f 1⟩ = .ok u ⟨s', g⟩ ↔ _ := ih
        simp only [bind, EStateM.bind, eval, hst, put, hrun, hmiss, true_and, Except.ok.injEq,
          exists_eq_left', after_after, Nat.add_comm 1]
    · rw [step_bind_of_hits hmiss]
      simp [hmiss]

theorem transaction_eq_ok {u : Unit} {w : World σ} :
    transaction apply raise lost ss ⟨s, f⟩ = .ok u w ↔
      Misses f (steps ss) ∧ commit apply raise ss s = .ok w.state ∧
        w.failsIn = after f (steps ss) := by
  unfold transaction steps
  rw [show ss.length + 2 = ss.length + 1 + 1 from rfl, misses_succ]
  by_cases hmiss : Misses f 1
  · rw [step_bind_of_misses hmiss]
    have hrun := @attempt_eq_ok σ ω ε δ apply raise lost s (after f 1) ss u w
    rw [after_after, Nat.add_comm 1] at hrun
    simp only [hmiss, true_and, ← hrun]
    cases attempt apply raise lost ss ⟨s, after f 1⟩ with
    | ok u' w' => simp
    | error e w' => simp
  · rw [step_bind_of_hits hmiss]
    simp [hmiss]

theorem transaction_error {e : ε} {w w' : World σ}
    (h : transaction apply raise lost ss w = .error e w') : w'.state = w.state := by
  unfold transaction at h
  split at h
  · cases h
  · obtain ⟨-, rfl⟩ := EStateM.Result.error.inj h
    rfl

section Ends

variable {throws : σ → Prop} {returns : β → World σ → Prop} {g : σ → Except ε α}

def EndsIn (throws : σ → Prop) (returns : β → World σ → Prop) :
    EStateM.Result ε (World σ) β → Prop :=
  Ends (fun w => throws w.state) returns

theorem endsIn_read_bind_of_error {k : α → EStateM ε (World σ) β} {e : ε} (hg : g s = .error e) :
    EndsIn throws returns ((read lost g >>= k) ⟨s, f⟩) ↔ throws s := by
  by_cases hmiss : Misses f 1
  · have hrun : (read lost g >>= k) ⟨s, f⟩ = .error e ⟨s, after f 1⟩ := by
      rw [read, bind_assoc, step_bind_of_misses hmiss]
      simp only [bind, EStateM.bind, eval, hg]
    rw [hrun]
    exact Iff.rfl
  · rw [read, bind_assoc, step_bind_of_hits hmiss]
    exact Iff.rfl

theorem endsIn_read_bind {k : α → EStateM ε (World σ) β} {a : α} (hg : g s = .ok a) :
    EndsIn throws returns ((read lost g >>= k) ⟨s, f⟩) ↔
      (Misses f 1 → EndsIn throws returns (k a ⟨s, after f 1⟩)) ∧ (¬ Misses f 1 → throws s) := by
  by_cases hmiss : Misses f 1
  · have hrun : (read lost g >>= k) ⟨s, f⟩ = k a ⟨s, after f 1⟩ := by
      rw [read, bind_assoc, step_bind_of_misses hmiss]
      simp only [bind, EStateM.bind, eval, hg]
    simp [hrun, hmiss]
  · rw [read, bind_assoc, step_bind_of_hits hmiss]
    simp [hmiss, EndsIn, Ends]

theorem endsIn_read {returns : α → World σ → Prop} {a : α} (hg : g s = .ok a) :
    EndsIn throws returns (read lost g ⟨s, f⟩) ↔
      (Misses f 1 → returns a ⟨s, after f 1⟩) ∧ (¬ Misses f 1 → throws s) := by
  have hbind := @endsIn_read_bind σ ε α α lost s f throws returns g pure a hg
  rwa [bind_pure] at hbind

theorem endsIn_transaction_bind {k : Unit → EStateM ε (World σ) β}
    (hcommit : commit apply raise ss s = .ok s') :
    EndsIn throws returns ((transaction apply raise lost ss >>= k) ⟨s, f⟩) ↔
      (Misses f (steps ss) → EndsIn throws returns (k () ⟨s', after f (steps ss)⟩)) ∧
        (¬ Misses f (steps ss) → throws s) := by
  by_cases hmiss : Misses f (steps ss)
  · have hrun : transaction apply raise lost ss ⟨s, f⟩ = .ok () ⟨s', after f (steps ss)⟩ :=
      transaction_eq_ok.mpr ⟨hmiss, hcommit, rfl⟩
    simp [bind, EStateM.bind, hrun, hmiss]
  · cases hrun : transaction apply raise lost ss ⟨s, f⟩ with
    | ok u w => exact absurd (transaction_eq_ok.mp hrun).1 hmiss
    | error e w =>
      have hstate : w.state = s := transaction_error hrun
      simp [bind, EStateM.bind, hrun, hmiss, EndsIn, Ends, hstate]

end Ends

end Rules

end Faults
