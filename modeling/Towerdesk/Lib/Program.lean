import Towerdesk.Lib.Transaction

/-!
# Programs of statements

A transaction whose later statements depend on what its earlier ones saw: a program reads
the store, writes to it and ends with a value. Run as a transaction it takes effect as a
whole or not at all; a service runs such transactions, and single writes, in a row.
-/

namespace Program

variable {σ ω δ ε α β : Type}

inductive Code (σ ω α : Type)
  | done (a : α)
  | read (k : σ → Code σ ω α)
  | write (w : ω) (k : Code σ ω α)

namespace Code

def bind : Code σ ω α → (α → Code σ ω β) → Code σ ω β
  | .done a, f => f a
  | .read k, f => .read fun s => (k s).bind f
  | .write w k, f => .write w (k.bind f)

instance : Monad (Code σ ω) where
  pure := .done
  bind := bind

def query (f : σ → α) : Code σ ω α := .read fun s => .done (f s)

def perform (w : ω) : Code σ ω Unit := .write w (.done ())

def run (apply : ω → σ → Except δ σ) : Code σ ω α → σ → Except δ (α × σ)
  | .done a, s => .ok (a, s)
  | .read k, s => (k s).run apply s
  | .write w k, s => apply w s >>= k.run apply

section Rules

variable {apply : ω → σ → Except δ σ} {s s' : σ} {a a' : α} {b : β}

theorem run_pure : (pure a : Code σ ω α).run apply s = .ok (a', s') ↔ a = a' ∧ s = s' := by
  simp [pure, run]

theorem run_write {w : ω} {k : Code σ ω α} :
    (Code.write w k).run apply s = .ok (a, s') ↔
      ∃ s₁, apply w s = .ok s₁ ∧ k.run apply s₁ = .ok (a, s') :=
  Outcome.bind_eq_ok

theorem run_perform {w : ω} {u : Unit} :
    (perform w : Code σ ω Unit).run apply s = .ok (u, s') ↔ apply w s = .ok s' := by
  rw [perform, run_write]
  simp [run]

theorem run_query {f : σ → α} :
    (query f : Code σ ω α).run apply s = .ok (a, s') ↔ f s = a ∧ s = s' := by
  simp [query, run]

theorem run_bind {c : Code σ ω α} {f : α → Code σ ω β} :
    (c >>= f).run apply s = .ok (b, s') ↔
      ∃ a s₁, c.run apply s = .ok (a, s₁) ∧ (f a).run apply s₁ = .ok (b, s') := by
  change (c.bind f).run apply s = .ok (b, s') ↔ _
  induction c generalizing s with
  | done a => simp [bind, run]
  | read k ih => exact ih s
  | write w k ih =>
    simp only [bind, run_write, ih]
    constructor
    · intro h
      obtain ⟨s₁, hw, a, s₂, hk, hf⟩ := h
      exact ⟨a, s₂, ⟨s₁, hw, hk⟩, hf⟩
    · intro h
      obtain ⟨a, s₂, ⟨s₁, hw, hk⟩, hf⟩ := h
      exact ⟨s₁, hw, a, s₂, hk, hf⟩

end Rules

end Code

section Service

open Transaction (Ends)

variable (apply : ω → σ → Except δ σ) (raise : δ → ε)

def atomically (c : Code σ ω α) : EStateM ε σ α := fun s =>
  match c.run apply s with
  | .ok (a, s') => .ok a s'
  | .error d => .error (raise d) s

def statement (w : ω) : EStateM ε σ Unit := atomically apply raise (Code.perform w)

variable {apply raise} {throws : σ → Prop} {s : σ}

theorem ends_atomically {c : Code σ ω α} {returns : α → σ → Prop} (hthrows : throws s)
    (h : ∀ a s', c.run apply s = .ok (a, s') → returns a s') :
    Ends throws returns (atomically apply raise c s) := by
  unfold atomically
  cases hc : c.run apply s with
  | error d => exact hthrows
  | ok p => exact h p.1 p.2 hc

theorem ends_statement {w : ω} {returns : Unit → σ → Prop} (hthrows : throws s)
    (h : ∀ s', apply w s = .ok s' → returns () s') :
    Ends throws returns (statement apply raise w s) :=
  ends_atomically hthrows fun _ s' hs => h s' (Code.run_perform.mp hs)

end Service

end Program
