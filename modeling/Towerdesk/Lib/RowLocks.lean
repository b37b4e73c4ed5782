import Towerdesk.Lib.Program
import Towerdesk.Lib.ReadCommitted

/-!
# Transactions that wait for a row

Many transactions run their programs at once, a statement at a time. A statement sees what
is committed, with the writes of its own transaction over it. A write takes the lock of the
row it changes and waits while another transaction holds it; a transaction keeps its locks
until it commits or fails.

When every program takes one lock before anything else it writes, all its writes are made
on the store as it was when the lock was taken, so a run is accounted for by what is read
before the locks and by whole programs run one after the other. Only the row a write names
is locked: leaving other locks out leaves more runs in.
-/

namespace RowLocks

open Program (Code)
open ReadCommitted (replay view)
open Interleaving (Machine Config AtStep)

variable {π κ σ ω δ α : Type}

inductive Progress (σ ω α : Type)
  | running (written : List ω) (rest : Code σ ω α)
  | returned (a : α)
  | failed

def Progress.result : Progress σ ω α → Option α
  | .returned a => some a
  | .running _ _ | .failed => none

structure Shared (π κ σ : Type) where
  committed : σ
  holder : κ → Option π

section Step

variable [DecidableEq π] [DecidableEq κ] (apply : ω → σ → Except δ σ) (lock : ω → Option κ)

def release (p : π) (s : Shared π κ σ) : Shared π κ σ :=
  { s with holder := fun k => if s.holder k = some p then none else s.holder k }

def acquire (p : π) (k : Option κ) (s : Shared π κ σ) : Shared π κ σ :=
  { s with holder := fun j => if k = some j then some p else s.holder j }

/-- No other transaction holds the row. -/
def Free (p : π) (k : Option κ) (s : Shared π κ σ) : Prop :=
  ∀ j ∈ k, ∀ q ∈ s.holder j, q = p

instance (p : π) (k : Option κ) (s : Shared π κ σ) : Decidable (Free p k s) :=
  inferInstanceAs (Decidable (∀ j ∈ k, ∀ q ∈ s.holder j, q = p))

def step (p : π) : Progress σ ω α → Shared π κ σ → Progress σ ω α × Shared π κ σ
  | .running written (.done a), s =>
    match view apply written s.committed with
    | some s' => (.returned a, release p { s with committed := s' })
    | none => (.failed, release p s)
  | .running written (.read k), s =>
    match view apply written s.committed with
    | some v => (.running written (k v), s)
    | none => (.failed, release p s)
  | .running written (.write w k), s =>
    if Free p (lock w) s then
      match view apply (written ++ [w]) s.committed with
      | some _ => (.running (written ++ [w]) k, acquire p (lock w) s)
      | none => (.failed, release p s)
    else (.running written (.write w k), s)
  | .returned a, s => (.returned a, s)
  | .failed, s => (.failed, s)

def machine : Machine π Unit (Progress σ ω α) (Shared π κ σ) where
  step p _ l s := step apply lock p l s

/-- Each transaction is about to start its program, and nothing is locked. -/
def start (program : π → Code σ ω α) (s : σ) : Config π (Progress σ ω α) (Shared π κ σ) where
  shared := ⟨s, fun _ => none⟩
  locals p := .running [] (program p)

end Step

section Holders

variable {k : κ} {p q : π} {s : Shared π κ σ}

theorem holder_release_of_ne [DecidableEq π] (hq : q ≠ p) (h : s.holder k = some p) :
    (release q s).holder k = some p := by
  have hne : ¬ s.holder k = some q := fun heq => hq (Option.some.inj (heq.symm.trans h))
  simp [release, h, Ne.symm hq]

variable [DecidableEq κ] {j : Option κ}

theorem holder_acquire_self (h : s.holder k = some p) : (acquire p j s).holder k = some p := by
  by_cases hj : j = some k <;> simp [acquire, hj, h]

theorem holder_acquire_of_free (hq : q ≠ p) (h : s.holder k = some p) (hfree : Free q j s) :
    (acquire q j s).holder k = some p := by
  have hj : ¬ j = some k := fun hj => hq (hfree k hj p h).symm
  simp [acquire, hj, h]

end Holders

section Serial

variable {apply : ω → σ → Except δ σ} {lock : ω → Option κ}

theorem replay_concat {written : List ω} {w : ω} {s : σ} :
    replay apply (written ++ [w]) s = replay apply written s >>= apply w := by
  simp [replay, List.foldlM_append]

variable (apply) (k : κ) (E : π → Code σ ω α → Prop) (G : π → Code σ ω α → σ → Prop)

/-- A transaction holds the row, and what it has still to do comes to what the program it took
the lock with does on the committed store. -/
def Inside (p : π) (written : List ω) (rest : Code σ ω α) (s : Shared π κ σ) : Prop :=
  s.holder k = some p ∧ ∃ w c, E p (.write w c) ∧ G p (.write w c) s.committed ∧
    (replay apply written s.committed >>= rest.run apply) = (Code.write w c).run apply s.committed

/-- What is known of a transaction: `E` while it only reads, afterwards that it holds the row. -/
def Knows (p : π) (l : Progress σ ω α) (s : Shared π κ σ) : Prop :=
  match l with
  | .running written rest => (written = [] ∧ E p rest) ∨ Inside apply k E G p written rest s
  | .returned _ | .failed => True

variable (lock)

/-- A transaction that takes its first lock is allowed to. -/
def Enters (p : π) (l : Progress σ ω α) (s : Shared π κ σ) : Prop :=
  match l with
  | .running [] (.write w c) => Free p (lock w) s → G p (.write w c) s.committed
  | _ => True

variable {lock G} in
theorem enters_of_forall (h : ∀ p c s, G p c s) (p : π) (l : Progress σ ω α) (s : Shared π κ σ) :
    Enters lock G p l s := by
  unfold Enters
  split
  · exact fun _ => h _ _ _
  · trivial

variable [DecidableEq π]

instance [∀ p c s, Decidable (G p c s)] (p : π) (l : Progress σ ω α) (s : Shared π κ σ) :
    Decidable (Enters lock G p l s) :=
  match l with
  | .running [] (.write w c) =>
    inferInstanceAs (Decidable (Free p (lock w) s → G p (.write w c) s.committed))
  | .running [] (.done _) | .running [] (.read _) | .running (_ :: _) _ | .returned _ | .failed =>
    isTrue trivial

/-- What has to be shown of the store and of what the transactions returned: reading keeps `E`,
a transaction that only read keeps `I`, and so does a whole program that is allowed to run. -/
structure Sound (I : σ → (π → Option α) → Prop) : Prop where
  lock : ∀ p w c, E p (.write w c) → lock w = some k
  read : ∀ p f s r, I s r → E p (.read f) → E p (f s)
  done : ∀ p a s r, I s r → r p = none → E p (.done a) → I s (Function.update r p (some a))
  run : ∀ p w c a s s' r, I s r → r p = none → E p (.write w c) → G p (.write w c) s →
    (Code.write w c).run apply s = .ok (a, s') → I s' (Function.update r p (some a))

variable [DecidableEq κ] {apply k E G lock} {p q : π} {l : Progress σ ω α} {s : Shared π κ σ}

theorem committed_step (hl : Knows apply k E G q l s) (hheld : s.holder k ≠ some q) :
    (step apply lock q l s).2.committed = s.committed := by
  cases l with
  | running written rest =>
    cases rest with
    | done a =>
      obtain ⟨rfl, -⟩ | hinside := hl
      · rfl
      · exact absurd hinside.1 hheld
    | read f =>
      simp only [step]
      split <;> rfl
    | write w c =>
      simp only [step]
      split
      · split <;> rfl
      · rfl
  | returned a => rfl
  | failed => rfl

theorem holder_step (hq : q ≠ p) (h : s.holder k = some p) :
    (step apply lock q l s).2.holder k = some p := by
  cases l with
  | running written rest =>
    cases rest with
    | done a =>
      simp only [step]
      split
      · exact holder_release_of_ne hq h
      · exact holder_release_of_ne hq h
    | read f =>
      simp only [step]
      split
      · exact h
      · exact holder_release_of_ne hq h
    | write w c =>
      simp only [step]
      split
      · next hfree =>
        split
        · exact holder_acquire_of_free hq h hfree
        · exact holder_release_of_ne hq h
      · exact h
  | returned a => exact h
  | failed => exact h

theorem knows_of_other {l' : Progress σ ω α} (hq : q ≠ p) (hl : Knows apply k E G q l s)
    (hl' : Knows apply k E G p l' s) : Knows apply k E G p l' (step apply lock q l s).2 := by
  cases l' with
  | running written rest =>
    obtain hreading | ⟨hheld, w, c, hentry, hallowed, hrun⟩ := hl'
    · exact .inl hreading
    · have hsame : (step apply lock q l s).2.committed = s.committed :=
        committed_step hl fun h => hq (Option.some.inj (h.symm.trans hheld))
      refine .inr ⟨holder_step hq hheld, w, c, hentry, ?_, ?_⟩
      · rw [hsame]
        exact hallowed
      · rw [hsame]
        exact hrun
  | returned a => trivial
  | failed => trivial

variable {I : σ → (π → Option α) → Prop} {r : π → Option α}

theorem knows_write (hsound : Sound apply lock k E G I) {written : List ω} {w : ω}
    {c : Code σ ω α} (hl : Knows apply k E G p (.running written (.write w c)) s)
    (hg : Enters lock G p (.running written (.write w c)) s) (hfree : Free p (lock w) s) :
    Knows apply k E G p (.running (written ++ [w]) c) (acquire p (lock w) s) := by
  obtain ⟨rfl, hentry⟩ | ⟨hheld, w₀, c₀, hentry, hallowed, hrun⟩ := hl
  · have hk := hsound.lock p w c hentry
    refine .inr ⟨by simp [acquire, hk], w, c, hentry, hg hfree, ?_⟩
    rw [replay_concat]
    rfl
  · refine .inr ⟨holder_acquire_self hheld, w₀, c₀, hentry, hallowed, ?_⟩
    change (replay apply (written ++ [w]) s.committed >>= c.run apply) =
      (Code.write w₀ c₀).run apply s.committed
    rw [← hrun, replay_concat, bind_assoc]
    rfl

theorem serial_step (hsound : Sound apply lock k E G I) (hr : r p = l.result)
    (hI : I s.committed r) (hl : Knows apply k E G p l s) (hg : Enters lock G p l s) :
    I (step apply lock p l s).2.committed
        (Function.update r p (step apply lock p l s).1.result) ∧
      Knows apply k E G p (step apply lock p l s).1 (step apply lock p l s).2 := by
  have hkeep {o : Option α} (ho : o = l.result) : I s.committed (Function.update r p o) := by
    rw [ho, ← hr, Function.update_eq_self]
    exact hI
  cases l with
  | running written rest =>
    cases rest with
    | done a =>
      simp only [step]
      split
      · next s' hview =>
        refine ⟨?_, trivial⟩
        have hreplay := ReadCommitted.view_eq_some.mp hview
        obtain ⟨rfl, hdone⟩ | ⟨-, w, c, hentry, hallowed, hrun⟩ := hl
        · obtain rfl : s.committed = s' := Except.ok.inj hreplay
          exact hsound.done p a _ r hI hr hdone
        · rw [hreplay] at hrun
          exact hsound.run p w c a s.committed s' r hI hr hentry hallowed hrun.symm
      · exact ⟨hkeep rfl, trivial⟩
    | read f =>
      simp only [step]
      split
      · next v hview =>
        refine ⟨hkeep rfl, ?_⟩
        have hreplay := ReadCommitted.view_eq_some.mp hview
        obtain ⟨rfl, hreading⟩ | ⟨hheld, w, c, hentry, hallowed, hrun⟩ := hl
        · obtain rfl : s.committed = v := Except.ok.inj hreplay
          exact .inl ⟨rfl, hsound.read p f _ r hI hreading⟩
        · refine .inr ⟨hheld, w, c, hentry, hallowed, ?_⟩
          rw [hreplay] at hrun ⊢
          exact hrun
      · exact ⟨hkeep rfl, trivial⟩
    | write w c =>
      simp only [step]
      split
      · next hfree =>
        split
        · exact ⟨hkeep rfl, knows_write hsound hl hg hfree⟩
        · exact ⟨hkeep rfl, trivial⟩
      · exact ⟨hkeep rfl, hl⟩
  | returned a => exact ⟨hkeep rfl, trivial⟩
  | failed => exact ⟨hkeep rfl, trivial⟩

def results (c : Config π (Progress σ ω α) (Shared π κ σ)) (p : π) : Option α :=
  (c.locals p).result

/-- The rule for transactions that take one lock before anything else they write. -/
theorem serial_exec (hsound : Sound apply lock k E G I) {program : π → Code σ ω α} {s : σ}
    (hprogram : ∀ p, E p (program p)) (hI : I s fun _ => none) {ms : List (π × Unit)}
    (hg : Run.Along (Interleaving.next (machine apply lock))
      (AtStep fun p _ l s => Enters lock G p l s) (start program s) ms) :
    I (Run.exec (Interleaving.next (machine apply lock)) (start program s) ms).shared.committed
      (results (Run.exec (Interleaving.next (machine apply lock)) (start program s) ms)) := by
  have hstart (p : π) :
      Knows apply k E G p
        ((start program s : Config π (Progress σ ω α) (Shared π κ σ)).locals p)
        (start program s).shared :=
    .inl ⟨rfl, hprogram p⟩
  refine (Run.exec_inv_along (I := fun c : Config π (Progress σ ω α) (Shared π κ σ) =>
    I c.shared.committed (results c) ∧ ∀ p, Knows apply k E G p (c.locals p) c.shared)
    ?_ ⟨hI, hstart⟩ hg).1
  intro m c hc hm
  obtain ⟨p, u⟩ := m
  obtain ⟨hstep, hknows⟩ := serial_step hsound rfl hc.1 (hc.2 p) hm
  have hresults : results (Interleaving.next (machine apply lock) (p, u) c) =
      Function.update (results c) p (step apply lock p (c.locals p) c.shared).1.result := by
    funext q
    by_cases hq : q = p
    · subst hq
      simp [results, Interleaving.next, machine]
    · simp [results, Interleaving.next, hq]
  constructor
  · rw [hresults]
    exact hstep
  · intro q
    by_cases hq : q = p
    · subst hq
      rw [Interleaving.next_self]
      exact hknows
    · rw [Interleaving.next_other u c hq]
      exact knows_of_other (Ne.symm hq) (hc.2 p) (hc.2 q)

end Serial

end RowLocks
