import Towerdesk.Lib.Interleaving
import Towerdesk.Lib.Transaction

/-!
# Scripts

A service that talks to its store step by step, each step committed by itself: a query,
a statement, a transaction taken as one step. What it does next depends on what the step
saw. A script can be run at one go, stopped where the store loses a step, or interleaved
with other scripts.
-/

inductive Script (σ ε α : Type)
  | done (r : Except ε α)
  | step (effect : σ → σ) (next : σ → Script σ ε α)

namespace Script

open Transaction (Ends final)
open Interleaving (Machine Config)

variable {σ ε α β γ π : Type}

def bind : Script σ ε α → (α → Script σ ε β) → Script σ ε β
  | .done (.ok a), f => f a
  | .done (.error e), _ => .done (.error e)
  | .step effect next, f => .step effect fun s => (next s).bind f

instance : Monad (Script σ ε) where
  pure a := .done (.ok a)
  bind := bind

/-- A check that asks nothing of the store. -/
def throwIf (p : Prop) [Decidable p] (e : ε) : Script σ ε Unit := .done (Outcome.throwIf p e)

def orThrow (o : Option α) (e : ε) : Script σ ε α := .done (Outcome.orThrow o e)

def collect (f : α → Script σ ε β) : List α → Script σ ε (List β)
  | [] => pure []
  | a :: as => do
    let b ← f a
    let bs ← collect f as
    return b :: bs

section Steps

def outcome : EStateM.Result ε σ α → Except ε α
  | .ok a _ => .ok a
  | .error e _ => .error e

/-- One step, committed as a whole. -/
def atomic (w : EStateM ε σ α) : Script σ ε α :=
  .step (fun s => final (w s)) fun s => .done (outcome (w s))

def query (f : σ → Except ε α) : Script σ ε α := .step id fun s => .done (f s)

def mapError (f : ε → ε) : Script σ ε α → Script σ ε α
  | .done (.ok a) => .done (.ok a)
  | .done (.error e) => .done (.error (f e))
  | .step effect next => .step effect fun s => (next s).mapError f

def run : Script σ ε α → EStateM ε σ α
  | .done (.ok a), s => .ok a s
  | .done (.error e), s => .error e s
  | .step effect next, s => (next s).run (effect s)

/-- The store takes `n` steps and loses the next. -/
def runLosing (lost : ε) : ℕ → Script σ ε α → EStateM ε σ α
  | _, .done (.ok a), s => .ok a s
  | _, .done (.error e), s => .error e s
  | 0, .step _ _, s => .error lost s
  | n + 1, .step effect next, s => runLosing lost n (next s) (effect s)

def advance : Script σ ε α → σ → Script σ ε α × σ
  | .done r, s => (.done r, s)
  | .step effect next, s => (next s, effect s)

def machine : Machine π Unit (Script σ ε α) σ where
  step _ _ c s := advance c s

def start (script : π → Script σ ε α) (s : σ) : Config π (Script σ ε α) σ := ⟨s, script⟩

/-- Scripts interleaved, with an account kept of who changed what. -/
def watched (record : π → σ → σ → γ → γ) : Machine π Unit (Script σ ε α) (σ × γ) where
  step p _ c t := ((advance c t.1).1, (advance c t.1).2, record p t.1 (advance c t.1).2 t.2)

end Steps

section Run

theorem run_pure (a : α) : (pure a : Script σ ε α).run = pure a := rfl

theorem run_bind (c : Script σ ε α) (f : α → Script σ ε β) (s : σ) :
    (c >>= f).run s = (c.run >>= fun a => (f a).run) s := by
  change (c.bind f).run s = _
  induction c generalizing s with
  | done r =>
    cases r with
    | ok a => rfl
    | error e => rfl
  | step effect next ih => exact ih s (effect s)

theorem run_query (f : σ → Except ε α) (s : σ) : (query f).run s = Transaction.read f s := by
  unfold Transaction.read
  cases hf : f s with
  | ok a => simp [query, run, hf]
  | error e => simp [query, run, hf]

end Run

section Reads

variable {c : Script σ ε α} {f : σ → Except ε α} {g : α → Script σ ε β} {h : α → σ → Except ε β}
  {s s' : σ} {b : β}

/-- The script only asks, and what it makes of the answers is `f`. -/
def Reads (c : Script σ ε α) (f : σ → Except ε α) : Prop := ∀ s, c.run s = Transaction.read f s

theorem reads_query (f : σ → Except ε α) : (query f).Reads f := run_query f

theorem reads_done (r : Except ε α) : (Script.done r : Script σ ε α).Reads fun _ => r := by
  intro s
  cases r <;> rfl

theorem Reads.run_bind_of_ok (hc : c.Reads f) {a : α} (hf : f s = .ok a) :
    (c >>= g).run s = (g a).run s := by
  have hrun : c.run = Transaction.read f := funext hc
  have hbind := run_bind c g s
  rw [hrun] at hbind
  exact hbind.trans (Transaction.read_bind_of_ok hf)

theorem Reads.run_bind_of_error (hc : c.Reads f) {e : ε} (hf : f s = .error e) :
    (c >>= g).run s = .error e s := by
  have hrun : c.run = Transaction.read f := funext hc
  have hbind := run_bind c g s
  rw [hrun] at hbind
  exact hbind.trans (Transaction.read_bind_of_error hf)

theorem Reads.run_bind_eq_ok (hc : c.Reads f) :
    (c >>= g).run s = .ok b s' ↔ ∃ a, f s = .ok a ∧ (g a).run s = .ok b s' := by
  cases hf : f s with
  | error e =>
    rw [hc.run_bind_of_error hf]
    simp
  | ok a =>
    rw [hc.run_bind_of_ok hf]
    simp

theorem reads_bind (hc : c.Reads f) (hg : ∀ a, (g a).Reads (h a)) :
    (c >>= g).Reads fun s => f s >>= fun a => h a s := by
  intro s
  cases hf : f s with
  | error e =>
    rw [hc.run_bind_of_error hf]
    simp only [Transaction.read, hf]
    rfl
  | ok a =>
    rw [hc.run_bind_of_ok hf, hg a s]
    simp only [Transaction.read, hf]
    rfl

theorem reads_collect {q : α → Script σ ε β} {h : α → σ → Except ε β}
    (hq : ∀ a, (q a).Reads (h a)) (as : List α) :
    (collect q as).Reads fun s => as.mapM (h · s) := by
  induction as with
  | nil => exact reads_done (.ok [])
  | cons a as ih =>
    have hcons := reads_bind (hq a) fun b =>
      reads_bind ih fun bs => reads_done (.ok (b :: bs))
    simp only [List.mapM_cons]
    exact hcons

end Reads

theorem bind_done_ok (a : α) (f : α → Script σ ε β) : (Script.done (.ok a) >>= f) = f a := rfl

theorem bind_done_error (e : ε) (f : α → Script σ ε β) :
    (Script.done (.error e) >>= f) = .done (.error e) := rfl

theorem bind_step (effect : σ → σ) (next : σ → Script σ ε α) (f : α → Script σ ε β) :
    (Script.step effect next >>= f) = .step effect fun s => next s >>= f := rfl

theorem bind_bind {γ : Type} (c : Script σ ε α) (f : α → Script σ ε β) (g : β → Script σ ε γ) :
    (c >>= f >>= g) = c >>= fun a => f a >>= g := by
  induction c with
  | done r =>
    cases r with
    | ok a => rfl
    | error e => rfl
  | step effect next ih =>
    simp only [bind_step, ih]

section Losing

variable {lost : ε} {P : σ → Prop} {n : ℕ} {s s' : σ} {e : ε} {a : α}

/-- Wherever the script throws, `P` holds. -/
def SafeLosing (lost : ε) (P : σ → Prop) (n : ℕ) (c : Script σ ε α) (s : σ) : Prop :=
  ∀ e s', c.runLosing lost n s = .error e s' → P s'

theorem safeLosing_pure : SafeLosing lost P n (pure a : Script σ ε α) s := by
  intro e s' h
  simp [pure, runLosing] at h

theorem safeLosing_error : SafeLosing lost P n (.done (.error e) : Script σ ε α) s ↔ P s := by
  simp [SafeLosing, runLosing]

theorem safeLosing_step {effect : σ → σ} {next : σ → Script σ ε α} :
    SafeLosing lost P n (.step effect next) s ↔
      (n = 0 → P s) ∧ (0 < n → SafeLosing lost P (n - 1) (next s) (effect s)) := by
  cases n with
  | zero => simp [SafeLosing, runLosing]
  | succ n => simp [SafeLosing, runLosing]

theorem safeLosing_throwIf_bind {p : Prop} [Decidable p] {f : Unit → Script σ ε α} :
    SafeLosing lost P n (throwIf p e >>= f) s ↔
      (p → P s) ∧ (¬ p → SafeLosing lost P n (f ()) s) := by
  by_cases hp : p
  · have hrun : (throwIf p e >>= f) = (.done (.error e) : Script σ ε α) := by
      rw [throwIf, Outcome.throwIf, if_pos hp, bind_done_error]
    rw [hrun, safeLosing_error]
    simp [hp]
  · have hrun : (throwIf p e >>= f) = f () := by
      rw [throwIf, Outcome.throwIf, if_neg hp, bind_done_ok]
    rw [hrun]
    simp [hp]

theorem safeLosing_query_bind {f : σ → Except ε α} {g : α → Script σ ε β} :
    SafeLosing lost P n (query f >>= g) s ↔
      (n = 0 → P s) ∧ (0 < n → SafeLosing lost P (n - 1) (.done (f s) >>= g) s) :=
  safeLosing_step

theorem safeLosing_query {f : σ → Except ε α} (hf : f s = .ok a) :
    SafeLosing lost P n (query f) s ↔ (n = 0 → P s) := by
  rw [query, safeLosing_step, hf]
  exact and_iff_left fun _ => safeLosing_pure

theorem safeLosing_guard_bind {p : σ → Prop} [DecidablePred p] {g : Unit → Script σ ε α} :
    SafeLosing lost P n (query (fun s => Outcome.throwIf (p s) e) >>= g) s ↔
      (n = 0 ∨ p s → P s) ∧ (0 < n ∧ ¬ p s → SafeLosing lost P (n - 1) (g ()) s) := by
  have hthrow := @safeLosing_throwIf_bind σ ε α lost P (n - 1) s e (p s) _ g
  rw [safeLosing_query_bind]
  change (_ ∧ (_ → SafeLosing lost P (n - 1) (throwIf (p s) e >>= g) s)) ↔ _
  rw [hthrow]
  by_cases hn : 0 < n
  · simp [hn, Nat.pos_iff_ne_zero.mp hn]
  · simp [Nat.eq_zero_of_not_pos hn]

theorem safeLosing_atomic_bind {w : EStateM ε σ α} {g : α → Script σ ε β} (hw : w s = .ok a s') :
    SafeLosing lost P n (atomic w >>= g) s ↔
      (n = 0 → P s) ∧ (0 < n → SafeLosing lost P (n - 1) (g a) s') := by
  rw [atomic, bind_step, safeLosing_step, hw]
  rfl

theorem safeLosing_atomic_bind_of_error {w : EStateM ε σ α} {g : α → Script σ ε β}
    (hw : w s = .error e s) : SafeLosing lost P n (atomic w >>= g) s ↔ P s := by
  rw [atomic, bind_step, safeLosing_step, hw]
  simp only [outcome, final, bind_done_error, safeLosing_error]
  cases n with
  | zero => simp
  | succ n => simp

theorem safeLosing_mapError_bind {c : Script σ ε α} {h : ε → ε} {g : α → Script σ ε β} :
    SafeLosing lost P n (c.mapError h >>= g) s ↔ SafeLosing lost P n (c >>= g) s := by
  induction c generalizing n s with
  | done r =>
    cases r with
    | ok a => rfl
    | error e => simp only [mapError, bind_done_error, safeLosing_error]
  | step effect next ih =>
    simp only [mapError, bind_step, safeLosing_step, ih]

end Losing

section Yields

variable {I : σ → Prop} {Q : α → Prop} {R : β → Prop} {c : Script σ ε α}
  {f : α → Script σ ε β} {s : σ}

/-- Wherever `I` holds when a step is taken, the step keeps it, and what the script returns
satisfies `Q`. -/
def Yields (I : σ → Prop) (Q : α → Prop) : Script σ ε α → Prop
  | .done (.ok a) => Q a
  | .done (.error _) => True
  | .step effect next => ∀ s, I s → I (effect s) ∧ (next s).Yields I Q

theorem yields_bind (hc : c.Yields I Q) (hf : ∀ a, Q a → (f a).Yields I R) :
    (c >>= f).Yields I R := by
  change (c.bind f).Yields I R
  induction c with
  | done r =>
    cases r with
    | ok a => exact hf a hc
    | error e => trivial
  | step effect next ih => exact fun s hs => ⟨(hc s hs).1, ih s (hc s hs).2⟩

theorem yields_pure {a : α} (h : Q a) : (pure a : Script σ ε α).Yields I Q := h

theorem yields_done {r : Except ε α} (h : ∀ a, r = .ok a → Q a) :
    (Script.done r : Script σ ε α).Yields I Q := by
  cases r with
  | ok a => exact h a rfl
  | error e => trivial

theorem yields_throwIf_bind {p : Prop} [Decidable p] {e : ε} {f : Unit → Script σ ε β}
    (h : ¬ p → (f ()).Yields I R) : (throwIf p e >>= f).Yields I R :=
  yields_bind (Q := fun _ => ¬ p) (yields_done fun _ hu => Outcome.throwIf_eq_ok.mp hu) fun _ => h

theorem yields_orThrow_bind {o : Option α} {e : ε} (h : ∀ a, o = some a → (f a).Yields I R) :
    (orThrow o e >>= f).Yields I R :=
  yields_bind (Q := fun a => o = some a) (yields_done fun _ ha => Outcome.orThrow_eq_ok.mp ha) h

theorem yields_query {f : σ → Except ε α} (h : ∀ s a, I s → f s = .ok a → Q a) :
    (query f).Yields I Q :=
  fun s hs => ⟨hs, yields_done fun a ha => h s a hs ha⟩

theorem yields_atomic {w : EStateM ε σ α} (h : ∀ s, I s → Ends I (fun a s' => I s' ∧ Q a) (w s)) :
    (atomic w).Yields I Q := by
  intro s hs
  have hw := h s hs
  change I (final (w s)) ∧ (Script.done (outcome (w s)) : Script σ ε α).Yields I Q
  cases hr : w s with
  | ok a s' =>
    rw [hr] at hw
    exact hw
  | error e s' =>
    rw [hr] at hw
    exact ⟨hw, trivial⟩

theorem yields_collect {f : α → Script σ ε β} {as : List α}
    (h : ∀ a ∈ as, (f a).Yields I R) : (collect f as).Yields I fun bs => ∀ b ∈ bs, R b := by
  induction as with
  | nil => exact yields_pure nofun
  | cons a as ih =>
    refine yields_bind (h a List.mem_cons_self) fun b hb => ?_
    refine yields_bind (ih fun a' ha' => h a' (List.mem_cons_of_mem a ha')) fun bs hbs => ?_
    exact yields_pure (List.forall_mem_cons.mpr ⟨hb, hbs⟩)

theorem yields_mapError {g : ε → ε} (hc : c.Yields I Q) : (c.mapError g).Yields I Q := by
  induction c with
  | done r =>
    cases r with
    | ok a => exact hc
    | error e => trivial
  | step effect next ih => exact fun s hs => ⟨(hc s hs).1, ih s (hc s hs).2⟩

theorem ends_run_of_yields (hc : c.Yields I Q) (hs : I s) :
    Ends I (fun a s' => I s' ∧ Q a) (c.run s) := by
  induction c generalizing s with
  | done r =>
    cases r with
    | ok a => exact ⟨hs, hc⟩
    | error e => exact hs
  | step effect next ih => exact ih s (hc s hs).2 (hc s hs).1

end Yields

section Ends

variable {throws : σ → Prop} {returns : β → σ → Prop} {f : α → Script σ ε β} {s : σ}

theorem ends_query_bind {q : σ → Except ε α} (hthrows : throws s)
    (h : ∀ a, q s = .ok a → Ends throws returns ((f a).run s)) :
    Ends throws returns ((query q >>= f).run s) := by
  change Ends throws returns ((Script.done (q s) >>= f).run s)
  cases hq : q s with
  | ok a => exact h a hq
  | error e => exact hthrows

theorem ends_throwIf_bind {p : Prop} [Decidable p] {e : ε} {g : Unit → Script σ ε β}
    (hthrows : throws s) (h : ¬ p → Ends throws returns ((g ()).run s)) :
    Ends throws returns ((throwIf p e >>= g).run s) := by
  by_cases hp : p
  · rw [throwIf, Outcome.throwIf, if_pos hp]
    exact hthrows
  · rw [throwIf, Outcome.throwIf, if_neg hp]
    exact h hp

theorem ends_atomic {w : EStateM ε σ β} (h : Ends throws returns (w s)) :
    Ends throws returns ((atomic w).run s) := by
  change Ends throws returns ((Script.done (outcome (w s))).run (final (w s)))
  cases hw : w s with
  | ok a s' =>
    rw [hw] at h
    exact h
  | error e s' =>
    rw [hw] at h
    exact h

theorem ends_atomic_bind {w : EStateM ε σ α}
    (hthrows : ∀ e s', w s = .error e s' → throws s')
    (h : ∀ a s', w s = .ok a s' → Ends throws returns ((f a).run s')) :
    Ends throws returns ((atomic w >>= f).run s) := by
  change Ends throws returns ((Script.done (outcome (w s)) >>= f).run (final (w s)))
  cases hw : w s with
  | ok a s' => exact h a s' hw
  | error e s' => exact hthrows e s' hw

end Ends

section UpTo

variable {E : (σ → σ) → Prop} {D : Script σ ε α → Prop} {D' : Script σ ε β → Prop}
  {c : Script σ ε α} {f : α → Script σ ε β}

/-- Every step's effect is one of `E`, until the rest of the script is one of `D`. -/
def UpTo (E : (σ → σ) → Prop) (D : Script σ ε α → Prop) : Script σ ε α → Prop
  | .done _ => True
  | .step effect next => D (.step effect next) ∨ (E effect ∧ ∀ s, (next s).UpTo E D)

def Always (E : (σ → σ) → Prop) (c : Script σ ε α) : Prop := c.UpTo E fun _ => False

theorem always_step {effect : σ → σ} {next : σ → Script σ ε α} :
    (Script.step effect next).Always E ↔ E effect ∧ ∀ s, (next s).Always E :=
  Iff.of_eq (false_or _)

theorem Always.mono {E' : (σ → σ) → Prop} (hE : ∀ effect, E effect → E' effect)
    (hc : c.Always E) : c.Always E' := by
  induction c with
  | done r => trivial
  | step effect next ih =>
    obtain ⟨heffect, hnext⟩ := always_step.mp hc
    exact always_step.mpr ⟨hE effect heffect, fun s => ih s (hnext s)⟩

theorem final_run_of_always {R : σ → σ → Prop} (hrefl : ∀ s, R s s)
    (htrans : ∀ a b c, R a b → R b c → R a c) (hc : c.Always fun effect => ∀ s, R s (effect s))
    (s : σ) : R s (final (c.run s)) := by
  induction c generalizing s with
  | done r =>
    cases r with
    | ok a => exact hrefl s
    | error e => exact hrefl s
  | step effect next ih =>
    obtain ⟨heffect, hnext⟩ := always_step.mp hc
    exact htrans s (effect s) _ (heffect s) (ih s (hnext s) (effect s))

theorem upTo_bind (hc : c.Always E) (hf : ∀ a, (f a).UpTo E D') : (c >>= f).UpTo E D' := by
  induction c with
  | done r =>
    cases r with
    | ok a => exact hf a
    | error e => trivial
  | step effect next ih =>
    obtain ⟨heffect, hnext⟩ := always_step.mp hc
    exact .inr ⟨heffect, fun s => ih s (hnext s)⟩

theorem always_bind (hc : c.Always E) (hf : ∀ a, (f a).Always E) : (c >>= f).Always E :=
  upTo_bind hc hf

theorem always_query (hid : E id) (f : σ → Except ε α) : (query f).Always E :=
  always_step.mpr ⟨hid, fun _ => trivial⟩

theorem always_atomic {w : EStateM ε σ α} (hw : E fun s => final (w s)) : (atomic w).Always E :=
  always_step.mpr ⟨hw, fun _ => trivial⟩

theorem always_collect {f : α → Script σ ε β} (h : ∀ a, (f a).Always E) :
    ∀ as : List α, (collect f as).Always E
  | [] => trivial
  | a :: as => always_bind (h a) fun _ => always_bind (always_collect h as) fun _ => trivial

end UpTo

section Until

variable {E : (σ → σ) → Prop} {D : Script σ ε α → Prop} {D' : Script σ ε β → Prop}
  {c : Script σ ε α} {f : α → Script σ ε β}

/-- As long as the rest of the script is none of `D`, every step's effect is one of `E` and
nothing is returned. -/
def Until (E : (σ → σ) → Prop) (D : Script σ ε α → Prop) : Script σ ε α → Prop
  | .done (.ok _) => False
  | .done (.error _) => True
  | .step effect next => D (.step effect next) ∨ (E effect ∧ ∀ s, (next s).Until E D)

theorem until_done_bind {r : Except ε α} (h : ∀ a, r = .ok a → (f a).Until E D') :
    (Script.done r >>= f).Until E D' := by
  cases r with
  | ok a => exact h a rfl
  | error e => trivial

theorem until_query_bind {g : σ → Except ε α} (hid : E id)
    (h : ∀ s a, g s = .ok a → (f a).Until E D') : (query g >>= f).Until E D' :=
  .inr ⟨hid, fun s => until_done_bind (h s)⟩

end Until

section Assured

variable {τ : Type} {view : τ → σ} {R : τ → τ → Prop} {Q : α → τ → Prop} {Q' : β → τ → Prop}
  {c : Script σ ε α} {f : α → Script σ ε β} {t t' : τ}

/-- Whatever happens within `R` before and at each of its steps, what the script returns
satisfies `Q`. -/
def Assured (view : τ → σ) (R : τ → τ → Prop) (Q : α → τ → Prop) : Script σ ε α → τ → Prop
  | .done (.ok a), t => Q a t
  | .done (.error _), _ => True
  | .step effect next, t => ∀ t' t'', R t t' → R t' t'' → view t'' = effect (view t') →
      (next (view t')).Assured view R Q t''

theorem assured_stable (htrans : ∀ {a b c}, R a b → R b c → R a c)
    (hQ : ∀ a {t t'}, R t t' → Q a t → Q a t') (hR : R t t') (hc : c.Assured view R Q t) :
    c.Assured view R Q t' := by
  cases c with
  | done r =>
    cases r with
    | ok a => exact hQ a hR hc
    | error e => trivial
  | step effect next => exact fun u u' hu hu' hview => hc u u' (htrans hR hu) hu' hview

theorem assured_bind (hc : c.Assured view R Q t)
    (hf : ∀ a t, Q a t → (f a).Assured view R Q' t) : (c >>= f).Assured view R Q' t := by
  induction c generalizing t with
  | done r =>
    cases r with
    | ok a => exact hf a t hc
    | error e => trivial
  | step effect next ih => exact fun u u' hu hu' hview => ih (view u) (hc u u' hu hu' hview)

theorem assured_true (c : Script σ ε α) (t : τ) : c.Assured view R (fun _ _ => True) t := by
  induction c generalizing t with
  | done r => cases r <;> trivial
  | step effect next ih => exact fun u u' _ _ _ => ih (view u) u'

/-- What others keep is still known when the script returns. -/
theorem assured_frame {P : τ → Prop} (hP : ∀ {t t'}, R t t' → P t → P t') (h : P t)
    (hc : c.Assured view R Q t) : c.Assured view R (fun a t => Q a t ∧ P t) t := by
  induction c generalizing t with
  | done r =>
    cases r with
    | ok a => exact ⟨hc, h⟩
    | error e => trivial
  | step effect next ih =>
    exact fun u u' hu hu' hview => ih (view u) (hP hu' (hP hu h)) (hc u u' hu hu' hview)

theorem assured_collect {f : α → Script σ ε β} (hQ : ∀ b {t t'}, R t t' → Q' b t → Q' b t')
    (hf : ∀ a t, (f a).Assured view R Q' t) (as : List α) (t : τ) :
    (collect f as).Assured view R (fun bs t => ∀ b ∈ bs, Q' b t) t := by
  induction as generalizing t with
  | nil => exact fun b hb => absurd hb List.not_mem_nil
  | cons a as ih =>
    refine assured_bind (hf a t) fun b t hb => ?_
    refine assured_bind (assured_frame (hQ b) hb (ih t)) fun bs t hbs => ?_
    exact List.forall_mem_cons.mpr ⟨hbs.2, hbs.1⟩

theorem assured_atomic {w : EStateM ε σ α}
    (h : ∀ t' t'' a, R t t' → R t' t'' → view t'' = final (w (view t')) →
      outcome (w (view t')) = .ok a → Q a t'') : (atomic w).Assured view R Q t := by
  intro t' t'' ht ht' hview
  change (Script.done (outcome (w (view t'))) : Script σ ε α).Assured view R Q t''
  cases hw : outcome (w (view t')) with
  | ok a => exact h t' t'' a ht ht' hview hw
  | error e => trivial

theorem assured_query {f : σ → Except ε α}
    (h : ∀ t' t'' a, R t t' → R t' t'' → view t'' = view t' → f (view t') = .ok a → Q a t'') :
    (query f).Assured view R Q t := by
  intro t' t'' ht ht' hview
  change (Script.done (f (view t')) : Script σ ε α).Assured view R Q t''
  cases hf : f (view t') with
  | ok a => exact h t' t'' a ht ht' hview hf
  | error e => trivial

end Assured

end Script
