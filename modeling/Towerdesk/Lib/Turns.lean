import Towerdesk.Lib.Script

/-!
# Scripts in turns

Any number of scripts over one store, each stopped wherever it may be. Each is proved on its own:
whatever the others do to the store between two of its steps is taken to be within a relation, the
rely; in return each of its steps is shown to be as its guarantee has it. Where every guarantee
is within the others' relies, all of them hold along every run, and so does what all of them keep.
One script after the other, for a list of values, is run from the first on and ends with the
first that throws.
-/

namespace Script

open Transaction (final)
open Interleaving (Config)

variable {σ ε α β π : Type} {R : σ → σ → Prop} {G : σ → (σ → σ) → Prop} {Q : α → σ → Prop}
  {Q' : β → σ → Prop} {s s' : σ}

/-- Whatever leads within `R` from `s` to the script's next step, that step is as `G` has it, and
so are those after it; what is returned satisfies `Q`. -/
def Upholds (R : σ → σ → Prop) (G : σ → (σ → σ) → Prop) (Q : α → σ → Prop) :
    Script σ ε α → σ → Prop
  | .done (.ok a), s => Q a s
  | .done (.error _), _ => True
  | .step effect next, s => ∀ s', R s s' → G s' effect ∧ (next s').Upholds R G Q (effect s')

section Rules

variable {c : Script σ ε α} {f : α → Script σ ε β} {g : σ → Except ε α} {w : EStateM ε σ α} {e : ε}

theorem upholds_bind (hc : c.Upholds R G Q s) (hf : ∀ a s, Q a s → (f a).Upholds R G Q' s) :
    (c >>= f).Upholds R G Q' s := by
  induction c generalizing s with
  | done r =>
    cases r with
    | ok a => exact hf a s hc
    | error e => trivial
  | step effect next ih =>
    intro s' hs'
    obtain ⟨heffect, hnext⟩ := hc s' hs'
    exact ⟨heffect, ih s' hnext⟩

theorem upholds_done {r : Except ε α} (h : ∀ a, r = .ok a → Q a s) :
    (Script.done r : Script σ ε α).Upholds R G Q s := by
  cases r with
  | ok a => exact h a rfl
  | error e => trivial

theorem upholds_done_bind {r : Except ε α} (h : ∀ a, r = .ok a → (f a).Upholds R G Q' s) :
    (Script.done r >>= f).Upholds R G Q' s := by
  cases r with
  | ok a => exact h a rfl
  | error e => trivial

theorem upholds_throwIf_bind {p : Prop} [Decidable p] {f : Unit → Script σ ε β}
    (h : ¬ p → (f ()).Upholds R G Q' s) : (throwIf p e >>= f).Upholds R G Q' s :=
  upholds_done_bind fun _ hu => h (Outcome.throwIf_eq_ok.mp hu)

theorem upholds_query_bind (hid : ∀ s, G s id)
    (h : ∀ s' a, R s s' → g s' = .ok a → (f a).Upholds R G Q' s') :
    (query g >>= f).Upholds R G Q' s :=
  fun s' hs' => ⟨hid s', upholds_done_bind fun a ha => h s' a hs' ha⟩

theorem upholds_atomic_bind (hw : ∀ s', R s s' → G s' fun s => final (w s))
    (h : ∀ s' s'' a, R s s' → w s' = .ok a s'' → (f a).Upholds R G Q' s'') :
    (atomic w >>= f).Upholds R G Q' s := by
  intro s' hs'
  refine ⟨hw s' hs', ?_⟩
  change (Script.done (outcome (w s')) >>= f).Upholds R G Q' (final (w s'))
  cases hr : w s' with
  | ok a s'' => exact h s' s'' a hs' hr
  | error e s'' => trivial

theorem upholds_atomic (hw : ∀ s', R s s' → G s' fun s => final (w s)) :
    (atomic w).Upholds R G (fun _ _ => True) s :=
  fun s' hs' => ⟨hw s' hs', upholds_done fun _ _ => trivial⟩

/-- What is shown of a script stands while the others take their turns. -/
theorem Upholds.rely_returns (htrans : ∀ {a b c}, R a b → R b c → R a c)
    (hQ : ∀ a s s', Q a s → R s s' → Q a s') (hc : c.Upholds R G Q s) (hs : R s s') :
    c.Upholds R G Q s' := by
  cases c with
  | done r =>
    cases r with
    | ok a => exact hQ a s s' hc hs
    | error e => trivial
  | step effect next => exact fun t ht => hc t (htrans hs ht)

theorem Upholds.rely (htrans : ∀ {a b c}, R a b → R b c → R a c)
    (hc : c.Upholds R G (fun _ _ => True) s) (hs : R s s') :
    c.Upholds R G (fun _ _ => True) s' :=
  hc.rely_returns htrans (fun _ _ _ _ _ => trivial) hs

end Rules

section Turns

variable [DecidableEq π] {G : π → σ → (σ → σ) → Prop} {c : Config π (Script σ ε α) σ}
  {l : π × Unit}

/-- What is left of each script upholds its guarantee. -/
def AllUphold (R : σ → σ → Prop) (G : π → σ → (σ → σ) → Prop) (c : Config π (Script σ ε α) σ) :
    Prop :=
  ∀ p, (c.locals p).Upholds R (G p) (fun _ _ => True) c.shared

/-- A turn is as its script's guarantee has it, or there is nothing left to do. -/
theorem AllUphold.turn (hrefl : ∀ s, R s s) (h : AllUphold R G c) :
    (Interleaving.next machine l c).shared = c.shared ∨
      ∃ effect next, c.locals l.1 = .step effect next ∧ G l.1 c.shared effect ∧
        (Interleaving.next machine l c).shared = effect c.shared := by
  have hl := h l.1
  change (advance (c.locals l.1) c.shared).2 = _ ∨
    ∃ effect next, _ ∧ _ ∧ (advance (c.locals l.1) c.shared).2 = _
  cases hc : c.locals l.1 with
  | done r => exact .inl rfl
  | step effect next =>
    rw [hc] at hl
    exact .inr ⟨effect, next, rfl, (hl c.shared (hrefl _)).1, rfl⟩

theorem AllUphold.next (hrefl : ∀ s, R s s) (htrans : ∀ {a b c}, R a b → R b c → R a c)
    (hwithin : ∀ p s effect, G p s effect → R s (effect s)) (h : AllUphold R G c) :
    AllUphold R G (Interleaving.next machine l c) := by
  have hrely : R c.shared (Interleaving.next machine l c).shared := by
    obtain hsame | ⟨effect, next, -, hG, hshared⟩ := h.turn (l := l) hrefl
    · rw [hsame]
      exact hrefl _
    · rw [hshared]
      exact hwithin l.1 _ effect hG
  intro p
  by_cases hp : p = l.1
  · subst hp
    have hl := h l.1
    rw [Interleaving.next_self]
    change (advance (c.locals l.1) c.shared).1.Upholds R _ _ (advance (c.locals l.1) c.shared).2
    cases hc : c.locals l.1 with
    | done r => exact upholds_done fun _ _ => trivial
    | step effect next =>
      rw [hc] at hl
      exact (hl c.shared (hrefl _)).2
  · rw [Interleaving.next_other l.2 c hp]
    exact (h p).rely htrans hrely

end Turns

end Script

namespace Script

open Interleaving (Config)
open Transaction (final)

variable {σ ε α π : Type} [DecidableEq π] {I : σ → Prop} {Q : π → α → Prop}
  {script : π → Script σ ε α} {s : σ}

abbrev inTurns (script : π → Script σ ε α) (s : σ) (ms : List (π × Unit)) :
    Config π (Script σ ε α) σ :=
  Run.exec (Interleaving.next machine) (start script s) ms

theorem advance_yields {P : α → Prop} {c : Script σ ε α} (hc : c.Yields I P) (hs : I s) :
    I (advance c s).2 ∧ (advance c s).1.Yields I P := by
  cases c with
  | done r => exact ⟨hs, hc⟩
  | step effect next => exact hc s hs

theorem yields_inTurns (h : ∀ p, (script p).Yields I (Q p)) (hs : I s) (ms : List (π × Unit)) :
    I (inTurns script s ms).shared ∧ ∀ p, ((inTurns script s ms).locals p).Yields I (Q p) := by
  refine Run.exec_inv (I := fun c : Config π (Script σ ε α) σ =>
    I c.shared ∧ ∀ p, (c.locals p).Yields I (Q p)) (fun m c hc => ?_) ms ⟨hs, h⟩
  obtain ⟨hshared, hself⟩ := advance_yields (hc.2 m.1) hc.1
  refine ⟨hshared, fun p => ?_⟩
  by_cases hp : p = m.1
  · subst hp
    rw [Interleaving.next_self]
    exact hself
  · rw [Interleaving.next_other m.2 c hp]
    exact hc.2 p

section Uphold

/-- Each script relies on what the others guarantee; a property that every guarantee keeps holds
after every turn, and what a script returned still satisfies what the others do not undo. -/
theorem upheld_returns_exec {R : π → σ → σ → Prop} {G : π → σ → (σ → σ) → Prop}
    {Q : π → α → σ → Prop} (hrefl : ∀ p s, R p s s)
    (htrans : ∀ p {a b c}, R p a b → R p b c → R p a c)
    (hwithin : ∀ p q s effect, q ≠ p → G p s effect → R q s (effect s))
    (hkeeps : ∀ p s effect, G p s effect → I s → I (effect s))
    (hQ : ∀ p a s s', Q p a s → R p s s' → Q p a s')
    {c : Config π (Script σ ε α) σ}
    (h : ∀ p, (c.locals p).Upholds (R p) (G p) (Q p) c.shared) (hc : I c.shared)
    (ms : List (π × Unit)) :
    (∀ p, ((Run.exec (Interleaving.next machine) c ms).locals p).Upholds (R p) (G p) (Q p)
      (Run.exec (Interleaving.next machine) c ms).shared) ∧
      I (Run.exec (Interleaving.next machine) c ms).shared := by
  refine Run.exec_inv (I := fun c : Config π (Script σ ε α) σ =>
    (∀ p, (c.locals p).Upholds (R p) (G p) (Q p) c.shared) ∧ I c.shared)
    (fun m c hc => ?_) ms ⟨h, hc⟩
  have hself := hc.1 m.1
  have hstep : (advance (c.locals m.1) c.shared).1.Upholds (R m.1) (G m.1) (Q m.1)
        (advance (c.locals m.1) c.shared).2 ∧
      (∀ q, q ≠ m.1 → R q c.shared (advance (c.locals m.1) c.shared).2) ∧
      I (advance (c.locals m.1) c.shared).2 := by
    cases hl : c.locals m.1 with
    | done r =>
      rw [hl] at hself
      exact ⟨hself, fun q _ => hrefl q _, hc.2⟩
    | step effect next =>
      rw [hl] at hself
      obtain ⟨hG, hnext⟩ := hself c.shared (hrefl m.1 _)
      exact ⟨hnext, fun q hq => hwithin m.1 q _ effect hq hG, hkeeps m.1 _ effect hG hc.2⟩
  refine ⟨fun p => ?_, hstep.2.2⟩
  by_cases hp : p = m.1
  · subst hp
    rw [Interleaving.next_self]
    exact hstep.1
  · rw [Interleaving.next_other m.2 c hp]
    exact (hc.1 p).rely_returns (htrans p) (hQ p) (hstep.2.1 p hp)

theorem upheld_exec {R : π → σ → σ → Prop} {G : π → σ → (σ → σ) → Prop}
    (hrefl : ∀ p s, R p s s) (htrans : ∀ p {a b c}, R p a b → R p b c → R p a c)
    (hwithin : ∀ p q s effect, q ≠ p → G p s effect → R q s (effect s))
    (hkeeps : ∀ p s effect, G p s effect → I s → I (effect s))
    {c : Config π (Script σ ε α) σ}
    (h : ∀ p, (c.locals p).Upholds (R p) (G p) (fun _ _ => True) c.shared) (hc : I c.shared)
    (ms : List (π × Unit)) :
    (∀ p, ((Run.exec (Interleaving.next machine) c ms).locals p).Upholds (R p) (G p)
      (fun _ _ => True) (Run.exec (Interleaving.next machine) c ms).shared) ∧
      I (Run.exec (Interleaving.next machine) c ms).shared :=
  upheld_returns_exec hrefl htrans hwithin hkeeps (fun _ _ _ _ _ _ => trivial) h hc ms

theorem inTurns_append (ms ms' : List (π × Unit)) :
    inTurns script s (ms ++ ms') =
      Run.exec (Interleaving.next machine) (inTurns script s ms) ms' :=
  Run.exec_append _ _ _ _

variable {R : σ → σ → Prop}
variable {G : σ → (σ → σ) → Prop} {β : Type} {P : σ → Prop} {f : α → Script σ ε β} {as : List α}

theorem Upholds.and_stable {Q : α → σ → Prop} {c : Script σ ε α}
    (hwithin : ∀ s effect, G s effect → R s (effect s)) (hP : ∀ s s', P s → R s s' → P s')
    (hc : c.Upholds R G Q s) (hs : P s) : c.Upholds R G (fun a s => Q a s ∧ P s) s := by
  induction c generalizing s with
  | done r =>
    cases r with
    | ok a => exact ⟨hc, hs⟩
    | error e => trivial
  | step effect next ih =>
    intro s' hs'
    obtain ⟨heffect, hnext⟩ := hc s' hs'
    exact ⟨heffect, ih s' hnext (hP _ _ (hP _ _ hs hs') (hwithin s' effect heffect))⟩

theorem upholds_atomic_returns {Q : α → σ → Prop} {w : EStateM ε σ α}
    (hw : ∀ s', R s s' → G s' fun s => final (w s))
    (h : ∀ s' s'' a, R s s' → w s' = .ok a s'' → Q a s'') : (atomic w).Upholds R G Q s := by
  intro s' hs'
  refine ⟨hw s' hs', ?_⟩
  change (Script.done (outcome (w s')) : Script σ ε α).Upholds R G Q (final (w s'))
  cases hr : w s' with
  | ok a s'' => exact h s' s'' a hs' hr
  | error e s'' => trivial

/-- `try { c } catch (e) { f(e) }`. -/
def recover (c : Script σ ε α) (f : ε → Script σ ε α) : Script σ ε α :=
  match c with
  | .done (.ok a) => .done (.ok a)
  | .done (.error e) => f e
  | .step effect next => .step effect fun s => (next s).recover f

theorem upholds_recover {Q : α → σ → Prop} {c : Script σ ε α} {f : ε → Script σ ε α}
    (hc : c.Upholds R G Q s) (hf : ∀ e s, (f e).Upholds R G Q s) :
    (c.recover f).Upholds R G Q s := by
  induction c generalizing s with
  | done r =>
    cases r with
    | ok a => exact hc
    | error e => exact hf e s
  | step effect next ih =>
    intro s' hs'
    obtain ⟨heffect, hnext⟩ := hc s' hs'
    exact ⟨heffect, ih s' hnext⟩

theorem upholds_mapError {Q : α → σ → Prop} {c : Script σ ε α} {g : ε → ε}
    (hc : c.Upholds R G Q s) : (c.mapError g).Upholds R G Q s := by
  induction c generalizing s with
  | done r =>
    cases r with
    | ok a => exact hc
    | error e => trivial
  | step effect next ih => exact fun s' hs' => ⟨(hc s' hs').1, ih s' (hc s' hs').2⟩

/-- What each value leaves behind is still there when the last one is done. -/
theorem upholds_collect {Q : β → σ → Prop}
    (hwithin : ∀ s effect, G s effect → R s (effect s)) (hP : ∀ s s', P s → R s s' → P s')
    (hQ : ∀ b s s', Q b s → R s s' → Q b s')
    (h : ∀ a ∈ as, ∀ s, P s → (f a).Upholds R G Q s) (hs : P s) :
    (collect f as).Upholds R G (fun bs s => ∀ b ∈ bs, Q b s) s := by
  induction as generalizing s with
  | nil => exact fun b hb => absurd hb List.not_mem_nil
  | cons a as ih =>
    have hfirst := (h a List.mem_cons_self s hs).and_stable hwithin hP hs
    refine upholds_bind hfirst fun b s' hb => ?_
    have hrest := (ih (fun a' ha' => h a' (List.mem_cons_of_mem a ha')) hb.2).and_stable hwithin
      (hQ b) hb.1
    exact upholds_bind hrest fun bs s'' hbs => List.forall_mem_cons.mpr ⟨hbs.2, hbs.1⟩

end Uphold

section Collect

variable {β : Type} {f : β → Script σ ε α} {b : β} {bs : List β} {s s' : σ} {a : α} {e : ε}

theorem run_atomic (w : EStateM ε σ α) (s : σ) : (atomic w).run s = w s := by
  change (Script.done (outcome (w s)) : Script σ ε α).run (final (w s)) = w s
  cases w s <;> rfl

theorem run_bind_of_run_ok {γ : Type} {c : Script σ ε α} {g : α → Script σ ε γ}
    (hc : c.run s = .ok a s') : (c >>= g).run s = (g a).run s' := by
  refine (run_bind c g s).trans ?_
  change EStateM.bind c.run (fun a => (g a).run) s = _
  simp only [EStateM.bind, hc]

theorem run_bind_of_run_error {γ : Type} {c : Script σ ε α} {g : α → Script σ ε γ}
    (hc : c.run s = .error e s') : (c >>= g).run s = .error e s' := by
  refine (run_bind c g s).trans ?_
  change EStateM.bind c.run (fun a => (g a).run) s = _
  simp only [EStateM.bind, hc]

theorem run_collect_cons_error (h : (f b).run s = .error e s') :
    (collect f (b :: bs)).run s = .error e s' :=
  run_bind_of_run_error h

theorem run_collect_cons_ok (h : (f b).run s = .ok a s') :
    (collect f (b :: bs)).run s = (collect f bs >>= fun as => pure (a :: as)).run s' :=
  run_bind_of_run_ok h

end Collect

end Script
