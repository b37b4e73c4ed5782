import Towerdesk.Lib.Interleaving
import Towerdesk.Lib.Transaction
import Mathlib.Data.List.Induction

/-!
# Transactions that read what is committed

Many transactions run at once on one store, a statement at a time. A statement sees what
is committed when it runs, with the writes of its own transaction over it, and nobody
else sees these until the transaction commits all of them together. Nothing read earlier
is read again.
-/

namespace ReadCommitted

open Transaction (Statement)
open Interleaving (Machine Config AtStep)

variable {π σ ω ε δ : Type}

inductive Progress (σ ω ε : Type)
  | idle
  | running (written : List ω) (rest : List (Statement σ ω ε))
  | committed
  | failed

section Step

variable (apply : ω → σ → Except δ σ)

def replay (written : List ω) (s : σ) : Except δ σ := written.foldlM (fun s w => apply w s) s

/-- The view of a transaction, or nothing when a write of it no longer applies. -/
def view (written : List ω) (s : σ) : Option σ := (replay apply written s).toOption

variable (plan : σ → Except ε (List (Statement σ ω ε)))

/-- A transaction plans its statements from what is committed, runs them and commits. -/
def step : Progress σ ω ε → σ → Progress σ ω ε × σ
  | .idle, s =>
    match plan s with
    | .ok rest => (.running [] rest, s)
    | .error _ => (.failed, s)
  | .running written (.require p _ :: rest), s =>
    if (view apply written s).any p then (.running written rest, s) else (.failed, s)
  | .running written (.write w :: rest), s =>
    if (view apply (written ++ [w]) s).isSome then (.running (written ++ [w]) rest, s)
    else (.failed, s)
  | .running written [], s =>
    match view apply written s with
    | some s' => (.committed, s')
    | none => (.failed, s)
  | .committed, s => (.committed, s)
  | .failed, s => (.failed, s)

end Step

section Rules

variable {apply : ω → σ → Except δ σ} {plan : σ → Except ε (List (Statement σ ω ε))}

theorem view_eq_some {written : List ω} {s s' : σ} :
    view apply written s = some s' ↔ replay apply written s = .ok s' := by
  unfold view
  cases replay apply written s with
  | ok a => simp [Except.toOption]
  | error e => simp [Except.toOption]

theorem replay_cons {w : ω} {written : List ω} {s s' : σ} :
    replay apply (w :: written) s = .ok s' ↔
      ∃ s₁, apply w s = .ok s₁ ∧ replay apply written s₁ = .ok s' := by
  rw [replay, List.foldlM_cons]
  exact Outcome.bind_eq_ok

theorem running_of_step {l : Progress σ ω ε} {s : σ} {written : List ω}
    {rest : List (Statement σ ω ε)} (h : (step apply plan l s).1 = .running written rest) :
    (l = .idle ∧ plan s = .ok rest ∧ written = []) ∨
      (∃ p e v, l = .running written (.require p e :: rest) ∧ replay apply written s = .ok v ∧
        p v = true) ∨
      ∃ before w, l = .running before (.write w :: rest) ∧ written = before ++ [w] := by
  cases l with
  | idle =>
    simp only [step] at h
    split at h
    · next planned hs =>
      obtain ⟨rfl, rfl⟩ := Progress.running.inj h
      exact .inl ⟨rfl, hs, rfl⟩
    · cases h
  | running before after =>
    cases after with
    | nil =>
      simp only [step] at h
      split at h <;> cases h
    | cons st after =>
      cases st with
      | require p e =>
        simp only [step] at h
        split at h
        · next hp =>
          obtain ⟨rfl, rfl⟩ := Progress.running.inj h
          obtain ⟨v, hview, hv⟩ := (Option.any_eq_true p _).mp hp
          exact .inr (.inl ⟨p, e, v, rfl, view_eq_some.mp hview, hv⟩)
        · cases h
      | write w =>
        simp only [step] at h
        split at h
        · obtain ⟨rfl, rfl⟩ := Progress.running.inj h
          exact .inr (.inr ⟨before, w, rfl, rfl⟩)
        · cases h
  | committed => cases h
  | failed => cases h

/-- What is known of a running transaction. -/
def Progress.Knows (J : List ω → List (Statement σ ω ε) → Prop) : Progress σ ω ε → Prop
  | .running written rest => J written rest
  | .idle | .committed | .failed => True

/-- The rule for one transaction: what its plan establishes and its statements keep. -/
theorem knows_step {J : List ω → List (Statement σ ω ε) → Prop}
    (hplan : ∀ s rest, plan s = .ok rest → J [] rest)
    (hrequire : ∀ written p e rest s, J written (.require p e :: rest) → p s = true →
      J written rest)
    (hwrite : ∀ written w rest, J written (.write w :: rest) → J (written ++ [w]) rest)
    {l : Progress σ ω ε} (hl : l.Knows J) (s : σ) : (step apply plan l s).1.Knows J := by
  cases h : (step apply plan l s).1 with
  | running written rest =>
    obtain ⟨-, hs, rfl⟩ | ⟨p, e, v, rfl, -, hv⟩ | ⟨before, w, rfl, rfl⟩ := running_of_step h
    · exact hplan s rest hs
    · exact hrequire written p e rest v hl hv
    · exact hwrite before w rest hl
  | idle => exact trivial
  | committed => exact trivial
  | failed => exact trivial

variable (apply)

/-- A condition on a commit that goes through: on what is written and what is committed. -/
def AtCommit (g : List ω → σ → Prop) (l : Progress σ ω ε) (s : σ) : Prop :=
  match l with
  | .running written [] => (view apply written s).isSome → g written s
  | _ => True

instance (g : List ω → σ → Prop) [∀ written s, Decidable (g written s)] (l : Progress σ ω ε)
    (s : σ) : Decidable (AtCommit apply g l s) :=
  match l with
  | .running written [] => inferInstanceAs (Decidable ((view apply written s).isSome → _))
  | .running _ (_ :: _) | .idle | .committed | .failed => isTrue trivial

variable {apply}

/-- Only a commit changes the store, so only there can a step lead from a safe one to another. -/
theorem safe_step_iff {J : List ω → List (Statement σ ω ε) → Prop} {g : List ω → σ → Prop}
    {I : σ → Prop} (hcommit : ∀ written s s', J written [] → I s →
      replay apply written s = .ok s' → (I s' ↔ g written s))
    {l : Progress σ ω ε} {s : σ} (hl : l.Knows J) (hs : I s) :
    I (step apply plan l s).2 ↔ AtCommit apply g l s := by
  cases l with
  | idle =>
    simp only [step]
    split <;> exact iff_of_true hs trivial
  | running written rest =>
    cases rest with
    | nil =>
      simp only [step, AtCommit]
      split
      · next s' hview =>
        rw [hcommit written s s' hl hs (view_eq_some.mp hview), hview]
        simp
      · next hview =>
        refine iff_of_true hs fun hsome => ?_
        rw [hview] at hsome
        cases hsome
    | cons st rest =>
      cases st with
      | require p e =>
        simp only [step]
        split <;> exact iff_of_true hs trivial
      | write w =>
        simp only [step]
        split <;> exact iff_of_true hs trivial
  | committed => exact iff_of_true hs trivial
  | failed => exact iff_of_true hs trivial

end Rules

section Machine

variable (apply : ω → σ → Except δ σ) (plan : π → σ → Except ε (List (Statement σ ω ε)))

def machine : Machine π Unit (Progress σ ω ε) σ where
  step p _ l s := step apply (plan p) l s

variable {apply plan} [DecidableEq π]

/-- Every store of a run is safe exactly when every commit is allowed, where from a safe store
an allowed commit leads to a safe one and no other does. -/
theorem forall_safe_iff {J : List ω → List (Statement σ ω ε) → Prop} {g : List ω → σ → Prop}
    {I : σ → Prop} (hplan : ∀ p s rest, plan p s = .ok rest → J [] rest)
    (hrequire : ∀ written p e rest s, J written (.require p e :: rest) → p s = true →
      J written rest)
    (hwrite : ∀ written w rest, J written (.write w :: rest) → J (written ++ [w]) rest)
    (hcommit : ∀ written s s', J written [] → I s → replay apply written s = .ok s' →
      (I s' ↔ g written s)) {s : σ} (hs : I s) (ms : List (π × Unit)) :
    (∀ ns, ns <+: ms → I (Run.exec (Interleaving.next (machine apply plan))
        (Config.start s .idle) ns).shared) ↔
      Run.Along (Interleaving.next (machine apply plan))
        (AtStep fun _ _ l s => AtCommit apply g l s) (Config.start s .idle) ms := by
  have hknows (ns : List (π × Unit)) (p : π) :
      ((Run.exec (Interleaving.next (machine apply plan)) (Config.start s .idle) ns).locals
        p).Knows J :=
    Interleaving.locals_exec (M := machine apply plan) (J := fun _ l => l.Knows J)
      (fun p _ l s hl => knows_step (hplan p) hrequire hwrite hl s)
      (c := Config.start s .idle) (fun _ => trivial) ns p
  constructor
  · intro hsafe
    refine Run.along_of_split fun ns m rest hms => ?_
    have hbefore := hsafe ns ⟨m :: rest, hms.symm⟩
    have hafter := hsafe (ns ++ [m]) ⟨rest, by rw [hms, List.append_assoc]; rfl⟩
    rw [Run.exec_concat] at hafter
    exact (safe_step_iff hcommit (hknows ns m.1) hbefore).mp hafter
  · intro hg ns hns
    obtain ⟨rest, rfl⟩ := hns
    have hallowed := (Run.along_append.mp hg).1
    clear hg
    induction ns using List.reverseRecOn with
    | nil => exact hs
    | append_singleton ns m ih =>
      obtain ⟨hinit, hlast, -⟩ := Run.along_append.mp hallowed
      rw [Run.exec_concat]
      exact (safe_step_iff hcommit (hknows ns m.1) (ih hinit)).mpr hlast

/-- What a running transaction has found out it found in a state of the run: at its plan, or
at a check that it still had before it. -/
theorem found_exec {U : List ω → List (Statement σ ω ε) → Prop}
    {F : σ → List ω → List (Statement σ ω ε) → Prop}
    (hplan : ∀ p s rest, plan p s = .ok rest → U [] rest ∨ F s [] rest)
    (hcheck : ∀ written p e rest s v, U written (.require p e :: rest) →
      replay apply written s = .ok v → p v = true → U written rest ∨ F s written rest)
    (hwrite : ∀ written w rest, U written (.write w :: rest) → U (written ++ [w]) rest)
    (hcheck' : ∀ written p e rest s, F s written (.require p e :: rest) → F s written rest)
    (hwrite' : ∀ written w rest s, F s written (.write w :: rest) → F s (written ++ [w]) rest)
    (s : σ) (ns : List (π × Unit)) (p : π) {written : List ω} {rest : List (Statement σ ω ε)}
    (h : (Run.exec (Interleaving.next (machine apply plan)) (Config.start s .idle) ns).locals p =
      .running written rest) :
    U written rest ∨ ∃ ks, ks <+: ns ∧
      F (Run.exec (Interleaving.next (machine apply plan)) (Config.start s .idle) ks).shared
        written rest := by
  induction ns using List.reverseRecOn generalizing written rest with
  | nil => cases h
  | append_singleton ns m ih =>
    have hbefore : ∀ {ks : List (π × Unit)}, ks <+: ns → ks <+: ns ++ [m] :=
      fun hks => hks.trans (List.prefix_append ns [m])
    rw [Run.exec_concat] at h
    obtain ⟨q, u⟩ := m
    by_cases hq : p = q
    · subst hq
      rw [Interleaving.next_self] at h
      obtain ⟨-, hs, rfl⟩ | ⟨check, e, v, hl, hview, hv⟩ | ⟨before, w, hl, rfl⟩ :=
        running_of_step h
      · exact (hplan p _ rest hs).imp_right fun hfound => ⟨ns, List.prefix_append ns _, hfound⟩
      · rcases ih hl with hyet | ⟨ks, hks, hfound⟩
        · exact (hcheck written check e rest _ v hyet hview hv).imp_right
            fun hfound => ⟨ns, List.prefix_append ns _, hfound⟩
        · exact .inr ⟨ks, hbefore hks, hcheck' written check e rest _ hfound⟩
      · rcases ih hl with hyet | ⟨ks, hks, hfound⟩
        · exact .inl (hwrite before w rest hyet)
        · exact .inr ⟨ks, hbefore hks, hwrite' before w rest _ hfound⟩
    · rw [Interleaving.next_other u _ hq] at h
      exact (ih h).imp_right fun ⟨ks, hks, hfound⟩ => ⟨ks, hbefore hks, hfound⟩

end Machine

end ReadCommitted
