import Towerdesk.Lib.Outcome
import Mathlib.Data.List.Basic

/-!
# Transactions

A transaction is a list of statements, checks and writes, that takes effect as a
whole or not at all. A service runs reads and transactions one after the other; an
exception ends it and undoes nothing that is already committed. The rules take a
committed transaction apart, statement by statement or by what all its writes keep.
-/

namespace Transaction

variable {σ ω ε δ α β : Type}

inductive Statement (σ ω ε : Type)
  | require (p : σ → Bool) (e : ε)
  | write (w : ω)

def Statement.write? : Statement σ ω ε → Option ω
  | .require _ _ => none
  | .write w => some w

def writes (ss : List (Statement σ ω ε)) : List ω := ss.filterMap Statement.write?

section Commit

variable (apply : ω → σ → Except δ σ) (raise : δ → ε)

def perform : Statement σ ω ε → σ → Except ε σ
  | .require p e, s => if p s then .ok s else .error e
  | .write w, s => (apply w s).mapError raise

def commit : List (Statement σ ω ε) → σ → Except ε σ
  | [], s => .ok s
  | st :: ss, s => perform apply raise st s >>= commit ss

end Commit

section Rules

variable {apply : ω → σ → Except δ σ} {raise : δ → ε} {ss ts : List (Statement σ ω ε)} {s s' : σ}

theorem commit_nil : commit apply raise [] s = .ok s' ↔ s = s' := by
  simp [commit]

theorem commit_require {p : σ → Bool} {e : ε} :
    commit apply raise (.require p e :: ss) s = .ok s' ↔
      p s = true ∧ commit apply raise ss s = .ok s' := by
  rw [commit, Outcome.bind_eq_ok]
  cases hp : p s with
  | true => simp [perform, hp]
  | false => simp [perform, hp]

theorem commit_write {w : ω} :
    commit apply raise (.write w :: ss) s = .ok s' ↔
      ∃ s₁, apply w s = .ok s₁ ∧ commit apply raise ss s₁ = .ok s' := by
  rw [commit, Outcome.bind_eq_ok]
  simp only [perform, Outcome.mapError_eq_ok]

theorem exists_commit_write {w : ω} {s₁ : σ} (hw : apply w s = .ok s₁)
    (h : ∃ s', commit apply raise ss s₁ = .ok s') :
    ∃ s', commit apply raise (.write w :: ss) s = .ok s' :=
  h.imp fun _ hs => commit_write.mpr ⟨s₁, hw, hs⟩

theorem commit_append :
    commit apply raise (ss ++ ts) s = .ok s' ↔
      ∃ s₁, commit apply raise ss s = .ok s₁ ∧ commit apply raise ts s₁ = .ok s' := by
  induction ss generalizing s with
  | nil => simp [commit_nil]
  | cons st ss ih =>
    simp only [List.cons_append, commit, Outcome.bind_eq_ok, ih]
    constructor
    · rintro ⟨s₁, h₁, s₂, h₂, h₃⟩
      exact ⟨s₂, ⟨s₁, h₁, h₂⟩, h₃⟩
    · rintro ⟨s₂, ⟨s₁, h₁, h₂⟩, h₃⟩
      exact ⟨s₁, h₁, s₂, h₂, h₃⟩

theorem exists_commit_append {s₁ : σ} (hss : commit apply raise ss s = .ok s₁)
    (h : ∃ s', commit apply raise ts s₁ = .ok s') :
    ∃ s', commit apply raise (ss ++ ts) s = .ok s' :=
  h.imp fun _ hs => commit_append.mpr ⟨s₁, hss, hs⟩

theorem commit_rel {R : σ → σ → Prop} (hrefl : ∀ s, R s s)
    (htrans : ∀ {a b c}, R a b → R b c → R a c)
    (hwrite : ∀ w ∈ writes ss, ∀ s s', apply w s = .ok s' → R s s')
    (h : commit apply raise ss s = .ok s') : R s s' := by
  induction ss generalizing s with
  | nil => exact commit_nil.mp h ▸ hrefl s
  | cons st ss ih =>
    cases st with
    | require p e =>
      obtain ⟨-, h⟩ := commit_require.mp h
      exact ih hwrite h
    | write w =>
      obtain ⟨s₁, hw, h⟩ := commit_write.mp h
      have hrest : ∀ v ∈ writes ss, ∀ s s', apply v s = .ok s' → R s s' :=
        fun v hv => hwrite v (List.mem_cons_of_mem w hv)
      exact htrans (hwrite w List.mem_cons_self s s₁ hw) (ih hrest h)

@[simp] theorem writes_nil : writes ([] : List (Statement σ ω ε)) = [] := rfl

@[simp] theorem writes_require (p : σ → Bool) (e : ε) :
    writes (.require p e :: ss) = writes ss := rfl

@[simp] theorem writes_write (w : ω) : writes (.write w :: ss) = w :: writes ss := rfl

@[simp] theorem writes_append : writes (ss ++ ts) = writes ss ++ writes ts := by
  simp [writes]

@[simp] theorem writes_map (as : List α) (f : α → ω) :
    writes (as.map fun a => (.write (f a) : Statement σ ω ε)) = as.map f := by
  induction as with
  | nil => rfl
  | cons a as ih => simp [ih]

theorem writes_map_write (ws : List ω) :
    writes (ws.map .write : List (Statement σ ω ε)) = ws :=
  (writes_map ws id).trans (List.map_id ws)

end Rules

section Service

variable (apply : ω → σ → Except δ σ) (raise : δ → ε)

def read (f : σ → Except ε α) : EStateM ε σ α := fun s =>
  match f s with
  | .ok a => .ok a s
  | .error e => .error e s

def transaction (plan : σ → Except ε (List (Statement σ ω ε))) : EStateM ε σ Unit := fun s =>
  match plan s >>= fun ss => commit apply raise ss s with
  | .ok s' => .ok () s'
  | .error e => .error e s

def final : EStateM.Result ε σ α → σ
  | .ok _ s => s
  | .error _ s => s

variable {apply raise}

theorem transaction_cases (plan : σ → Except ε (List (Statement σ ω ε))) (s : σ) :
    (∃ e, transaction apply raise plan s = .error e s) ∨
      ∃ ss s', plan s = .ok ss ∧ commit apply raise ss s = .ok s' ∧
        transaction apply raise plan s = .ok () s' := by
  unfold transaction
  cases hplan : plan s >>= fun ss => commit apply raise ss s with
  | error e => exact .inl ⟨e, rfl⟩
  | ok s' =>
    obtain ⟨ss, hss, hcommit⟩ := Outcome.bind_eq_ok.mp hplan
    exact .inr ⟨ss, s', hss, hcommit, rfl⟩

theorem read_bind_of_ok {f : σ → Except ε α} {g : α → EStateM ε σ β} {s : σ} {a : α}
    (hf : f s = .ok a) : (read f >>= g) s = g a s := by
  simp [bind, EStateM.bind, read, hf]

theorem read_bind_of_error {f : σ → Except ε α} {g : α → EStateM ε σ β} {s : σ} {e : ε}
    (hf : f s = .error e) : (read f >>= g) s = .error e s := by
  simp [bind, EStateM.bind, read, hf]

theorem transaction_of_refused {plan : σ → Except ε (List (Statement σ ω ε))} {s : σ} {e : ε}
    (hplan : (plan s >>= fun ss => commit apply raise ss s) = .error e) :
    transaction apply raise plan s = .error e s := by
  unfold transaction
  rw [hplan]

theorem transaction_bind_of_refused {plan : σ → Except ε (List (Statement σ ω ε))}
    {g : Unit → EStateM ε σ β} {s : σ} {e : ε}
    (hplan : (plan s >>= fun ss => commit apply raise ss s) = .error e) :
    (transaction apply raise plan >>= g) s = .error e s := by
  simp only [bind, EStateM.bind, transaction_of_refused hplan]

theorem transaction_of_commit {plan : σ → Except ε (List (Statement σ ω ε))} {s s' : σ}
    {ss : List (Statement σ ω ε)} (hplan : plan s = .ok ss)
    (hcommit : commit apply raise ss s = .ok s') :
    transaction apply raise plan s = .ok () s' := by
  unfold transaction
  rw [show (plan s >>= fun ss => commit apply raise ss s) = .ok s' from
    Outcome.bind_eq_ok.mpr ⟨ss, hplan, hcommit⟩]

theorem transaction_bind_of_commit {plan : σ → Except ε (List (Statement σ ω ε))}
    {g : Unit → EStateM ε σ β} {s s' : σ} {ss : List (Statement σ ω ε)} (hplan : plan s = .ok ss)
    (hcommit : commit apply raise ss s = .ok s') :
    (transaction apply raise plan >>= g) s = g () s' := by
  simp only [bind, EStateM.bind, transaction_of_commit hplan hcommit]

def Ends (throws : σ → Prop) (returns : α → σ → Prop) : EStateM.Result ε σ α → Prop
  | .error _ s => throws s
  | .ok a s => returns a s

section Ends

variable {throws : σ → Prop} {returns : Unit → σ → Prop} {returns' : β → σ → Prop} {s : σ}
  {plan : σ → Except ε (List (Statement σ ω ε))}

theorem Ends.imp {throws' : σ → Prop} {returns returns' : α → σ → Prop}
    {r : EStateM.Result ε σ α} (h : Ends throws returns r) (hthrows : ∀ s, throws s → throws' s)
    (hreturns : ∀ a s, returns a s → returns' a s) : Ends throws' returns' r := by
  cases r with
  | ok a s => exact hreturns a s h
  | error e s => exact hthrows s h

theorem Ends.final {P : σ → Prop} {r : EStateM.Result ε σ α} (h : Ends P (fun _ => P) r) :
    P (final r) := by
  cases r with
  | ok a s => exact h
  | error e s => exact h

theorem ends_of_final {P : σ → Prop} {r : EStateM.Result ε σ α} (h : P (final r)) :
    Ends P (fun _ => P) r := by
  cases r with
  | ok a s => exact h
  | error e s => exact h

theorem ends_bind {m : EStateM ε σ α} {g : α → EStateM ε σ β} {mid : α → σ → Prop}
    (hm : Ends throws mid (m s)) (hg : ∀ a s', mid a s' → Ends throws returns' (g a s')) :
    Ends throws returns' ((m >>= g) s) := by
  simp only [bind, EStateM.bind]
  cases hr : m s with
  | ok a s' =>
    rw [hr] at hm
    exact hg a s' hm
  | error e s' =>
    rw [hr] at hm
    exact hm

theorem ends_bind_kept {P : σ → Prop} {m : EStateM ε σ α} {g : α → EStateM ε σ β}
    (hm : Ends P (fun _ => P) (m s)) (hg : ∀ a s', P s' → Ends P (fun _ => P) (g a s')) :
    Ends P (fun _ => P) ((m >>= g) s) :=
  ends_bind hm hg

theorem ends_pure {returns : α → σ → Prop} {a : α} (h : returns a s) :
    Ends throws returns ((pure a : EStateM ε σ α) s) := h

theorem ends_read {returns : α → σ → Prop} {f : σ → Except ε α} (hthrows : throws s)
    (h : ∀ a, f s = .ok a → returns a s) : Ends throws returns (read f s) := by
  unfold read
  cases hf : f s with
  | error e => exact hthrows
  | ok a => exact h a hf

theorem ends_read_bind {f : σ → Except ε α} {g : α → EStateM ε σ β} (hthrows : throws s)
    (h : ∀ a, f s = .ok a → Ends throws returns' (g a s)) :
    Ends throws returns' ((read f >>= g) s) := by
  cases hf : f s with
  | error e =>
    rw [read_bind_of_error hf]
    exact hthrows
  | ok a =>
    rw [read_bind_of_ok hf]
    exact h a hf

theorem ends_transaction (hthrows : throws s)
    (h : ∀ ss s', plan s = .ok ss → commit apply raise ss s = .ok s' → returns () s') :
    Ends throws returns (transaction apply raise plan s) := by
  obtain ⟨e, he⟩ | ⟨ss, s', hplan, hcommit, hok⟩ :=
    @transaction_cases _ _ _ _ apply raise plan s
  · rw [he]
    exact hthrows
  · rw [hok]
    exact h ss s' hplan hcommit

theorem ends_transaction_bind {g : Unit → EStateM ε σ β} (hthrows : throws s)
    (h : ∀ ss s', plan s = .ok ss → commit apply raise ss s = .ok s' →
      Ends throws returns' (g () s')) :
    Ends throws returns' ((transaction apply raise plan >>= g) s) := by
  obtain ⟨e, he⟩ | ⟨ss, s', hplan, hcommit, hok⟩ :=
    @transaction_cases _ _ _ _ apply raise plan s
  · have hrun : (transaction apply raise plan >>= g) s = .error e s := by
      simp [bind, EStateM.bind, he]
    rw [hrun]
    exact hthrows
  · rw [transaction_bind_of_commit hplan hcommit]
    exact h ss s' hplan hcommit

theorem ends_transaction_of_commits {ss : List (Statement σ ω ε)} (hplan : plan s = .ok ss)
    (hcommits : ∃ s', commit apply raise ss s = .ok s')
    (h : ∀ s', commit apply raise ss s = .ok s' → returns () s') :
    Ends throws returns (transaction apply raise plan s) := by
  obtain ⟨s', hcommit⟩ := hcommits
  rw [transaction_of_commit hplan hcommit]
  exact h s' hcommit

end Ends

end Service

end Transaction
