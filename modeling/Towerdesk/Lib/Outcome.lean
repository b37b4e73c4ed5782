import Mathlib.Logic.Basic
import Mathlib.Tactic.Attr.Core

/-!
# Outcomes of fallible code

Inversion rules for `Except`: what is known once a sequence of guards, lookups
and assignments is known to have returned. A sequence that threw is described
only by its error, so every rule here is about `.ok`.
-/

namespace Outcome

universe u v

variable {ε : Type u} {α β : Type v}

theorem bind_eq_ok {x : Except ε α} {f : α → Except ε β} {b : β} :
    (x >>= f) = .ok b ↔ ∃ a, x = .ok a ∧ f a = .ok b := by
  cases x with
  | error e => simp [bind, Except.bind]
  | ok a => simp [bind, Except.bind]

theorem exists_bind_ok {x : Except ε α} {f : α → Except ε β} {a : α} (hx : x = .ok a)
    (hf : ∃ b, f a = .ok b) : ∃ b, (x >>= f) = .ok b :=
  hf.imp fun _ hb => bind_eq_ok.mpr ⟨a, hx, hb⟩

theorem pure_eq_ok {a b : α} : (pure a : Except ε α) = .ok b ↔ a = b := by
  simp [pure, Except.pure]

theorem map_eq_ok {x : Except ε α} {f : α → β} {b : β} :
    (f <$> x) = .ok b ↔ ∃ a, x = .ok a ∧ f a = b := by
  cases x with
  | error e => simp [Functor.map, Except.map]
  | ok a => simp [Functor.map, Except.map]

theorem mapError_eq_ok {δ : Type u} {x : Except ε α} {f : ε → δ} {a : α} :
    x.mapError f = .ok a ↔ x = .ok a := by
  cases x with
  | error e => exact ⟨nofun, nofun⟩
  | ok b =>
    constructor
    · exact fun h => congrArg Except.ok (Except.ok.inj h)
    · exact fun h => congrArg Except.ok (Except.ok.inj h)

/-- `if (p) throw e`. -/
def throwIf (p : Prop) [Decidable p] (e : ε) : Except ε Unit :=
  if p then .error e else .ok ()

theorem throwIf_eq_ok {p : Prop} [Decidable p] {e : ε} {u : Unit} :
    throwIf p e = .ok u ↔ ¬ p := by
  by_cases h : p <;> simp [throwIf, h]

/-- `if (!x) throw e`, keeping what `x` holds. -/
def orThrow (o : Option α) (e : ε) : Except ε α :=
  match o with
  | some a => .ok a
  | none => .error e

theorem orThrow_eq_ok {o : Option α} {e : ε} {a : α} :
    orThrow o e = .ok a ↔ o = some a := by
  cases o with
  | none => simp [orThrow]
  | some b => simp [orThrow]

theorem orThrow_bind (o : Option α) (f : α → Option β) (e : ε) :
    orThrow (o.bind f) e = orThrow o e >>= fun a => orThrow (f a) e := by
  cases o <;> rfl

theorem forM_eq_ok {γ : Type*} {l : List γ} {f : γ → Except ε PUnit} {u : PUnit} :
    l.forM f = .ok u ↔ ∀ c ∈ l, f c = .ok ⟨⟩ := by
  induction l with
  | nil => simp [pure, Except.pure]
  | cons c l ih =>
    have hcons : (c :: l).forM f = f c >>= fun _ => l.forM f := rfl
    rw [hcons, bind_eq_ok, List.forall_mem_cons]
    constructor
    · rintro ⟨_, hc, hl⟩
      exact ⟨hc, ih.mp hl⟩
    · rintro ⟨hc, hl⟩
      exact ⟨⟨⟩, hc, ih.mpr hl⟩

section MapM

variable {f f' : α → Except ε β} {as : List α} {bs : List β}

theorem mapM_nil_eq_ok : ([] : List α).mapM f = .ok bs ↔ [] = bs := pure_eq_ok

theorem mapM_cons_eq_ok {a : α} :
    (a :: as).mapM f = .ok bs ↔ ∃ b bs', f a = .ok b ∧ as.mapM f = .ok bs' ∧ b :: bs' = bs := by
  rw [List.mapM_cons]
  simp only [bind_eq_ok, pure_eq_ok]
  constructor
  · rintro ⟨b, hb, bs', hbs', hcons⟩
    exact ⟨b, bs', hb, hbs', hcons⟩
  · rintro ⟨b, bs', hb, hbs', hcons⟩
    exact ⟨b, hb, bs', hbs', hcons⟩

theorem exists_of_mem_mapM {b : β} (h : as.mapM f = .ok bs) (hb : b ∈ bs) :
    ∃ a ∈ as, f a = .ok b := by
  induction as generalizing bs with
  | nil =>
    obtain rfl := mapM_nil_eq_ok.mp h
    cases hb
  | cons a as ih =>
    obtain ⟨b', bs', hb', hbs', rfl⟩ := mapM_cons_eq_ok.mp h
    rcases List.mem_cons.mp hb with rfl | hb
    · exact ⟨a, List.mem_cons_self, hb'⟩
    · obtain ⟨a', ha', hfa'⟩ := ih hbs' hb
      exact ⟨a', List.mem_cons_of_mem a ha', hfa'⟩

theorem mapM_map_of_ok {g : β → β} (hf : ∀ a b, f a = .ok b → f' a = .ok (g b))
    (h : as.mapM f = .ok bs) : as.mapM f' = .ok (bs.map g) := by
  induction as generalizing bs with
  | nil =>
    obtain rfl := mapM_nil_eq_ok.mp h
    rfl
  | cons a as ih =>
    obtain ⟨b, bs', hb, hbs', rfl⟩ := mapM_cons_eq_ok.mp h
    exact mapM_cons_eq_ok.mpr ⟨g b, bs'.map g, hf a b hb, ih hbs', rfl⟩

end MapM

/-- Whatever the code returns satisfies `P`. -/
def Yields (P : α → Prop) (x : Except ε α) : Prop := ∀ a, x = .ok a → P a

section Yields

variable {P : β → Prop} {Q : α → Prop} {x : Except ε α} {f : α → Except ε β}

theorem Yields.bind (hx : Yields Q x) (hf : ∀ a, Q a → Yields P (f a)) :
    Yields P (x >>= f) := by
  intro b hb
  obtain ⟨a, ha, hb⟩ := bind_eq_ok.mp hb
  exact hf a (hx a ha) b hb

theorem Yields.after (hf : ∀ a, Yields P (f a)) : Yields P (x >>= f) := by
  intro b hb
  obtain ⟨a, -, hb⟩ := bind_eq_ok.mp hb
  exact hf a b hb

theorem Yields.pure {b : β} (h : P b) : Yields P (Pure.pure b : Except ε β) := by
  intro b' hb
  exact pure_eq_ok.mp hb ▸ h

theorem Yields.ite {p : Prop} [Decidable p] {y z : Except ε β} (hy : Yields P y)
    (hz : Yields P z) : Yields P (if p then y else z) := by
  split
  · exact hy
  · exact hz

theorem yields_orThrow {o : Option α} {e : ε} (h : ∀ a, o = some a → Q a) :
    Yields Q (orThrow o e) :=
  fun a ha => h a (orThrow_eq_ok.mp ha)

end Yields

def orElseKeep (s : α) (x : Except ε α) : α :=
  match x with
  | .ok s' => s'
  | .error _ => s

@[simp] theorem orElseKeep_ok (s s' : α) : orElseKeep s (.ok s' : Except ε α) = s' := rfl

@[simp] theorem orElseKeep_error (s : α) (e : ε) : orElseKeep s (.error e) = s := rfl

theorem orElseKeep_cases (s : α) (x : Except ε α) :
    orElseKeep s x = s ∨ x = .ok (orElseKeep s x) := by
  cases x with
  | error e => exact .inl rfl
  | ok s' => exact .inr rfl

end Outcome
