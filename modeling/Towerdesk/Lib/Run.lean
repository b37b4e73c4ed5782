import Mathlib.Data.List.Basic

/-!
# Runs of a labelled system

A system is a next-state function over labels. `Along` says that a condition on
a state and the label taken there holds at every step of a run; the two rules
turn what one step preserves into what every run preserves, with and without
such a condition, and a third characterises the runs of which every state is safe. Runs
that differ by silent labels only look the same.
-/

namespace Run

variable {σ ι : Type*}

def exec (next : ι → σ → σ) (s : σ) (ls : List ι) : σ := ls.foldl (fun s l => next l s) s

@[simp] theorem exec_nil (next : ι → σ → σ) (s : σ) : exec next s [] = s := rfl

@[simp] theorem exec_cons (next : ι → σ → σ) (s : σ) (l : ι) (ls : List ι) :
    exec next s (l :: ls) = exec next (next l s) ls := rfl

theorem exec_concat (next : ι → σ → σ) (s : σ) (ls : List ι) (l : ι) :
    exec next s (ls ++ [l]) = next l (exec next s ls) := by
  simp [exec]

theorem exec_append (next : ι → σ → σ) (s : σ) (ls ms : List ι) :
    exec next s (ls ++ ms) = exec next (exec next s ls) ms := by
  simp [exec]

/-- Every step of the run is taken where `g` allows its label. -/
def Along (next : ι → σ → σ) (g : ι → σ → Prop) : σ → List ι → Prop
  | _, [] => True
  | s, l :: ls => g l s ∧ Along next g (next l s) ls

@[simp] theorem along_nil (next : ι → σ → σ) (g : ι → σ → Prop) (s : σ) :
    Along next g s [] := trivial

@[simp] theorem along_cons {next : ι → σ → σ} {g : ι → σ → Prop} {s : σ} {l : ι}
    {ls : List ι} : Along next g s (l :: ls) ↔ g l s ∧ Along next g (next l s) ls := Iff.rfl

theorem along_append {next : ι → σ → σ} {g : ι → σ → Prop} {s : σ} {ls ms : List ι} :
    Along next g s (ls ++ ms) ↔ Along next g s ls ∧ Along next g (exec next s ls) ms := by
  induction ls generalizing s with
  | nil => simp
  | cons l ls ih => simp [ih, and_assoc]

instance decidableAlong {next : ι → σ → σ} {g : ι → σ → Prop} [∀ l s, Decidable (g l s)] :
    ∀ s ls, Decidable (Along next g s ls)
  | _, [] => isTrue trivial
  | s, l :: ls =>
    have := @decidableAlong next g _ (next l s) ls
    inferInstanceAs (Decidable (g l s ∧ Along next g (next l s) ls))

theorem along_of_split {next : ι → σ → σ} {g : ι → σ → Prop} {s : σ} {ls : List ι}
    (h : ∀ ms l ns, ls = ms ++ l :: ns → g l (exec next s ms)) : Along next g s ls := by
  induction ls generalizing s with
  | nil => exact along_nil next g s
  | cons l ls ih =>
    refine ⟨h [] l ls rfl, ih fun ms m ns hls => ?_⟩
    exact h (l :: ms) m ns (by rw [hls, List.cons_append])

theorem Along.at_split {next : ι → σ → σ} {g : ι → σ → Prop} {s : σ} {ms ns : List ι} {l : ι}
    (h : Along next g s (ms ++ l :: ns)) : Along next g s ms ∧ g l (exec next s ms) :=
  ⟨(along_append.mp h).1, (along_append.mp h).2.1⟩

/-- What each allowed step preserves, every allowed run preserves. -/
theorem exec_inv_along {next : ι → σ → σ} {g : ι → σ → Prop} {I : σ → Prop}
    (hstep : ∀ l s, I s → g l s → I (next l s)) {s : σ} {ls : List ι}
    (hs : I s) (hg : Along next g s ls) : I (exec next s ls) := by
  induction ls generalizing s with
  | nil => exact hs
  | cons l ls ih => exact ih (hstep l s hs hg.1) hg.2

/-- Every state of a run is safe exactly when every step is allowed, where allowed runs are
safe and no other step leads to a safe state. -/
theorem forall_exec_iff_along {next : ι → σ → σ} {g : ι → σ → Prop} {I : σ → Prop} {s : σ}
    {ls : List ι} (hneeded : ∀ l s, I (next l s) → g l s)
    (hsafe : ∀ ms, Along next g s ms → I (exec next s ms)) :
    (∀ ms, ms <+: ls → I (exec next s ms)) ↔ Along next g s ls := by
  constructor
  · intro h
    refine along_of_split fun ms l ns hls => hneeded l _ ?_
    have hprefix : ms ++ [l] <+: ls := ⟨ns, by rw [hls, List.append_assoc, List.singleton_append]⟩
    have hstep := h (ms ++ [l]) hprefix
    rwa [exec_concat] at hstep
  · intro h ms hms
    obtain ⟨ns, rfl⟩ := hms
    exact hsafe ms (along_append.mp h).1

theorem forall_prefix_cons {next : ι → σ → σ} {I : σ → Prop} {s : σ} {l : ι} {ls : List ι} :
    (∀ ms, ms <+: l :: ls → I (exec next s ms)) ↔
      I s ∧ ∀ ms, ms <+: ls → I (exec next (next l s) ms) := by
  constructor
  · intro h
    refine ⟨h [] List.nil_prefix, fun ms hms => ?_⟩
    exact h (l :: ms) (List.cons_prefix_cons.mpr ⟨rfl, hms⟩)
  · rintro ⟨hs, h⟩ ms hms
    obtain rfl | ⟨ms, rfl, hprefix⟩ := List.prefix_cons_iff.mp hms
    · exact hs
    · exact h ms hprefix

/-- A run through safe states with every step as `R` has it is one from a safe state with
every step allowed, where that is so of each step from a safe state. -/
theorem along_safe_iff {next : ι → σ → σ} {g R : ι → σ → Prop} {I J : σ → Prop}
    (hinv : ∀ l s, J s → J (next l s))
    (hstep : ∀ l s, J s → I s → ((R l s ∧ I (next l s)) ↔ g l s)) {s : σ} {ls : List ι}
    (hs : J s) : (Along next R s ls ∧ ∀ ms, ms <+: ls → I (exec next s ms)) ↔
      I s ∧ Along next g s ls := by
  induction ls generalizing s with
  | nil => simp
  | cons l ls ih =>
    simp only [along_cons, forall_prefix_cons]
    constructor
    · rintro ⟨⟨hR, halong⟩, hsafe, h⟩
      obtain ⟨hsafe', hg⟩ := (ih (hinv l s hs)).mp ⟨halong, h⟩
      exact ⟨hsafe, (hstep l s hs hsafe).mp ⟨hR, hsafe'⟩, hg⟩
    · rintro ⟨hsafe, hl, hg⟩
      obtain ⟨hR, hsafe'⟩ := (hstep l s hs hsafe).mpr hl
      obtain ⟨halong, h⟩ := (ih (hinv l s hs)).mpr ⟨hsafe', hg⟩
      exact ⟨⟨hR, halong⟩, hsafe, h⟩

theorem safe_iff_along {next : ι → σ → σ} {g : ι → σ → Prop} {I J : σ → Prop}
    (hinv : ∀ l s, J s → J (next l s)) (hstep : ∀ l s, J s → I s → (I (next l s) ↔ g l s))
    {s : σ} {ls : List ι} (hs : J s) :
    (∀ ms, ms <+: ls → I (exec next s ms)) ↔ I s ∧ Along next g s ls := by
  have halong : Along next (fun _ _ => True) s ls := along_of_split fun _ _ _ _ => trivial
  rw [← along_safe_iff hinv (fun l s hJ hI => (and_iff_right trivial).trans (hstep l s hJ hI)) hs]
  exact (and_iff_right halong).symm

theorem exec_inv {next : ι → σ → σ} {I : σ → Prop}
    (hstep : ∀ l s, I s → I (next l s)) {s : σ} (ls : List ι) (hs : I s) :
    I (exec next s ls) := by
  induction ls generalizing s with
  | nil => exact hs
  | cons l ls ih => exact ih (hstep l s hs)

theorem exec_after {next : ι → σ → σ} {g : ι → σ → Prop} {Q : σ → Prop}
    (hkeep : ∀ l s, Q s → g l s → Q (next l s)) {s : σ} {ls ms : List ι} {l : ι}
    (hest : Q (next l (exec next s ls)))
    (hg : Along next g (exec next s (ls ++ [l])) ms) : Q (exec next s (ls ++ l :: ms)) := by
  rw [exec_concat] at hg
  rw [exec_append, exec_cons]
  exact exec_inv_along hkeep hest hg

/-- A relation between consecutive states that is reflexive and transitive relates
the ends of every allowed run. -/
theorem exec_rel_along {next : ι → σ → σ} {g : ι → σ → Prop} {I : σ → Prop}
    {R : σ → σ → Prop} (hrefl : ∀ s, R s s) (htrans : ∀ {a b c}, R a b → R b c → R a c)
    (hinv : ∀ l s, I s → g l s → I (next l s))
    (hrel : ∀ l s, I s → g l s → R s (next l s)) {s : σ} {ls : List ι}
    (hs : I s) (hg : Along next g s ls) : R s (exec next s ls) := by
  induction ls generalizing s with
  | nil => exact hrefl s
  | cons l ls ih =>
    exact htrans (hrel l s hs hg.1) (ih (hinv l s hs hg.1) hg.2)

theorem rest_of_fixed {f : ℕ → σ} (step : σ → σ) (hf : ∀ n, f (n + 1) = step (f n)) {n : ℕ}
    {s : σ} (h : f n = s) (hfixed : step s = s) (k : ℕ) : f (n + k) = s := by
  induction k with
  | zero => exact h
  | succ k ih => rw [← Nat.add_assoc, hf, ih, hfixed]

section Unwinding

variable {ν : Type*}

/-- A silent step changes nothing that is seen, and what is seen decides what is seen after
any other step. -/
structure Unwinds (next : ι → σ → σ) (view : σ → ν) (silent : ι → Prop) : Prop where
  silent_step : ∀ {l s}, silent l → view (next l s) = view s
  visible_step : ∀ {l s t}, ¬ silent l → view s = view t → view (next l s) = view (next l t)

variable {next : ι → σ → σ} {view : σ → ν} {silent : ι → Prop} [DecidablePred silent] {s t : σ}

theorem Unwinds.exec_filter (h : Unwinds next view silent) (hst : view s = view t) (ls : List ι) :
    view (exec next s ls) = view (exec next t (ls.filter fun l => ¬ silent l)) := by
  induction ls generalizing s t with
  | nil => exact hst
  | cons l ls ih =>
    by_cases hl : silent l
    · rw [exec_cons, List.filter_cons_of_neg (by simpa using hl)]
      exact ih ((h.silent_step hl).trans hst)
    · rw [exec_cons, List.filter_cons_of_pos (by simpa using hl), exec_cons]
      exact ih (h.visible_step hl hst)

theorem Unwinds.exec_eq (h : Unwinds next view silent) (hst : view s = view t) {ls ms : List ι}
    (hls : (ls.filter fun l => ¬ silent l) = ms.filter fun l => ¬ silent l) :
    view (exec next s ls) = view (exec next t ms) := by
  rw [h.exec_filter hst ls, hls]
  exact (h.exec_filter rfl ms).symm

end Unwinding

end Run
