import Towerdesk.Lib.Outcome
import Towerdesk.Lib.Run
import Mathlib.Data.List.Nodup
import Mathlib.Logic.Function.Basic

/-!
# Operations that read, then write

Many processes work on one shared cell. Each runs one operation in two steps: a
read step that plans a write from the committed cell, and a write step that
applies the plan to whatever is committed by then. Nothing locks the cell in
between. The log of committed writes says which of them a process missed, that
is, which were committed after its read.
-/

namespace ReadWrite

universe u v

variable {π ι ω σ : Type*} {ε : Type*}

structure Machine (ι : Type*) (ω σ : Type v) (ε : Type u) where
  plan : ι → σ → Except ε ω
  commit : ι → ω → σ → Except ε σ

def Machine.comap {ι κ : Type*} {ω σ : Type v} {ε : Type u} (M : Machine ι ω σ ε) (f : κ → ι) :
    Machine κ ω σ ε where
  plan k := M.plan (f k)
  commit k := M.commit (f k)

/-- A planned process remembers how many writes were committed when it read. -/
inductive Phase (ω : Type*)
  | idle
  | planned (w : ω) (seen : ℕ)
  | succeeded
  | failed

structure Config (π ω σ : Type*) where
  cell : σ
  log : List (π × ω)
  phase : π → Phase ω

inductive Move (π : Type*)
  | read (p : π)
  | write (p : π)
deriving DecidableEq

def Config.start (s : σ) : Config π ω σ := ⟨s, [], fun _ => .idle⟩

def Config.missed (c : Config π ω σ) (seen : ℕ) : List (π × ω) := c.log.drop seen

section Steps

variable {ω σ : Type v} {ε : Type u} [DecidableEq π]
  (M : Machine ι ω σ ε) (op : π → ι)

def readStep (p : π) (c : Config π ω σ) : Config π ω σ :=
  match c.phase p with
  | .idle =>
    match M.plan (op p) c.cell with
    | .ok w => { c with phase := Function.update c.phase p (.planned w c.log.length) }
    | .error _ => { c with phase := Function.update c.phase p .failed }
  | _ => c

def writeStep (p : π) (c : Config π ω σ) : Config π ω σ :=
  match c.phase p with
  | .planned w _ =>
    match M.commit (op p) w c.cell with
    | .ok s => ⟨s, c.log ++ [(p, w)], Function.update c.phase p .succeeded⟩
    | .error _ => { c with phase := Function.update c.phase p .failed }
  | _ => c

def next : Move π → Config π ω σ → Config π ω σ
  | .read p => readStep M op p
  | .write p => writeStep M op p

/-- One operation taken alone: its write directly follows its read. -/
def atomic (i : ι) (s : σ) : Except ε σ := M.plan i s >>= fun w => M.commit i w s

def AtWrite (g : ι → ω → List (π × ω) → σ → Prop) : Move π → Config π ω σ → Prop
  | .read _, _ => True
  | .write p, c => ∀ w n, c.phase p = .planned w n → g (op p) w (c.missed n) c.cell

instance decidableAtWrite (g : ι → ω → List (π × ω) → σ → Prop)
    [∀ i w l s, Decidable (g i w l s)] (m : Move π) (c : Config π ω σ) :
    Decidable (AtWrite op g m c) :=
  match m with
  | .read _ => isTrue trivial
  | .write p =>
    match hp : c.phase p with
    | .planned w n =>
      decidable_of_iff (g (op p) w (c.missed n) c.cell)
        ⟨fun h w' n' hwn => by obtain ⟨rfl, rfl⟩ := Phase.planned.inj (hp.symm.trans hwn); exact h,
          fun h => h w n hp⟩
    | .idle => isTrue fun _ _ hwn => by simp [hp] at hwn
    | .succeeded => isTrue fun _ _ hwn => by simp [hp] at hwn
    | .failed => isTrue fun _ _ hwn => by simp [hp] at hwn

theorem readStep_cases (p : π) (c : Config π ω σ) :
    readStep M op p c = c ∨
      (∃ w, c.phase p = .idle ∧ M.plan (op p) c.cell = .ok w ∧
        readStep M op p c =
          { c with phase := Function.update c.phase p (.planned w c.log.length) }) ∨
      (c.phase p = .idle ∧
        readStep M op p c = { c with phase := Function.update c.phase p .failed }) := by
  unfold readStep
  cases hp : c.phase p with
  | idle =>
    cases hplan : M.plan (op p) c.cell with
    | error e => exact .inr (.inr ⟨rfl, rfl⟩)
    | ok w => exact .inr (.inl ⟨w, rfl, rfl, rfl⟩)
  | planned w n => exact .inl rfl
  | succeeded => exact .inl rfl
  | failed => exact .inl rfl

theorem writeStep_cases (p : π) (c : Config π ω σ) :
    writeStep M op p c = c ∨
      (∃ w n s, c.phase p = .planned w n ∧ M.commit (op p) w c.cell = .ok s ∧
        writeStep M op p c =
          ⟨s, c.log ++ [(p, w)], Function.update c.phase p .succeeded⟩) ∨
      (∃ w n e, c.phase p = .planned w n ∧ M.commit (op p) w c.cell = .error e ∧
        writeStep M op p c = { c with phase := Function.update c.phase p .failed }) := by
  unfold writeStep
  cases hp : c.phase p with
  | planned w n =>
    cases hcommit : M.commit (op p) w c.cell with
    | error e => exact .inr (.inr ⟨w, n, e, rfl, hcommit, by simp only [hcommit]⟩)
    | ok s => exact .inr (.inl ⟨w, n, s, rfl, hcommit, by simp only [hcommit]⟩)
  | idle => exact .inl rfl
  | succeeded => exact .inl rfl
  | failed => exact .inl rfl

variable {M op}

variable (M op) in
theorem writeStep_of_commit {p : π} {c : Config π ω σ} {w : ω} {n : ℕ} {s : σ}
    (hp : c.phase p = .planned w n) (hs : M.commit (op p) w c.cell = .ok s) :
    writeStep M op p c = ⟨s, c.log ++ [(p, w)], Function.update c.phase p .succeeded⟩ := by
  simp only [writeStep, hp, hs]

section Log

/-- The log names each process that succeeded, once. -/
structure Logged (c : Config π ω σ) : Prop where
  nodup : (c.log.map Prod.fst).Nodup
  succeeded : ∀ p, c.phase p = .succeeded ↔ p ∈ c.log.map Prod.fst

omit [DecidableEq π] in
theorem logged_start (s : σ) : Logged (Config.start s : Config π ω σ) :=
  ⟨List.nodup_nil, fun _ => by simp [Config.start]⟩

theorem Logged.update {c : Config π ω σ} (h : Logged c) {p : π} {x : Phase ω}
    (hp : c.phase p ≠ .succeeded) (hx : x ≠ .succeeded) :
    Logged { c with phase := Function.update c.phase p x } := by
  refine ⟨h.nodup, fun q => ?_⟩
  by_cases hqp : q = p
  · subst hqp
    simpa [hx] using fun hq => hp ((h.succeeded q).mpr hq)
  · simpa [hqp] using h.succeeded q

theorem logged_next (m : Move π) {c : Config π ω σ} (h : Logged c) : Logged (next M op m c) := by
  cases m with
  | read p =>
    rcases readStep_cases M op p c with hc | ⟨w, hp, -, hc⟩ | ⟨hp, hc⟩
    · rwa [next, hc]
    · rw [next, hc]
      exact h.update (by simp [hp]) (by simp)
    · rw [next, hc]
      exact h.update (by simp [hp]) (by simp)
  | write p =>
    rcases writeStep_cases M op p c with hc | ⟨w, n, s, hp, -, hc⟩ | ⟨w, n, e, hp, -, hc⟩
    · rwa [next, hc]
    · have hnot : p ∉ c.log.map Prod.fst := fun hmem => by
        simp [(h.succeeded p).mpr hmem] at hp
      rw [next, hc]
      refine ⟨?_, fun q => ?_⟩
      · rw [List.map_append, List.map_singleton, ← List.concat_eq_append]
        exact List.Nodup.concat hnot h.nodup
      · by_cases hqp : q = p
        · subst hqp
          simp
        · simpa [hqp] using h.succeeded q
    · rw [next, hc]
      exact h.update (by simp [hp]) (by simp)

theorem logged_exec (s : σ) (ms : List (Move π)) :
    Logged (Run.exec (next M op) (Config.start s) ms) :=
  Run.exec_inv (fun m _ h => logged_next m h) ms (logged_start s)

theorem log_le_next (m : Move π) (c : Config π ω σ) :
    c.log.length ≤ (next M op m c).log.length := by
  cases m with
  | read p => rcases readStep_cases M op p c with hc | ⟨w, -, -, hc⟩ | ⟨-, hc⟩ <;> simp [next, hc]
  | write p =>
    rcases writeStep_cases M op p c with hc | ⟨w, n, s, -, -, hc⟩ | ⟨w, n, e, -, -, hc⟩ <;>
      simp [next, hc]

variable (M op) in
theorem log_le_exec (c : Config π ω σ) (ms : List (Move π)) :
    c.log.length ≤ (Run.exec (next M op) c ms).log.length :=
  Run.exec_inv (I := fun c' : Config π ω σ => c.log.length ≤ c'.log.length)
    (fun m c' h => Nat.le_trans h (log_le_next m c')) ms (Nat.le_refl _)

omit [DecidableEq π] in
theorem Logged.subsingleton_iff {c : Config π ω σ} (h : Logged c) :
    (∀ p q, c.phase p = .succeeded → c.phase q = .succeeded → p = q) ↔ c.log.length ≤ 1 := by
  rw [← List.length_map Prod.fst]
  simp only [h.succeeded]
  constructor
  · intro hpq
    have hnodup := h.nodup
    rcases hl : c.log.map Prod.fst with - | ⟨p, - | ⟨q, ps⟩⟩
    · simp
    · simp
    · rw [hl] at hpq hnodup
      simp [hpq p q (by simp) (by simp)] at hnodup
  · intro hlen p q hp hq
    obtain ⟨a, ha⟩ := List.length_eq_one_iff.mp
      (Nat.le_antisymm hlen (List.length_pos_of_mem hp))
    rw [ha, List.mem_singleton] at hp hq
    rw [hp, hq]

omit [DecidableEq π] in
theorem Logged.exists_succeeded_iff {c : Config π ω σ} (h : Logged c) :
    (∃ p, c.phase p = .succeeded) ↔ 0 < c.log.length := by
  simp only [h.succeeded]
  rw [← List.length_map Prod.fst, List.length_pos_iff_exists_mem]

end Log

/-- What is known of the cell and, for each planned process, of its plan. -/
structure Coherent (op : π → ι) (I : σ → Prop) (J : ι → ω → List (π × ω) → σ → Prop)
    (c : Config π ω σ) : Prop where
  cell : I c.cell
  planned : ∀ p w n, c.phase p = .planned w n → n ≤ c.log.length ∧ J (op p) w (c.missed n) c.cell

section Coherence

variable {I : σ → Prop} {J g : ι → ω → List (π × ω) → σ → Prop}

omit [DecidableEq π] in
theorem coherent_start {s : σ} (hs : I s) : Coherent op I J (Config.start s) :=
  ⟨hs, fun p w n h => by simp [Config.start] at h⟩

theorem coherent_local {p : π} {c : Config π ω σ} {x : Phase ω} (hc : Coherent op I J c)
    (hx : ∀ w n, x = .planned w n → n ≤ c.log.length ∧ J (op p) w (c.missed n) c.cell) :
    Coherent op I J { c with phase := Function.update c.phase p x } := by
  refine ⟨hc.cell, fun q w n hq => ?_⟩
  by_cases hqp : q = p
  · subst hqp
    exact hx w n (by simpa using hq)
  · exact hc.planned q w n (by simpa [hqp] using hq)

theorem coherent_readStep (hplan : ∀ i s w, I s → M.plan i s = .ok w → J i w [] s)
    {p : π} {c : Config π ω σ} (hc : Coherent op I J c) :
    Coherent op I J (readStep M op p c) := by
  rcases readStep_cases M op p c with h | ⟨w, -, hw, h⟩ | ⟨-, h⟩
  · rw [h]
    exact hc
  · rw [h]
    refine coherent_local hc fun w' n hwn => ?_
    obtain ⟨rfl, rfl⟩ := Phase.planned.inj hwn
    exact ⟨Nat.le_refl _, by simpa [Config.missed] using hplan _ _ _ hc.cell hw⟩
  · rw [h]
    exact coherent_local hc fun w' n hwn => by cases hwn

theorem coherent_writeStep
    (hcell : ∀ i w m s s', I s → J i w m s → g i w m s → M.commit i w s = .ok s' → I s')
    (hother : ∀ i w m w' m' s s' q, I s → J i w m s → J (op q) w' m' s → g (op q) w' m' s →
      M.commit (op q) w' s = .ok s' → J i w (m ++ [(q, w')]) s')
    {p : π} {c : Config π ω σ} (hc : Coherent op I J c) (hg : AtWrite op g (.write p) c) :
    Coherent op I J (writeStep M op p c) := by
  rcases writeStep_cases M op p c with h | ⟨w, n, s, hp, hw, h⟩ | ⟨-, -, -, -, -, h⟩
  · rw [h]
    exact hc
  · have hJ := (hc.planned p w n hp).2
    have hgp := hg w n hp
    rw [h]
    refine ⟨hcell _ _ _ _ _ hc.cell hJ hgp hw, fun q w' n' hq => ?_⟩
    by_cases hqp : q = p
    · subst hqp
      simp at hq
    · obtain ⟨hn', hJ'⟩ := hc.planned q w' n' (by simpa [hqp] using hq)
      refine ⟨by simp only [List.length_append]; omega, ?_⟩
      simp only [Config.missed, List.drop_append_of_le_length hn']
      exact hother _ _ _ _ _ _ _ p hc.cell hJ' hJ hgp hw
  · rw [h]
    exact coherent_local hc fun w' n hwn => by cases hwn

/-- The rule for interleavings: a plan is right about the cell it was made from, an
allowed write keeps the cell invariant, and what is known of a plan survives the
writes it misses. -/
theorem coherent_exec (hplan : ∀ i s w, I s → M.plan i s = .ok w → J i w [] s)
    (hcell : ∀ i w m s s', I s → J i w m s → g i w m s → M.commit i w s = .ok s' → I s')
    (hother : ∀ i w m w' m' s s' q, I s → J i w m s → J (op q) w' m' s → g (op q) w' m' s →
      M.commit (op q) w' s = .ok s' → J i w (m ++ [(q, w')]) s')
    {c : Config π ω σ} {ms : List (Move π)} (hc : Coherent op I J c)
    (hg : Run.Along (next M op) (AtWrite op g) c ms) :
    Coherent op I J (Run.exec (next M op) c ms) := by
  refine Run.exec_inv_along (I := Coherent op I J) (fun l s hs hl => ?_) hc hg
  cases l with
  | read p => exact coherent_readStep hplan hs
  | write p => exact coherent_writeStep hcell hother hs hl

end Coherence

end Steps

end ReadWrite
