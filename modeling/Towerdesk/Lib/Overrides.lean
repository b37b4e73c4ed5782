import Mathlib.Data.Finset.Basic
import Mathlib.Data.List.Nodup

/-!
# Overrides of a set

A list of overrides is applied to a set in order, each adding its key or removing it.
A key that no override names keeps its place, and a key that some override names is
decided by the overrides alone, whatever the set was.
-/

namespace Overrides

variable {ο κ : Type*} [DecidableEq κ] (key : ο → κ) (allows : ο → Bool)

def apply (s : Finset κ) (o : ο) : Finset κ :=
  if allows o then insert (key o) s else s.erase (key o)

def applyAll (s : Finset κ) (l : List ο) : Finset κ := l.foldl (apply key allows) s

variable {key allows} {s s' : Finset κ} {k : κ}

theorem mem_apply_of_ne {o : ο} (h : key o ≠ k) : k ∈ apply key allows s o ↔ k ∈ s := by
  unfold apply
  split
  · simp [Ne.symm h]
  · simp [Ne.symm h]

theorem mem_apply_of_eq {o : ο} (h : key o = k) : k ∈ apply key allows s o ↔ allows o = true := by
  unfold apply
  split
  · simp_all
  · simp_all

theorem mem_applyAll_of_not_mem {l : List ο} (h : k ∉ l.map key) :
    k ∈ applyAll key allows s l ↔ k ∈ s := by
  induction l generalizing s with
  | nil => exact Iff.rfl
  | cons o l ih =>
    rw [List.map_cons, List.mem_cons, not_or] at h
    have hrest : k ∈ applyAll key allows (apply key allows s o) l ↔ k ∈ apply key allows s o :=
      ih h.2
    exact hrest.trans (mem_apply_of_ne (Ne.symm h.1))

theorem mem_applyAll_congr {l : List ο} (h : k ∈ l.map key) :
    k ∈ applyAll key allows s l ↔ k ∈ applyAll key allows s' l := by
  induction l generalizing s s' with
  | nil => simp at h
  | cons o l ih =>
    by_cases hl : k ∈ l.map key
    · exact ih hl
    · have hk : key o = k := by
        rw [List.map_cons, List.mem_cons] at h
        exact (h.resolve_right hl).symm
      have step (t : Finset κ) : k ∈ applyAll key allows t (o :: l) ↔ allows o = true :=
        (mem_applyAll_of_not_mem hl).trans (mem_apply_of_eq hk)
      rw [step, step]

theorem mem_applyAll_of_nodup {l : List ο} (hl : (l.map key).Nodup) {o : ο} (ho : o ∈ l) :
    key o ∈ applyAll key allows s l ↔ allows o = true := by
  induction l generalizing s with
  | nil => simp at ho
  | cons p l ih =>
    rw [List.map_cons, List.nodup_cons] at hl
    rcases List.mem_cons.mp ho with rfl | ho
    · have hrest : key o ∈ applyAll key allows (apply key allows s o) l ↔
          key o ∈ apply key allows s o := mem_applyAll_of_not_mem hl.1
      exact hrest.trans (mem_apply_of_eq rfl)
    · exact ih hl.2 ho

theorem mem_applyAll_iff {l : List ο} (hl : (l.map key).Nodup) :
    k ∈ applyAll key allows s l ↔
      (∃ o ∈ l, key o = k ∧ allows o = true) ∨ (k ∉ l.map key ∧ k ∈ s) := by
  by_cases hk : k ∈ l.map key
  · obtain ⟨o, ho, rfl⟩ := List.mem_map.mp hk
    rw [mem_applyAll_of_nodup hl ho]
    constructor
    · intro h
      exact .inl ⟨o, ho, rfl, h⟩
    · rintro (⟨p, hp, hpk, h⟩ | ⟨h, -⟩)
      · exact List.inj_on_of_nodup_map hl hp ho hpk ▸ h
      · exact absurd hk h
  · rw [mem_applyAll_of_not_mem hk]
    constructor
    · intro h
      exact .inr ⟨hk, h⟩
    · rintro (⟨p, hp, hpk, -⟩ | ⟨-, h⟩)
      · exact absurd (List.mem_map.mpr ⟨p, hp, hpk⟩) hk
      · exact h

theorem mem_applyAll_of_allows {l : List ο} (h : ∀ o ∈ l, allows o = true) :
    k ∈ applyAll key allows s l ↔ k ∈ s ∨ k ∈ l.map key := by
  induction l generalizing s with
  | nil => simp [applyAll]
  | cons o l ih =>
    have hfirst : apply key allows s o = insert (key o) s := if_pos (h o List.mem_cons_self)
    have hrest : k ∈ applyAll key allows (apply key allows s o) l ↔
        k ∈ apply key allows s o ∨ k ∈ l.map key :=
      ih fun p hp => h p (List.mem_cons_of_mem o hp)
    refine hrest.trans ?_
    rw [hfirst, Finset.mem_insert, List.map_cons, List.mem_cons]
    constructor
    · rintro ((rfl | hs) | hl)
      · exact .inr (.inl rfl)
      · exact .inl hs
      · exact .inr (.inr hl)
    · rintro (hs | rfl | hl)
      · exact .inl (.inr hs)
      · exact .inl (.inl rfl)
      · exact .inr hl

/-- A key is in when the overrides put it in, or when none names it and it was in. -/
theorem mem_applyAll_split {l : List ο} :
    k ∈ applyAll key allows s l ↔ k ∈ applyAll key allows ∅ l ∨ (k ∉ l.map key ∧ k ∈ s) := by
  by_cases hk : k ∈ l.map key
  · have hdecided : k ∈ applyAll key allows s l ↔ k ∈ applyAll key allows ∅ l :=
      mem_applyAll_congr hk
    simp [hdecided, hk]
  · have hs : k ∈ applyAll key allows s l ↔ k ∈ s := mem_applyAll_of_not_mem hk
    have hempty : k ∈ applyAll key allows ∅ l ↔ k ∈ (∅ : Finset κ) := mem_applyAll_of_not_mem hk
    simp [hs, hempty, hk]

/-- Applying the same overrides keeps an inclusion exactly when it held outside the keys they
name. -/
theorem applyAll_subset_iff {l : List ο} :
    applyAll key allows s l ⊆ applyAll key allows s' l ↔ ∀ k ∈ s, k ∉ l.map key → k ∈ s' := by
  constructor
  · intro h k hk hl
    exact (mem_applyAll_of_not_mem hl).mp (h ((mem_applyAll_of_not_mem hl).mpr hk))
  · intro h k hk
    by_cases hl : k ∈ l.map key
    · exact (mem_applyAll_congr hl).mp hk
    · exact (mem_applyAll_of_not_mem hl).mpr (h k ((mem_applyAll_of_not_mem hl).mp hk) hl)

end Overrides
