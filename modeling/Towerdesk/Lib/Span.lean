import Mathlib.Order.MinMax

/-!
# Half-open spans

A span starts at a point and stops at a later one or not at all; it covers its start
and not its stop. Two spans are apart when nothing is covered by both.
-/

structure Span (τ : Type*) where
  start : τ
  stop : Option τ

namespace Span

variable {τ : Type*} [LinearOrder τ] {s s' s₁ : Span τ} {t e : τ}

def Covers (s : Span τ) (t : τ) : Prop := s.start ≤ t ∧ ∀ e, s.stop = some e → t < e

def Apart (s s' : Span τ) : Prop := ∀ t, ¬ (s.Covers t ∧ s'.Covers t)

/-- The span stops where it starts or before. -/
def IsEmpty (s : Span τ) : Prop := ∃ e, s.stop = some e ∧ e ≤ s.start

/-- The first span stops no later than the second starts. -/
def Before (s s' : Span τ) : Prop := ∃ e, s.stop = some e ∧ e ≤ s'.start

def endAt (s : Span τ) (e : τ) : Span τ := ⟨s.start, some e⟩

theorem Apart.symm (h : Apart s s') : Apart s' s := fun t ht => h t ⟨ht.2, ht.1⟩

theorem Before.apart (h : Before s s') : Apart s s' := by
  rintro t ⟨hs, hs'⟩
  obtain ⟨e, he, hle⟩ := h
  exact absurd (hs.2 e he) (not_lt.mpr (hle.trans hs'.1))

theorem IsEmpty.apart (h : IsEmpty s) : Apart s s' := by
  rintro t ⟨hs, -⟩
  obtain ⟨e, he, hle⟩ := h
  exact absurd (hs.2 e he) (not_lt.mpr (hle.trans hs.1))

theorem Apart.mono (h : Apart s s') (hcover : ∀ t, s₁.Covers t → s.Covers t) : Apart s₁ s' :=
  fun t ht => h t ⟨hcover t ht.1, ht.2⟩

theorem covers_of_covers_endAt (hopen : s.stop = none) (h : (s.endAt e).Covers t) :
    s.Covers t :=
  ⟨h.1, fun e' he' => by rw [hopen] at he'; cases he'⟩

/-- Spans are apart only by coming one before the other, unless one of them is empty. -/
theorem apart_iff : Apart s s' ↔ s.IsEmpty ∨ s'.IsEmpty ∨ Before s s' ∨ Before s' s := by
  constructor
  · intro h
    -- the later of the two starts is covered by neither or not by both
    have hstart := h (max s.start s'.start)
    simp only [Covers, le_max_left, le_max_right, true_and, not_and_or, not_forall, not_lt,
      exists_prop] at hstart
    rcases hstart with ⟨e, he, hle⟩ | ⟨e, he, hle⟩
    · rcases le_max_iff.mp hle with hle | hle
      · exact .inl ⟨e, he, hle⟩
      · exact .inr (.inr (.inl ⟨e, he, hle⟩))
    · rcases le_max_iff.mp hle with hle | hle
      · exact .inr (.inr (.inr ⟨e, he, hle⟩))
      · exact .inr (.inl ⟨e, he, hle⟩)
  · rintro (h | h | h | h)
    · exact h.apart
    · exact h.apart.symm
    · exact h.apart
    · exact h.apart.symm

end Span
