import Mathlib.Data.List.Basic

/-!
# Places of what is kept

The elements of a list that are kept, each with its place in the list, counted from one. An
element kept is at the place that its rank among those kept suggests exactly when nothing in
front of it was left out.
-/

namespace Places

variable {α β : Type*} {p : α → Bool} {l : List α} {i n : ℕ}

def keptFrom (m : ℕ) (p : α → Bool) (l : List α) : List (α × ℕ) :=
  (l.zipIdx m).filter fun entry => p entry.1

/-- The place of the `i`-th element kept. -/
def place (p : α → Bool) (l : List α) (i : ℕ) : Option ℕ := ((keptFrom 1 p l)[i]?).map Prod.snd

theorem keptFrom_cons {m : ℕ} {a : α} :
    keptFrom m p (a :: l) = if p a then (a, m) :: keptFrom (m + 1) p l else keptFrom (m + 1) p l := by
  rw [keptFrom, List.zipIdx_cons, List.filter_cons]
  rfl

theorem map_fst_keptFrom {m : ℕ} : (keptFrom m p l).map Prod.fst = l.filter p := by
  induction l generalizing m with
  | nil => rfl
  | cons a l ih =>
    rw [keptFrom_cons, List.filter_cons]
    split_ifs
    · rw [List.map_cons, ih]
    · exact ih

theorem rank_le_and_eq_iff {m : ℕ} {a : α} (h : (keptFrom m p l)[i]? = some (a, n)) :
    m + i ≤ n ∧ (n = m + i ↔ ∀ k b, l[k]? = some b → m + k < n → p b = true) := by
  induction l generalizing m i with
  | nil => cases h
  | cons b l ih =>
    have hcons : (∀ k c, (b :: l)[k]? = some c → m + k < n → p c = true) ↔
        (m < n → p b = true) ∧ ∀ k c, l[k]? = some c → m + 1 + k < n → p c = true := by
      constructor
      · intro hall
        refine ⟨fun hlt => hall 0 b rfl hlt, fun k c hc hlt => hall (k + 1) c hc ?_⟩
        omega
      · rintro ⟨hhead, htail⟩ k c hc hlt
        cases k with
        | zero =>
          obtain rfl := Option.some.inj hc
          exact hhead hlt
        | succ k => exact htail k c hc (by omega)
    rw [hcons]
    rw [keptFrom_cons] at h
    by_cases hb : p b = true
    · rw [if_pos hb] at h
      cases i with
      | zero =>
        obtain ⟨rfl, rfl⟩ := Prod.mk.inj (Option.some.inj h)
        refine ⟨Nat.le_refl _, iff_of_true rfl ⟨fun _ => hb, fun k c _ hlt => ?_⟩⟩
        omega
      | succ i =>
        obtain ⟨hle, heq⟩ := ih h
        refine ⟨by omega, ?_⟩
        rw [← heq, and_iff_right fun _ => hb]
        omega
    · rw [if_neg hb] at h
      obtain ⟨hle, -⟩ := ih h
      refine ⟨by omega, iff_of_false (by omega) fun hall => hb (hall.1 (by omega))⟩

theorem place_eq_iff (h : place p l i = some n) :
    n = i + 1 ↔ ∀ k a, l[k]? = some a → k + 1 < n → p a = true := by
  obtain ⟨⟨a, n⟩, hkept, rfl⟩ := Option.map_eq_some_iff.mp h
  have hrank := (rank_le_and_eq_iff hkept).2
  rw [Nat.add_comm 1 i] at hrank
  rw [hrank]
  simp only [Nat.add_comm 1]

theorem exists_place (h : i < (l.filter p).length) : ∃ n, place p l i = some n := by
  rw [← @map_fst_keptFrom _ p l 1, List.length_map] at h
  exact ⟨_, by rw [place, List.getElem?_eq_getElem h, Option.map_some]⟩

end Places
