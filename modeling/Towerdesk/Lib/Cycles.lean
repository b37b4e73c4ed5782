import Mathlib.Data.List.Infix

/-!
# Cycles of a log

Some entries of a log open a new cycle, some count. The number of entries that have counted
since the last opening is all that has to be remembered, in order that no stretch within one
cycle ever has two.
-/

namespace Cycles

variable {α : Type*} (opens counts : α → Bool)

/-- How many entries count since the last one that opened a cycle. -/
def sinceOpened (log : List α) : ℕ :=
  log.foldl (fun n e => if opens e then 0 else if counts e then n + 1 else n) 0

/-- No stretch within a cycle has two entries that count. -/
def Single (log : List α) : Prop :=
  ∀ seg, seg <:+: log → (∀ e ∈ seg, opens e = false) → seg.countP counts ≤ 1

variable {opens counts} {log seg : List α} {e : α}

theorem sinceOpened_concat : sinceOpened opens counts (log ++ [e]) =
    if opens e then 0 else if counts e then sinceOpened opens counts log + 1
      else sinceOpened opens counts log := by
  simp [sinceOpened]

theorem sinceOpened_concat_of_not (hopens : opens e = false) (hcounts : counts e = false) :
    sinceOpened opens counts (log ++ [e]) = sinceOpened opens counts log := by
  simp [sinceOpened_concat, hopens, hcounts]

theorem countP_le_sinceOpened (counts : α → Bool) (hseg : seg <:+ log)
    (hclosed : ∀ e ∈ seg, opens e = false) :
    seg.countP counts ≤ sinceOpened opens counts log := by
  induction log using List.reverseRecOn generalizing seg with
  | nil =>
    rw [List.suffix_nil.mp hseg]
    exact Nat.le_refl 0
  | append_singleton log e ih =>
    rcases List.suffix_concat_iff.mp hseg with rfl | ⟨rest, rfl, hrest⟩
    · exact Nat.zero_le _
    · have hrest := ih hrest fun a ha => hclosed a (List.mem_append_left [e] ha)
      have hopens := hclosed e (List.mem_append_right rest (List.mem_singleton_self e))
      rw [sinceOpened_concat, List.countP_append, List.countP_singleton, hopens]
      cases counts e <;> simp <;> omega

theorem single_nil : Single opens counts [] := by
  intro seg hseg _
  rw [List.infix_nil.mp hseg]
  exact Nat.zero_le 1

theorem Single.concat (h : Single opens counts log)
    (hfirst : opens e = false → counts e = true → sinceOpened opens counts log = 0) :
    Single opens counts (log ++ [e]) := by
  intro seg hseg hclosed
  rcases List.infix_concat_iff.mp hseg with hinfix | hinfix
  · rcases List.suffix_concat_iff.mp hinfix with rfl | ⟨rest, rfl, hrest⟩
    · exact Nat.zero_le 1
    · have hopens := hclosed e (List.mem_append_right rest (List.mem_singleton_self e))
      have hclosed : ∀ a ∈ rest, opens a = false :=
        fun a ha => hclosed a (List.mem_append_left [e] ha)
      rw [List.countP_append, List.countP_singleton]
      cases hcounts : counts e with
      | false => simpa using h rest hrest.isInfix hclosed
      | true =>
        have hcount := countP_le_sinceOpened counts hrest hclosed
        have hzero := hfirst hopens hcounts
        rw [if_pos rfl]
        omega
  · exact h seg hinfix hclosed

theorem getElem?_concat_eq_some {l : List α} {a b : α} {i : ℕ} :
    (l ++ [a])[i]? = some b ↔ l[i]? = some b ∨ i = l.length ∧ a = b := by
  rcases lt_trichotomy i l.length with hlt | rfl | hgt
  · rw [List.getElem?_append_left hlt]
    simp [hlt.ne]
  · simp
  · have hout : (l ++ [a])[i]? = none := List.getElem?_eq_none (by simp; omega)
    simp [hout, hgt.ne', List.getElem?_eq_none hgt.le]

theorem index_unique {p : α → Bool} {l : List α} (h : l.countP p ≤ 1) {i j : ℕ} {a b : α}
    (hi : l[i]? = some a) (hj : l[j]? = some b) (ha : p a = true) (hb : p b = true) : i = j := by
  induction l generalizing i j with
  | nil => simp at hi
  | cons x l ih =>
    have hmem : ∀ {k c}, l[k]? = some c → p c = true → 0 < l.countP p :=
      fun hk hc => List.countP_pos_iff.mpr ⟨_, List.mem_of_getElem? hk, hc⟩
    rw [List.countP_cons] at h
    cases i with
    | zero =>
      cases j with
      | zero => rfl
      | succ j =>
        obtain rfl : x = a := by simpa using hi
        have hpos := hmem hj hb
        rw [if_pos ha] at h
        omega
    | succ i =>
      cases j with
      | zero =>
        obtain rfl : x = b := by simpa using hj
        have hpos := hmem hi ha
        rw [if_pos hb] at h
        omega
      | succ j => rw [ih (by omega) hi hj]

theorem countP_le_one_of_labels {β : Type*} {f : α → Option β} {p : α → Bool} {Q : β → Prop}
    (hnodup : (log.filterMap f).Nodup)
    (hlabel : ∀ e ∈ log, p e = true → ∃ b, f e = some b ∧ Q b)
    (hagree : ∀ a b, Q a → Q b → a = b) : log.countP p ≤ 1 := by
  induction log with
  | nil => simp
  | cons e log ih =>
    have hrest : ∀ e' ∈ log, p e' = true → ∃ b, f e' = some b ∧ Q b :=
      fun e' he' => hlabel e' (List.mem_cons_of_mem e he')
    by_cases hp : p e = true
    · obtain ⟨b, hb, hQ⟩ := hlabel e List.mem_cons_self hp
      rw [List.filterMap_cons_some hb, List.nodup_cons] at hnodup
      have hnone : log.countP p = 0 := by
        refine List.countP_eq_zero.mpr fun e' he' hp' => hnodup.1 ?_
        obtain ⟨b', hb', hQ'⟩ := hrest e' he' hp'
        exact List.mem_filterMap.mpr ⟨e', he', hagree b b' hQ hQ' ▸ hb'⟩
      rw [List.countP_cons_of_pos hp, hnone]
    · rw [List.countP_cons_of_neg hp]
      exact ih (hnodup.sublist ((List.sublist_cons_self e log).filterMap f)) hrest

end Cycles
