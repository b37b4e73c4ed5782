import Towerdesk.Lib.Outcome
import Towerdesk.Lib.Table

/-!
# Writes and constraints

A write on a table is refused when a key is taken, when the row to update is not
there, or when the result breaks a constraint declared on the table. A constrained
table carries the proof that it breaks none, so the constraints need no invariant of
their own in what is built on it.
-/

namespace Table

universe u v

variable {α κ : Type u} {ν : Type v} {ι : Type*} {key : α → κ}

inductive Write (key : α → κ)
  | create (a : α)
  | update (k : κ) (p : Patch key)
  | updateMany (q : α → Bool) (p : Patch key)

inductive WriteError (ν : Type v)
  | duplicateKey
  | recordNotFound
  | violates (v : ν)
deriving DecidableEq

/-- `updateMany` with an arbitrary filter. -/
def modifyWhere (t : Table key) (q : α → Bool) (p : Patch key) : Table key where
  rows := t.rows.map fun a => if q a then p.apply a else a
  nodup := by
    have hkeys : (t.rows.map fun a => if q a then p.apply a else a).map key = t.rows.map key := by
      rw [List.map_map]
      refine List.map_congr_left fun a _ => ?_
      by_cases hq : q a <;> simp [hq, p.key_apply]
    rw [hkeys]
    exact t.nodup

theorem mem_modifyWhere {t : Table key} {q : α → Bool} {p : Patch key} {b : α} :
    b ∈ t.modifyWhere q p ↔ (∃ a ∈ t, q a = true ∧ b = p.apply a) ∨ (b ∈ t ∧ q b = false) := by
  simp only [mem_rows, modifyWhere, List.mem_map]
  constructor
  · rintro ⟨a, ha, hab⟩
    by_cases hq : q a
    · exact .inl ⟨a, ha, hq, by rw [← hab, if_pos hq]⟩
    · rw [if_neg hq] at hab
      exact .inr ⟨hab ▸ ha, hab ▸ Bool.eq_false_iff.mpr hq⟩
  · rintro (⟨a, ha, hq, rfl⟩ | ⟨hb, hq⟩)
    · exact ⟨a, ha, by rw [if_pos hq]⟩
    · exact ⟨b, hb, by rw [if_neg (by simp [hq])]⟩

theorem modifyWhere_eq_self {t : Table key} {q : α → Bool} {p : Patch key}
    (h : ∀ a ∈ t, q a = false) : t.modifyWhere q p = t := by
  refine eq_of_rows_eq ?_
  have hrows : t.rows.map (fun a => if q a then p.apply a else a) = t.rows.map id :=
    List.map_congr_left fun a ha => by simp [h a ha]
  exact hrows.trans (List.map_id t.rows)

theorem modifyWhere_congr {t : Table key} {q q' : α → Bool} {p : Patch key}
    (h : ∀ a ∈ t, q a = q' a) : t.modifyWhere q p = t.modifyWhere q' p := by
  refine eq_of_rows_eq (List.map_congr_left fun a ha => ?_)
  rw [h a ha]

/-- A partial unique index: two rows with the same entry are the same row. -/
def UniqueOn (index : α → Option ι) (t : Table key) : Prop :=
  ∀ a ∈ t, ∀ b ∈ t, index a ≠ none → index a = index b → key a = key b

theorem UniqueOn.eq {index : α → Option ι} {t : Table key} (h : UniqueOn index t) {a b : α}
    {i : ι} (ha : a ∈ t) (hb : b ∈ t) (hai : index a = some i) (hbi : index b = some i) :
    a = b :=
  eq_of_key_eq ha hb (h a ha b hb (by simp [hai]) (hai.trans hbi.symm))

theorem UniqueOn.empty {index : α → Option ι} {t : Table key} (h : t.rows = []) :
    UniqueOn index t := by
  intro a ha
  rw [mem_rows, h] at ha
  cases ha

theorem UniqueOn.filter {index : α → Option ι} {t : Table key} (h : UniqueOn index t)
    (q : α → Bool) : UniqueOn index (t.filter q) :=
  fun a ha b hb => h a (List.mem_of_mem_filter ha) b (List.mem_of_mem_filter hb)

theorem UniqueOn.modifyWhere_of_le {index : α → Option ι} {t : Table key} {q : α → Bool}
    {p : Patch key} (h : UniqueOn index t)
    (hp : ∀ a ∈ t, q a = true → index (p.apply a) = none ∨ index (p.apply a) = index a) :
    UniqueOn index (t.modifyWhere q p) := by
  -- an entry of the new table is the entry of the row it comes from
  have hold : ∀ b ∈ t.modifyWhere q p, index b ≠ none →
      ∃ a ∈ t, key a = key b ∧ index a = index b := by
    intro b hb hne
    rcases mem_modifyWhere.mp hb with ⟨a, ha, hq, rfl⟩ | ⟨hb, -⟩
    · rcases hp a ha hq with hnone | hsame
      · exact absurd hnone hne
      · exact ⟨a, ha, (p.key_apply a).symm, hsame.symm⟩
    · exact ⟨b, hb, rfl, rfl⟩
  intro x hx y hy hne heq
  obtain ⟨a, ha, hax, hia⟩ := hold x hx hne
  obtain ⟨b, hb, hby, hib⟩ := hold y hy (heq ▸ hne)
  rw [← hax, ← hby]
  exact h a ha b hb (hia ▸ hne) (by rw [hia, hib, heq])

section DecidableKey

variable [DecidableEq κ]

theorem UniqueOn.insert {index : α → Option ι} {t t' : Table key} {a : α} (h : UniqueOn index t)
    (hinsert : t.insert a = some t') (ha : ∀ b ∈ t, index a = none ∨ index b ≠ index a) :
    UniqueOn index t' := by
  intro x hx y hy hne heq
  rcases (mem_insert hinsert).mp hx with hx | rfl
  · rcases (mem_insert hinsert).mp hy with hy | rfl
    · exact h x hx y hy hne heq
    · rcases ha x hx with hnone | hdiff
      · exact absurd (heq.trans hnone) hne
      · exact absurd heq hdiff
  · rcases (mem_insert hinsert).mp hy with hy | rfl
    · rcases ha y hy with hnone | hdiff
      · exact absurd hnone hne
      · exact absurd heq.symm hdiff
    · rfl

theorem UniqueOn.modify {index : α → Option ι} {t : Table key} {p : Patch key} {a : α}
    (h : UniqueOn index t) (ha : a ∈ t)
    (hp : ∀ b ∈ t, key b ≠ key a → index (p.apply a) = none ∨ index b ≠ index (p.apply a)) :
    UniqueOn index (t.modify (key a) p) := by
  intro x hx y hy hne heq
  rcases (mem_modify_iff ha).mp hx with rfl | ⟨hx, hxa⟩
  · rcases (mem_modify_iff ha).mp hy with rfl | ⟨hy, hya⟩
    · rfl
    · rcases hp y hy hya with hnone | hdiff
      · exact absurd hnone hne
      · exact absurd heq.symm hdiff
  · rcases (mem_modify_iff ha).mp hy with rfl | ⟨hy, hya⟩
    · rcases hp x hx hxa with hnone | hdiff
      · exact absurd (heq.trans hnone) hne
      · exact absurd heq hdiff
    · exact h x hx y hy hne heq

theorem UniqueOn.modify_of_le {index : α → Option ι} {t : Table key} {p : Patch key} {a : α}
    (h : UniqueOn index t) (ha : a ∈ t)
    (hp : index (p.apply a) = none ∨ index (p.apply a) = index a) :
    UniqueOn index (t.modify (key a) p) := by
  refine h.modify ha fun b hb hba => ?_
  rcases hp with hnone | hsame
  · exact .inl hnone
  · by_cases hnone : index (p.apply a) = none
    · exact .inl hnone
    · refine .inr fun heq => hba (h b hb a ha ?_ (heq.trans hsame))
      rw [heq]
      exact hnone

theorem modifyWhere_eq_modify {t : Table key} {q : α → Bool} {k : κ} {p : Patch key}
    (h : ∀ a ∈ t, q a = true ↔ key a = k) : t.modifyWhere q p = t.modify k p := by
  refine eq_of_rows_eq (List.map_congr_left fun a ha => ?_)
  by_cases hk : key a = k
  · rw [if_pos ((h a ha).mpr hk), if_pos hk]
  · rw [if_neg (mt (h a ha).mp hk), if_neg hk]

theorem foldl_modify {γ : Type*} {row : γ → α} {p : γ → Patch key} {q : Patch key} {l : List γ}
    {t : Table key} (hmem : ∀ c ∈ l, row c ∈ t) (hnodup : (l.map fun c => key (row c)).Nodup)
    (hp : ∀ c ∈ l, (p c).apply (row c) = q.apply (row c)) :
    l.foldl (fun t c => t.modify (key (row c)) (p c)) t =
      t.modifyWhere (fun a => key a ∈ l.map fun c => key (row c)) q := by
  induction l generalizing t with
  | nil => exact (modifyWhere_eq_self fun a _ => by simp).symm
  | cons c l ih =>
    rw [List.map_cons, List.nodup_cons] at hnodup
    obtain ⟨hc, hnodup⟩ := hnodup
    have hrest : ∀ d ∈ l, row d ∈ t.modify (key (row c)) (p c) := by
      intro d hd
      refine mem_modify_of_ne (hmem d (List.mem_cons_of_mem c hd)) fun heq => hc ?_
      exact heq ▸ List.mem_map_of_mem hd
    rw [List.foldl_cons, ih hrest hnodup fun d hd => hp d (List.mem_cons_of_mem c hd)]
    refine eq_of_rows_eq ?_
    simp only [modifyWhere, modify, List.map_map]
    refine List.map_congr_left fun a ha => ?_
    by_cases hk : key a = key (row c)
    · obtain rfl := eq_of_key_eq ha (hmem c List.mem_cons_self) hk
      have hkey : ¬ decide (key ((p c).apply (row c)) ∈ l.map fun c => key (row c)) = true := by
        rwa [(p c).key_apply, decide_eq_true_iff]
      have hself : decide (key (row c) ∈ (c :: l).map fun c => key (row c)) = true :=
        decide_eq_true List.mem_cons_self
      rw [Function.comp_apply, if_pos rfl, if_neg hkey, if_pos hself, hp c List.mem_cons_self]
    · simp [hk]

instance [DecidableEq ι] (index : α → Option ι) (t : Table key) : Decidable (UniqueOn index t) :=
  inferInstanceAs (Decidable (∀ a ∈ t, ∀ b ∈ t, _))

def Write.apply (w : Write key) (t : Table key) : Except (WriteError ν) (Table key) :=
  match w with
  | .create a => Outcome.orThrow (t.insert a) .duplicateKey
  | .update k p =>
    if (t.findUnique k).isSome then .ok (t.modify k p) else .error .recordNotFound
  | .updateMany q p => .ok (t.modifyWhere q p)

theorem apply_create {a : α} {t t' : Table key} :
    (Write.create a).apply t = (.ok t' : Except (WriteError ν) _) ↔ t.insert a = some t' :=
  Outcome.orThrow_eq_ok

theorem apply_update {k : κ} {p : Patch key} {t t' : Table key} :
    (Write.update k p).apply t = (.ok t' : Except (WriteError ν) _) ↔
      (∃ a ∈ t, key a = k) ∧ t' = t.modify k p := by
  have hsome : (t.findUnique k).isSome ↔ ∃ a ∈ t, key a = k := by
    simp only [Option.isSome_iff_exists, findUnique_eq_some]
  rw [← hsome]
  by_cases h : (t.findUnique k).isSome
  · simp [Write.apply, h, eq_comm]
  · simp [Write.apply, h]

theorem apply_updateMany {q : α → Bool} {p : Patch key} {t t' : Table key} :
    (Write.updateMany q p).apply t = (.ok t' : Except (WriteError ν) _) ↔
      t' = t.modifyWhere q p := by
  simp [Write.apply, eq_comm]

end DecidableKey

end Table

/-- A table that breaks none of its constraints: `check` names the first one broken. -/
structure Constrained {α κ : Type*} (key : α → κ) {ν : Type*} (check : Table key → Option ν) where
  table : Table key
  valid : check table = none

namespace Constrained

universe u v

variable {α κ : Type u} {ν : Type v} {key : α → κ} {check : Table key → Option ν}

instance : Membership α (Constrained key check) := ⟨fun c a => a ∈ c.table⟩

theorem mem_table {c : Constrained key check} {a : α} : a ∈ c ↔ a ∈ c.table := Iff.rfl

instance decidableForall (c : Constrained key check) (p : α → Prop) [DecidablePred p] :
    Decidable (∀ a ∈ c, p a) :=
  inferInstanceAs (Decidable (∀ a ∈ c.table, p a))

instance decidableExists (c : Constrained key check) (p : α → Prop) [DecidablePred p] :
    Decidable (∃ a ∈ c, p a) :=
  inferInstanceAs (Decidable (∃ a ∈ c.table, p a))

instance decidableMem [DecidableEq α] (c : Constrained key check) (a : α) : Decidable (a ∈ c) :=
  inferInstanceAs (Decidable (a ∈ c.table))

def write [DecidableEq κ] (c : Constrained key check) (w : Table.Write key) :
    Except (Table.WriteError ν) (Constrained key check) :=
  match w.apply c.table with
  | .error e => .error e
  | .ok t =>
    match h : check t with
    | none => .ok ⟨t, h⟩
    | some v => .error (.violates v)

theorem write_eq_ok [DecidableEq κ] {c c' : Constrained key check} {w : Table.Write key} :
    c.write w = .ok c' ↔ w.apply c.table = (.ok c'.table : Except (Table.WriteError ν) _) := by
  obtain ⟨t', ht'⟩ := c'
  unfold write
  cases happly : w.apply c.table with
  | error e => simp
  | ok t =>
    simp only [Except.ok.injEq]
    split
    · simp
    · next v hv =>
      simp only [reduceCtorEq, false_iff]
      rintro rfl
      simp [ht'] at hv

theorem exists_write [DecidableEq κ] {c : Constrained key check} {w : Table.Write key}
    {t : Table key} (happly : w.apply c.table = (.ok t : Except (Table.WriteError ν) _))
    (hcheck : check t = none) : ∃ c', c.write w = .ok c' :=
  ⟨⟨t, hcheck⟩, write_eq_ok.mpr happly⟩

end Constrained
