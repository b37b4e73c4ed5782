import Towerdesk.Lib.Constraint

/-!
# Rows written into a table with a unique index

A table that grows from a start by rows with new keys and by changes that leave a row's entry in
the index alone. A row can be added exactly when the start has no row with its entry, where none
of the rows before it had. What a row was made to be it stays while rows with other entries are
written.
-/

namespace Upsert

universe u

variable {α κ : Type u} {ι : Type*} {key : α → κ}

/-- The table behind rows with these entries, of which `created` were new and have fresh keys. -/
structure Grown (index : α → Option ι) (fresh : ℕ → κ) (start : Table key) (entries : List ι)
    (created : ℕ) (t : Table key) : Prop where
  entries : ∀ a ∈ t, ∀ i, index a = some i → (∃ a₀ ∈ start, index a₀ = some i) ∨ i ∈ entries
  keys : ∀ a ∈ t, (∃ a₀ ∈ start, key a₀ = key a) ∨ ∃ n < created, key a = fresh n
  kept : ∀ a₀ ∈ start, ∃ a ∈ t, key a = key a₀ ∧ index a = index a₀

/-- Fresh keys are not in the table, and not twice the same. -/
structure FreshKeys (fresh : ℕ → κ) (start : Table key) : Prop where
  unused : ∀ n, ∀ a ∈ start, key a ≠ fresh n
  injective : ∀ m n, fresh m = fresh n → m = n

variable {index : α → Option ι} {fresh : ℕ → κ} {start t t' : Table key} {entries : List ι}
  {created : ℕ} {a : α} {i : ι} {p : Patch key}

theorem Grown.refl : Grown index fresh start [] 0 start where
  entries a ha _ hi := .inl ⟨a, ha, hi⟩
  keys a ha := .inl ⟨a, ha, rfl⟩
  kept a ha := ⟨a, ha, rfl, rfl⟩

variable [DecidableEq κ]

theorem Grown.insert (h : Grown index fresh start entries created t)
    (hinsert : t.insert a = some t') (hkey : key a = fresh created) (hindex : index a = some i) :
    Grown index fresh start (entries ++ [i]) (created + 1) t' := by
  refine ⟨fun b hb j hj => ?_, fun b hb => ?_, fun a₀ ha₀ => ?_⟩
  · obtain hold | rfl := (Table.mem_insert hinsert).mp hb
    · exact (h.entries b hold j hj).imp_right (List.mem_append_left _)
    · obtain rfl := Option.some.inj (hindex.symm.trans hj)
      exact .inr (List.mem_append_right _ (List.mem_singleton_self _))
  · obtain hold | rfl := (Table.mem_insert hinsert).mp hb
    · obtain hstart | ⟨n, hn, hsame⟩ := h.keys b hold
      · exact .inl hstart
      · exact .inr ⟨n, Nat.lt_succ_of_lt hn, hsame⟩
    · exact .inr ⟨created, Nat.lt_succ_self _, hkey⟩
  · obtain ⟨b, hb, hsame⟩ := h.kept a₀ ha₀
    exact ⟨b, (Table.mem_insert hinsert).mpr (.inl hb), hsame⟩

theorem Grown.modify (h : Grown index fresh start entries created t) (ha : a ∈ t)
    (hindex : index (p.apply a) = index a) :
    Grown index fresh start (entries ++ [i]) created (t.modify (key a) p) := by
  refine ⟨fun b hb j hj => ?_, fun b hb => ?_, fun a₀ ha₀ => ?_⟩
  · obtain rfl | ⟨hold, -⟩ := (Table.mem_modify_iff ha).mp hb
    · exact (h.entries a ha j (hindex ▸ hj)).imp_right (List.mem_append_left _)
    · exact (h.entries b hold j hj).imp_right (List.mem_append_left _)
  · obtain rfl | ⟨hold, -⟩ := (Table.mem_modify_iff ha).mp hb
    · rw [p.key_apply]
      exact h.keys a ha
    · exact h.keys b hold
  · obtain ⟨b, hb, hkey, hsame⟩ := h.kept a₀ ha₀
    by_cases heq : key b = key a
    · obtain rfl := Table.eq_of_key_eq hb ha heq
      exact ⟨_, Table.apply_mem_modify ha, (p.key_apply b).trans hkey, hindex.trans hsame⟩
    · exact ⟨b, Table.mem_modify_of_ne hb heq, hkey, hsame⟩

theorem Grown.exists_insert (h : Grown index fresh start entries created t)
    (hfresh : FreshKeys fresh start) (hkey : key a = fresh created) :
    ∃ t', t.insert a = some t' := by
  refine Table.exists_insert.mpr fun b hb heq => ?_
  obtain ⟨a₀, ha₀, hsame⟩ | ⟨n, hn, hsame⟩ := h.keys b hb
  · exact hfresh.unused created a₀ ha₀ (hsame.trans (heq.trans hkey))
  · have hindex := hfresh.injective n created (hsame.symm.trans (heq.trans hkey))
    omega

/-- With the row added the index stays unique exactly when the start has no row with its entry. -/
theorem Grown.unique_insert (h : Grown index fresh start entries created t)
    (hunique : t.UniqueOn index) (hinsert : t.insert a = some t') (hindex : index a = some i)
    (hnew : i ∉ entries) : t'.UniqueOn index ↔ ∀ a₀ ∈ start, index a₀ ≠ some i := by
  constructor
  · intro hunique' a₀ ha₀ hsame
    obtain ⟨b, hb, -, hbindex⟩ := h.kept a₀ ha₀
    have hb' := (Table.mem_insert hinsert).mpr (.inl hb)
    have ha' := (Table.mem_insert hinsert).mpr (.inr rfl)
    obtain rfl := hunique'.eq hb' ha' (hbindex.trans hsame) hindex
    exact Table.fresh_of_insert hinsert hb rfl
  · intro hstart
    refine hunique.insert hinsert fun b hb => .inr fun hsame => ?_
    obtain ⟨a₀, ha₀, hindex₀⟩ | hentry := h.entries b hb i (hsame.trans hindex)
    · exact hstart a₀ ha₀ hindex₀
    · exact hnew hentry

section Settled

variable {fixed : α → Prop} {b : α}

/-- The row with the entry is in the table, as it should be. -/
def Settled (index : α → Option ι) (i : ι) (fixed : α → Prop) (t : Table key) : Prop :=
  ∃ a ∈ t, index a = some i ∧ fixed a

theorem settled_insert (hinsert : t.insert a = some t') (hindex : index a = some i)
    (hfixed : fixed a) : Settled index i fixed t' :=
  ⟨a, (Table.mem_insert hinsert).mpr (.inr rfl), hindex, hfixed⟩

theorem settled_modify (ha : a ∈ t) (hindex : index (p.apply a) = some i)
    (hfixed : fixed (p.apply a)) : Settled index i fixed (t.modify (key a) p) :=
  ⟨p.apply a, Table.apply_mem_modify ha, hindex, hfixed⟩

theorem Settled.insert (h : Settled index i fixed t) (hinsert : t.insert a = some t') :
    Settled index i fixed t' := by
  obtain ⟨b, hb, hindex, hfixed⟩ := h
  exact ⟨b, (Table.mem_insert hinsert).mpr (.inl hb), hindex, hfixed⟩

theorem Settled.modify (h : Settled index i fixed t) (ha : a ∈ t) (hother : index a ≠ some i) :
    Settled index i fixed (t.modify (key a) p) := by
  obtain ⟨b, hb, hindex, hfixed⟩ := h
  refine ⟨b, Table.mem_modify_of_ne hb fun hkey => hother ?_, hindex, hfixed⟩
  rw [← Table.eq_of_key_eq hb ha hkey]
  exact hindex

end Settled

end Upsert
