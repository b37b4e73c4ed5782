import Mathlib.Data.List.Nodup

/-!
# Keyed tables

A table is a list of rows in insertion order together with the proof that no two
rows share a key, so a primary key determines its row. Updates are given by a
row function that keeps the key, which is what an update by primary key whose
data never mentions the key amounts to.
-/

/-- A change of a row that cannot touch its key. -/
structure Patch {α κ : Type*} (key : α → κ) where
  apply : α → α
  key_apply : ∀ a, key (apply a) = key a

structure Table {α κ : Type*} (key : α → κ) where
  rows : List α
  nodup : (rows.map key).Nodup

namespace Table

variable {α κ : Type*} {key : α → κ}

instance : Membership α (Table key) := ⟨fun t a => a ∈ t.rows⟩

theorem mem_rows {t : Table key} {a : α} : a ∈ t ↔ a ∈ t.rows := Iff.rfl

def empty (key : α → κ) : Table key := ⟨[], List.nodup_nil⟩

@[simp] theorem not_mem_empty (a : α) : a ∉ empty key := by
  simp [mem_rows, empty]

theorem eq_of_key_eq {t : Table key} {a b : α} (ha : a ∈ t) (hb : b ∈ t)
    (h : key a = key b) : a = b :=
  List.inj_on_of_nodup_map t.nodup ha hb h

theorem eq_of_rows_eq {t t' : Table key} (h : t.rows = t'.rows) : t = t' := by
  cases t
  cases t'
  simp only at h
  subst h
  rfl

theorem eq_of_map_key_eq {t : Table key} : ∀ {l l' : List α}, (∀ a ∈ l, a ∈ t) →
    (∀ a ∈ l', a ∈ t) → l.map key = l'.map key → l = l'
  | [], [], _, _, _ => rfl
  | a :: l, b :: l', hl, hl', h => by
    obtain ⟨hab, hrest⟩ := List.cons.inj h
    rw [eq_of_key_eq (hl a List.mem_cons_self) (hl' b List.mem_cons_self) hab,
      eq_of_map_key_eq (fun c hc => hl c (List.mem_cons_of_mem a hc))
        (fun c hc => hl' c (List.mem_cons_of_mem b hc)) hrest]

instance decidableForall (t : Table key) (p : α → Prop) [DecidablePred p] :
    Decidable (∀ a ∈ t, p a) :=
  inferInstanceAs (Decidable (∀ a ∈ t.rows, p a))

instance decidableExists (t : Table key) (p : α → Prop) [DecidablePred p] :
    Decidable (∃ a ∈ t, p a) :=
  inferInstanceAs (Decidable (∃ a ∈ t.rows, p a))

instance decidableMem [DecidableEq α] (t : Table key) (a : α) : Decidable (a ∈ t) :=
  inferInstanceAs (Decidable (a ∈ t.rows))

def findFirst (t : Table key) (p : α → Bool) : Option α := t.rows.find? p

theorem findFirst_some {t : Table key} {p : α → Bool} {a : α}
    (h : t.findFirst p = some a) : a ∈ t ∧ p a = true :=
  ⟨List.mem_of_find?_eq_some h, List.find?_some h⟩

theorem findFirst_eq_some {t : Table key} {p : α → Bool} {a : α} (ha : a ∈ t)
    (hp : p a = true) (hkey : ∀ b, p b = true → key b = key a) : t.findFirst p = some a := by
  cases hf : t.findFirst p with
  | none => exact absurd hp (List.find?_eq_none.mp hf a ha)
  | some b =>
    obtain ⟨hb, hpb⟩ := findFirst_some hf
    rw [eq_of_key_eq hb ha (hkey b hpb)]

theorem findFirst_eq_some_iff {t : Table key} {p : α → Bool} {a : α}
    (h : ∀ b ∈ t, ∀ c ∈ t, p b = true → p c = true → b = c) :
    t.findFirst p = some a ↔ a ∈ t ∧ p a = true := by
  constructor
  · exact findFirst_some
  · rintro ⟨ha, hp⟩
    cases hf : t.findFirst p with
    | none => exact absurd hp (List.find?_eq_none.mp hf a ha)
    | some b =>
      obtain ⟨hb, hpb⟩ := findFirst_some hf
      rw [h b hb a ha hpb hp]

theorem length_filter_le_one {t : Table key} {p : α → Bool} :
    (t.rows.filter p).length ≤ 1 ↔ ∀ a ∈ t, ∀ b ∈ t, p a = true → p b = true → a = b := by
  have hnodup : (t.rows.filter p).Nodup := t.nodup.of_map.filter p
  constructor
  · intro h a ha b hb hpa hpb
    have ha' : a ∈ t.rows.filter p := List.mem_filter.mpr ⟨ha, hpa⟩
    have hb' : b ∈ t.rows.filter p := List.mem_filter.mpr ⟨hb, hpb⟩
    match hl : t.rows.filter p with
    | [] => simp [hl] at ha'
    | [c] =>
      rw [hl, List.mem_singleton] at ha' hb'
      rw [ha', hb']
    | c :: d :: l => simp [hl] at h
  · intro h
    match hl : t.rows.filter p with
    | [] => simp
    | [c] => simp
    | c :: d :: l =>
      have hc := List.mem_filter.mp (hl ▸ List.mem_cons_self : c ∈ t.rows.filter p)
      have hd := List.mem_filter.mp (hl ▸ by simp : d ∈ t.rows.filter p)
      rw [hl, h c hc.1 d hd.1 hc.2 hd.2] at hnodup
      simp at hnodup

/-- `deleteMany` of the rows that fail `p`. -/
def filter (t : Table key) (p : α → Bool) : Table key where
  rows := t.rows.filter p
  nodup := t.nodup.sublist (List.filter_sublist.map key)

theorem nodup_filterMap {β : Type*} {rows : List α} {f : α → Option β} {ident : β → κ}
    (h : (rows.map key).Nodup) (hident : ∀ a b, f a = some b → ident b = key a) :
    ((rows.filterMap f).map ident).Nodup := by
  refine List.pairwise_map.mpr (List.pairwise_filterMap.mpr ?_)
  refine (List.pairwise_map.mp h).imp fun hne b hb b' hb' heq => hne ?_
  rw [← hident _ _ hb, ← hident _ _ hb', heq]

section DecidableKey

variable [DecidableEq κ]

def findUnique (t : Table key) (k : κ) : Option α := t.rows.find? (key · = k)

theorem findUnique_eq_some {t : Table key} {k : κ} {a : α} :
    t.findUnique k = some a ↔ a ∈ t ∧ key a = k := by
  constructor
  · intro h
    exact ⟨List.mem_of_find?_eq_some h, by simpa using List.find?_some h⟩
  · rintro ⟨ha, hk⟩
    cases hf : t.findUnique k with
    | none =>
      have hne := List.find?_eq_none.mp hf a ha
      simp [hk] at hne
    | some b =>
      have hb : b ∈ t := List.mem_of_find?_eq_some hf
      have hkb : key b = k := by simpa using List.find?_some hf
      rw [eq_of_key_eq hb ha (hkb.trans hk.symm)]

theorem any_findUnique {t : Table key} {k : κ} {p : α → Bool} :
    (t.findUnique k).any p = true ↔ ∃ a ∈ t, key a = k ∧ p a = true := by
  simp only [Option.any_eq_true, findUnique_eq_some, and_assoc]

/-- `create`: refused when the key is taken. -/
def insert (t : Table key) (a : α) : Option (Table key) :=
  if h : key a ∈ t.rows.map key then none
  else some ⟨t.rows ++ [a], by
    rw [List.map_append, List.nodup_append]
    refine ⟨t.nodup, by simp, ?_⟩
    intro k hk k' hk' heq
    simp only [List.map_cons, List.map_nil, List.mem_singleton] at hk'
    exact h (by rwa [← hk', ← heq])⟩

theorem mem_insert {t t' : Table key} {a b : α} (h : t.insert a = some t') :
    b ∈ t' ↔ b ∈ t ∨ b = a := by
  unfold insert at h
  split_ifs at h with hk
  obtain rfl := Option.some.inj h
  simp [mem_rows]

theorem fresh_of_insert {t t' : Table key} {a b : α} (h : t.insert a = some t')
    (hb : b ∈ t) : key b ≠ key a := by
  unfold insert at h
  split_ifs at h with hk
  intro heq
  exact hk (List.mem_map.mpr ⟨b, hb, heq⟩)

theorem insert_eq_some {t t' : Table key} {a : α} :
    t.insert a = some t' ↔ t'.rows = t.rows ++ [a] := by
  unfold insert
  by_cases hk : key a ∈ t.rows.map key
  · rw [dif_pos hk]
    refine iff_of_false nofun fun hrows => ?_
    have hnodup := t'.nodup
    rw [hrows, List.map_append, List.nodup_append] at hnodup
    exact hnodup.2.2 (key a) hk (key a) (List.mem_singleton_self _) rfl
  · rw [dif_neg hk]
    constructor
    · intro h
      rw [← Option.some.inj h]
    · intro hrows
      exact congrArg some (eq_of_rows_eq hrows.symm)

theorem exists_insert {t : Table key} {a : α} :
    (∃ t', t.insert a = some t') ↔ ∀ b ∈ t, key b ≠ key a := by
  unfold insert
  by_cases hk : key a ∈ t.rows.map key
  · obtain ⟨b, hb, hba⟩ := List.mem_map.mp hk
    rw [dif_pos hk]
    exact iff_of_false (by simp) fun h => h b hb hba
  · rw [dif_neg hk]
    exact iff_of_true ⟨_, rfl⟩ fun b hb hba => hk (List.mem_map.mpr ⟨b, hb, hba⟩)

theorem mem_of_mem_getD_insert {t : Table key} {a b : α} (h : b ∈ (t.insert a).getD t) :
    b ∈ t ∨ b = a := by
  cases hinsert : t.insert a with
  | none =>
    rw [hinsert] at h
    exact .inl h
  | some t' =>
    rw [hinsert] at h
    exact (mem_insert hinsert).mp h

theorem mem_getD_insert {t : Table key} {a b : α} (hb : b ∈ t) : b ∈ (t.insert a).getD t := by
  cases hinsert : t.insert a with
  | none => exact hb
  | some t' => exact (mem_insert hinsert).mpr (.inl hb)

theorem exists_key_getD_insert {t : Table key} {a : α} :
    ∃ b ∈ (t.insert a).getD t, key b = key a := by
  cases hinsert : t.insert a with
  | none =>
    by_contra hfresh
    obtain ⟨t', ht'⟩ := exists_insert.mpr fun b hb hkey => hfresh ⟨b, hb, hkey⟩
    rw [Option.getD_none, hinsert] at ht'
    cases ht'
  | some t' => exact ⟨a, (mem_insert hinsert).mpr (.inr rfl), rfl⟩

theorem findUnique_insert {t t' : Table key} {a : α} (h : t.insert a = some t') (k : κ) :
    t'.findUnique k = if key a = k then some a else t.findUnique k := by
  by_cases hk : key a = k
  · rw [if_pos hk]
    exact findUnique_eq_some.mpr ⟨(mem_insert h).mpr (.inr rfl), hk⟩
  · rw [if_neg hk]
    refine Option.ext fun b => ?_
    rw [findUnique_eq_some, findUnique_eq_some, mem_insert h]
    constructor
    · rintro ⟨hb | rfl, hbk⟩
      · exact ⟨hb, hbk⟩
      · exact absurd hbk hk
    · exact fun hb => ⟨.inl hb.1, hb.2⟩

def modify (t : Table key) (k : κ) (p : Patch key) : Table key where
  rows := t.rows.map fun a => if key a = k then p.apply a else a
  nodup := by
    have hkeys : (t.rows.map fun a => if key a = k then p.apply a else a).map key =
        t.rows.map key := by
      rw [List.map_map]
      refine List.map_congr_left fun a _ => ?_
      by_cases hk : key a = k <;> simp [hk, p.key_apply]
    rw [hkeys]
    exact t.nodup

theorem mem_modify {t : Table key} {k : κ} {p : Patch key} {b : α} :
    b ∈ t.modify k p ↔ (∃ a ∈ t, key a = k ∧ b = p.apply a) ∨ (b ∈ t ∧ key b ≠ k) := by
  simp only [mem_rows, modify, List.mem_map]
  constructor
  · rintro ⟨a, ha, hab⟩
    by_cases hk : key a = k
    · exact .inl ⟨a, ha, hk, by rw [← hab, if_pos hk]⟩
    · rw [if_neg hk] at hab
      exact .inr ⟨hab ▸ ha, hab ▸ hk⟩
  · rintro (⟨a, ha, hk, rfl⟩ | ⟨hb, hk⟩)
    · exact ⟨a, ha, by rw [if_pos hk]⟩
    · exact ⟨b, hb, by rw [if_neg hk]⟩

theorem mem_modify_iff {t : Table key} {p : Patch key} {a b : α} (ha : a ∈ t) :
    b ∈ t.modify (key a) p ↔ b = p.apply a ∨ (b ∈ t ∧ key b ≠ key a) := by
  rw [mem_modify]
  constructor
  · rintro (⟨c, hc, hk, rfl⟩ | h)
    · exact .inl (by rw [eq_of_key_eq hc ha hk])
    · exact .inr h
  · rintro (rfl | h)
    · exact .inl ⟨a, ha, rfl, rfl⟩
    · exact .inr h

theorem apply_mem_modify {t : Table key} {p : Patch key} {a : α} (ha : a ∈ t) :
    p.apply a ∈ t.modify (key a) p :=
  (mem_modify_iff ha).mpr (.inl rfl)

theorem mem_modify_of_ne {t : Table key} {k : κ} {p : Patch key} {a : α} (ha : a ∈ t)
    (hk : key a ≠ k) : a ∈ t.modify k p :=
  mem_modify.mpr (.inr ⟨ha, hk⟩)

theorem modify_eq_self {t : Table key} {p : Patch key} {a : α} (ha : a ∈ t)
    (hp : p.apply a = a) : t.modify (key a) p = t := by
  refine eq_of_rows_eq ?_
  have hrows : t.rows.map (fun b => if key b = key a then p.apply b else b) = t.rows.map id := by
    refine List.map_congr_left fun b hb => ?_
    split_ifs with hk
    · rw [eq_of_key_eq hb ha hk]
      exact hp
    · rfl
  exact hrows.trans (List.map_id t.rows)

theorem findUnique_modify {t : Table key} {p : Patch key} {a : α} (ha : a ∈ t) :
    (t.modify (key a) p).findUnique (key a) = some (p.apply a) :=
  findUnique_eq_some.mpr ⟨apply_mem_modify ha, p.key_apply a⟩

theorem findUnique_modify_eq {t : Table key} {k k' : κ} {p : Patch key} :
    (t.modify k' p).findUnique k =
      (t.findUnique k).map fun a => if key a = k' then p.apply a else a := by
  have hsame : (fun b => decide (key b = k)) ∘ (fun a => if key a = k' then p.apply a else a) =
      fun a => decide (key a = k) := by
    funext a
    by_cases hk : key a = k' <;> simp [hk, p.key_apply]
  rw [findUnique, modify, List.find?_map, hsame]
  rfl

theorem findFirst_insert {t t' : Table key} {a : α} {p : α → Bool} (h : t.insert a = some t') :
    t'.findFirst p = (t.findFirst p).or (if p a then some a else none) := by
  rw [findFirst, insert_eq_some.mp h, List.find?_append]
  cases hp : p a <;> simp [hp, findFirst]

theorem findFirst_modify {t : Table key} {k : κ} {patch : Patch key} {p : α → Bool}
    (hp : ∀ a, p (patch.apply a) = p a) :
    (t.modify k patch).findFirst p =
      (t.findFirst p).map fun a => if key a = k then patch.apply a else a := by
  have hsame : p ∘ (fun a => if key a = k then patch.apply a else a) = p := by
    funext a
    by_cases hk : key a = k <;> simp [hk, hp]
  rw [findFirst, modify, List.find?_map, hsame]
  rfl

theorem filter_insert {t t' : Table key} {a : α} {p : α → Bool} (h : t.insert a = some t')
    (ha : p a = false) : t'.rows.filter p = t.rows.filter p := by
  rw [insert_eq_some.mp h, List.filter_append, List.filter_singleton, ha]
  exact List.append_nil _

theorem filter_modify {t : Table key} {k : κ} {patch : Patch key} {p : α → Bool}
    (h : ∀ a, key a = k → p a = false) : (t.modify k patch).rows.filter p = t.rows.filter p := by
  have hrow : ∀ a, p (if key a = k then patch.apply a else a) = p a := by
    intro a
    split_ifs with hk
    · rw [h a hk, h (patch.apply a) ((patch.key_apply a).trans hk)]
    · rfl
  rw [modify, List.filter_map]
  have hsame : p ∘ (fun a => if key a = k then patch.apply a else a) = p := funext hrow
  rw [hsame]
  refine (List.map_congr_left fun a ha => if_neg fun hk => ?_).trans (List.map_id _)
  have hp := (List.mem_filter.mp ha).2
  rw [h a hk] at hp
  cases hp

theorem forall_modify {t : Table key} {k : κ} {p : Patch key} {P : α → Prop}
    (hP : ∀ a ∈ t, P a) (hp : ∀ a ∈ t, key a = k → P (p.apply a)) :
    ∀ b ∈ t.modify k p, P b := by
  intro b hb
  rcases mem_modify.mp hb with ⟨a, ha, hk, rfl⟩ | ⟨hb, -⟩
  · exact hp a ha hk
  · exact hP b hb

/-- Of the rows that count, the change of one row takes it out or puts it in. -/
theorem countP_modify {t : Table key} {p : Patch key} {q : α → Bool} {a : α} (ha : a ∈ t) :
    (t.modify (key a) p).rows.countP q + (if q a then 1 else 0) =
      t.rows.countP q + if q (p.apply a) then 1 else 0 := by
  obtain ⟨rows, hnodup⟩ := t
  change (rows.map fun b => if key b = key a then p.apply b else b).countP q + _ =
    rows.countP q + _
  change a ∈ rows at ha
  induction rows with
  | nil => exact absurd ha List.not_mem_nil
  | cons b rows ih =>
    obtain ⟨hfresh, hrest⟩ := List.nodup_cons.mp hnodup
    rw [List.map_cons, List.countP_cons, List.countP_cons]
    by_cases hkey : key b = key a
    · have hsame : rows.map (fun c => if key c = key a then p.apply c else c) = rows.map id := by
        refine List.map_congr_left fun c hc => if_neg fun hc' => hfresh ?_
        rw [hkey, ← hc']
        exact List.mem_map_of_mem hc
      have hab : a = b := by
        rcases List.mem_cons.mp ha with hab | hrows
        · exact hab
        · exact absurd (hkey ▸ List.mem_map_of_mem hrows) hfresh
      rw [hsame, List.map_id, if_pos hkey, ← hab]
      omega
    · have hrows : a ∈ rows := by
        rcases List.mem_cons.mp ha with hab | hrows
        · exact absurd (congrArg key hab).symm hkey
        · exact hrows
      have hcount := ih hrest hrows
      rw [if_neg hkey]
      omega

end DecidableKey

end Table
