import Towerdesk.Lib.Run
import Towerdesk.Lib.Span
import Towerdesk.Units.Service

/-!
# The current owner and the ownership history

A unit names its owner twice: in its own column and by the open row of its history. One
helper keeps the two together and is told the owner by its callers, for which leaving
the owner out, clearing it and naming it are three different things.
-/

namespace Towerdesk.Units

def UnitOwnership.span (o : UnitOwnership) : Span Date := ⟨o.startDate, o.endDate⟩

/-- An open row of the unit that is not the owner's. -/
def stale (unitId : Id) (ownerId : Option Id) (o : UnitOwnership) : Bool :=
  o.unitId = unitId ∧ o.endDate = none ∧ some o.ownerId ≠ ownerId

/-- The unit's column and its history, as of an instant. -/
structure Coherent (clock : Date) (units : Table UnitRecord.id) (history : Table UnitOwnership.id) :
    Prop where
  referenced : ∀ o ∈ history, ∃ u ∈ units, u.id = o.unitId
  current : ∀ u ∈ units, ∀ ownerId, u.ownerId = some ownerId ↔
    ∃ o ∈ history, o.unitId = u.id ∧ o.endDate = none ∧ o.ownerId = ownerId
  started : ∀ o ∈ history, o.startDate ≤ clock
  ended : ∀ o ∈ history, ∀ e, o.endDate = some e → o.startDate ≤ e ∧ e ≤ clock
  apart : ∀ o ∈ history, ∀ o' ∈ history, o.unitId = o'.unitId → o.id ≠ o'.id →
    (UnitOwnership.span o).Apart (UnitOwnership.span o')

section Sync

variable {env : Env} {orgId unitId : Id} {ownerId : Option Id} {t t' : OwnershipTable}

section Active

variable {x : Id}

theorem mem_activeRows {o : UnitOwnership} :
    o ∈ activeRows t unitId ↔ o ∈ t.table ∧ o.unitId = unitId ∧ o.endDate = none := by
  simp [activeRows, Table.mem_rows]

theorem not_stale_of_no_active (h : (activeRows t unitId).isEmpty = true) :
    ∀ o ∈ t.table, stale unitId ownerId o = false := by
  intro o ho
  have hnone : ¬ (o.unitId = unitId ∧ o.endDate = none) := fun hopen => by
    have hmem := mem_activeRows.mpr ⟨ho, hopen⟩
    rw [List.isEmpty_iff.mp h] at hmem
    cases hmem
  simp only [stale, decide_eq_false_iff_not]
  exact fun hstale => hnone ⟨hstale.1, hstale.2.1⟩

theorem isSome_find_active :
    ((activeRows t unitId).find? (·.ownerId = x)).isSome = true ↔
      ∃ o ∈ t.table, o.unitId = unitId ∧ o.endDate = none ∧ o.ownerId = x := by
  simp only [List.find?_isSome, mem_activeRows, decide_eq_true_eq, and_assoc]

theorem not_stale_of_single
    (howned : ∃ o ∈ t.table, o.unitId = unitId ∧ o.endDate = none ∧ o.ownerId = x)
    (hsingle : (activeRows t unitId).length = 1) :
    ∀ o ∈ t.table, stale unitId (some x) o = false := by
  obtain ⟨o, ho, hunit, hopen, rfl⟩ := howned
  obtain ⟨a, ha⟩ := List.length_eq_one_iff.mp hsingle
  intro o' ho'
  simp only [stale, decide_eq_false_iff_not]
  rintro ⟨hunit', hopen', hne⟩
  have hmem := mem_activeRows.mpr ⟨ho, hunit, hopen⟩
  have hmem' := mem_activeRows.mpr ⟨ho', hunit', hopen'⟩
  rw [ha, List.mem_singleton] at hmem hmem'
  exact hne (by rw [hmem, hmem'])

theorem endStale_ok {q : UnitOwnership → Bool} (hq : q = stale unitId ownerId)
    (h : (if (activeRows t unitId).isEmpty then .ok t
      else t.write (.updateMany q (UnitOwnership.ended env.now))) = .ok t') :
    t'.table = t.table.modifyWhere (stale unitId ownerId) (UnitOwnership.ended env.now) := by
  subst hq
  split at h
  · next hempty =>
    cases h
    exact (Table.modifyWhere_eq_self (not_stale_of_no_active hempty)).symm
  · exact Table.apply_updateMany.mp (Constrained.write_eq_ok.mp h)

theorem closeOthers_ok (h : closeOthers env unitId x t = .ok t') :
    t'.table = t.table.modifyWhere (stale unitId (some x)) (UnitOwnership.ended env.now) :=
  endStale_ok (funext fun o => by simp [stale]) h

end Active

/-- The history after a call: the stale rows of the unit are ended, and a row is opened for an
owner who has none. -/
theorem syncCurrentOwner_ok (h : syncCurrentOwner env orgId unitId ownerId t = .ok t') :
    (t'.table =
        t.table.modifyWhere (stale unitId (truthy ownerId)) (UnitOwnership.ended env.now) ∧
      ∀ x, truthy ownerId = some x →
        ∃ o ∈ t.table, o.unitId = unitId ∧ o.endDate = none ∧ o.ownerId = x) ∨
    ∃ x, truthy ownerId = some x ∧
      (∀ o ∈ t.table, o.unitId = unitId → o.endDate = none → o.ownerId ≠ x) ∧
      (t.table.modifyWhere (stale unitId (truthy ownerId)) (UnitOwnership.ended env.now)).insert
        ⟨env.ownershipId, orgId, unitId, x, env.now, none⟩ = some t'.table := by
  unfold syncCurrentOwner at h
  cases howner : truthy ownerId with
  | none =>
    simp only [howner] at h
    exact .inl ⟨endStale_ok (funext fun o => by simp [stale]) h, fun x hx => by cases hx⟩
  | some x =>
    simp only [howner] at h
    split at h
    · next hmatch =>
      cases h
      have howned := isSome_find_active.mp hmatch.1
      refine .inl ⟨(Table.modifyWhere_eq_self (not_stale_of_single howned hmatch.2)).symm, ?_⟩
      rintro _ ⟨⟩
      exact howned
    · obtain ⟨t₁, hclose, h⟩ := Outcome.bind_eq_ok.mp h
      have ht₁ := closeOthers_ok hclose
      split at h
      · next hfind =>
        cases h
        refine .inl ⟨ht₁, ?_⟩
        rintro _ ⟨⟩
        exact isSome_find_active.mp hfind
      · next hfind =>
        have hinsert := Table.apply_create.mp (Constrained.write_eq_ok.mp h)
        rw [ht₁] at hinsert
        refine .inr ⟨x, rfl, fun o ho hunit hopen hox => hfind ?_, hinsert⟩
        exact isSome_find_active.mpr ⟨o, ho, hunit, hopen, hox⟩

theorem sync_row (h : syncCurrentOwner env orgId unitId ownerId t = .ok t') {o : UnitOwnership}
    (ho : o ∈ t'.table) :
    (o ∈ t.table ∧ stale unitId (truthy ownerId) o = false) ∨
      (∃ a ∈ t.table, stale unitId (truthy ownerId) a = true ∧
        o = { a with endDate := some env.now }) ∨
      (∃ x, truthy ownerId = some x ∧
        (∀ a ∈ t.table, a.unitId = unitId → a.endDate = none → a.ownerId ≠ x) ∧
        o = ⟨env.ownershipId, orgId, unitId, x, env.now, none⟩) := by
  have hold : o ∈ t.table.modifyWhere (stale unitId (truthy ownerId))
      (UnitOwnership.ended env.now) →
      (o ∈ t.table ∧ stale unitId (truthy ownerId) o = false) ∨
        ∃ a ∈ t.table, stale unitId (truthy ownerId) a = true ∧
          o = { a with endDate := some env.now } := by
    intro hmem
    rcases Table.mem_modifyWhere.mp hmem with ⟨a, ha, hstale, heq⟩ | hkept
    · exact .inr ⟨a, ha, hstale, heq⟩
    · exact .inl hkept
  rcases syncCurrentOwner_ok h with ⟨heq, -⟩ | ⟨x, hx, hnone, hinsert⟩
  · rcases hold (heq ▸ ho) with hkept | hclosed
    · exact .inl hkept
    · exact .inr (.inl hclosed)
  · rcases (Table.mem_insert hinsert).mp ho with hmem | hnew
    · rcases hold hmem with hkept | hclosed
      · exact .inl hkept
      · exact .inr (.inl hclosed)
    · exact .inr (.inr ⟨x, hx, hnone, hnew⟩)

theorem sync_keeps (h : syncCurrentOwner env orgId unitId ownerId t = .ok t') {o : UnitOwnership}
    (ho : o ∈ t.table) (hstale : stale unitId (truthy ownerId) o = false) : o ∈ t'.table := by
  have hmem : o ∈ t.table.modifyWhere (stale unitId (truthy ownerId))
      (UnitOwnership.ended env.now) := Table.mem_modifyWhere.mpr (.inr ⟨ho, hstale⟩)
  rcases syncCurrentOwner_ok h with ⟨heq, -⟩ | ⟨x, -, -, hinsert⟩
  · exact heq ▸ hmem
  · exact (Table.mem_insert hinsert).mpr (.inl hmem)

theorem sync_opens (h : syncCurrentOwner env orgId unitId ownerId t = .ok t') {x : Id}
    (hx : truthy ownerId = some x) :
    ∃ o ∈ t'.table, o.unitId = unitId ∧ o.endDate = none ∧ o.ownerId = x := by
  rcases syncCurrentOwner_ok h with ⟨-, hmatch⟩ | ⟨y, hy, -, hinsert⟩
  · obtain ⟨o, ho, hunit, hopen, howner⟩ := hmatch x hx
    have hstale : stale unitId (truthy ownerId) o = false := by
      simp [stale, hx, howner]
    exact ⟨o, sync_keeps h ho hstale, hunit, hopen, howner⟩
  · have hxy : y = x := Option.some.inj (hy.symm.trans hx)
    exact ⟨_, (Table.mem_insert hinsert).mpr (.inr rfl), rfl, rfl, hxy⟩

end Sync

section Coherence

/-- One unit's owner is set; every other unit keeps its own. -/
structure OwnedBy (units units' : Table UnitRecord.id) (unitId : Id) (ownerId : Option Id) :
    Prop where
  owner : ∀ u ∈ units', u.id = unitId → u.ownerId = ownerId
  others : ∀ u' ∈ units', u'.id ≠ unitId → ∃ u ∈ units, u.id = u'.id ∧ u.ownerId = u'.ownerId
  kept : ∀ u ∈ units, ∃ u' ∈ units', u'.id = u.id
  present : ∃ u ∈ units', u.id = unitId

/-- Every unit keeps its owner, and a new one has none. -/
structure OwnersKept (units units' : Table UnitRecord.id) : Prop where
  owners : ∀ u' ∈ units', (∃ u ∈ units, u.id = u'.id ∧ u.ownerId = u'.ownerId) ∨
    ((∀ u ∈ units, u.id ≠ u'.id) ∧ u'.ownerId = none)
  kept : ∀ u ∈ units, ∃ u' ∈ units', u'.id = u.id

variable {clock now : Date} {units units' : Table UnitRecord.id}
  {history : Table UnitOwnership.id}

theorem Coherent.later (h : Coherent clock units history) (hle : clock ≤ now) :
    Coherent now units history where
  referenced := h.referenced
  current := h.current
  started o ho := (h.started o ho).trans hle
  ended o ho e he := ⟨(h.ended o ho e he).1, (h.ended o ho e he).2.trans hle⟩
  apart := h.apart

theorem Coherent.keep (h : Coherent clock units history) (hkept : OwnersKept units units') :
    Coherent clock units' history where
  referenced o ho := by
    obtain ⟨u, hu, hid⟩ := h.referenced o ho
    obtain ⟨u', hu', hid'⟩ := hkept.kept u hu
    exact ⟨u', hu', hid'.trans hid⟩
  current u' hu' x := by
    rcases hkept.owners u' hu' with ⟨u, hu, hid, howner⟩ | ⟨hnew, hnone⟩
    · rw [← howner, ← hid]
      exact h.current u hu x
    · rw [hnone]
      constructor
      · intro hx
        cases hx
      · rintro ⟨o, ho, hunit, -⟩
        obtain ⟨u, hu, hid⟩ := h.referenced o ho
        exact absurd (hid.trans hunit) (hnew u hu)
  started := h.started
  ended := h.ended
  apart := h.apart

variable {env : Env} {orgId unitId : Id} {ownerId : Option Id} {t t' : OwnershipTable}

theorem sync_row_span (h : Coherent clock units t.table) (hle : clock ≤ env.now)
    (hsync : syncCurrentOwner env orgId unitId ownerId t = .ok t') {o : UnitOwnership}
    (ho : o ∈ t'.table) :
    (∃ a ∈ t.table, a.id = o.id ∧ a.unitId = o.unitId ∧
      ∀ instant, (UnitOwnership.span o).Covers instant → (UnitOwnership.span a).Covers instant) ∨
    (o.unitId = unitId ∧ ∀ a ∈ t'.table, a.unitId = unitId → a.id ≠ o.id →
      (UnitOwnership.span a).Before (UnitOwnership.span o)) := by
  rcases sync_row hsync ho with ⟨hmem, -⟩ | ⟨a, ha, hstale, rfl⟩ | ⟨x, hx, hnone, rfl⟩
  · exact .inl ⟨o, hmem, rfl, rfl, fun _ hc => hc⟩
  · have hopen : (UnitOwnership.span a).stop = none := (of_decide_eq_true hstale).2.1
    exact .inl ⟨a, ha, rfl, rfl, fun _ hc => Span.covers_of_covers_endAt hopen hc⟩
  · refine .inr ⟨rfl, fun a ha hunit hid => ?_⟩
    rcases sync_row hsync ha with ⟨hmem, hstale⟩ | ⟨b, -, -, rfl⟩ | ⟨y, -, -, rfl⟩
    · cases hend : a.endDate with
      | none =>
        have howner : a.ownerId ≠ x := hnone a hmem hunit hend
        simp [stale, hunit, hend, hx, howner] at hstale
      | some e => exact ⟨e, hend, (h.ended a hmem e hend).2.trans hle⟩
    · exact ⟨env.now, rfl, le_rfl⟩
    · exact absurd rfl hid

theorem Coherent.sync (h : Coherent clock units t.table) (hle : clock ≤ env.now)
    (howned : OwnedBy units units' unitId (truthy ownerId))
    (hsync : syncCurrentOwner env orgId unitId ownerId t = .ok t') :
    Coherent env.now units' t'.table where
  referenced o ho := by
    have hunit (a : UnitOwnership) (ha : a ∈ t.table) : ∃ u ∈ units', u.id = a.unitId := by
      obtain ⟨u, hu, hid⟩ := h.referenced a ha
      obtain ⟨u', hu', hid'⟩ := howned.kept u hu
      exact ⟨u', hu', hid'.trans hid⟩
    rcases sync_row hsync ho with ⟨hmem, -⟩ | ⟨a, ha, -, rfl⟩ | ⟨x, -, -, rfl⟩
    · exact hunit o hmem
    · exact hunit a ha
    · exact howned.present
  current u' hu' x := by
    by_cases hid : u'.id = unitId
    · rw [howned.owner u' hu' hid, hid]
      constructor
      · exact fun hx => sync_opens hsync hx
      · rintro ⟨o, ho, hunit, hopen, rfl⟩
        rcases sync_row hsync ho with ⟨-, hstale⟩ | ⟨a, -, -, rfl⟩ | ⟨y, hy, -, rfl⟩
        · by_contra hne
          simp [stale, hunit, hopen, Ne.symm hne] at hstale
        · cases hopen
        · exact hy
    · obtain ⟨u, hu, hsame, howner⟩ := howned.others u' hu' hid
      rw [← howner, ← hsame, h.current u hu x]
      constructor
      · rintro ⟨o, ho, hunit, hopen, hx⟩
        have hstale : stale unitId (truthy ownerId) o = false := by
          simp [stale, hunit, hsame, hid]
        exact ⟨o, sync_keeps hsync ho hstale, hunit, hopen, hx⟩
      · rintro ⟨o, ho, hunit, hopen, hx⟩
        rcases sync_row hsync ho with ⟨hmem, -⟩ | ⟨a, -, -, rfl⟩ | ⟨y, -, -, rfl⟩
        · exact ⟨o, hmem, hunit, hopen, hx⟩
        · cases hopen
        · exact absurd (hsame.symm.trans hunit.symm) hid
  started o ho := by
    rcases sync_row hsync ho with ⟨hmem, -⟩ | ⟨a, ha, -, rfl⟩ | ⟨x, -, -, rfl⟩
    · exact (h.started o hmem).trans hle
    · exact (h.started a ha).trans hle
    · exact le_rfl
  ended o ho e he := by
    rcases sync_row hsync ho with ⟨hmem, -⟩ | ⟨a, ha, -, rfl⟩ | ⟨x, -, -, rfl⟩
    · exact ⟨(h.ended o hmem e he).1, (h.ended o hmem e he).2.trans hle⟩
    · cases he
      exact ⟨(h.started a ha).trans hle, le_rfl⟩
    · cases he
  apart o ho o' ho' hunit hid := by
    rcases sync_row_span h hle hsync ho with ⟨a, ha, haid, haunit, hcover⟩ | ⟨hnew, hbefore⟩
    · rcases sync_row_span h hle hsync ho' with ⟨b, hb, hbid, hbunit, hcover'⟩ | ⟨hnew, hbefore⟩
      · have hapart := h.apart a ha b hb (haunit.trans (hunit.trans hbunit.symm))
          (by rw [haid, hbid]; exact hid)
        exact ((hapart.mono hcover).symm.mono hcover').symm
      · exact (hbefore o ho (hunit.trans hnew) hid).apart
    · exact (hbefore o' ho' (hunit.symm.trans hnew) (Ne.symm hid)).apart.symm

end Coherence

section Rows

variable {db : Db} {unit : UnitRecord}

theorem referenceColumn_ok {α : Type} {find : Id → Option α} {id r : Option Id}
    (h : referenceColumn find id = .ok r) : r = id := by
  unfold referenceColumn at h
  split at h
  · cases h
    rfl
  · split at h
    · cases h
      rfl
    · cases h

theorem newUnit_ok {id buildingId : Id} {dto : CreateUnitDto}
    (h : newUnit db id buildingId dto = .ok unit) :
    unit.id = id ∧ unit.ownerId = ownerIdOf dto.ownerId := by
  simp only [newUnit, Outcome.bind_eq_ok, Outcome.pure_eq_ok] at h
  obtain ⟨columns, -, unitTypeId, -, ownerId, howner, rfl⟩ := h
  exact ⟨rfl, referenceColumn_ok howner⟩

theorem updatedOwner_ok {field : Field Uuid} {r : Option Id}
    (h : updatedOwner db unit field = .ok r) :
    r = if field.isUndefined then unit.ownerId else truthy (ownerIdOf field) := by
  unfold updatedOwner at h
  split at h
  · next hundefined =>
    cases h
    rw [if_pos hundefined]
  · next hgiven =>
    rw [if_neg hgiven]
    exact referenceColumn_ok h

theorem updatedUnit_ok {dto : UpdateUnitDto} {updated : UnitRecord}
    (h : updatedUnit db unit dto = .ok updated) :
    updated.ownerId =
      if dto.ownerId.isUndefined then unit.ownerId else truthy (ownerIdOf dto.ownerId) := by
  simp only [updatedUnit, Outcome.bind_eq_ok, Outcome.pure_eq_ok] at h
  obtain ⟨columns, -, label, -, status, -, unitTypeId, -, ownerId, howner, rfl⟩ := h
  exact updatedOwner_ok howner

end Rows

section Writes

variable {units units' units'' : UnitTable} {unit : UnitRecord}

theorem OwnersKept.refl (t : Table UnitRecord.id) : OwnersKept t t where
  owners u hu := .inl ⟨u, hu, rfl, rfl⟩
  kept u hu := ⟨u, hu, rfl⟩

theorem OwnersKept.trans {t t' t'' : Table UnitRecord.id} (h : OwnersKept t t')
    (h' : OwnersKept t' t'') : OwnersKept t t'' where
  owners u hu := by
    rcases h'.owners u hu with ⟨v, hv, hid, howner⟩ | ⟨hnew, hnone⟩
    · rcases h.owners v hv with ⟨w, hw, hid', howner'⟩ | ⟨hnew, hnone⟩
      · exact .inl ⟨w, hw, hid'.trans hid, howner'.trans howner⟩
      · exact .inr ⟨fun w hw => hid ▸ hnew w hw, howner ▸ hnone⟩
    · refine .inr ⟨fun w hw hid => ?_, hnone⟩
      obtain ⟨v, hv, hid'⟩ := h.kept w hw
      exact hnew v hv (hid'.trans hid)
  kept u hu := by
    obtain ⟨v, hv, hid⟩ := h.kept u hu
    obtain ⟨w, hw, hid'⟩ := h'.kept v hv
    exact ⟨w, hw, hid'.trans hid⟩

theorem ownedBy_of_create (h : units.write (.create unit) = .ok units') :
    OwnedBy units.table units'.table unit.id unit.ownerId := by
  have hinsert := Table.apply_create.mp (Constrained.write_eq_ok.mp h)
  refine ⟨fun u hu hid => ?_, fun u hu hid => ?_, fun u hu => ?_, ?_⟩
  · rcases (Table.mem_insert hinsert).mp hu with hold | rfl
    · exact absurd hid (Table.fresh_of_insert hinsert hold)
    · rfl
  · rcases (Table.mem_insert hinsert).mp hu with hold | rfl
    · exact ⟨u, hold, rfl, rfl⟩
    · exact absurd rfl hid
  · exact ⟨u, (Table.mem_insert hinsert).mpr (.inl hu), rfl⟩
  · exact ⟨unit, (Table.mem_insert hinsert).mpr (.inr rfl), rfl⟩

theorem ownersKept_of_create (h : units.write (.create unit) = .ok units')
    (hnone : unit.ownerId = none) : OwnersKept units.table units'.table := by
  have hinsert := Table.apply_create.mp (Constrained.write_eq_ok.mp h)
  refine ⟨fun u hu => ?_, fun u hu => ?_⟩
  · rcases (Table.mem_insert hinsert).mp hu with hold | rfl
    · exact .inl ⟨u, hold, rfl, rfl⟩
    · exact .inr ⟨fun v hv => Table.fresh_of_insert hinsert hv, hnone⟩
  · exact ⟨u, (Table.mem_insert hinsert).mpr (.inl hu), rfl⟩

theorem ownedBy_of_update {updated : UnitRecord} (hunit : unit ∈ units.table)
    (h : units.write (.update unit.id updated.replace) = .ok units') :
    OwnedBy units.table units'.table unit.id updated.ownerId := by
  obtain ⟨-, htable⟩ := Table.apply_update.mp (Constrained.write_eq_ok.mp h)
  rw [htable]
  refine ⟨fun u hu hid => ?_, fun u hu hid => ?_, fun u hu => ?_, ?_⟩
  · rcases (Table.mem_modify_iff hunit).mp hu with rfl | ⟨-, hne⟩
    · rfl
    · exact absurd hid hne
  · rcases (Table.mem_modify_iff hunit).mp hu with rfl | ⟨hold, -⟩
    · exact absurd rfl hid
    · exact ⟨u, hold, rfl, rfl⟩
  · by_cases hid : u.id = unit.id
    · exact ⟨_, Table.apply_mem_modify hunit, hid.symm⟩
    · exact ⟨u, Table.mem_modify_of_ne hu hid, rfl⟩
  · exact ⟨_, Table.apply_mem_modify hunit, rfl⟩

theorem OwnedBy.ownersKept {t t' : Table UnitRecord.id} (h : OwnedBy t t' unit.id unit.ownerId)
    (hunit : unit ∈ t) : OwnersKept t t' where
  owners u hu := by
    by_cases hid : u.id = unit.id
    · exact .inl ⟨unit, hunit, hid.symm, (h.owner u hu hid).symm⟩
    · exact .inl (h.others u hu hid)
  kept := h.kept

end Writes

section Steps

variable {env : Env} {db db' : Db} {clock : Date} {user : Option AuthenticatedUser}
  {buildingId unitId : Id}

theorem importRow_keeps {mode : UnitsImportMode} {amenityIds : List Id} {s s' : ImportState}
    {entry : ℕ × CreateUnitDto} (howner : entry.2.ownerId = .undefined)
    (h : importRow env db buildingId mode amenityIds s entry = .ok s') :
    OwnersKept s.units.table s'.units.table := by
  have hcreate (h : importCreate env db buildingId amenityIds entry.2 s = .ok s') :
      OwnersKept s.units.table s'.units.table := by
    simp only [importCreate, Outcome.bind_eq_ok, Outcome.pure_eq_ok, Outcome.mapError_eq_ok] at h
    obtain ⟨unit, hunit, units, hwrite, rfl⟩ := h
    refine ownersKept_of_create hwrite ((newUnit_ok hunit).2.trans ?_)
    rw [howner]
    rfl
  unfold importRow at h
  split at h
  · next existing _ =>
    simp only [importUpdate, Outcome.bind_eq_ok, Outcome.pure_eq_ok, Outcome.mapError_eq_ok,
      Outcome.orThrow_eq_ok] at h
    obtain ⟨current, hcurrent, updated, hupdated, units, hwrite, rfl⟩ := h
    have hmem := (Table.findUnique_eq_some.mp hcurrent).1
    have hsame : updated.ownerId = current.ownerId := by
      rw [updatedUnit_ok hupdated]
      simp [CreateUnitDto.asUpdate, howner, Field.isUndefined]
    have howned := ownedBy_of_update hmem hwrite
    rw [hsame] at howned
    exact howned.ownersKept hmem
  · exact hcreate h

theorem importRows_keeps {mode : UnitsImportMode} {amenityIds : List Id} {s s' : ImportState}
    {units : List (ℕ × CreateUnitDto)} (howner : ∀ u ∈ units, u.2.ownerId = .undefined)
    (h : units.foldlM (importRow env db buildingId mode amenityIds) s = .ok s') :
    OwnersKept s.units.table s'.units.table := by
  induction units generalizing s with
  | nil =>
    cases Outcome.pure_eq_ok.mp h
    exact OwnersKept.refl _
  | cons entry units ih =>
    rw [List.foldlM_cons] at h
    obtain ⟨s₁, hrow, hrest⟩ := Outcome.bind_eq_ok.mp h
    exact (importRow_keeps (howner entry List.mem_cons_self) hrow).trans
      (ih (fun u hu => howner u (List.mem_cons_of_mem entry hu)) hrest)

theorem mem_of_findByIdForBuilding (h : findByIdForBuilding db buildingId unitId = .ok unit) :
    unit ∈ db.units.table :=
  (Table.findFirst_some (Outcome.orThrow_eq_ok.mp h)).1

theorem create_coherent {dto : CreateUnitDto}
    (hcoherent : Coherent clock db.units.table db.unitOwnerships.table) (hle : clock ≤ env.now)
    (h : create env db user buildingId dto = .ok db') :
    Coherent env.now db'.units.table db'.unitOwnerships.table := by
  simp only [create, Outcome.bind_eq_ok, Outcome.pure_eq_ok, Outcome.mapError_eq_ok] at h
  obtain ⟨orgId, -, -, -, -, -, -, -, amenityIds, -, -, -, unit, hunit, units, hwrite,
    unitOwnerships, hsync, rfl⟩ := h
  have howned := ownedBy_of_create hwrite
  rw [(newUnit_ok hunit).2, ← truthy_ownerIdOf] at howned
  exact hcoherent.sync hle howned hsync

theorem update_coherent {dto : UpdateUnitDto}
    (hcoherent : Coherent clock db.units.table db.unitOwnerships.table) (hle : clock ≤ env.now)
    (h : update env db user buildingId unitId dto = .ok db') :
    Coherent env.now db'.units.table db'.unitOwnerships.table := by
  simp only [update, Outcome.bind_eq_ok, Outcome.pure_eq_ok, Outcome.mapError_eq_ok] at h
  obtain ⟨orgId, -, -, -, unit, hfind, -, -, -, -, amenityIds, -, -, -, updated, hupdated,
    units, hwrite, unitOwnerships, hsync, rfl⟩ := h
  have hmem := mem_of_findByIdForBuilding hfind
  have howned := ownedBy_of_update hmem hwrite
  have howner := updatedUnit_ok hupdated
  unfold syncIfGiven at hsync
  split at hsync
  · next hundefined =>
    cases hsync
    rw [howner, if_pos hundefined] at howned
    exact (hcoherent.later hle).keep (howned.ownersKept hmem)
  · next hgiven =>
    rw [howner, if_neg hgiven] at howned
    exact hcoherent.sync hle howned hsync

theorem importCsv_keeps {file : Option ParsedCsv} {mode : Option UnitsImportMode} {dryRun : Bool}
    {response : ImportUnitsResponse}
    (h : importCsv env db user buildingId file mode dryRun = .ok (db', response)) :
    OwnersKept db.units.table db'.units.table ∧ db'.unitOwnerships = db.unitOwnerships := by
  have hrefused : db = db' →
      OwnersKept db.units.table db'.units.table ∧ db'.unitOwnerships = db.unitOwnerships := by
    rintro rfl
    exact ⟨OwnersKept.refl _, rfl⟩
  simp only [importCsv, Outcome.bind_eq_ok] at h
  obtain ⟨orgId, -, -, -, parsed, -, h⟩ := h
  split at h
  · exact hrefused (congrArg Prod.fst (Outcome.pure_eq_ok.mp h))
  · split at h
    · exact hrefused (congrArg Prod.fst (Outcome.pure_eq_ok.mp h))
    · split at h
      · exact hrefused (congrArg Prod.fst (Outcome.pure_eq_ok.mp h))
      · split at h
        · exact hrefused (congrArg Prod.fst (Outcome.pure_eq_ok.mp h))
        · simp only [Outcome.bind_eq_ok, Outcome.pure_eq_ok] at h
          obtain ⟨-, -, result, hrows, heq⟩ := h
          cases heq
          exact ⟨importRows_keeps (parseRows_ownerId env.platform) hrows, rfl⟩

theorem next_coherent (c : Env × Operation)
    (hcoherent : Coherent clock db.units.table db.unitOwnerships.table) (hle : clock ≤ c.1.now) :
    Coherent c.1.now (next c db).units.table (next c db).unitOwnerships.table := by
  rcases Outcome.orElseKeep_cases db (step c.1 db c.2) with hsame | hok
  · rw [next, hsame]
    exact hcoherent.later hle
  · change step c.1 db c.2 = .ok (next c db) at hok
    cases hop : c.2 with
    | create user buildingId dto =>
      rw [hop] at hok
      exact create_coherent hcoherent hle hok
    | update user buildingId unitId dto =>
      rw [hop] at hok
      exact update_coherent hcoherent hle hok
    | importCsv user buildingId file mode dryRun =>
      rw [hop] at hok
      obtain ⟨⟨db', response⟩, himport, heq⟩ := Outcome.map_eq_ok.mp hok
      obtain ⟨hkept, hsame⟩ := importCsv_keeps himport
      rw [← heq, hsame]
      exact (hcoherent.later hle).keep hkept

end Steps

section Runs

/-- Before anyone owned a unit. -/
structure Db.Unowned (db : Db) : Prop where
  units : ∀ u ∈ db.units.table, u.ownerId = none
  history : ∀ o, o ∉ db.unitOwnerships.table

theorem Db.Unowned.coherent {db : Db} (h : db.Unowned) (clock : Date) :
    Coherent clock db.units.table db.unitOwnerships.table where
  referenced o ho := absurd ho (h.history o)
  current u hu x := by
    rw [h.units u hu]
    constructor
    · intro hx
      cases hx
    · rintro ⟨o, ho, -⟩
      exact absurd ho (h.history o)
  started o ho := absurd ho (h.history o)
  ended o ho := absurd ho (h.history o)
  apart o ho := absurd ho (h.history o)

/-- The clock never goes back from one call to a later one. -/
def MonotoneClock (calls : List (Env × Operation)) : Prop :=
  calls.Pairwise fun c c' => c.1.now ≤ c'.1.now

instance (calls : List (Env × Operation)) : Decidable (MonotoneClock calls) :=
  inferInstanceAs (Decidable (calls.Pairwise fun c c' => c.1.now ≤ c'.1.now))

theorem exec_coherent {calls : List (Env × Operation)} {db : Db} {clock : Date}
    (hcoherent : Coherent clock db.units.table db.unitOwnerships.table)
    (hlater : ∀ c ∈ calls, clock ≤ c.1.now) (hmono : MonotoneClock calls) :
    ∃ clock, Coherent clock (Run.exec next db calls).units.table
      (Run.exec next db calls).unitOwnerships.table := by
  induction calls generalizing db clock with
  | nil => exact ⟨clock, hcoherent⟩
  | cons c calls ih =>
    have hpairs := List.pairwise_cons.mp hmono
    exact ih (next_coherent c hcoherent (hlater c List.mem_cons_self)) hpairs.1 hpairs.2

/-- A unit's column and its rows tell one story. -/
structure OwnerAgrees (history : Table UnitOwnership.id) (unit : UnitRecord) : Prop where
  oneOpen : ∀ o ∈ history, ∀ o' ∈ history, o.unitId = unit.id → o'.unitId = unit.id →
    o.endDate = none → o'.endDate = none → o = o'
  owner : ∀ o ∈ history, o.unitId = unit.id → o.endDate = none → unit.ownerId = some o.ownerId
  unowned : unit.ownerId = none ↔ ∀ o ∈ history, o.unitId = unit.id → o.endDate ≠ none
  ordered : ∀ o ∈ history, o.unitId = unit.id → ∀ e, o.endDate = some e → o.startDate ≤ e
  disjoint : ∀ o ∈ history, ∀ o' ∈ history, o.unitId = unit.id → o'.unitId = unit.id → o ≠ o' →
    (UnitOwnership.span o).Apart (UnitOwnership.span o')

theorem Coherent.ownerAgrees {clock : Date} {units : Table UnitRecord.id} {t : OwnershipTable}
    (h : Coherent clock units t.table) {unit : UnitRecord} (hunit : unit ∈ units) :
    OwnerAgrees t.table unit where
  oneOpen o ho o' ho' hu hu' hopen hopen' :=
    t.open_unique.eq ho ho' (if_pos hopen) ((if_pos hopen').trans (by rw [hu, hu']))
  owner o ho hu hopen := (h.current unit hunit o.ownerId).mpr ⟨o, ho, hu, hopen, rfl⟩
  unowned := by
    constructor
    · intro hnone o ho hu hopen
      have howner := (h.current unit hunit o.ownerId).mpr ⟨o, ho, hu, hopen, rfl⟩
      rw [hnone] at howner
      cases howner
    · intro hclosed
      cases howner : unit.ownerId with
      | none => rfl
      | some x =>
        obtain ⟨o, ho, hu, hopen, -⟩ := (h.current unit hunit x).mp howner
        exact absurd hopen (hclosed o ho hu)
  ordered o ho _ e he := (h.ended o ho e he).1
  disjoint o ho o' ho' hu hu' hne :=
    h.apart o ho o' ho' (hu.trans hu'.symm) fun hid => hne (Table.eq_of_key_eq ho ho' hid)

theorem current_owner_agrees_with_history {start : Db} (hunowned : start.Unowned)
    {calls : List (Env × Operation)} (hmono : MonotoneClock calls) :
    ∀ unit ∈ (Run.exec next start calls).units.table,
      OwnerAgrees (Run.exec next start calls).unitOwnerships.table unit := by
  intro unit hunit
  have hrun : ∃ clock, Coherent clock (Run.exec next start calls).units.table
      (Run.exec next start calls).unitOwnerships.table := by
    cases calls with
    | nil => exact ⟨0, hunowned.coherent 0⟩
    | cons c calls =>
      refine exec_coherent (hunowned.coherent c.1.now) (fun c' hc' => ?_) hmono
      rcases List.mem_cons.mp hc' with rfl | hmem
      · exact le_rfl
      · exact (List.pairwise_cons.mp hmono).1 c' hmem
  obtain ⟨clock, hcoherent⟩ := hrun
  exact hcoherent.ownerAgrees hunit

end Runs

section Sale

def firstOwner : Uuid := ⟨"11111111-1111-1111-1111-111111111111", by decide⟩

def nextOwner : Uuid := ⟨"22222222-2222-2222-2222-222222222222", by decide⟩

theorem nodup_saleBuildings :
    (([⟨"tower", "org", "Tower", "Dubai"⟩] : List Building).map Building.id).Nodup :=
  List.nodup_singleton _

def saleRegister : Db where
  buildings := ⟨[⟨"tower", "org", "Tower", "Dubai"⟩], nodup_saleBuildings⟩
  owners := ⟨[⟨firstOwner.val, "org", "First", true⟩, ⟨nextOwner.val, "org", "Next", true⟩], by decide⟩
  unitTypes := .empty _
  buildingAmenities := .empty _
  units := ⟨.empty _, by decide⟩
  unitAmenities := .empty _
  unitOwnerships := ⟨.empty _, by decide⟩

def saleAgent : Option AuthenticatedUser := some ⟨"agent", some "org"⟩

def saleEnv (now : Date) (ownershipId : Id) : Env where
  now
  unitId := "unit"
  ownershipId
  importedId _ := "imported"
  platform := ⟨id, id, fun _ => none, fun _ => none⟩

/-- A unit is created with an owner and sold to another the day after. -/
def sale : List (Env × Operation) :=
  [(saleEnv 1 "bought", .create saleAgent "tower"
      ⟨"101", .undefined, .value firstOwner, .undefined, fun _ => .undefined⟩),
    (saleEnv 2 "sold", .update saleAgent "tower" "unit"
      ⟨.undefined, .undefined, .undefined, .value nextOwner, .undefined, fun _ => .undefined⟩)]

theorem saleRegister_unowned : saleRegister.Unowned where
  units _ hu := absurd hu (Table.not_mem_empty _)
  history _ := Table.not_mem_empty _

theorem sold_unit_agrees_with_history :
    (Run.exec next saleRegister sale).unitOwnerships.table.rows =
        [⟨"bought", "org", "unit", firstOwner.val, 1, some 2⟩,
          ⟨"sold", "org", "unit", nextOwner.val, 2, none⟩] ∧
      ∀ unit ∈ (Run.exec next saleRegister sale).units.table,
        OwnerAgrees (Run.exec next saleRegister sale).unitOwnerships.table unit :=
  ⟨by decide, current_owner_agrees_with_history saleRegister_unowned (by decide)⟩

end Sale

end Towerdesk.Units
