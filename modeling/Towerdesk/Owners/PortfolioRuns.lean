import Towerdesk.Owners.Portfolio

/-!
# Portfolios over runs of the units service

A unit names its owner in a column, and a portfolio is read from the history of the ownerships.
As every call of the units service keeps the two in line, and writes the organisation of the
unit's building to the history, a portfolio has the units whose column names an owner that the
user reaches, and nothing is ever read from the column itself.
-/

namespace Towerdesk.Owners.Portfolio

open Towerdesk.Units (Coherent MonotoneClock OwnershipTable UnitRecord UnitTable
  mem_of_findByIdForBuilding next_coherent sync_row syncCurrentOwner syncIfGiven)

section Placement

/-- Units stand in buildings and buildings belong to organisations; an ownership has the
organisation of the building that its unit stands in. -/
structure Placed (orgs : Table Org.id) (db : Units.Db) : Prop where
  building : ∀ b ∈ db.buildings, ∃ org ∈ orgs, org.id = b.orgId
  unit : ∀ u ∈ db.units.table, ∃ b ∈ db.buildings, b.id = u.buildingId
  ownership : ∀ o ∈ db.unitOwnerships.table, ∀ u ∈ db.units.table, u.id = o.unitId →
    ∀ b ∈ db.buildings, b.id = u.buildingId → b.orgId = o.orgId

/-- Units stay in their buildings, and new ones stand in this one. -/
structure Settled (units units' : Table UnitRecord.id) (buildingId : Id) : Prop where
  row : ∀ u' ∈ units', (∃ u ∈ units, u.id = u'.id ∧ u.buildingId = u'.buildingId) ∨
    ((∀ u ∈ units, u.id ≠ u'.id) ∧ u'.buildingId = buildingId)
  kept : ∀ u ∈ units, ∃ u' ∈ units', u'.id = u.id

/-- The rows of the history are those there were, ended or not, and rows of such units. -/
def Continues (history history' : Table UnitOwnership.id) (orgId : Id) (units : Id → Prop) :
    Prop :=
  ∀ o' ∈ history', (∃ o ∈ history, o.unitId = o'.unitId ∧ o.orgId = o'.orgId) ∨
    (o'.orgId = orgId ∧ units o'.unitId)

variable {orgs : Table Org.id} {db db' : Units.Db} {clock : Date} {env : Units.Env}
  {orgId buildingId unitId : Id} {units units' units'' : Table UnitRecord.id}
  {user : Option AuthenticatedUser}

theorem Settled.refl (units : Table UnitRecord.id) : Settled units units buildingId where
  row u hu := .inl ⟨u, hu, rfl, rfl⟩
  kept u hu := ⟨u, hu, rfl⟩

theorem Settled.trans (h : Settled units units' buildingId)
    (h' : Settled units' units'' buildingId) : Settled units units'' buildingId where
  row u hu := by
    rcases h'.row u hu with ⟨v, hv, hid, hbuilding⟩ | ⟨hnew, hbuilding⟩
    · rcases h.row v hv with ⟨w, hw, hid', hbuilding'⟩ | ⟨hnew, hbuilding'⟩
      · exact .inl ⟨w, hw, hid'.trans hid, hbuilding'.trans hbuilding⟩
      · exact .inr ⟨fun w hw => hid ▸ hnew w hw, hbuilding ▸ hbuilding'⟩
    · refine .inr ⟨fun w hw hid => ?_, hbuilding⟩
      obtain ⟨v, hv, hid'⟩ := h.kept w hw
      exact hnew v hv (hid'.trans hid)
  kept u hu := by
    obtain ⟨v, hv, hid⟩ := h.kept u hu
    obtain ⟨w, hw, hid'⟩ := h'.kept v hv
    exact ⟨w, hw, hid'.trans hid⟩

theorem continues_refl {p : Id → Prop} (history : Table UnitOwnership.id) :
    Continues history history orgId p :=
  fun o ho => .inl ⟨o, ho, rfl, rfl⟩

theorem continues_of_sync {ownerId : Option Id} {t t' : OwnershipTable} {p : Id → Prop}
    (h : syncCurrentOwner env orgId unitId ownerId t = .ok t') (hunit : p unitId) :
    Continues t.table t'.table orgId p := by
  intro o ho
  rcases sync_row h ho with ⟨hmem, -⟩ | ⟨a, ha, -, rfl⟩ | ⟨x, -, -, rfl⟩
  · exact .inl ⟨o, hmem, rfl, rfl⟩
  · exact .inl ⟨a, ha, rfl, rfl⟩
  · exact .inr ⟨rfl, hunit⟩

theorem Placed.step (h : Placed orgs db)
    (hcoherent : Coherent clock db.units.table db.unitOwnerships.table)
    (hbuildings : db'.buildings = db.buildings)
    (hunits : Settled db.units.table db'.units.table buildingId)
    (hhistory : Continues db.unitOwnerships.table db'.unitOwnerships.table orgId fun unitId =>
      ∀ u ∈ db'.units.table, u.id = unitId → u.buildingId = buildingId)
    (hbuilding : ∃ b ∈ db.buildings, b.id = buildingId ∧ b.orgId = orgId) :
    Placed orgs db' where
  building b hb := h.building b (hbuildings ▸ hb)
  unit u' hu' := by
    rw [hbuildings]
    rcases hunits.row u' hu' with ⟨u, hu, -, hsame⟩ | ⟨-, hsame⟩
    · obtain ⟨b, hb, hid⟩ := h.unit u hu
      exact ⟨b, hb, hid.trans hsame⟩
    · obtain ⟨b, hb, hid, -⟩ := hbuilding
      exact ⟨b, hb, hid.trans hsame.symm⟩
  ownership o' ho' u' hu' hid b hb hstands := by
    rw [hbuildings] at hb
    rcases hhistory o' ho' with ⟨o, ho, hounit, horg⟩ | ⟨horg, hhere⟩
    · rcases hunits.row u' hu' with ⟨u, hu, huid, hsame⟩ | ⟨hnew, -⟩
      · rw [← horg]
        exact h.ownership o ho u hu (huid.trans (hid.trans hounit.symm)) b hb
          (hstands.trans hsame.symm)
      · obtain ⟨u, hu, huid⟩ := hcoherent.referenced o ho
        exact absurd (huid.trans (hounit.trans hid.symm)) (hnew u hu)
    · obtain ⟨b₀, hb₀, hid₀, horg₀⟩ := hbuilding
      have hstands₀ : b.id = b₀.id :=
        (hstands.trans (hhere u' hu' hid)).trans hid₀.symm
      rw [Table.eq_of_key_eq hb hb₀ hstands₀, horg₀, horg]

theorem settled_of_create {table table' : UnitTable} {unit : UnitRecord}
    (h : table.write (.create unit) = .ok table') :
    Settled table.table table'.table unit.buildingId := by
  have hinsert := Table.apply_create.mp (Constrained.write_eq_ok.mp h)
  refine ⟨fun u hu => ?_, fun u hu => ⟨u, (Table.mem_insert hinsert).mpr (.inl hu), rfl⟩⟩
  rcases (Table.mem_insert hinsert).mp hu with hold | rfl
  · exact .inl ⟨u, hold, rfl, rfl⟩
  · exact .inr ⟨fun v hv => Table.fresh_of_insert hinsert hv, rfl⟩

theorem settled_of_update {table table' : UnitTable} {unit updated : UnitRecord}
    (hunit : unit ∈ table.table)
    (h : table.write (.update unit.id updated.replace) = .ok table') :
    Settled table.table table'.table buildingId := by
  obtain ⟨-, htable⟩ := Table.apply_update.mp (Constrained.write_eq_ok.mp h)
  rw [htable]
  refine ⟨fun u hu => .inl ?_, fun u hu => ?_⟩
  · rcases (Table.mem_modify_iff hunit).mp hu with rfl | ⟨hold, -⟩
    · exact ⟨unit, hunit, rfl, rfl⟩
    · exact ⟨u, hold, rfl, rfl⟩
  · by_cases hid : u.id = unit.id
    · exact ⟨_, Table.apply_mem_modify hunit, hid.symm⟩
    · exact ⟨u, Table.mem_modify_of_ne hu hid, rfl⟩

theorem building_of_findByIdForOrg {b : Building}
    (h : Units.findByIdForOrg db orgId buildingId = .ok b) :
    ∃ b ∈ db.buildings, b.id = buildingId ∧ b.orgId = orgId := by
  obtain ⟨hb, hp⟩ := Table.findFirst_some (Outcome.orThrow_eq_ok.mp h)
  exact ⟨b, hb, of_decide_eq_true hp⟩

theorem newUnit_buildingId {id : Id} {dto : Units.CreateUnitDto} {unit : UnitRecord}
    (h : Units.newUnit db id buildingId dto = .ok unit) : unit.buildingId = buildingId := by
  simp only [Units.newUnit, Outcome.bind_eq_ok, Outcome.pure_eq_ok] at h
  obtain ⟨columns, -, unitTypeId, -, ownerId, -, rfl⟩ := h
  rfl

theorem create_placed {dto : Units.CreateUnitDto} (h : Placed orgs db)
    (hcoherent : Coherent clock db.units.table db.unitOwnerships.table)
    (hcreate : Units.create env db user buildingId dto = .ok db') : Placed orgs db' := by
  simp only [Units.create, Outcome.bind_eq_ok, Outcome.pure_eq_ok, Outcome.mapError_eq_ok]
    at hcreate
  obtain ⟨orgId, -, building, hbuilding, -, -, -, -, amenityIds, -, -, -, unit, hunit, units,
    hwrite, unitOwnerships, hsync, rfl⟩ := hcreate
  have hstands := newUnit_buildingId hunit
  have hsettled := settled_of_create hwrite
  rw [hstands] at hsettled
  have hinsert := Table.apply_create.mp (Constrained.write_eq_ok.mp hwrite)
  refine h.step hcoherent rfl hsettled (continues_of_sync hsync fun u hu hid => ?_)
    (building_of_findByIdForOrg hbuilding)
  rcases (Table.mem_insert hinsert).mp hu with hold | rfl
  · exact absurd hid (Table.fresh_of_insert hinsert hold)
  · exact hstands

theorem update_placed {dto : Units.UpdateUnitDto} (h : Placed orgs db)
    (hcoherent : Coherent clock db.units.table db.unitOwnerships.table)
    (hupdate : Units.update env db user buildingId unitId dto = .ok db') : Placed orgs db' := by
  simp only [Units.update, Outcome.bind_eq_ok, Outcome.pure_eq_ok, Outcome.mapError_eq_ok]
    at hupdate
  obtain ⟨orgId, -, building, hbuilding, unit, hfind, -, -, -, -, amenityIds, -, -, -, updated,
    hupdated, units, hwrite, unitOwnerships, hsync, rfl⟩ := hupdate
  have hmem := mem_of_findByIdForBuilding hfind
  have hstands : unit.buildingId = buildingId :=
    (of_decide_eq_true (Table.findFirst_some (Outcome.orThrow_eq_ok.mp hfind)).2).2
  have hhere : ∀ u ∈ units.table, u.id = unit.id → u.buildingId = buildingId := by
    intro u hu hid
    obtain ⟨-, htable⟩ := Table.apply_update.mp (Constrained.write_eq_ok.mp hwrite)
    rw [htable] at hu
    rcases (Table.mem_modify_iff hmem).mp hu with rfl | ⟨-, hne⟩
    · exact hstands
    · exact absurd hid hne
  refine h.step hcoherent rfl (settled_of_update hmem hwrite) ?_
    (building_of_findByIdForOrg hbuilding)
  unfold syncIfGiven at hsync
  split at hsync
  · cases hsync
    exact continues_refl _
  · exact continues_of_sync hsync hhere

theorem importRow_settled {mode : Units.UnitsImportMode} {amenityIds : List Id}
    {s s' : Units.ImportState} {entry : ℕ × Units.CreateUnitDto}
    (h : Units.importRow env db buildingId mode amenityIds s entry = .ok s') :
    Settled s.units.table s'.units.table buildingId := by
  have hcreate (h : Units.importCreate env db buildingId amenityIds entry.2 s = .ok s') :
      Settled s.units.table s'.units.table buildingId := by
    simp only [Units.importCreate, Outcome.bind_eq_ok, Outcome.pure_eq_ok,
      Outcome.mapError_eq_ok] at h
    obtain ⟨unit, hunit, units, hwrite, rfl⟩ := h
    rw [← newUnit_buildingId hunit]
    exact settled_of_create hwrite
  unfold Units.importRow at h
  split at h
  · simp only [Units.importUpdate, Outcome.bind_eq_ok, Outcome.pure_eq_ok, Outcome.mapError_eq_ok,
      Outcome.orThrow_eq_ok] at h
    obtain ⟨current, hcurrent, updated, hupdated, units, hwrite, rfl⟩ := h
    exact settled_of_update (Table.findUnique_eq_some.mp hcurrent).1 hwrite
  · exact hcreate h

theorem importRows_settled {mode : Units.UnitsImportMode} {amenityIds : List Id}
    {rows : List (ℕ × Units.CreateUnitDto)} {s s' : Units.ImportState}
    (h : rows.foldlM (Units.importRow env db buildingId mode amenityIds) s = .ok s') :
    Settled s.units.table s'.units.table buildingId := by
  induction rows generalizing s with
  | nil =>
    cases Outcome.pure_eq_ok.mp h
    exact .refl _
  | cons entry rows ih =>
    rw [List.foldlM_cons] at h
    obtain ⟨s₁, hrow, hrest⟩ := Outcome.bind_eq_ok.mp h
    exact (importRow_settled hrow).trans (ih hrest)

theorem importCsv_placed {file : Option Units.ParsedCsv} {mode : Option Units.UnitsImportMode}
    {dryRun : Bool} {response : Units.ImportUnitsResponse} (h : Placed orgs db)
    (hcoherent : Coherent clock db.units.table db.unitOwnerships.table)
    (himport : Units.importCsv env db user buildingId file mode dryRun = .ok (db', response)) :
    Placed orgs db' := by
  simp only [Units.importCsv, Outcome.bind_eq_ok] at himport
  obtain ⟨orgId, -, building, hbuilding, parsed, -, himport⟩ := himport
  have hrefused (heq : db = db') : Placed orgs db' := heq ▸ h
  split at himport
  · exact hrefused (congrArg Prod.fst (Outcome.pure_eq_ok.mp himport))
  · split at himport
    · exact hrefused (congrArg Prod.fst (Outcome.pure_eq_ok.mp himport))
    · split at himport
      · exact hrefused (congrArg Prod.fst (Outcome.pure_eq_ok.mp himport))
      · split at himport
        · exact hrefused (congrArg Prod.fst (Outcome.pure_eq_ok.mp himport))
        · simp only [Outcome.bind_eq_ok, Outcome.pure_eq_ok] at himport
          obtain ⟨-, -, result, hrows, heq⟩ := himport
          cases heq
          exact h.step hcoherent rfl (importRows_settled hrows) (continues_refl _)
            (building_of_findByIdForOrg hbuilding)

theorem next_placed (c : Units.Env × Units.Operation) (h : Placed orgs db)
    (hcoherent : Coherent clock db.units.table db.unitOwnerships.table) :
    Placed orgs (Units.next c db) := by
  rcases Outcome.orElseKeep_cases db (Units.step c.1 db c.2) with hsame | hok
  · rw [Units.next, hsame]
    exact h
  · change Units.step c.1 db c.2 = .ok (Units.next c db) at hok
    cases hop : c.2 with
    | create user buildingId dto =>
      rw [hop] at hok
      exact create_placed h hcoherent hok
    | update user buildingId unitId dto =>
      rw [hop] at hok
      exact update_placed h hcoherent hok
    | importCsv user buildingId file mode dryRun =>
      rw [hop] at hok
      obtain ⟨⟨db', response⟩, himport, heq⟩ := Outcome.map_eq_ok.mp hok
      rw [← heq]
      exact importCsv_placed h hcoherent himport

theorem exec_placed {calls : List (Units.Env × Units.Operation)} (h : Placed orgs db)
    (hcoherent : Coherent clock db.units.table db.unitOwnerships.table)
    (hlater : ∀ c ∈ calls, clock ≤ c.1.now) (hmono : MonotoneClock calls) :
    Placed orgs (Run.exec Units.next db calls) := by
  induction calls generalizing db clock with
  | nil => exact h
  | cons c calls ih =>
    have hpairs := List.pairwise_cons.mp hmono
    exact ih (next_placed c h hcoherent)
      (next_coherent c hcoherent (hlater c List.mem_cons_self)) hpairs.1 hpairs.2

end Placement

section Columns

variable {orgs : Table Org.id} {grants : Table OwnerAccessGrant.id} {db : Units.Db} {clock : Date}
  {localeCompare : String → String → Ordering} {userId : Id} {row : PortfolioUnitRow}

def unitRow (db : Units.Db) (u : UnitRecord) : UnitRow where
  id := u.id
  buildingId := u.buildingId
  label := u.label
  ownerId := u.ownerId
  unitTypeName := (u.unitTypeId.bind db.unitTypes.findUnique).map (·.name)

/-- What a portfolio is read from, as the units service leaves it. -/
def holdingsOf (orgs : Table Org.id) (grants : Table OwnerAccessGrant.id) (db : Units.Db) :
    Holdings where
  orgs
  buildings := db.buildings
  units := ⟨db.units.table.rows.map (unitRow db), by
    rw [List.map_map]
    exact db.units.table.nodup⟩
  owners := db.owners
  ownerAccessGrants := grants
  unitOwnerships := db.unitOwnerships.table

/-- The row of a unit whose column names this owner. -/
def columnRow (building : Building) (org : Org) (unit : UnitRecord) (ownerId : Id) :
    PortfolioUnitRow :=
  ⟨org.id, org.name, ownerId, unit.id, building.id, building.name, unit.label⟩

/-- A portfolio has the units whose column names an owner that the user reaches, and none of
them is read from the column. -/
structure FollowsColumns (orgs : Table Org.id) (grants : Table OwnerAccessGrant.id)
    (localeCompare : String → String → Ordering) (userId : Id) (db : Units.Db) : Prop where
  noFallback : fallbackUnits (holdingsOf orgs grants db) userId
    (getAccessibleOwnerIds (holdingsOf orgs grants db) userId) none = []
  listed : ∀ row, row ∈ listAccessibleUnits (holdingsOf orgs grants db) localeCompare userId ↔
    ∃ unit ∈ db.units.table, ∃ building ∈ db.buildings, ∃ org ∈ orgs, ∃ ownerId,
      unit.ownerId = some ownerId ∧
        isReached (holdingsOf orgs grants db) userId ownerId = true ∧
          building.id = unit.buildingId ∧ org.id = building.orgId ∧
            row = columnRow building org unit ownerId

theorem mem_holdings_units {u : UnitRow} : u ∈ (holdingsOf orgs grants db).units ↔
    ∃ unit ∈ db.units.table, unitRow db unit = u :=
  List.mem_map

theorem fallbackUnits_eq_nil {ownerIds : List Id}
    (h : Coherent clock db.units.table db.unitOwnerships.table) :
    fallbackUnits (holdingsOf orgs grants db) userId ownerIds none = [] := by
  have hnone : (holdingsOf orgs grants db).units.rows.filter (fun u =>
      u.ownerId.any (· ∈ ownerIds) ∧
        u.ownerId.any (isReached (holdingsOf orgs grants db) userId) ∧
          ((holdingsOf orgs grants db).unitOwnerships.rows.all fun o =>
            ¬ (o.unitId = u.id ∧ o.endDate = none)) ∧
          (truthy (none : Option Id)).all (u.id = ·)) = [] := by
    refine List.filter_eq_nil_iff.mpr fun u hu hp => ?_
    obtain ⟨unit, hunit, rfl⟩ := mem_holdings_units.mp hu
    obtain ⟨hnamed, -, hclosed, -⟩ := of_decide_eq_true hp
    obtain ⟨ownerId, howner, -⟩ := (Option.any_eq_true _ _).mp hnamed
    obtain ⟨o, ho, hounit, hopen, -⟩ := (h.current unit hunit ownerId).mp howner
    exact of_decide_eq_true (List.all_eq_true.mp hclosed o ho) ⟨hounit, hopen⟩
  rw [fallbackUnits, hnone, List.filterMap_nil]

theorem findUnique_unit {unit : UnitRecord} (hunit : unit ∈ db.units.table) :
    (holdingsOf orgs grants db).units.findUnique unit.id = some (unitRow db unit) :=
  Table.findUnique_eq_some.mpr ⟨mem_holdings_units.mpr ⟨unit, hunit, rfl⟩, rfl⟩

theorem mem_ownershipRows (h : Coherent clock db.units.table db.unitOwnerships.table)
    (hplaced : Placed orgs db) :
    row ∈ ownershipRows (holdingsOf orgs grants db) userId
        (getAccessibleOwnerIds (holdingsOf orgs grants db) userId) none ↔
      ∃ unit ∈ db.units.table, ∃ building ∈ db.buildings, ∃ org ∈ orgs, ∃ ownerId,
        unit.ownerId = some ownerId ∧
          isReached (holdingsOf orgs grants db) userId ownerId = true ∧
            building.id = unit.buildingId ∧ org.id = building.orgId ∧
              row = columnRow building org unit ownerId := by
  rw [ownershipRows, List.mem_filterMap]
  constructor
  · rintro ⟨o, ho, hrow⟩
    obtain ⟨ho, hp⟩ := List.mem_filter.mp ho
    obtain ⟨-, hopen, hreached, -⟩ := of_decide_eq_true hp
    obtain ⟨org, horg, hrow⟩ := Option.bind_eq_some_iff.mp hrow
    obtain ⟨u, hu, hrow⟩ := Option.bind_eq_some_iff.mp hrow
    obtain ⟨building, hfind, hrow⟩ := Option.bind_eq_some_iff.mp hrow
    obtain ⟨horg, horgId⟩ := Table.findUnique_eq_some.mp horg
    obtain ⟨hu, hid⟩ := Table.findUnique_eq_some.mp hu
    obtain ⟨unit, hunit, rfl⟩ := mem_holdings_units.mp hu
    obtain ⟨hbuilding, hstands⟩ := Table.findUnique_eq_some.mp hfind
    have howner : unit.ownerId = some o.ownerId :=
      (h.current unit hunit o.ownerId).mpr ⟨o, ho, hid.symm, hopen, rfl⟩
    have horgs : building.orgId = o.orgId :=
      hplaced.ownership o ho unit hunit hid building hbuilding hstands
    exact ⟨unit, hunit, building, hbuilding, org, horg, o.ownerId, howner, hreached, hstands,
      horgId.trans horgs.symm, (Option.some.inj hrow).symm⟩
  · rintro ⟨unit, hunit, building, hbuilding, org, horg, ownerId, howner, hreached, hstands,
      horgId, rfl⟩
    obtain ⟨o, ho, hounit, hopen, rfl⟩ := (h.current unit hunit ownerId).mp howner
    refine ⟨o, List.mem_filter.mpr ⟨ho, decide_eq_true
      ⟨mem_getAccessibleOwnerIds.mpr hreached, hopen, hreached, rfl⟩⟩, ?_⟩
    have horgs : building.orgId = o.orgId :=
      hplaced.ownership o ho unit hunit hounit.symm building hbuilding hstands
    have hfindOrg : (holdingsOf orgs grants db).orgs.findUnique o.orgId = some org :=
      Table.findUnique_eq_some.mpr ⟨horg, horgId.trans horgs⟩
    have hfindBuilding : (holdingsOf orgs grants db).buildings.findUnique
        (unitRow db unit).buildingId = some building :=
      Table.findUnique_eq_some.mpr ⟨hbuilding, hstands⟩
    rw [hfindOrg, hounit, findUnique_unit hunit]
    simp only [Option.bind_eq_bind, Option.bind_some, hfindBuilding]
    rfl

theorem consistent_ownershipRows (h : Coherent clock db.units.table db.unitOwnerships.table)
    (hplaced : Placed orgs db) :
    Regroup.Consistent (·.unitId) (ownershipRows (holdingsOf orgs grants db) userId
      (getAccessibleOwnerIds (holdingsOf orgs grants db) userId) none) := by
  intro a ha b hb hab
  obtain ⟨unit, hunit, building, hbuilding, org, horg, ownerId, howner, -, hstands, horgId, rfl⟩ :=
    (mem_ownershipRows h hplaced).mp ha
  obtain ⟨unit', hunit', building', hbuilding', org', horg', ownerId', howner', -, hstands',
    horgId', rfl⟩ := (mem_ownershipRows h hplaced).mp hb
  obtain rfl : unit = unit' := Table.eq_of_key_eq hunit hunit' hab
  obtain rfl : building = building' :=
    Table.eq_of_key_eq hbuilding hbuilding' (hstands.trans hstands'.symm)
  obtain rfl : org = org' := Table.eq_of_key_eq horg horg' (horgId.trans horgId'.symm)
  rw [Option.some.inj (howner.symm.trans howner')]

theorem followsColumns (h : Coherent clock db.units.table db.unitOwnerships.table)
    (hplaced : Placed orgs db) : FollowsColumns orgs grants localeCompare userId db where
  noFallback := fallbackUnits_eq_nil h
  listed row := by
    rw [listAccessibleUnits, mem_load, scopeRows, fallbackUnits_eq_nil h, List.append_nil,
      Regroup.entries_of_consistent (consistent_ownershipRows h hplaced),
      ← mem_ownershipRows h hplaced]
    exact and_iff_left rfl

/-- Before anyone owned a unit, in buildings of these organisations. -/
structure Fresh (orgs : Table Org.id) (db : Units.Db) : Prop where
  unowned : db.Unowned
  building : ∀ b ∈ db.buildings, ∃ org ∈ orgs, org.id = b.orgId
  unit : ∀ u ∈ db.units.table, ∃ b ∈ db.buildings, b.id = u.buildingId

theorem Fresh.placed (h : Fresh orgs db) : Placed orgs db where
  building := h.building
  unit := h.unit
  ownership o ho := absurd ho (h.unowned.history o)

theorem exists_clock {calls : List (Units.Env × Units.Operation)} (h : MonotoneClock calls) :
    ∃ clock : Date, ∀ c ∈ calls, clock ≤ c.1.now := by
  cases calls with
  | nil => exact ⟨0, fun c hc => absurd hc List.not_mem_nil⟩
  | cons c calls =>
    refine ⟨c.1.now, fun c' hc' => ?_⟩
    rcases List.mem_cons.mp hc' with rfl | hmem
    · exact le_rfl
    · exact (List.pairwise_cons.mp h).1 c' hmem

theorem portfolio_follows_columns {start : Units.Db} (hfresh : Fresh orgs start)
    {calls : List (Units.Env × Units.Operation)} (hmono : MonotoneClock calls)
    (grants : Table OwnerAccessGrant.id) (localeCompare : String → String → Ordering)
    (userId : Id) :
    FollowsColumns orgs grants localeCompare userId (Run.exec Units.next start calls) := by
  obtain ⟨clock, hlater⟩ := exists_clock hmono
  have hcoherent := hfresh.unowned.coherent clock
  obtain ⟨clock', hafter⟩ := Units.exec_coherent hcoherent hlater hmono
  exact followsColumns hafter (exec_placed hfresh.placed hcoherent hlater hmono)

def saleOrgs : Table Org.id := ⟨[⟨"org", "Org"⟩], List.nodup_singleton _⟩

/-- The portal of the owner that the unit is sold to. -/
def saleGrants : Table OwnerAccessGrant.id :=
  ⟨[⟨"grant", some "buyer", Units.nextOwner.val, .ACTIVE⟩], List.nodup_singleton _⟩

theorem saleRegister_fresh : Fresh saleOrgs Units.saleRegister where
  unowned := Units.saleRegister_unowned
  building := by decide
  unit _ hu := absurd hu (Table.not_mem_empty _)

theorem portfolio_follows_columns_sale :
    listAccessibleUnits (holdingsOf saleOrgs saleGrants
        (Run.exec Units.next Units.saleRegister Units.sale)) compare "buyer" =
      [⟨"org", "Org", Units.nextOwner.val, "unit", "tower", "Tower", "101"⟩] ∧
    FollowsColumns saleOrgs saleGrants compare "buyer"
      (Run.exec Units.next Units.saleRegister Units.sale) :=
  ⟨by decide +kernel,
    portfolio_follows_columns saleRegister_fresh (by decide) saleGrants compare "buyer"⟩

end Columns

end Towerdesk.Owners.Portfolio
