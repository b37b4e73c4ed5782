import Towerdesk.Lib.Run
import Towerdesk.Units.SecondImport

/-!
# Importing units and creating them one by one

An import in CREATE mode and a creation make the same unit of the same form, with the default
amenities of the building and no owner. So where every row of a file can be written, the import
leaves what the single creations of its rows leave, but for the ids that are made up on the way.
Where a row cannot be written, the import leaves nothing, and the creations what came before it.
-/

namespace Towerdesk.Units

section Added

def UnitRecord.nameless (u : UnitRecord) : UnitRecord := { u with id := "" }

/-- The default amenities of the building, as those of a unit. -/
def defaultRows (db : Db) (buildingId : Id) (u : UnitRecord) : List UnitAmenity :=
  (getDefaultAmenityIds db buildingId).map fun amenityId => ⟨u.id, amenityId⟩

/-- Rows that name a unit name one that is there. -/
structure Db.Referential (db : Db) : Prop where
  amenities : ∀ a ∈ db.unitAmenities, ∃ u ∈ db.units.table, u.id = a.unitId
  ownerships : ∀ o ∈ db.unitOwnerships, ∃ u ∈ db.units.table, u.id = o.unitId

/-- The units that forms have been made into, one after the other. -/
structure Added (ids : ℕ → Id) (db : Db) (buildingId : Id) (forms : List CreateUnitDto)
    (new : List UnitRecord) (units : UnitTable) (unitAmenities : Table UnitAmenity.key) : Prop where
  unitRows : units.table.rows = db.units.table.rows ++ new
  amenityRows : unitAmenities.rows =
    db.unitAmenities.rows ++ new.flatMap (defaultRows db buildingId)
  made : forms.mapM (newUnit db "" buildingId) = .ok (new.map UnitRecord.nameless)
  grown : Upsert.Grown unitLabel ids db.units.table
    (forms.map fun dto => (buildingId, dto.label)) forms.length units.table

variable {ids : ℕ → Id} {db : Db} {buildingId id : Id} {forms : List CreateUnitDto}
  {dto : CreateUnitDto} {new : List UnitRecord} {unit : UnitRecord} {units units' : UnitTable}
  {unitAmenities : Table UnitAmenity.key}

theorem added_nil : Added ids db buildingId [] [] db.units db.unitAmenities where
  unitRows := (List.append_nil _).symm
  amenityRows := (List.append_nil _).symm
  made := rfl
  grown := Upsert.Grown.refl

theorem newUnit_nameless (h : newUnit db id buildingId dto = .ok unit) :
    newUnit db "" buildingId dto = .ok unit.nameless := by
  obtain ⟨columns, hcolumns, h⟩ := Outcome.bind_eq_ok.mp h
  obtain ⟨unitTypeId, htype, h⟩ := Outcome.bind_eq_ok.mp h
  obtain ⟨ownerId, howner, h⟩ := Outcome.bind_eq_ok.mp h
  rw [← Outcome.pure_eq_ok.mp h]
  exact Outcome.bind_eq_ok.mpr ⟨columns, hcolumns, Outcome.bind_eq_ok.mpr
    ⟨unitTypeId, htype, Outcome.bind_eq_ok.mpr ⟨ownerId, howner, rfl⟩⟩⟩

theorem nodup_defaultAmenityIds : (getDefaultAmenityIds db buildingId).Nodup :=
  db.buildingAmenities.nodup.sublist (List.filter_sublist.map _)

theorem addAmenities_rows {amenityIds : List Id} (hnodup : amenityIds.Nodup) :
    ∀ t : Table UnitAmenity.key, (∀ a ∈ t, a.unitId = id → a.amenityId ∉ amenityIds) →
      (addAmenities id amenityIds t).rows = t.rows ++ amenityIds.map fun a => ⟨id, a⟩ := by
  induction amenityIds with
  | nil => exact fun t _ => (List.append_nil _).symm
  | cons amenityId amenityIds ih =>
    intro t hnew
    obtain ⟨hhead, htail⟩ := List.nodup_cons.mp hnodup
    have hfresh : ∀ a ∈ t, a.key ≠ (⟨id, amenityId⟩ : UnitAmenity).key := by
      intro a ha hkey
      obtain ⟨hid, hamenity⟩ := Prod.mk.inj hkey
      exact hnew a ha hid (hamenity ▸ List.mem_cons_self)
    obtain ⟨t', hinsert⟩ := Table.exists_insert.mpr hfresh
    have hrest : ∀ a ∈ t', a.unitId = id → a.amenityId ∉ amenityIds := by
      intro a ha hid
      rcases (Table.mem_insert hinsert).mp ha with ha | rfl
      · exact fun hmem => hnew a ha hid (List.mem_cons_of_mem _ hmem)
      · exact hhead
    change (addAmenities id amenityIds ((t.insert ⟨id, amenityId⟩).getD t)).rows = _
    rw [hinsert, Option.getD_some, ih htail t' hrest, Table.insert_eq_some.mp hinsert,
      List.append_assoc]
    rfl

theorem Added.add (hreferential : db.Referential)
    (h : Added ids db buildingId forms new units unitAmenities)
    (hunit : newUnit db (ids forms.length) buildingId dto = .ok unit)
    (hwrite : units.write (.create unit) = .ok units') :
    Added ids db buildingId (forms ++ [dto]) (new ++ [unit]) units'
      (addAmenities unit.id (getDefaultAmenityIds db buildingId) unitAmenities) := by
  have hinsert := Table.apply_create.mp (Constrained.write_eq_ok.mp hwrite)
  have hnamed : ∀ a ∈ unitAmenities, ∃ u ∈ units.table, u.id = a.unitId := by
    intro a ha
    rw [Table.mem_rows, h.amenityRows] at ha
    rcases List.mem_append.mp ha with ha | ha
    · obtain ⟨u, hu, hid⟩ := hreferential.amenities a ha
      exact ⟨u, by rw [Table.mem_rows, h.unitRows]; exact List.mem_append_left _ hu, hid⟩
    · obtain ⟨u, hu, ha⟩ := List.mem_flatMap.mp ha
      obtain ⟨amenityId, -, rfl⟩ := List.mem_map.mp ha
      exact ⟨u, by rw [Table.mem_rows, h.unitRows]; exact List.mem_append_right _ hu, rfl⟩
  refine ⟨?_, ?_, ?_, ?_⟩
  · rw [Table.insert_eq_some.mp hinsert, h.unitRows, List.append_assoc]
  · rw [addAmenities_rows nodup_defaultAmenityIds, h.amenityRows, List.flatMap_append,
      List.append_assoc, List.flatMap_singleton]
    · rfl
    · intro a ha hid
      obtain ⟨u, hu, hua⟩ := hnamed a ha
      exact absurd (hua.trans hid) (Table.fresh_of_insert hinsert hu)
  · rw [List.mapM_append, h.made, List.map_append]
    exact Outcome.bind_eq_ok.mpr ⟨_, rfl, Outcome.bind_eq_ok.mpr ⟨[unit.nameless],
      Outcome.mapM_cons_eq_ok.mpr ⟨_, [], newUnit_nameless hunit, rfl, rfl⟩, rfl⟩⟩
  · rw [List.map_append, List.length_append]
    exact h.grown.insert hinsert (newUnit_row hunit).1 (newUnit_label hunit)

end Added

section Bulk

variable {env : Env} {db : Db} {buildingId : Id} {units : List (ℕ × CreateUnitDto)}
  {s s' : ImportState} {dto : CreateUnitDto} {amenityIds : List Id} {result : ImportState}

theorem importCreate_eq_ok :
    importCreate env db buildingId amenityIds dto s = .ok s' ↔
      ∃ unit units, newUnit db (env.importedId s.created) buildingId dto = .ok unit ∧
        s.units.write (.create unit) = .ok units ∧
          { s with
            units, unitAmenities := addAmenities unit.id amenityIds s.unitAmenities
            unitIds := s.unitIds ++ [unit.id], created := s.created + 1 } = s' := by
  simp only [importCreate, Outcome.bind_eq_ok, Outcome.mapError_eq_ok, Outcome.pure_eq_ok,
    exists_and_left]

theorem importRows_added (hreferential : db.Referential)
    (hchecked : Checked db buildingId .CREATE units)
    (h : importRows env db buildingId .CREATE (getDefaultAmenityIds db buildingId) units =
      .ok result) :
    ∃ new, Added env.importedId db buildingId (units.map (·.2)) new result.units
      result.unitAmenities := by
  have hrun := RowImport.foldlM_inv (I := fun front s => s.created = front.length ∧
      ∃ new, Added env.importedId db buildingId (front.map (·.2)) new s.units s.unitAmenities)
    (fun front entry back s s' hunits hfront hs' => ?_) ⟨rfl, [], added_nil⟩ h
  · exact hrun.2
  · obtain ⟨hcount, new, hadded⟩ := hfront
    have hentry : entry ∈ units := by simp [hunits]
    rw [importRow_eq hchecked hentry, hchecked.untaken rfl entry hentry] at hs'
    obtain ⟨unit, units', hunit, hwrite, rfl⟩ := importCreate_eq_ok.mp hs'
    have hlength : s.created = (front.map (·.2)).length := by rw [hcount, List.length_map]
    rw [hlength] at hunit
    refine ⟨?_, new ++ [unit], ?_⟩
    · rw [List.length_append]
      exact congrArg (· + 1) hcount
    · rw [List.map_append]
      exact hadded.add hreferential hunit hwrite

end Bulk

section Single

variable {env : Env} {envs : ℕ → Env} {db db' : Db} {user : Option AuthenticatedUser}
  {orgId buildingId : Id} {building : Building} {forms : List CreateUnitDto}
  {dto : CreateUnitDto} {unit : UnitRecord} {units : UnitTable}

/-- A form as a file gives it. -/
structure CreateUnitDto.FromFile (db : Db) (orgId : Id) (dto : CreateUnitDto) : Prop where
  imported : dto.Imported db
  amenityIds : dto.amenityIds = .undefined
  unitType : assertUnitTypeInOrg db orgId dto.unitTypeId.toOption = .ok ()

/-- The creation of each form in turn, at a call of its own. -/
def createEach (envs : ℕ → Env) (db : Db) (user : Option AuthenticatedUser) (buildingId : Id)
    (forms : List CreateUnitDto) : Db :=
  Run.exec next db (forms.zipIdx.map fun form => (envs form.2, .create user buildingId form.1))

theorem createEach_concat : createEach envs db user buildingId (forms ++ [dto]) =
    next (envs forms.length, .create user buildingId dto)
      (createEach envs db user buildingId forms) := by
  rw [createEach, List.zipIdx_append, List.map_append, List.zipIdx_singleton, List.map_singleton,
    Run.exec_concat, Nat.zero_add]
  rfl

theorem syncCurrentOwner_none {ownerships : OwnershipTable} {unitId : Id}
    (h : ∀ o ∈ ownerships, o.unitId ≠ unitId) :
    syncCurrentOwner env orgId unitId none ownerships = .ok ownerships := by
  have hnone : activeRows ownerships unitId = [] := by
    refine List.filter_eq_nil_iff.mpr fun o ho hactive => ?_
    exact h o ho (of_decide_eq_true hactive).1
  change (if (activeRows ownerships unitId).isEmpty then _ else _) = _
  rw [hnone]
  rfl

theorem create_ok (hscope : assertOrgScope user = .ok orgId)
    (hbuilding : findByIdForOrg db orgId buildingId = .ok building)
    (hform : dto.FromFile db orgId) (hunit : newUnit db env.unitId buildingId dto = .ok unit)
    (hwrite : db.units.write (.create unit) = .ok units)
    (hhistory : ∀ o ∈ db.unitOwnerships, o.unitId ≠ unit.id) :
    create env db user buildingId dto = .ok { db with
      units, unitAmenities :=
        addAmenities unit.id (getDefaultAmenityIds db buildingId) db.unitAmenities } := by
  refine Outcome.bind_eq_ok.mpr ⟨orgId, hscope, Outcome.bind_eq_ok.mpr ⟨building, hbuilding,
    Outcome.bind_eq_ok.mpr ⟨(), hform.unitType, Outcome.bind_eq_ok.mpr ⟨(), ?_,
    Outcome.bind_eq_ok.mpr ⟨getDefaultAmenityIds db buildingId, ?_,
    Outcome.bind_eq_ok.mpr ⟨(), assertAmenityIds_default,
    Outcome.bind_eq_ok.mpr ⟨unit, hunit, Outcome.bind_eq_ok.mpr ⟨units, ?_,
    Outcome.bind_eq_ok.mpr ⟨db.unitOwnerships, ?_, rfl⟩⟩⟩⟩⟩⟩⟩⟩⟩
  · rw [hform.imported.ownerId]
    rfl
  · rw [hform.amenityIds]
    rfl
  · exact Outcome.mapError_eq_ok.mpr hwrite
  · rw [hform.imported.ownerId]
    exact Outcome.mapError_eq_ok.mpr (syncCurrentOwner_none hhistory)

theorem CreateUnitDto.FromFile.mono (h : dto.FromFile db orgId) {units : UnitTable}
    {unitAmenities : Table UnitAmenity.key} :
    dto.FromFile { db with units, unitAmenities } orgId :=
  ⟨⟨h.imported.ownerId, h.imported.columns, h.imported.unitTypeId⟩, h.amenityIds, h.unitType⟩

theorem createEach_added (hscope : assertOrgScope user = .ok orgId)
    (hbuilding : findByIdForOrg db orgId buildingId = .ok building)
    (hreferential : db.Referential)
    (hfresh : Upsert.FreshKeys (fun k => (envs k).unitId) db.units.table)
    (hforms : ∀ dto ∈ forms, dto.FromFile db orgId) (hfits : ∀ dto ∈ forms, dto.Fits)
    (hlabels : (forms.map (·.label)).Nodup)
    (huntaken : ∀ dto ∈ forms, existingByLabel db buildingId dto.label = none) :
    ∃ new units unitAmenities,
      Added (fun k => (envs k).unitId) db buildingId forms new units unitAmenities ∧
        createEach envs db user buildingId forms = { db with units, unitAmenities } := by
  induction forms using List.reverseRecOn with
  | nil => exact ⟨[], db.units, db.unitAmenities, added_nil, rfl⟩
  | append_singleton forms dto ih =>
    have hfront : ∀ dto' ∈ forms, dto' ∈ forms ++ [dto] := fun _ => List.mem_append_left _
    have hlast : dto ∈ forms ++ [dto] := List.mem_append_right _ (List.mem_singleton_self _)
    rw [List.map_append, List.nodup_append] at hlabels
    obtain ⟨new, units, unitAmenities, hadded, heach⟩ := ih (fun d hd => hforms d (hfront d hd))
      (fun d hd => hfits d (hfront d hd)) hlabels.1 fun d hd => huntaken d (hfront d hd)
    obtain ⟨unit, hunit⟩ : ∃ unit, newUnit db (envs forms.length).unitId buildingId dto =
        .ok unit := (newUnit_ok_iff (hforms dto hlast).imported).mpr (hfits dto hlast)
    have hnew : (buildingId, dto.label) ∉ forms.map fun d => (buildingId, d.label) := by
      intro hmem
      obtain ⟨d, hd, hsame⟩ := List.mem_map.mp hmem
      exact hlabels.2.2 _ (List.mem_map_of_mem hd) _ (List.mem_singleton_self _)
        (Prod.mk.inj hsame).2
    obtain ⟨units', hwrite⟩ := exists_create hfresh hadded.grown hunit (huntaken dto hlast) hnew
    have hhistory : ∀ o ∈ db.unitOwnerships, o.unitId ≠ unit.id := by
      intro o ho hid
      obtain ⟨u, hu, huo⟩ := hreferential.ownerships o ho
      have hmem : u ∈ units.table := by
        rw [Table.mem_rows, hadded.unitRows]
        exact List.mem_append_left _ hu
      exact Table.fresh_of_insert (Table.apply_create.mp (Constrained.write_eq_ok.mp hwrite)) hmem
        (huo.trans hid)
    refine ⟨_, units', _, hadded.add hreferential hunit hwrite, ?_⟩
    have hcreate : create (envs forms.length) { db with units, unitAmenities } user buildingId dto =
        .ok { db with
          units := units', unitAmenities :=
            addAmenities unit.id (getDefaultAmenityIds db buildingId) unitAmenities } :=
      create_ok hscope hbuilding (hforms dto hlast).mono hunit hwrite hhistory
    rw [createEach_concat, heach, next, step, hcreate]
    rfl

end Single

section Comparison

variable {db : Db} {buildingId : Id}

/-- A store with more units than before, each with the default amenities of its building, and
nothing else changed. -/
structure Extends (db : Db) (buildingId : Id) (new : List UnitRecord) (db' : Db) : Prop where
  units : db'.units.table.rows = db.units.table.rows ++ new
  amenities : db'.unitAmenities.rows =
    db.unitAmenities.rows ++ new.flatMap (defaultRows db buildingId)
  rest : { db with units := db'.units, unitAmenities := db'.unitAmenities } = db'

/-- Two stores that differ from a third by the same units under ids of their own. -/
def SameUpToIds (db : Db) (buildingId : Id) (db₁ db₂ : Db) : Prop :=
  ∃ new₁ new₂, Extends db buildingId new₁ db₁ ∧ Extends db buildingId new₂ db₂ ∧
    new₁.map UnitRecord.nameless = new₂.map UnitRecord.nameless

theorem SameUpToIds.length {db₁ db₂ : Db} (h : SameUpToIds db buildingId db₁ db₂) :
    db₁.units.table.rows.length = db₂.units.table.rows.length := by
  obtain ⟨new₁, new₂, h₁, h₂, hsame⟩ := h
  have hlength : new₁.length = new₂.length := by
    simpa only [List.length_map] using congrArg List.length hsame
  rw [h₁.units, h₂.units, List.length_append, List.length_append, hlength]

/-- The store that an import leaves, which is the one it found if it throws. -/
def imported (env : Env) (db : Db) (user : Option AuthenticatedUser) (buildingId : Id)
    (file : Option ParsedCsv) (mode : UnitsImportMode) : Db :=
  next (env, .importCsv user buildingId file (some mode) false) db

/-- The forms that the rows of a file are read as. -/
def fileForms (platform : Platform) (db : Db) (user : Option AuthenticatedUser)
    (file : Option ParsedCsv) : List CreateUnitDto :=
  match assertOrgScope user, file with
  | .ok orgId, some parsed => (parsed.parsedUnits platform db orgId).units.map (·.2)
  | _, _ => []

theorem Added.sameUpToIds {ids ids' : ℕ → Id} {forms : List CreateUnitDto}
    {new new' : List UnitRecord} {units units' : UnitTable}
    {unitAmenities unitAmenities' : Table UnitAmenity.key}
    (h : Added ids db buildingId forms new units unitAmenities)
    (h' : Added ids' db buildingId forms new' units' unitAmenities') :
    SameUpToIds db buildingId { db with units, unitAmenities }
      { db with units := units', unitAmenities := unitAmenities' } :=
  ⟨new, new', ⟨h.unitRows, h.amenityRows, rfl⟩, ⟨h'.unitRows, h'.amenityRows, rfl⟩,
    Except.ok.inj (h.made.symm.trans h'.made)⟩

end Comparison

section Files

variable {env : Env} {envs : ℕ → Env} {db : Db} {user : Option AuthenticatedUser}
  {orgId buildingId : Id} {building : Building} {file : Option ParsedCsv} {parsed : ParsedCsv}
  {mode : UnitsImportMode}

theorem fromFile_of_clean (h : parsed.Clean env.platform db orgId buildingId mode) :
    ∀ entry ∈ (parsed.parsedUnits env.platform db orgId).units, entry.2.FromFile db orgId := by
  intro entry hentry
  have himported : entry.2.Imported db := (checked_of_clean h).imported entry hentry
  obtain ⟨i, row, label, -, rfl⟩ := mem_parsedUnits.mp hentry
  refine ⟨himported, rfl, ?_⟩
  obtain hnone | ⟨id, hid, -⟩ := himported.unitTypeId
  · rw [hnone]
    rfl
  · obtain ⟨hne, t, ht, rfl⟩ := unitTypeId_mem hid
    obtain ⟨hrow, horg⟩ := List.mem_filter.mp ht
    have hfound : (db.unitTypes.findFirst fun t' => t'.id = t.id ∧ t'.orgId = orgId).isSome :=
      List.find?_isSome.mpr ⟨t, hrow, decide_eq_true ⟨rfl, (of_decide_eq_true horg).1⟩⟩
    have htruthy : truthy (some t.id) = some t.id := truthy_eq_some.mpr ⟨rfl, hne⟩
    rw [hid, Field.toOption, assertUnitTypeInOrg, htruthy]
    refine Outcome.throwIf_eq_ok.mpr ?_
    rw [Option.isNone_eq_false_iff.mpr hfound]
    exact Bool.false_ne_true

theorem importFits_iff (hscope : assertOrgScope user = .ok orgId)
    (hbuilding : findByIdForOrg db orgId buildingId = .ok building)
    (hclean : parsed.Clean env.platform db orgId buildingId mode) :
    ImportFits env.platform db user buildingId (some parsed) mode ↔
      ∀ entry ∈ (parsed.parsedUnits env.platform db orgId).units, entry.2.Fits := by
  rw [fits_parsedUnits_iff]
  constructor
  · exact fun h => h orgId building parsed hscope hbuilding rfl hclean
  · intro h orgId' building' parsed' hscope' _ hparsed' _
    obtain rfl : orgId = orgId' := Except.ok.inj (hscope.symm.trans hscope')
    obtain rfl : parsed = parsed' := Option.some.inj hparsed'
    exact h

/-- The dry run of the file finds no errors. -/
def NoErrors (env : Env) (db : Db) (user : Option AuthenticatedUser) (buildingId : Id)
    (file : Option ParsedCsv) (mode : UnitsImportMode) : Prop :=
  (importCsv env db user buildingId file (some mode) true).toOption.map (·.2.errors) = some []

theorem NoErrors.clean (h : NoErrors env db user buildingId file mode) :
    ∃ orgId building parsed, assertOrgScope user = .ok orgId ∧
      findByIdForOrg db orgId buildingId = .ok building ∧ file = some parsed ∧
        parsed.Clean env.platform db orgId buildingId mode := by
  rw [NoErrors] at h
  cases hdry : importCsv env db user buildingId file (some mode) true with
  | error e =>
    rw [hdry] at h
    cases h
  | ok run =>
    rw [hdry] at h
    have hrun := hdry
    obtain ⟨orgId, hscope, hrun⟩ := Outcome.bind_eq_ok.mp hrun
    obtain ⟨building, hbuilding, hrun⟩ := Outcome.bind_eq_ok.mp hrun
    obtain ⟨parsed, hfile, -⟩ := Outcome.bind_eq_ok.mp hrun
    obtain rfl := Outcome.orThrow_eq_ok.mp hfile
    rw [importCsv_eq hscope hbuilding] at hdry
    dsimp only [Option.getD_some] at hdry
    rw [if_pos (.inl rfl)] at hdry
    obtain rfl := Except.ok.inj hdry
    exact ⟨orgId, building, parsed, hscope, hbuilding, rfl,
      findings_eq_nil_iff.mp (Option.some.inj h)⟩

theorem imported_eq : imported env db user buildingId file mode =
    Outcome.orElseKeep db ((·.1) <$> createdRun env user buildingId file mode db) := by
  rw [imported, createdRun, next, step]
  cases importCsv env db user buildingId file (some mode) false <;> rfl

theorem fileForms_eq (hscope : assertOrgScope user = .ok orgId) :
    fileForms env.platform db user (some parsed) =
      (parsed.parsedUnits env.platform db orgId).units.map (·.2) := by
  unfold fileForms
  rw [hscope]

/-- Where the rows of a file can be written, the import leaves what single creations leave. -/
theorem imported_sameUpToIds (hreferential : db.Referential)
    (hfresh : Upsert.FreshKeys env.importedId db.units.table)
    (hfresh' : Upsert.FreshKeys (fun k => (envs k).unitId) db.units.table)
    (hscope : assertOrgScope user = .ok orgId)
    (hbuilding : findByIdForOrg db orgId buildingId = .ok building)
    (hclean : parsed.Clean env.platform db orgId buildingId .CREATE)
    (hfits : ∀ entry ∈ (parsed.parsedUnits env.platform db orgId).units, entry.2.Fits) :
    SameUpToIds db buildingId (imported env db user buildingId (some parsed) .CREATE)
      (createEach envs db user buildingId
        (fileForms env.platform db user (some parsed))) := by
  have hchecked := checked_of_clean hclean
  obtain ⟨result, hresult⟩ : ∃ result, importRows env db buildingId .CREATE
      (getDefaultAmenityIds db buildingId) (parsed.parsedUnits env.platform db orgId).units =
        .ok result := (importRows_ok_iff hfresh hchecked).mpr hfits
  obtain ⟨new, hadded⟩ := importRows_added hreferential hchecked hresult
  have himported : imported env db user buildingId (some parsed) .CREATE =
      { db with units := result.units, unitAmenities := result.unitAmenities } := by
    rw [imported_eq, createdRun_eq hscope hbuilding, fileRun, RowImport.guardedRun,
      if_pos (findings_eq_nil_iff.mpr hclean), hresult]
    rfl
  obtain ⟨new', units', unitAmenities', hadded', heach⟩ := createEach_added hscope hbuilding
    hreferential hfresh' (List.forall_mem_map.mpr (fromFile_of_clean hclean))
    (List.forall_mem_map.mpr hfits) (by rw [List.map_map]; exact hchecked.labels)
    (List.forall_mem_map.mpr (hchecked.untaken rfl))
  rw [himported, fileForms_eq hscope, heach]
  exact hadded.sameUpToIds hadded'

theorem imported_of_not_fits (hfresh : Upsert.FreshKeys env.importedId db.units.table)
    (hscope : assertOrgScope user = .ok orgId)
    (hbuilding : findByIdForOrg db orgId buildingId = .ok building)
    (hclean : parsed.Clean env.platform db orgId buildingId mode)
    (hfits : ¬ ∀ entry ∈ (parsed.parsedUnits env.platform db orgId).units, entry.2.Fits) :
    imported env db user buildingId (some parsed) mode = db := by
  rw [imported_eq, createdRun_eq hscope hbuilding]
  cases hrun : fileRun env orgId buildingId parsed mode db with
  | error e => rfl
  | ok run => exact absurd ((exists_fileRun_iff hfresh).mp ⟨run, hrun⟩ hclean) hfits

end Files

section Refinement

variable {env : Env} {envs : ℕ → Env} {db : Db} {user : Option AuthenticatedUser}
  {buildingId : Id} {file : Option ParsedCsv}

/-- An import in CREATE mode of a file without errors does what the single creations of its rows
do, or nothing. -/
structure RefinesCreates (env : Env) (envs : ℕ → Env) (db : Db) (user : Option AuthenticatedUser)
    (buildingId : Id) (file : Option ParsedCsv) : Prop where
  fits : ImportFits env.platform db user buildingId file .CREATE →
    SameUpToIds db buildingId (imported env db user buildingId file .CREATE)
      (createEach envs db user buildingId (fileForms env.platform db user file))
  otherwise : ¬ ImportFits env.platform db user buildingId file .CREATE →
    imported env db user buildingId file .CREATE = db

theorem import_refines_creates (hreferential : db.Referential)
    (hfresh : Upsert.FreshKeys env.importedId db.units.table)
    (hfresh' : Upsert.FreshKeys (fun k => (envs k).unitId) db.units.table)
    (herrors : NoErrors env db user buildingId file .CREATE) :
    RefinesCreates env envs db user buildingId file := by
  obtain ⟨orgId, building, parsed, hscope, hbuilding, rfl, hclean⟩ := herrors.clean
  have hfits := importFits_iff hscope hbuilding hclean
  constructor
  · intro h
    exact imported_sameUpToIds hreferential hfresh hfresh' hscope hbuilding hclean (hfits.mp h)
  · intro h
    exact imported_of_not_fits hfresh hscope hbuilding hclean (mt hfits.mpr h)

end Refinement

end Towerdesk.Units
