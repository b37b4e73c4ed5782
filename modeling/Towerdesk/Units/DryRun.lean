import Towerdesk.Lib.Upsert
import Towerdesk.Units.ImportRows
import Towerdesk.Units.Service

/-!
# The dry run of an import

A dry run makes all the checks of an import and stops before the transaction. The transaction
then meets what the checks leave out: whole numbers of more than 32 bits and amounts of more than
ten digits before the point. A dry run foretells the import exactly when the file has errors of
another kind or none of these.
-/

namespace Towerdesk.Units

section Columns

/-- The column has room for the value. -/
def FitsColumn : ColumnValue → Prop
  | .integer n => -2 ^ 31 ≤ n ∧ n < 2 ^ 31
  | .number q => |roundCents q| < 10 ^ 10
  | _ => True

/-- What an import makes of a row: no owner, no `null`, and a unit type that is there. -/
structure CreateUnitDto.Imported (db : Db) (dto : CreateUnitDto) : Prop where
  ownerId : dto.ownerId = .undefined
  columns : ∀ column, dto.columns column ≠ .null
  unitTypeId : dto.unitTypeId = .undefined ∨ ∃ id, dto.unitTypeId = .value id ∧ id ≠ "" ∧
    (db.unitTypes.findUnique id).isSome

def CreateUnitDto.Fits (dto : CreateUnitDto) : Prop :=
  ∀ column value, dto.columns column = .value value → FitsColumn value

variable {db : Db} {dto : CreateUnitDto} {value : ColumnValue} {current : Columns}
  {fields : UnitColumn → Field ColumnValue}

theorem store_ok_iff : (∃ stored, UnitColumn.store value = .ok stored) ↔ FitsColumn value := by
  cases value with
  | integer n =>
    simp only [UnitColumn.store, Outcome.map_eq_ok, toIntColumn, FitsColumn]
    by_cases hfits : -2 ^ 31 ≤ n ∧ n < 2 ^ 31
    · rw [if_pos ⟨Rat.den_intCast n, hfits.1, hfits.2⟩]
      exact iff_of_true ⟨_, _, rfl, rfl⟩ hfits
    · rw [if_neg fun h => hfits ⟨h.2.1, h.2.2⟩]
      refine iff_of_false ?_ hfits
      rintro ⟨_, _, h, _⟩
      cases h
  | number q =>
    simp only [UnitColumn.store, Outcome.map_eq_ok, toDecimalColumn, FitsColumn]
    by_cases hfits : |roundCents q| < 10 ^ 10
    · rw [if_pos hfits]
      exact iff_of_true ⟨_, _, rfl, rfl⟩ hfits
    · rw [if_neg hfits]
      refine iff_of_false ?_ hfits
      rintro ⟨_, _, h, _⟩
      cases h
  | text s => exact iff_of_true ⟨_, rfl⟩ trivial
  | boolean b => exact iff_of_true ⟨_, rfl⟩ trivial
  | enum name => exact iff_of_true ⟨_, rfl⟩ trivial

theorem write_ok_iff {column : UnitColumn} {field : Field ColumnValue} {old : Option ColumnValue}
    (hnull : field ≠ .null) : (∃ stored, column.write field old = .ok stored) ↔
      ∀ value, field = .value value → FitsColumn value := by
  cases field with
  | undefined => exact iff_of_true ⟨_, rfl⟩ fun _ h => by cases h
  | null => exact absurd rfl hnull
  | value v =>
    have hstore : (∃ stored, column.write (.value v) old = .ok stored) ↔
        ∃ stored, UnitColumn.store v = .ok stored := by
      simp only [UnitColumn.write, Outcome.map_eq_ok]
      exact ⟨fun ⟨_, s, hs, _⟩ => ⟨s, hs⟩, fun ⟨s, hs⟩ => ⟨_, s, hs, rfl⟩⟩
    rw [hstore, store_ok_iff]
    exact ⟨fun h value hvalue => Field.value.inj hvalue ▸ h, fun h => h v rfl⟩

theorem writeColumns_ok_iff (hnull : ∀ column, fields column ≠ .null) :
    (∃ columns, writeColumns fields current = .ok columns) ↔
      ∀ column value, fields column = .value value → FitsColumn value := by
  have hall : ∀ column : UnitColumn, column ∈ UnitColumn.all := fun column => by
    cases column <;> decide
  rw [writeColumns, RowImport.foldlM_ok_iff (I := fun _ _ => True)
    (P := fun column => ∀ value, fields column = .value value → FitsColumn value)
    (fun _ _ _ _ _ _ _ _ => trivial) ?_ trivial]
  · exact ⟨fun h column => h column (hall column), fun h column _ => h column⟩
  · intro front column back columns _ _
    have hwrite : (∃ stored, column.write (fields column) (columns column) = .ok stored) ↔
        ∀ value, fields column = .value value → FitsColumn value := write_ok_iff (hnull column)
    rw [← hwrite]
    simp only [Outcome.bind_eq_ok, Outcome.pure_eq_ok]
    exact ⟨fun ⟨_, stored, h, _⟩ => ⟨stored, h⟩, fun ⟨stored, h⟩ => ⟨_, stored, h, rfl⟩⟩

theorem referenceColumn_imported (h : dto.Imported db) :
    ∃ id, referenceColumn db.unitTypes.findUnique dto.unitTypeId.toOption = .ok id := by
  obtain hnone | ⟨id, hid, -, hfound⟩ := h.unitTypeId
  · rw [hnone]
    exact ⟨none, rfl⟩
  · rw [hid]
    exact ⟨some id, if_pos hfound⟩

theorem newUnit_ok_iff {id buildingId : Id} (h : dto.Imported db) :
    (∃ unit, newUnit db id buildingId dto = .ok unit) ↔ dto.Fits := by
  obtain ⟨unitTypeId, htype⟩ := referenceColumn_imported h
  have howner : referenceColumn db.owners.findUnique (ownerIdOf dto.ownerId) = .ok none := by
    rw [h.ownerId]
    rfl
  have hcolumns : (∃ columns, writeColumns dto.columns UnitColumn.default = .ok columns) ↔
      dto.Fits := writeColumns_ok_iff h.columns
  rw [← hcolumns]
  simp only [newUnit, htype, howner, Outcome.bind_eq_ok, Outcome.pure_eq_ok, Except.ok.injEq,
    exists_eq_left']
  constructor
  · rintro ⟨_, columns, hcolumns, _⟩
    exact ⟨columns, hcolumns⟩
  · rintro ⟨columns, hcolumns⟩
    exact ⟨_, columns, hcolumns, rfl⟩

theorem newUnit_row {id buildingId : Id} {unit : UnitRecord}
    (h : newUnit db id buildingId dto = .ok unit) :
    unit.id = id ∧ unit.buildingId = buildingId ∧ unit.label = dto.label := by
  obtain ⟨columns, -, h⟩ := Outcome.bind_eq_ok.mp h
  obtain ⟨unitTypeId, -, h⟩ := Outcome.bind_eq_ok.mp h
  obtain ⟨ownerId, -, h⟩ := Outcome.bind_eq_ok.mp h
  rw [← Outcome.pure_eq_ok.mp h]
  exact ⟨rfl, rfl, rfl⟩

theorem updatedUnitType_imported {unit : UnitRecord} (h : dto.Imported db) :
    ∃ id, updatedUnitType db unit dto.unitTypeId = .ok id := by
  obtain hnone | ⟨id, hid, hne, hfound⟩ := h.unitTypeId
  · rw [hnone]
    exact ⟨_, rfl⟩
  · have htruthy : truthy (some id) = some id := truthy_eq_some.mpr ⟨rfl, hne⟩
    refine ⟨some id, ?_⟩
    rw [hid, updatedUnitType, connectColumn, Field.toOption, htruthy]
    exact if_pos hfound

theorem updatedUnit_ok_iff {unit : UnitRecord} (h : dto.Imported db) :
    (∃ updated, updatedUnit db unit dto.asUpdate = .ok updated) ↔ dto.Fits := by
  obtain ⟨unitTypeId, htype⟩ : ∃ id, updatedUnitType db unit dto.unitTypeId = .ok id :=
    updatedUnitType_imported h
  have howner : updatedOwner db unit dto.ownerId = .ok unit.ownerId := by
    rw [h.ownerId]
    rfl
  have hcolumns : (∃ columns, writeColumns dto.columns unit.columns = .ok columns) ↔ dto.Fits :=
    writeColumns_ok_iff h.columns
  rw [← hcolumns]
  simp only [updatedUnit, CreateUnitDto.asUpdate, requiredColumn, htype, howner,
    Outcome.bind_eq_ok, Outcome.pure_eq_ok, Except.ok.injEq, exists_eq_left']
  exact ⟨fun ⟨_, columns, hcolumns, _⟩ => ⟨columns, hcolumns⟩,
    fun ⟨columns, hcolumns⟩ => ⟨_, columns, hcolumns, rfl⟩⟩

theorem updatedUnit_row {unit updated : UnitRecord}
    (h : updatedUnit db unit dto.asUpdate = .ok updated) :
    updated.id = unit.id ∧ updated.buildingId = unit.buildingId ∧ updated.label = dto.label := by
  obtain ⟨columns, -, h⟩ := Outcome.bind_eq_ok.mp h
  obtain ⟨label, hlabel, h⟩ := Outcome.bind_eq_ok.mp h
  obtain ⟨status, -, h⟩ := Outcome.bind_eq_ok.mp h
  obtain ⟨unitTypeId, -, h⟩ := Outcome.bind_eq_ok.mp h
  obtain ⟨ownerId, -, h⟩ := Outcome.bind_eq_ok.mp h
  rw [← Outcome.pure_eq_ok.mp h]
  exact ⟨rfl, rfl, (Except.ok.inj hlabel).symm⟩

end Columns

section Transaction

variable {env : Env} {db : Db} {buildingId : Id} {mode : UnitsImportMode} {amenityIds : List Id}
  {units front : List (ℕ × CreateUnitDto)} {s s' : ImportState} {dto : CreateUnitDto}

/-- The transaction behind some of its rows. -/
structure Written (env : Env) (db : Db) (buildingId : Id) (front : List (ℕ × CreateUnitDto))
    (s : ImportState) : Prop where
  counted : s.created + s.updated = front.length
  grown : Upsert.Grown unitLabel env.importedId db.units.table
    (front.map fun entry => (buildingId, entry.2.label)) s.created s.units.table

theorem unitCheck_eq_none_iff {t : Table UnitRecord.id} :
    unitCheck t = none ↔ t.UniqueOn unitLabel := by
  rw [unitCheck]
  by_cases hunique : t.UniqueOn unitLabel
  · exact iff_of_true (if_pos hunique) hunique
  · rw [if_neg hunique]
    exact iff_of_false (Option.some_ne_none _) hunique

theorem written_start (env : Env) (db : Db) (buildingId : Id) :
    Written env db buildingId [] ⟨db.units, db.unitAmenities, [], 0, 0⟩ where
  counted := rfl
  grown := Upsert.Grown.refl

theorem importCreate_ok (h : importCreate env db buildingId amenityIds dto s = .ok s') :
    ∃ unit, newUnit db (env.importedId s.created) buildingId dto = .ok unit ∧
      s.units.table.insert unit = some s'.units.table ∧ s'.created = s.created + 1 ∧
        s'.updated = s.updated := by
  obtain ⟨unit, hunit, h⟩ := Outcome.bind_eq_ok.mp h
  obtain ⟨units, hwrite, h⟩ := Outcome.bind_eq_ok.mp h
  rw [← Outcome.pure_eq_ok.mp h]
  exact ⟨unit, hunit, Table.apply_create.mp (Constrained.write_eq_ok.mp
    (Outcome.mapError_eq_ok.mp hwrite)), rfl, rfl⟩

theorem importUpdate_ok {existing : UnitRecord}
    (h : importUpdate db existing dto s = .ok s') :
    ∃ current ∈ s.units.table, current.id = existing.id ∧ ∃ updated,
      updatedUnit db current dto.asUpdate = .ok updated ∧
        s'.units.table = s.units.table.modify current.id updated.replace ∧
          s'.created = s.created ∧ s'.updated = s.updated + 1 := by
  obtain ⟨current, hcurrent, h⟩ := Outcome.bind_eq_ok.mp h
  obtain ⟨updated, hupdated, h⟩ := Outcome.bind_eq_ok.mp h
  obtain ⟨units, hwrite, h⟩ := Outcome.bind_eq_ok.mp h
  obtain ⟨hmem, hid⟩ := Table.findUnique_eq_some.mp (Outcome.orThrow_eq_ok.mp hcurrent)
  have htable := (Table.apply_update.mp (Constrained.write_eq_ok.mp
    (Outcome.mapError_eq_ok.mp hwrite))).2
  rw [← Outcome.pure_eq_ok.mp h]
  exact ⟨current, hmem, hid, updated, hupdated, htable, rfl, rfl⟩

theorem existingByLabel_some {existing : UnitRecord} {label : String}
    (h : existingByLabel db buildingId label = some existing) :
    existing ∈ db.units.table ∧ unitLabel existing = some (buildingId, label) := by
  obtain ⟨hmem, hsame⟩ := Table.findFirst_some h
  rw [decide_eq_true_eq] at hsame
  refine ⟨hmem, ?_⟩
  rw [unitLabel, hsame.1, hsame.2]

theorem existingByLabel_none {label : String} (h : existingByLabel db buildingId label = none) :
    ∀ u ∈ db.units.table, unitLabel u ≠ some (buildingId, label) := by
  intro u hu hsame
  have hnot := List.find?_eq_none.mp h u hu
  rw [decide_eq_true_eq] at hnot
  exact hnot (Prod.mk.inj (Option.some.inj hsame))

theorem newUnit_label {id : Id} {unit : UnitRecord}
    (h : newUnit db id buildingId dto = .ok unit) :
    unitLabel unit = some (buildingId, dto.label) := by
  obtain ⟨-, hbuilding, hlabel⟩ := newUnit_row h
  rw [unitLabel, hbuilding, hlabel]

theorem Written.create {n : ℕ} (h : Written env db buildingId front s)
    (hs' : importCreate env db buildingId amenityIds dto s = .ok s') :
    Written env db buildingId (front ++ [(n, dto)]) s' := by
  obtain ⟨unit, hunit, hinsert, hcreated, hupdated⟩ := importCreate_ok hs'
  refine ⟨?_, ?_⟩
  · have hcounted := h.counted
    rw [hcreated, hupdated, List.length_append, List.length_singleton]
    omega
  · rw [List.map_append, hcreated]
    exact h.grown.insert hinsert (newUnit_row hunit).1 (newUnit_label hunit)

theorem Written.current {existing current : UnitRecord} (h : Written env db buildingId front s)
    (hexisting : existingByLabel db buildingId dto.label = some existing)
    (hcurrent : current ∈ s.units.table) (hid : current.id = existing.id) :
    unitLabel current = some (buildingId, dto.label) := by
  obtain ⟨hmem, hlabel⟩ := existingByLabel_some hexisting
  obtain ⟨u, hu, huid, hsame⟩ := h.grown.kept existing hmem
  obtain rfl := Table.eq_of_key_eq hcurrent hu (hid.trans huid.symm)
  exact hsame.trans hlabel

theorem replace_label {current updated : UnitRecord}
    (hcurrent : unitLabel current = some (buildingId, dto.label))
    (hupdated : updatedUnit db current dto.asUpdate = .ok updated) :
    unitLabel (updated.replace.apply current) = unitLabel current := by
  have hlabel : updated.label = dto.label := (updatedUnit_row hupdated).2.2
  have hsame : current.label = dto.label := (Prod.mk.inj (Option.some.inj hcurrent)).2
  change some (current.buildingId, updated.label) = some (current.buildingId, current.label)
  rw [hlabel, hsame]

theorem Written.update {n : ℕ} {existing : UnitRecord} (h : Written env db buildingId front s)
    (hexisting : existingByLabel db buildingId dto.label = some existing)
    (hs' : importUpdate db existing dto s = .ok s') :
    Written env db buildingId (front ++ [(n, dto)]) s' := by
  obtain ⟨current, hcurrent, hid, updated, hupdated, htable, hcreated, hcount⟩ :=
    importUpdate_ok hs'
  refine ⟨?_, ?_⟩
  · have hcounted := h.counted
    rw [hcreated, hcount, List.length_append, List.length_singleton]
    omega
  · rw [List.map_append, hcreated, htable]
    exact h.grown.modify hcurrent (replace_label (h.current hexisting hcurrent hid) hupdated)

theorem exists_create {ids : ℕ → Id} {units : UnitTable} {entries : List (Id × String)} {n : ℕ}
    {unit : UnitRecord} (hfresh : Upsert.FreshKeys ids db.units.table)
    (hgrown : Upsert.Grown unitLabel ids db.units.table entries n units.table)
    (hunit : newUnit db (ids n) buildingId dto = .ok unit)
    (hexisting : existingByLabel db buildingId dto.label = none)
    (hnew : (buildingId, dto.label) ∉ entries) :
    ∃ units', units.write (.create unit) = .ok units' := by
  obtain ⟨t, hinsert⟩ := hgrown.exists_insert hfresh (newUnit_row hunit).1
  have hunique := unitCheck_eq_none_iff.mp units.valid
  have hcheck := unitCheck_eq_none_iff.mpr ((hgrown.unique_insert hunique hinsert
    (newUnit_label hunit) hnew).mpr (existingByLabel_none hexisting))
  exact Constrained.exists_write (Table.apply_create.mpr hinsert) hcheck

theorem importCreate_ok_iff (hfresh : Upsert.FreshKeys env.importedId db.units.table)
    (h : Written env db buildingId front s) (hdto : dto.Imported db)
    (hexisting : existingByLabel db buildingId dto.label = none)
    (hnew : ∀ entry ∈ front, entry.2.label ≠ dto.label) :
    (∃ s', importCreate env db buildingId amenityIds dto s = .ok s') ↔ dto.Fits := by
  have hiff : (∃ unit, newUnit db (env.importedId s.created) buildingId dto = .ok unit) ↔
      dto.Fits := newUnit_ok_iff hdto
  rw [← hiff]
  constructor
  · rintro ⟨s', hs'⟩
    obtain ⟨unit, hunit, -⟩ := importCreate_ok hs'
    exact ⟨unit, hunit⟩
  · rintro ⟨unit, hunit⟩
    have hentry : (buildingId, dto.label) ∉ front.map fun entry => (buildingId, entry.2.label) := by
      intro hmem
      obtain ⟨entry, hentry, hsame⟩ := List.mem_map.mp hmem
      exact hnew entry hentry (Prod.mk.inj hsame).2
    obtain ⟨units, hwrite⟩ := exists_create hfresh h.grown hunit hexisting hentry
    exact Outcome.exists_bind_ok hunit
      (Outcome.exists_bind_ok (Outcome.mapError_eq_ok.mpr hwrite) ⟨_, rfl⟩)

theorem importUpdate_ok_iff {existing : UnitRecord} (h : Written env db buildingId front s)
    (hdto : dto.Imported db) (hexisting : existingByLabel db buildingId dto.label = some existing) :
    (∃ s', importUpdate db existing dto s = .ok s') ↔ dto.Fits := by
  obtain ⟨hmem, -⟩ := existingByLabel_some hexisting
  obtain ⟨current, hcurrent, hid, -⟩ := h.grown.kept existing hmem
  have hlabel := h.current hexisting hcurrent hid
  have hiff : (∃ updated, updatedUnit db current dto.asUpdate = .ok updated) ↔ dto.Fits :=
    updatedUnit_ok_iff hdto
  rw [← hiff]
  constructor
  · rintro ⟨s', hs'⟩
    obtain ⟨current', hcurrent', hid', updated, hupdated, -⟩ := importUpdate_ok hs'
    obtain rfl := Table.eq_of_key_eq hcurrent' hcurrent (hid'.trans hid.symm)
    exact ⟨updated, hupdated⟩
  · rintro ⟨updated, hupdated⟩
    have hcheck := unitCheck_eq_none_iff.mpr ((unitCheck_eq_none_iff.mp s.units.valid).modify_of_le
      hcurrent (.inr (replace_label hlabel hupdated)))
    have happly : (Table.Write.update current.id updated.replace).apply s.units.table =
        (.ok (s.units.table.modify current.id updated.replace) : Except DbError _) :=
      Table.apply_update.mpr ⟨⟨current, hcurrent, rfl⟩, rfl⟩
    obtain ⟨units, hwrite⟩ := Constrained.exists_write (c := s.units) happly hcheck
    have hfind : s.units.table.findUnique existing.id = some current :=
      Table.findUnique_eq_some.mpr ⟨hcurrent, hid⟩
    exact Outcome.exists_bind_ok (Outcome.orThrow_eq_ok.mpr hfind)
      (Outcome.exists_bind_ok hupdated
        (Outcome.exists_bind_ok (Outcome.mapError_eq_ok.mpr hwrite) ⟨_, rfl⟩))

/-- What the checks leave for the transaction to meet. -/
structure Checked (db : Db) (buildingId : Id) (mode : UnitsImportMode)
    (units : List (ℕ × CreateUnitDto)) : Prop where
  imported : ∀ entry ∈ units, entry.2.Imported db
  labels : (units.map (·.2.label)).Nodup
  untaken : mode = .CREATE → ∀ entry ∈ units, existingByLabel db buildingId entry.2.label = none

theorem importRow_eq {entry : ℕ × CreateUnitDto} (h : Checked db buildingId mode units)
    (hentry : entry ∈ units) :
    importRow env db buildingId mode amenityIds s entry =
      match existingByLabel db buildingId entry.2.label with
      | some existing => importUpdate db existing entry.2 s
      | none => importCreate env db buildingId amenityIds entry.2 s := by
  unfold importRow
  cases hexisting : existingByLabel db buildingId entry.2.label with
  | none => cases mode <;> rfl
  | some existing =>
    cases hmode : mode with
    | UPSERT => rfl
    | CREATE =>
      rw [h.untaken hmode entry hentry] at hexisting
      cases hexisting

theorem Written.row {entry : ℕ × CreateUnitDto} (hchecked : Checked db buildingId mode units)
    (hentry : entry ∈ units) (h : Written env db buildingId front s)
    (hs' : importRow env db buildingId mode amenityIds s entry = .ok s') :
    Written env db buildingId (front ++ [entry]) s' := by
  rw [importRow_eq hchecked hentry] at hs'
  cases hexisting : existingByLabel db buildingId entry.2.label with
  | none =>
    rw [hexisting] at hs'
    exact h.create hs'
  | some existing =>
    rw [hexisting] at hs'
    exact h.update hexisting hs'

/-- The rows that pass the checks are written exactly when they fit. -/
theorem importRows_ok_iff (hfresh : Upsert.FreshKeys env.importedId db.units.table)
    (hchecked : Checked db buildingId mode units) :
    (∃ result, importRows env db buildingId mode amenityIds units = .ok result) ↔
      ∀ entry ∈ units, entry.2.Fits := by
  refine RowImport.foldlM_ok_iff (I := Written env db buildingId) (P := fun entry => entry.2.Fits)
    (fun front entry back s s' hunits hwritten hs' =>
      hwritten.row hchecked (RowImport.mem_of_split hunits) hs')
    (fun front entry back s hunits hwritten => ?_) (written_start env db buildingId)
  have hentry := RowImport.mem_of_split hunits
  have hnew : ∀ other ∈ front, other.2.label ≠ entry.2.label :=
    RowImport.key_ne_of_split hchecked.labels hunits
  rw [importRow_eq hchecked hentry]
  cases hexisting : existingByLabel db buildingId entry.2.label with
  | none => exact importCreate_ok_iff hfresh hwritten (hchecked.imported entry hentry) hexisting hnew
  | some existing => exact importUpdate_ok_iff hwritten (hchecked.imported entry hentry) hexisting

theorem importRows_counted {result : ImportState} (hchecked : Checked db buildingId mode units)
    (h : importRows env db buildingId mode amenityIds units = .ok result) :
    result.created + result.updated = units.length := by
  have hwritten := RowImport.foldlM_inv (I := Written env db buildingId)
    (fun front entry back s s' hunits hwritten hs' =>
      hwritten.row hchecked (by simp [hunits]) hs') (written_start env db buildingId) h
  exact hwritten.counted

end Transaction

section Checks

variable (platform : Platform) (db : Db) (orgId buildingId : Id) (mode : UnitsImportMode)
  (parsed : ParsedCsv)

/-- What the checks find: the rows of the file, how many of them are valid, and the errors. -/
def ParsedCsv.findings : ℕ × ℕ × List ImportUnitsError :=
  if parsed.headers.isEmpty then (0, 0, [⟨1, none, "CSV is empty"⟩])
  else if ¬ (headerErrors platform parsed.headers).isEmpty then
    (parsed.rows.length, 0, headerErrors platform parsed.headers)
  else if 2000 < parsed.rows.length then
    (parsed.rows.length, 0, [⟨1, none, "Too many rows (max 2000)"⟩])
  else
    (parsed.rows.length, (parsed.parsedUnits platform db orgId).units.length,
      (parsed.parsedUnits platform db orgId).errors ++
        takenLabels db buildingId mode (parsed.parsedUnits platform db orgId).units)

/-- Nothing is wrong with the file: its headers are allowed and have the label, it is not too
long, every row is blank or kept, and a row to create has a label that the building has not. -/
structure ParsedCsv.Clean : Prop where
  headers_ne_nil : parsed.headers ≠ []
  headers : headerErrors platform parsed.headers = []
  length : parsed.rows.length ≤ 2000
  rows : ∀ i row, parsed.rows[i]? = some row → isBlank row = false →
    ∃ label, parsed.Keeps platform db orgId i row label
  untaken : mode = .CREATE → ∀ i row label, parsed.Keeps platform db orgId i row label →
    existingByLabel db buildingId label = none

variable {platform db orgId buildingId mode parsed}

theorem mem_parsedUnits {unit : ℕ × CreateUnitDto} :
    unit ∈ (parsed.parsedUnits platform db orgId).units ↔
      ∃ i row label, parsed.Keeps platform db orgId i row label ∧
        unit = (i + 2, createUnitDtoOfRow platform (activeUnitTypes db orgId)
          (parsed.used platform) row label) := by
  rw [ParsedCsv.parsedUnits, mem_parseRows_units]
  simp only [ParsedCsv.Keeps, and_assoc, exists_and_left]

theorem parsedUnits_errors_eq_nil_iff : (parsed.parsedUnits platform db orgId).errors = [] ↔
    ∀ i row, parsed.rows[i]? = some row → isBlank row = false →
      ∃ label, parsed.Keeps platform db orgId i row label := by
  rw [ParsedCsv.parsedUnits, parseRows_errors_eq_nil_iff]
  refine forall₃_congr fun i row hrow => ?_
  simp only [ParsedCsv.Keeps, hrow, true_and]
  cases isBlank row with
  | true => exact iff_of_true (.inl rfl) fun h => by cases h
  | false => exact ⟨fun h _ => h.resolve_left Bool.false_ne_true, fun h => .inr (h rfl)⟩

theorem takenLabels_eq_nil_iff {units : List (ℕ × CreateUnitDto)} :
    takenLabels db buildingId mode units = [] ↔
      (mode = .CREATE → ∀ entry ∈ units, existingByLabel db buildingId entry.2.label = none) := by
  cases mode with
  | UPSERT => exact iff_of_true rfl fun h => by cases h
  | CREATE =>
    rw [takenLabels, List.map_eq_nil_iff, List.filter_eq_nil_iff]
    simp only [Option.not_isSome_iff_eq_none, forall_const]

theorem findings_eq_nil_iff : (parsed.findings platform db orgId buildingId mode).2.2 = [] ↔
    parsed.Clean platform db orgId buildingId mode := by
  rw [ParsedCsv.findings]
  by_cases hempty : parsed.headers = []
  · rw [if_pos (List.isEmpty_iff.mpr hempty)]
    exact iff_of_false (List.cons_ne_nil _ _) fun h => h.headers_ne_nil hempty
  rw [if_neg (mt List.isEmpty_iff.mp hempty)]
  by_cases hheaders : headerErrors platform parsed.headers = []
  · rw [if_neg (not_not.mpr (List.isEmpty_iff.mpr hheaders))]
    by_cases hlength : 2000 < parsed.rows.length
    · rw [if_pos hlength]
      exact iff_of_false (List.cons_ne_nil _ _) fun h => Nat.not_lt.mpr h.length hlength
    · rw [if_neg hlength, List.append_eq_nil_iff, parsedUnits_errors_eq_nil_iff,
        takenLabels_eq_nil_iff]
      constructor
      · rintro ⟨hrows, huntaken⟩
        refine ⟨hempty, hheaders, Nat.not_lt.mp hlength, hrows, fun hmode i row label hkeeps => ?_⟩
        exact huntaken hmode _ (mem_parsedUnits.mpr ⟨i, row, label, hkeeps, rfl⟩)
      · intro h
        refine ⟨h.rows, fun hmode entry hentry => ?_⟩
        obtain ⟨i, row, label, hkeeps, rfl⟩ := mem_parsedUnits.mp hentry
        exact h.untaken hmode i row label hkeeps
  · rw [if_pos (mt List.isEmpty_iff.mp hheaders)]
    exact iff_of_false hheaders fun h => hheaders h.headers

theorem checked_of_clean (h : parsed.Clean platform db orgId buildingId mode) :
    Checked db buildingId mode (parsed.parsedUnits platform db orgId).units where
  imported entry hentry := by
    obtain ⟨i, row, label, hkeeps, rfl⟩ := mem_parsedUnits.mp hentry
    refine ⟨rfl, fun column hnull => ?_, ?_⟩
    · change columnOfRow platform (parsed.used platform) row column = .null at hnull
      rw [columnOfRow] at hnull
      split at hnull
      · cases hnull
      · split at hnull <;> cases hnull
    · cases hid : (createUnitDtoOfRow platform (activeUnitTypes db orgId) (parsed.used platform) row
          label).unitTypeId with
      | undefined => exact .inl rfl
      | null =>
        rw [createUnitDtoOfRow] at hid
        dsimp only at hid
        split at hid <;> cases hid
      | value id =>
        obtain ⟨hne, t, ht, rfl⟩ := unitTypeId_mem hid
        have hfind : db.unitTypes.findUnique t.id = some t :=
          Table.findUnique_eq_some.mpr ⟨(List.mem_filter.mp ht).1, rfl⟩
        exact .inr ⟨t.id, rfl, hne, by rw [hfind]; rfl⟩
  labels := nodup_labels
  untaken hmode entry hentry := by
    obtain ⟨i, row, label, hkeeps, rfl⟩ := mem_parsedUnits.mp hentry
    exact h.untaken hmode i row label hkeeps

end Checks

section Runs

variable {env : Env} {db : Db} {user : Option AuthenticatedUser} {orgId buildingId : Id}
  {building : Building} {parsed : ParsedCsv} {queryMode : Option UnitsImportMode}

theorem assertAmenityIds_default :
    assertAmenityIds db buildingId (getDefaultAmenityIds db buildingId) = .ok () := by
  have hsame : db.buildingAmenities.rows.filter (fun a => a.buildingId = buildingId ∧ a.isActive ∧
      a.id ∈ getDefaultAmenityIds db buildingId) =
      db.buildingAmenities.rows.filter fun a =>
        a.buildingId = buildingId ∧ a.isActive ∧ a.isDefault := by
    refine List.filter_congr fun a ha => decide_eq_decide.mpr ?_
    refine and_congr_right fun hbuilding => and_congr_right fun hactive => ?_
    constructor
    · intro hmem
      obtain ⟨a', ha', hid⟩ := List.mem_map.mp hmem
      obtain ⟨hrow, hfields⟩ := List.mem_filter.mp ha'
      obtain rfl := Table.eq_of_key_eq hrow ha hid
      exact (of_decide_eq_true hfields).2.2
    · intro hdefault
      refine List.mem_map_of_mem (List.mem_filter.mpr ⟨ha, ?_⟩)
      exact decide_eq_true ⟨hbuilding, hactive, hdefault⟩
  rw [assertAmenityIds]
  split_ifs
  · rfl
  · rw [Outcome.throwIf_eq_ok, not_not, hsame, getDefaultAmenityIds, List.length_map]

theorem stops_iff {α : Type} {b : Bool} {l : List α} :
    (b || decide (¬ l.isEmpty = true)) = true ↔ b = true ∨ l ≠ [] := by
  rw [Bool.or_eq_true, decide_eq_true_iff, List.isEmpty_iff]

theorem importCsv_eq {dryRun : Bool} (hscope : assertOrgScope user = .ok orgId)
    (hbuilding : findByIdForOrg db orgId buildingId = .ok building) :
    importCsv env db user buildingId (some parsed) queryMode dryRun =
      (let mode := queryMode.getD .CREATE
       let findings := parsed.findings env.platform db orgId buildingId mode
       if dryRun = true ∨ findings.2.2 ≠ [] then
         .ok (db, ⟨dryRun, mode, ⟨findings.1, findings.2.1, 0, 0⟩, findings.2.2, []⟩)
       else do
         let result ← importRows env db buildingId mode (getDefaultAmenityIds db buildingId)
           (parsed.parsedUnits env.platform db orgId).units
         return ({ db with units := result.units, unitAmenities := result.unitAmenities },
           ⟨dryRun, mode, ⟨findings.1, findings.2.1, result.created, result.updated⟩, [],
             result.unitIds⟩)) := by
  rw [importCsv, hscope]
  change (findByIdForOrg db orgId buildingId >>= fun _ => _) = _
  rw [hbuilding]
  simp only [ParsedCsv.findings]
  change (if _ then _ else _) = _
  by_cases hempty : parsed.headers.isEmpty = true
  · simp only [if_pos hempty, ne_eq, List.cons_ne_nil, not_false_eq_true, or_true, if_true]
    rfl
  by_cases hheaders : ¬ (headerErrors env.platform parsed.headers).isEmpty = true
  · have hne : headerErrors env.platform parsed.headers ≠ [] := mt List.isEmpty_iff.mpr hheaders
    simp only [if_neg hempty, if_pos hheaders, ne_eq, hne, not_false_eq_true, or_true, if_true]
    rfl
  by_cases hlength : 2000 < parsed.rows.length
  · simp only [if_neg hempty, if_neg hheaders, if_pos hlength, ne_eq, List.cons_ne_nil,
      not_false_eq_true, or_true, if_true]
    rfl
  simp only [if_neg hempty, if_neg hheaders, if_neg hlength]
  by_cases hstop : dryRun = true ∨ (parsed.parsedUnits env.platform db orgId).errors ++
      takenLabels db buildingId (queryMode.getD .CREATE)
        (parsed.parsedUnits env.platform db orgId).units ≠ []
  · rw [if_pos hstop]
    exact if_pos (stops_iff.mpr hstop)
  · rw [if_neg hstop]
    refine (if_neg (mt stops_iff.mp hstop)).trans ?_
    rw [assertAmenityIds_default]
    rfl

def ImportUnitsResponse.report (response : ImportUnitsResponse) :
    RowImport.Report ImportUnitsError where
  errors := response.errors
  validRows := response.summary.validRows
  written := response.summary.created + response.summary.updated

/-- What an import says of itself, with the store it leaves. -/
def importReport (env : Env) (db : Db) (user : Option AuthenticatedUser) (buildingId : Id)
    (file : Option ParsedCsv) (queryMode : Option UnitsImportMode) (dryRun : Bool) :
    Result (Db × RowImport.Report ImportUnitsError) :=
  (fun run => (run.1, run.2.report)) <$> importCsv env db user buildingId file queryMode dryRun

/-- Of a file with nothing wrong, the numbers fit their columns. -/
def ImportFits (platform : Platform) (db : Db) (user : Option AuthenticatedUser) (buildingId : Id)
    (file : Option ParsedCsv) (mode : UnitsImportMode) : Prop :=
  ∀ orgId building parsed, assertOrgScope user = .ok orgId →
    findByIdForOrg db orgId buildingId = .ok building → file = some parsed →
    parsed.Clean platform db orgId buildingId mode →
    ∀ i row label, parsed.Keeps platform db orgId i row label →
      ∀ column cell value, readCell (parsed.used platform) row (UnitColumn.canonical column) =
        some cell → parseCell platform column cell = .ok value → FitsColumn value

theorem fits_parsedUnits_iff : (∀ entry ∈ (parsed.parsedUnits env.platform db orgId).units,
    entry.2.Fits) ↔ ∀ i row label, parsed.Keeps env.platform db orgId i row label →
      ∀ column cell value, readCell (parsed.used env.platform) row (UnitColumn.canonical column) =
        some cell → parseCell env.platform column cell = .ok value → FitsColumn value := by
  constructor
  · intro h i row label hkeeps column cell value hcell hparse
    exact h _ (mem_parsedUnits.mpr ⟨i, row, label, hkeeps, rfl⟩) column value
      (columnOfRow_eq_value_iff.mpr ⟨cell, hcell, hparse⟩)
  · intro h entry hentry column value hvalue
    obtain ⟨i, row, label, hkeeps, rfl⟩ := mem_parsedUnits.mp hentry
    obtain ⟨cell, hcell, hparse⟩ := columnOfRow_eq_value_iff.mp hvalue
    exact h i row label hkeeps column cell value hcell hparse

theorem findings_valid (h : parsed.Clean env.platform db orgId buildingId (queryMode.getD .CREATE)) :
    (parsed.findings env.platform db orgId buildingId (queryMode.getD .CREATE)).2.1 =
      (parsed.parsedUnits env.platform db orgId).units.length := by
  have hheaders := not_not.mpr (List.isEmpty_iff.mpr h.headers)
  rw [ParsedCsv.findings, if_neg (mt List.isEmpty_iff.mp h.headers_ne_nil), if_neg hheaders,
    if_neg (Nat.not_lt.mpr h.length)]

/-- The store behind a transaction, and how many rows it has written. -/
def ImportState.committed (db : Db) (result : ImportState) : Db × ℕ :=
  ({ db with units := result.units, unitAmenities := result.unitAmenities },
    result.created + result.updated)

/-- The run of a file for a building of the caller. -/
def runReport (env : Env) (db : Db) (orgId buildingId : Id) (parsed : ParsedCsv)
    (mode : UnitsImportMode) (dryRun : Bool) : Result (Db × RowImport.Report ImportUnitsError) :=
  RowImport.checkedRun db (parsed.findings env.platform db orgId buildingId mode).2.2
    (parsed.findings env.platform db orgId buildingId mode).2.1
    (ImportState.committed db <$> importRows env db buildingId mode
      (getDefaultAmenityIds db buildingId) (parsed.parsedUnits env.platform db orgId).units) dryRun

/-- The dry run of a file foretells the import exactly when what has passed the checks fits. -/
theorem predicts_runReport_iff (hfresh : Upsert.FreshKeys env.importedId db.units.table) :
    RowImport.Predicts db (runReport env db orgId buildingId parsed (queryMode.getD .CREATE) true)
        (runReport env db orgId buildingId parsed (queryMode.getD .CREATE) false) ↔
      (parsed.Clean env.platform db orgId buildingId (queryMode.getD .CREATE) →
        ∀ entry ∈ (parsed.parsedUnits env.platform db orgId).units, entry.2.Fits) := by
  rw [runReport, runReport, RowImport.predicts_checkedRun_iff, findings_eq_nil_iff]
  · refine forall_congr' fun hclean => ?_
    rw [RowImport.exists_map_ok, importRows_ok_iff hfresh (checked_of_clean hclean)]
  · intro hnil r hr
    obtain ⟨result, hresult, rfl⟩ := Outcome.map_eq_ok.mp hr
    have hclean := findings_eq_nil_iff.mp hnil
    rw [findings_valid hclean]
    exact importRows_counted (checked_of_clean hclean) hresult

theorem importCsv_bind {γ : Type} {file : Option ParsedCsv} {dryRun : Bool}
    {f : Db × ImportUnitsResponse → γ} {g : Id → ParsedCsv → Result γ}
    (h : ∀ orgId building parsed, assertOrgScope user = .ok orgId →
      findByIdForOrg db orgId buildingId = .ok building →
      f <$> importCsv env db user buildingId (some parsed) queryMode dryRun = g orgId parsed) :
    f <$> importCsv env db user buildingId file queryMode dryRun = (do
      let orgId ← assertOrgScope user
      let _ ← findByIdForOrg db orgId buildingId
      let parsed ← Outcome.orThrow file (.badRequest "CSV file is required")
      g orgId parsed) := by
  cases hscope : assertOrgScope user with
  | error e =>
    rw [importCsv, hscope]
    rfl
  | ok orgId =>
    change _ = (findByIdForOrg db orgId buildingId >>= fun _ => _)
    cases hbuilding : findByIdForOrg db orgId buildingId with
    | error e =>
      rw [importCsv, hscope]
      change _ <$> (findByIdForOrg db orgId buildingId >>= fun _ => _) = _
      rw [hbuilding]
      rfl
    | ok building =>
      cases file with
      | none =>
        rw [importCsv, hscope]
        change _ <$> (findByIdForOrg db orgId buildingId >>= fun _ => _) = _
        rw [hbuilding]
        rfl
      | some parsed => exact h orgId building parsed hscope hbuilding

theorem importReport_eq {file : Option ParsedCsv} {dryRun : Bool} :
    importReport env db user buildingId file queryMode dryRun = (do
      let orgId ← assertOrgScope user
      let _ ← findByIdForOrg db orgId buildingId
      let parsed ← Outcome.orThrow file (.badRequest "CSV file is required")
      runReport env db orgId buildingId parsed (queryMode.getD .CREATE) dryRun) := by
  refine importCsv_bind fun orgId building parsed hscope hbuilding => ?_
  rw [importCsv_eq hscope hbuilding, runReport, RowImport.checkedRun]
  dsimp only
  split
  · rfl
  · cases importRows env db buildingId (queryMode.getD .CREATE)
      (getDefaultAmenityIds db buildingId) (parsed.parsedUnits env.platform db orgId).units <;> rfl

/-- The dry run of an import of units foretells it exactly when the numbers of a file with nothing
wrong fit their columns. -/
theorem unit_import_predicted_iff (hfresh : Upsert.FreshKeys env.importedId db.units.table)
    (file : Option ParsedCsv) :
    RowImport.Predicts db (importReport env db user buildingId file queryMode true)
        (importReport env db user buildingId file queryMode false) ↔
      ImportFits env.platform db user buildingId file (queryMode.getD .CREATE) := by
  rw [importReport_eq, importReport_eq]
  simp only [RowImport.predicts_bind_iff, Outcome.orThrow_eq_ok, predicts_runReport_iff hfresh,
    fits_parsedUnits_iff]
  constructor
  · exact fun h orgId building parsed hscope hbuilding hfile =>
      h orgId hscope building hbuilding parsed hfile
  · exact fun h orgId hscope building hbuilding parsed hfile =>
      h orgId building parsed hscope hbuilding hfile

end Runs

end Towerdesk.Units
