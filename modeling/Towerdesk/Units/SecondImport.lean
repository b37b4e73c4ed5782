import Towerdesk.Units.DryRun

/-!
# Importing units twice

What an import makes of a row it would make again: the columns that the row gives are stored as
they are stored already, and those that it leaves out are kept. A second import of the same file
in UPSERT mode finds every label of it, creates nothing and changes nothing.
-/

namespace Towerdesk.Units

section Columns

variable {db : Db} {dto : CreateUnitDto} {fields : UnitColumn → Field ColumnValue}
  {current columns : Columns} {unit updated : UnitRecord} {id buildingId : Id}

theorem foldlM_write_eq_ok {l : List UnitColumn} (hnodup : l.Nodup) :
    l.foldlM (fun (columns : Columns) column => do
        let value ← column.write (fields column) (columns column)
        return Function.update columns column value) current = (.ok columns : Result Columns) ↔
      (∀ column ∈ l, column.write (fields column) (current column) = .ok (columns column)) ∧
        ∀ column, column ∉ l → columns column = current column := by
  induction l generalizing current with
  | nil =>
    simp only [List.foldlM_nil, Outcome.pure_eq_ok]
    constructor
    · rintro rfl
      exact ⟨fun column hcolumn => absurd hcolumn List.not_mem_nil, fun _ _ => rfl⟩
    · rintro ⟨-, hkept⟩
      exact funext fun column => (hkept column List.not_mem_nil).symm
  | cons c l ih =>
    obtain ⟨hc, hl⟩ := List.nodup_cons.mp hnodup
    simp only [List.foldlM_cons, Outcome.bind_eq_ok, Outcome.pure_eq_ok, exists_exists_and_eq_and,
      ih hl]
    constructor
    · rintro ⟨value, hvalue, hwritten, hkept⟩
      refine ⟨fun column hcolumn => ?_, fun column hcolumn => ?_⟩
      · rcases List.mem_cons.mp hcolumn with rfl | hcolumn
        · rw [hkept column hc, Function.update_self]
          exact hvalue
        · have hne : column ≠ c := fun h => hc (h ▸ hcolumn)
          rw [← hwritten column hcolumn, Function.update_of_ne hne]
      · rw [List.mem_cons, not_or] at hcolumn
        rw [hkept column hcolumn.2, Function.update_of_ne hcolumn.1]
    · rintro ⟨hwritten, hkept⟩
      refine ⟨columns c, hwritten c List.mem_cons_self, fun column hcolumn => ?_,
        fun column hcolumn => ?_⟩
      · have hne : column ≠ c := fun h => hc (h ▸ hcolumn)
        rw [Function.update_of_ne hne]
        exact hwritten column (List.mem_cons_of_mem c hcolumn)
      · by_cases hne : column = c
        · rw [hne, Function.update_self]
        · rw [Function.update_of_ne hne]
          exact hkept column fun h => (List.mem_cons.mp h).elim hne hcolumn

theorem writeColumns_eq_ok :
    writeColumns fields current = .ok columns ↔
      ∀ column : UnitColumn, column.write (fields column) (current column) = .ok (columns column) := by
  have hall : ∀ column : UnitColumn, column ∈ UnitColumn.all := by
    intro column
    cases column <;> decide
  rw [writeColumns, foldlM_write_eq_ok (by decide)]
  constructor
  · exact fun h column => h.1 column (hall column)
  · exact fun h => ⟨fun column _ => h column, fun column hcolumn => absurd (hall column) hcolumn⟩

theorem write_again {column : UnitColumn} {field : Field ColumnValue}
    {old new : Option ColumnValue} (h : column.write field old = .ok new) :
    column.write field new = .ok new := by
  cases field with
  | undefined => rfl
  | null => exact h
  | value v => exact h

theorem writeColumns_again (h : writeColumns fields current = .ok columns) :
    writeColumns fields columns = .ok columns :=
  writeColumns_eq_ok.mpr fun column => write_again (writeColumns_eq_ok.mp h column)

theorem updatedUnit_eq_ok (hdto : dto.Imported db) :
    updatedUnit db unit dto.asUpdate = .ok updated ↔
      ∃ columns unitTypeId, writeColumns dto.columns unit.columns = .ok columns ∧
        updatedUnitType db unit dto.unitTypeId = .ok unitTypeId ∧
          { unit with label := dto.label, unitTypeId, columns } = updated := by
  have howner : updatedOwner db unit dto.ownerId = .ok unit.ownerId := by
    rw [hdto.ownerId]
    rfl
  simp only [updatedUnit, CreateUnitDto.asUpdate, requiredColumn, howner, Outcome.bind_eq_ok,
    Outcome.pure_eq_ok, Except.ok.injEq, exists_eq_left', exists_and_left]

theorem newUnit_eq_ok (hdto : dto.Imported db) :
    newUnit db id buildingId dto = .ok unit ↔
      ∃ columns unitTypeId, writeColumns dto.columns UnitColumn.default = .ok columns ∧
        referenceColumn db.unitTypes.findUnique dto.unitTypeId.toOption = .ok unitTypeId ∧
          (⟨id, buildingId, dto.label, .AVAILABLE, unitTypeId, none, columns⟩ : UnitRecord) =
            unit := by
  have howner : referenceColumn db.owners.findUnique (ownerIdOf dto.ownerId) = .ok none := by
    rw [hdto.ownerId]
    rfl
  simp only [newUnit, howner, Outcome.bind_eq_ok, Outcome.pure_eq_ok, Except.ok.injEq,
    exists_eq_left', exists_and_left]

theorem updatedUnit_again (hdto : dto.Imported db)
    (h : updatedUnit db unit dto.asUpdate = .ok updated) :
    updatedUnit db updated dto.asUpdate = .ok updated := by
  obtain ⟨columns, unitTypeId, hcolumns, htype, rfl⟩ := (updatedUnit_eq_ok hdto).mp h
  refine (updatedUnit_eq_ok hdto).mpr ⟨columns, unitTypeId, writeColumns_again hcolumns, ?_, rfl⟩
  unfold updatedUnitType at htype ⊢
  split_ifs at htype ⊢
  · rfl
  · exact htype

theorem updatedUnit_newUnit (hdto : dto.Imported db)
    (h : newUnit db id buildingId dto = .ok unit) :
    updatedUnit db unit dto.asUpdate = .ok unit := by
  obtain ⟨columns, unitTypeId, hcolumns, htype, rfl⟩ := (newUnit_eq_ok hdto).mp h
  refine (updatedUnit_eq_ok hdto).mpr ⟨columns, unitTypeId, writeColumns_again hcolumns, ?_, rfl⟩
  obtain hnone | ⟨id, hid, hne, -⟩ := hdto.unitTypeId
  · rw [hnone]
    rfl
  · have htruthy : truthy (some id) = some id := truthy_eq_some.mpr ⟨rfl, hne⟩
    rw [hid] at htype ⊢
    rw [updatedUnitType, connectColumn, Field.toOption, htruthy]
    exact htype

end Columns

section Rows

variable {env env' : Env} {db db' : Db} {buildingId : Id} {mode : UnitsImportMode}
  {amenityIds : List Id} {units front : List (ℕ × CreateUnitDto)} {entry : ℕ × CreateUnitDto}
  {s s' : ImportState}

/-- The unit of a row is there as the row makes it. -/
def UnitSettled (db : Db) (buildingId : Id) (entry : ℕ × CreateUnitDto)
    (t : Table UnitRecord.id) : Prop :=
  Upsert.Settled unitLabel (buildingId, entry.2.label)
    (fun u => updatedUnit db u entry.2.asUpdate = .ok u) t

theorem importRow_settles (hchecked : Checked db buildingId mode units) (hentry : entry ∈ units)
    (hwritten : Written env db buildingId front s)
    (h : importRow env db buildingId mode amenityIds s entry = .ok s') :
    UnitSettled db buildingId entry s'.units.table ∧
      ∀ other, other.2.label ≠ entry.2.label → UnitSettled db buildingId other s.units.table →
        UnitSettled db buildingId other s'.units.table := by
  have hdto := hchecked.imported entry hentry
  rw [importRow_eq hchecked hentry] at h
  cases hexisting : existingByLabel db buildingId entry.2.label with
  | none =>
    rw [hexisting] at h
    obtain ⟨unit, hunit, hinsert, -⟩ := importCreate_ok h
    exact ⟨Upsert.settled_insert hinsert (newUnit_label hunit) (updatedUnit_newUnit hdto hunit),
      fun other _ hother => hother.insert hinsert⟩
  | some existing =>
    rw [hexisting] at h
    obtain ⟨current, hcurrent, hid, updated, hupdated, htable, -⟩ := importUpdate_ok h
    have hlabel := hwritten.current hexisting hcurrent hid
    obtain ⟨hsameId, hsameBuilding, -⟩ := updatedUnit_row hupdated
    have hreplaced : updated.replace.apply current = updated := by
      change ({ updated with id := current.id, buildingId := current.buildingId } : UnitRecord) = _
      rw [← hsameId, ← hsameBuilding]
    rw [htable]
    refine ⟨Upsert.settled_modify hcurrent ((replace_label hlabel hupdated).trans hlabel) ?_,
      fun other hne hother => hother.modify hcurrent fun hsame => hne ?_⟩
    · rw [hreplaced]
      exact updatedUnit_again hdto hupdated
    · exact (Prod.mk.inj (Option.some.inj (hsame.symm.trans hlabel))).2

theorem importRows_settle {result : ImportState} (hchecked : Checked db buildingId mode units)
    (h : importRows env db buildingId mode amenityIds units = .ok result) :
    ∀ entry ∈ units, UnitSettled db buildingId entry result.units.table := by
  refine RowImport.foldlM_settles (I := Written env db buildingId)
    (Q := fun entry s => UnitSettled db buildingId entry s.units.table) hchecked.labels
    (fun front entry back s s' hunits hwritten hs' => ?_)
    (fun front entry back s s' hunits hwritten hs' => ?_) (written_start env db buildingId) h
  · exact hwritten.row hchecked (RowImport.mem_of_split hunits) hs'
  · exact importRow_settles hchecked (RowImport.mem_of_split hunits) hwritten hs'

/-- A transaction that has created nothing and changed nothing. -/
structure Idle (db : Db) (s : ImportState) : Prop where
  units : s.units = db.units
  unitAmenities : s.unitAmenities = db.unitAmenities
  created : s.created = 0

theorem importRow_idle (env : Env) (amenityIds : List Id)
    (hsettled : UnitSettled db buildingId entry db.units.table) (hs : Idle db s) :
    ∃ s', importRow env db buildingId .UPSERT amenityIds s entry = .ok s' ∧ Idle db s' := by
  obtain ⟨u, hu, hlabel, hfixed⟩ := hsettled
  have hexisting : existingByLabel db buildingId entry.2.label = some u := by
    refine (Table.findFirst_eq_some_iff fun v hv w hw hpv hpw => ?_).mpr ⟨hu, ?_⟩
    · have hunique := unitCheck_eq_none_iff.mp db.units.valid
      obtain ⟨hbuilding, hsame⟩ := of_decide_eq_true hpv
      obtain ⟨hbuilding', hsame'⟩ := of_decide_eq_true hpw
      refine hunique.eq hv hw (i := (buildingId, entry.2.label)) ?_ ?_
      · rw [unitLabel, hbuilding, hsame]
      · rw [unitLabel, hbuilding', hsame']
    · exact decide_eq_true (Prod.mk.inj (Option.some.inj hlabel))
  have hfind : s.units.table.findUnique u.id = some u := by
    rw [hs.units]
    exact Table.findUnique_eq_some.mpr ⟨hu, rfl⟩
  have hwrite : s.units.write (.update u.id u.replace) = .ok s.units := by
    rw [Constrained.write_eq_ok, hs.units, Table.apply_update]
    exact ⟨⟨u, hu, rfl⟩, (Table.modify_eq_self hu rfl).symm⟩
  refine ⟨{ s with unitIds := s.unitIds ++ [u.id], updated := s.updated + 1 }, ?_,
    hs.units, hs.unitAmenities, hs.created⟩
  unfold importRow
  rw [hexisting]
  exact Outcome.bind_eq_ok.mpr ⟨u, Outcome.orThrow_eq_ok.mpr hfind, Outcome.bind_eq_ok.mpr
    ⟨u, hfixed, Outcome.bind_eq_ok.mpr ⟨s.units, Outcome.mapError_eq_ok.mpr hwrite, rfl⟩⟩⟩

theorem importRows_idle (env : Env) (amenityIds : List Id)
    (h : ∀ entry ∈ units, UnitSettled db buildingId entry db.units.table) :
    ∃ result, importRows env db buildingId .UPSERT amenityIds units = .ok result ∧
      Idle db result := by
  refine RowImport.foldlM_keeps (fun entry hentry s hs => ?_) ⟨rfl, rfl, rfl⟩
  exact importRow_idle env amenityIds (h entry hentry) hs

end Rows

section Runs

variable {env env' : Env} {db : Db} {user : Option AuthenticatedUser} {orgId buildingId : Id}
  {building : Building} {file : Option ParsedCsv} {parsed : ParsedCsv} {mode : UnitsImportMode}
  {run : Db × ℕ}

/-- The store behind an import that is no dry run, and how many units it has created. -/
def createdRun (env : Env) (user : Option AuthenticatedUser) (buildingId : Id)
    (file : Option ParsedCsv) (mode : UnitsImportMode) (db : Db) : Result (Db × ℕ) :=
  (fun run => (run.1, run.2.summary.created)) <$>
    importCsv env db user buildingId file (some mode) false

def ImportState.stored (db : Db) (result : ImportState) : Db × ℕ :=
  ({ db with units := result.units, unitAmenities := result.unitAmenities }, result.created)

/-- The import of a file for a building of the caller. -/
def fileRun (env : Env) (orgId buildingId : Id) (parsed : ParsedCsv) (mode : UnitsImportMode)
    (db : Db) : Result (Db × ℕ) :=
  RowImport.guardedRun db (parsed.findings env.platform db orgId buildingId mode).2.2
    (ImportState.stored db <$> importRows env db buildingId mode
      (getDefaultAmenityIds db buildingId) (parsed.parsedUnits env.platform db orgId).units)

theorem createdRun_eq (hscope : assertOrgScope user = .ok orgId)
    (hbuilding : findByIdForOrg db orgId buildingId = .ok building) :
    createdRun env user buildingId (some parsed) mode db =
      fileRun env orgId buildingId parsed mode db := by
  rw [createdRun, importCsv_eq hscope hbuilding, fileRun, RowImport.guardedRun]
  dsimp only [Option.getD_some]
  by_cases hfindings : (parsed.findings env.platform db orgId buildingId mode).2.2 = []
  · rw [if_neg (not_or.mpr ⟨Bool.false_ne_true, not_not.mpr hfindings⟩), if_pos hfindings]
    cases importRows env db buildingId mode (getDefaultAmenityIds db buildingId)
      (parsed.parsedUnits env.platform db orgId).units <;> rfl
  · rw [if_pos (.inr hfindings), if_neg hfindings]
    rfl

theorem createdRun_bind : createdRun env user buildingId file mode = fun db =>
    assertOrgScope user >>= fun orgId => findByIdForOrg db orgId buildingId >>= fun _ =>
      Outcome.orThrow file (.badRequest "CSV file is required") >>= fun parsed =>
        fileRun env orgId buildingId parsed mode db := by
  funext db
  exact importCsv_bind fun orgId building parsed hscope hbuilding => createdRun_eq hscope hbuilding

theorem fileRun_buildings (h : fileRun env orgId buildingId parsed mode db = .ok run) :
    run.1.buildings = db.buildings := by
  obtain ⟨-, hwrite⟩ | ⟨-, rfl⟩ := RowImport.guardedRun_eq_ok.mp h
  · obtain ⟨result, -, rfl⟩ := Outcome.map_eq_ok.mp hwrite
    rfl
  · rfl

theorem fileRun_idle (hsettled : ∀ entry ∈ (parsed.parsedUnits env.platform db orgId).units,
    UnitSettled db buildingId entry db.units.table) :
    fileRun env orgId buildingId parsed .UPSERT db = .ok (db, 0) := by
  obtain ⟨result, hresult, hidle⟩ :=
    importRows_idle env (getDefaultAmenityIds db buildingId) hsettled
  refine RowImport.guardedRun_of_write (Outcome.map_eq_ok.mpr ⟨result, hresult, ?_⟩)
  rw [ImportState.stored, hidle.units, hidle.unitAmenities, hidle.created]

/-- Behind a run without errors the same file finds everything written. -/
theorem fileRun_settles (hplatform : env'.platform = env.platform)
    (hclean : parsed.Clean env.platform db orgId buildingId mode)
    (h : fileRun env orgId buildingId parsed mode db = .ok run) :
    fileRun env' orgId buildingId parsed .UPSERT run.1 = .ok (run.1, 0) := by
  obtain ⟨-, hwrite⟩ | ⟨hfindings, -⟩ := RowImport.guardedRun_eq_ok.mp h
  · obtain ⟨result, hresult, rfl⟩ := Outcome.map_eq_ok.mp hwrite
    have hsettled := importRows_settle (checked_of_clean hclean) hresult
    refine fileRun_idle ?_
    rw [hplatform]
    exact hsettled
  · exact absurd (findings_eq_nil_iff.mpr hclean) hfindings

/-- Behind a run in UPSERT mode the same file is written already, or refused as it was. -/
theorem fileRun_again (hplatform : env'.platform = env.platform)
    (h : fileRun env orgId buildingId parsed .UPSERT db = .ok run) :
    fileRun env' orgId buildingId parsed .UPSERT run.1 = .ok (run.1, 0) := by
  by_cases hfindings : (parsed.findings env.platform db orgId buildingId .UPSERT).2.2 = []
  · exact fileRun_settles hplatform (findings_eq_nil_iff.mp hfindings) h
  · obtain ⟨hnil, -⟩ | ⟨-, rfl⟩ := RowImport.guardedRun_eq_ok.mp h
    · exact absurd hnil hfindings
    · rw [← hplatform] at hfindings
      exact if_neg hfindings

theorem exists_fileRun_iff (hfresh : Upsert.FreshKeys env.importedId db.units.table) :
    (∃ run, fileRun env orgId buildingId parsed mode db = .ok run) ↔
      (parsed.Clean env.platform db orgId buildingId mode →
        ∀ entry ∈ (parsed.parsedUnits env.platform db orgId).units, entry.2.Fits) := by
  rw [fileRun, RowImport.exists_guardedRun_iff, findings_eq_nil_iff]
  refine forall_congr' fun hclean => ?_
  rw [RowImport.exists_map_ok, importRows_ok_iff hfresh (checked_of_clean hclean)]

theorem fileRun_twice (hplatform : env'.platform = env.platform)
    (hfresh : Upsert.FreshKeys env.importedId db.units.table)
    (hfresh' : Upsert.FreshKeys env'.importedId db.units.table) :
    RowImport.Settles (fileRun env orgId buildingId parsed .UPSERT)
      (fileRun env' orgId buildingId parsed .UPSERT) db where
  again run hrun := fileRun_again hplatform hrun
  throws e hrun := by
    refine RowImport.throws_of_ok_iff (fun hsecond => ?_) hrun
    have hfits := (exists_fileRun_iff hfresh').mp hsecond
    rw [hplatform] at hfits
    exact (exists_fileRun_iff hfresh).mpr hfits

/-- Of two imports of a file in UPSERT mode the second leaves everything as it is. -/
theorem second_import_settles (hplatform : env'.platform = env.platform)
    (hfresh : Upsert.FreshKeys env.importedId db.units.table)
    (hfresh' : Upsert.FreshKeys env'.importedId db.units.table) :
    RowImport.Settles (createdRun env user buildingId file .UPSERT)
      (createdRun env' user buildingId file .UPSERT) db := by
  rw [createdRun_bind, createdRun_bind]
  refine RowImport.settles_bind (fun _ _ _ => rfl) fun orgId _ =>
    RowImport.settles_bind (fun building run hrun => ?_) fun building _ =>
    RowImport.settles_bind (fun _ _ _ => rfl) fun parsed _ =>
    fileRun_twice hplatform hfresh hfresh'
  obtain ⟨parsed, -, hfile⟩ := Outcome.bind_eq_ok.mp hrun
  rw [findByIdForOrg, fileRun_buildings hfile]
  rfl

end Runs

end Towerdesk.Units
