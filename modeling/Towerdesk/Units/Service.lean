import Towerdesk.Units.Forms

/-!
# The units service

Creating, updating and importing units. The first two write the unit and bring the
ownership rows in line in one transaction; an import writes units only.
-/

namespace Towerdesk.Units

structure Env where
  now : Date
  unitId : Id
  ownershipId : Id
  importedId : ℕ → Id
  platform : Platform

section Ownership

def UnitOwnership.ended (now : Date) : Patch UnitOwnership.id where
  apply o := { o with endDate := some now }
  key_apply _ := rfl

def activeRows (ownerships : OwnershipTable) (unitId : Id) : List UnitOwnership :=
  ownerships.table.rows.filter fun o => o.unitId = unitId ∧ o.endDate = none

def closeOthers (env : Env) (unitId ownerId : Id) (ownerships : OwnershipTable) :
    Except DbError OwnershipTable :=
  if (activeRows ownerships unitId).isEmpty then .ok ownerships
  else ownerships.write
    (.updateMany (fun o => o.unitId = unitId ∧ o.endDate = none ∧ o.ownerId ≠ ownerId)
      (UnitOwnership.ended env.now))

def syncCurrentOwner (env : Env) (orgId unitId : Id) (ownerId : Option Id)
    (ownerships : OwnershipTable) : Except DbError OwnershipTable :=
  match truthy ownerId with
  | none =>
    if (activeRows ownerships unitId).isEmpty then .ok ownerships
    else ownerships.write (.updateMany (fun o => o.unitId = unitId ∧ o.endDate = none)
      (UnitOwnership.ended env.now))
  | some ownerId =>
    let matchingActive := (activeRows ownerships unitId).find? (·.ownerId = ownerId)
    if matchingActive.isSome ∧ (activeRows ownerships unitId).length = 1 then .ok ownerships
    else do
      let closed ← closeOthers env unitId ownerId ownerships
      if matchingActive.isSome then return closed
      closed.write (.create ⟨env.ownershipId, orgId, unitId, ownerId, env.now, none⟩)

end Ownership

section Checks

variable (db : Db)

def findByIdForOrg (orgId buildingId : Id) : Result Building :=
  Outcome.orThrow (db.buildings.findFirst fun b => b.id = buildingId ∧ b.orgId = orgId)
    (.notFound "Building not found")

def findByIdForBuilding (buildingId unitId : Id) : Result UnitRecord :=
  Outcome.orThrow (db.units.table.findFirst fun u => u.id = unitId ∧ u.buildingId = buildingId)
    (.notFound "Unit not found")

def assertUnitTypeInOrg (orgId : Id) (unitTypeId : Option Id) : Result Unit :=
  match truthy unitTypeId with
  | none => .ok ()
  | some id => Outcome.throwIf
    (db.unitTypes.findFirst fun t => t.id = id ∧ t.orgId = orgId).isNone
    (.notFound "Unit type not found")

def assertOwnerInOrg (orgId : Id) (ownerId : Option Id) : Result Unit :=
  match truthy ownerId with
  | none => .ok ()
  | some id => Outcome.throwIf (db.owners.findFirst fun o => o.id = id ∧ o.orgId = orgId).isNone
    (.notFound "Owner not found")

def getDefaultAmenityIds (buildingId : Id) : List Id :=
  (db.buildingAmenities.rows.filter fun a =>
    a.buildingId = buildingId ∧ a.isActive ∧ a.isDefault).map (·.id)

def assertAmenityIds (buildingId : Id) (amenityIds : List Id) : Result Unit :=
  if amenityIds.isEmpty then .ok () else
    let amenities := db.buildingAmenities.rows.filter fun a =>
      a.buildingId = buildingId ∧ a.isActive ∧ a.id ∈ amenityIds
    Outcome.throwIf (amenities.length ≠ amenityIds.length)
      (.badRequest "Amenity does not belong to the same building as the unit")

/-- `amenityIds` of a form, whose length is taken before anything else. -/
def amenityIdsOf (field : Field (List Id)) (absent : List Id) : Result (List Id) :=
  match field with
  | .undefined => .ok absent
  | .null => .error (.internal "Cannot read properties of null")
  | .value ids => .ok ids

/-- `createMany` of a unit's amenities with `skipDuplicates`. -/
def addAmenities (unitId : Id) (amenityIds : List Id) (t : Table UnitAmenity.key) :
    Table UnitAmenity.key :=
  amenityIds.foldl (fun t amenityId => (t.insert ⟨unitId, amenityId⟩).getD t) t

end Checks

section Rows

variable (db : Db)

/-- A reference column of a new row: the row it names must be there. -/
def referenceColumn {α : Type} (find : Id → Option α) (id : Option Id) : Result (Option Id) :=
  match id with
  | none => .ok none
  | some id =>
    if (find id).isSome then .ok (some id)
    else .error (.internal "Foreign key constraint violated")

/-- `connect`, or `disconnect` when the value is falsy. -/
def connectColumn {α : Type} (find : Id → Option α) (id : Option Id) : Result (Option Id) :=
  referenceColumn find (truthy id)

/-- The row `mapUnitData` makes. -/
def newUnit (id buildingId : Id) (dto : CreateUnitDto) : Result UnitRecord := do
  let columns ← writeColumns dto.columns UnitColumn.default
  let unitTypeId ← referenceColumn db.unitTypes.findUnique dto.unitTypeId.toOption
  let ownerId ← referenceColumn db.owners.findUnique (ownerIdOf dto.ownerId)
  return { id, buildingId, label := dto.label, status := .AVAILABLE, unitTypeId, ownerId, columns }

def updatedUnitType (unit : UnitRecord) (field : Field Id) : Result (Option Id) :=
  if field.isUndefined then .ok unit.unitTypeId
  else connectColumn db.unitTypes.findUnique field.toOption

def updatedOwner (unit : UnitRecord) (field : Field Uuid) : Result (Option Id) :=
  if field.isUndefined then .ok unit.ownerId
  else connectColumn db.owners.findUnique (ownerIdOf field)

/-- The row after the data of `mapUnitUpdate`. -/
def updatedUnit (unit : UnitRecord) (dto : UpdateUnitDto) : Result UnitRecord := do
  let columns ← writeColumns dto.columns unit.columns
  let label ← requiredColumn dto.label unit.label
  let status ← requiredColumn dto.status unit.status
  let unitTypeId ← updatedUnitType db unit dto.unitTypeId
  let ownerId ← updatedOwner db unit dto.ownerId
  return { unit with label, status, unitTypeId, ownerId, columns }

/-- The row written over whatever row has its id, which stays in its building. -/
def UnitRecord.replace (unit : UnitRecord) : Patch UnitRecord.id where
  apply current := { unit with id := current.id, buildingId := current.buildingId }
  key_apply _ := rfl

end Rows

section Operations

variable (env : Env) (db : Db)

/-- `P2002`, whichever index it comes from, is read as a taken label. -/
def labelConflict : DbError → HttpException
  | .duplicateKey => .conflict "Unit label already exists"
  | .violates _ => .conflict "Unit label already exists"
  | .recordNotFound => .internal "Record to update not found"

def create (user : Option AuthenticatedUser) (buildingId : Id) (dto : CreateUnitDto) :
    Result Db := do
  let orgId ← assertOrgScope user
  let _ ← findByIdForOrg db orgId buildingId
  assertUnitTypeInOrg db orgId dto.unitTypeId.toOption
  assertOwnerInOrg db orgId (ownerIdOf dto.ownerId)
  let amenityIds ← amenityIdsOf dto.amenityIds (getDefaultAmenityIds db buildingId)
  assertAmenityIds db buildingId amenityIds
  let unit ← newUnit db env.unitId buildingId dto
  let units ← (db.units.write (.create unit)).mapError labelConflict
  let unitOwnerships ←
    (syncCurrentOwner env orgId unit.id (ownerIdOf dto.ownerId) db.unitOwnerships).mapError
      labelConflict
  return { db with
    units, unitOwnerships, unitAmenities := addAmenities unit.id amenityIds db.unitAmenities }

/-- Leaving the owner out leaves the history alone. -/
def syncIfGiven (orgId unitId : Id) (field : Field Uuid) (ownerships : OwnershipTable) :
    Except DbError OwnershipTable :=
  if field.isUndefined then .ok ownerships
  else syncCurrentOwner env orgId unitId (ownerIdOf field) ownerships

def replaceAmenities (unitId : Id) (field : Field (List Id)) (t : Table UnitAmenity.key) :
    Table UnitAmenity.key :=
  match field with
  | .value amenityIds => addAmenities unitId amenityIds (t.filter (·.unitId ≠ unitId))
  | _ => t

/-- The unit is read again after the transaction, which nothing can have removed. -/
def update (user : Option AuthenticatedUser) (buildingId unitId : Id) (dto : UpdateUnitDto) :
    Result Db := do
  let orgId ← assertOrgScope user
  let _ ← findByIdForOrg db orgId buildingId
  let unit ← findByIdForBuilding db buildingId unitId
  assertUnitTypeInOrg db orgId dto.unitTypeId.toOption
  assertOwnerInOrg db orgId (ownerIdOf dto.ownerId)
  let amenityIds ← amenityIdsOf dto.amenityIds []
  assertAmenityIds db buildingId amenityIds
  let updated ← updatedUnit db unit dto
  let units ← (db.units.write (.update unit.id updated.replace)).mapError labelConflict
  let unitOwnerships ←
    (syncIfGiven env orgId unit.id dto.ownerId db.unitOwnerships).mapError labelConflict
  return { db with
    units, unitOwnerships
    unitAmenities := replaceAmenities unit.id dto.amenityIds db.unitAmenities }

structure ImportSummary where
  totalRows : ℕ
  validRows : ℕ
  created : ℕ
  updated : ℕ
deriving DecidableEq, Repr

structure ImportUnitsResponse where
  dryRun : Bool
  mode : UnitsImportMode
  summary : ImportSummary
  errors : List ImportUnitsError
  unitIds : List Id
deriving DecidableEq, Repr

/-- The transaction of an import under way. -/
structure ImportState where
  units : UnitTable
  unitAmenities : Table UnitAmenity.key
  unitIds : List Id
  created : ℕ
  updated : ℕ

def importWriteError : DbError → HttpException
  | .recordNotFound => .internal "Record to update not found"
  | _ => .internal "Unique constraint failed"

/-- A create form read as an update form. -/
def CreateUnitDto.asUpdate (dto : CreateUnitDto) : UpdateUnitDto where
  label := .value dto.label
  status := .undefined
  unitTypeId := dto.unitTypeId
  ownerId := dto.ownerId
  amenityIds := .undefined
  columns := dto.columns

def existingByLabel (buildingId : Id) (label : String) : Option UnitRecord :=
  db.units.table.findFirst fun u => u.buildingId = buildingId ∧ u.label = label

def importUpdate (existing : UnitRecord) (dto : CreateUnitDto) (s : ImportState) :
    Result ImportState := do
  let current ← Outcome.orThrow (s.units.table.findUnique existing.id)
    (.internal "Record to update not found")
  let updated ← updatedUnit db current dto.asUpdate
  let units ← (s.units.write (.update current.id updated.replace)).mapError importWriteError
  return { s with units, unitIds := s.unitIds ++ [existing.id], updated := s.updated + 1 }

def importCreate (buildingId : Id) (amenityIds : List Id) (dto : CreateUnitDto)
    (s : ImportState) : Result ImportState := do
  let unit ← newUnit db (env.importedId s.created) buildingId dto
  let units ← (s.units.write (.create unit)).mapError importWriteError
  return { s with
    units, unitAmenities := addAmenities unit.id amenityIds s.unitAmenities
    unitIds := s.unitIds ++ [unit.id], created := s.created + 1 }

def importRow (buildingId : Id) (mode : UnitsImportMode) (amenityIds : List Id)
    (s : ImportState) (entry : ℕ × CreateUnitDto) : Result ImportState :=
  match mode, existingByLabel db buildingId entry.2.label with
  | .UPSERT, some existing => importUpdate db existing entry.2 s
  | _, _ => importCreate env db buildingId amenityIds entry.2 s

def importRows (buildingId : Id) (mode : UnitsImportMode) (amenityIds : List Id)
    (units : List (ℕ × CreateUnitDto)) : Result ImportState :=
  units.foldlM (importRow env db buildingId mode amenityIds)
    ⟨db.units, db.unitAmenities, [], 0, 0⟩

/-- In CREATE mode a label that is taken is an error of its row. -/
def takenLabels (buildingId : Id) (mode : UnitsImportMode) (units : List (ℕ × CreateUnitDto)) :
    List ImportUnitsError :=
  match mode with
  | .UPSERT => []
  | .CREATE => (units.filter fun u => (existingByLabel db buildingId u.2.label).isSome).map
      fun u => ⟨u.1, some "label", "Unit label already exists: " ++ u.2.label⟩

/-- An empty file is no file; what it says is given already split into cells. -/
def importCsv (user : Option AuthenticatedUser) (buildingId : Id) (file : Option ParsedCsv)
    (queryMode : Option UnitsImportMode) (dryRun : Bool) : Result (Db × ImportUnitsResponse) := do
  let orgId ← assertOrgScope user
  let _ ← findByIdForOrg db orgId buildingId
  let parsed ← Outcome.orThrow file (.badRequest "CSV file is required")
  let mode := queryMode.getD .CREATE
  let refused (totalRows validRows : ℕ) (errors : List ImportUnitsError) :
      Db × ImportUnitsResponse := (db, ⟨dryRun, mode, ⟨totalRows, validRows, 0, 0⟩, errors, []⟩)
  if parsed.headers.isEmpty then return refused 0 0 [⟨1, none, "CSV is empty"⟩]
  let errors := headerErrors env.platform parsed.headers
  if ¬ errors.isEmpty then return refused parsed.rows.length 0 errors
  if 2000 < parsed.rows.length then
    return refused parsed.rows.length 0 [⟨1, none, "Too many rows (max 2000)"⟩]
  let unitTypes := db.unitTypes.rows.filter fun t => t.orgId = orgId ∧ t.isActive
  let used := (readHeaders env.platform parsed.headers).1
  let rows := parseRows env.platform unitTypes used parsed.rows
  let errors := rows.errors ++ takenLabels db buildingId mode rows.units
  if dryRun || ¬ errors.isEmpty then
    return refused parsed.rows.length rows.units.length errors
  let amenityIds := getDefaultAmenityIds db buildingId
  assertAmenityIds db buildingId amenityIds
  let result ← importRows env db buildingId mode amenityIds rows.units
  return ({ db with units := result.units, unitAmenities := result.unitAmenities },
    ⟨dryRun, mode, ⟨parsed.rows.length, rows.units.length, result.created, result.updated⟩, [],
      result.unitIds⟩)

end Operations

inductive Operation
  | create (user : Option AuthenticatedUser) (buildingId : Id) (dto : CreateUnitDto)
  | update (user : Option AuthenticatedUser) (buildingId unitId : Id) (dto : UpdateUnitDto)
  | importCsv (user : Option AuthenticatedUser) (buildingId : Id) (file : Option ParsedCsv)
      (mode : Option UnitsImportMode) (dryRun : Bool)

def step (env : Env) (db : Db) : Operation → Result Db
  | .create user buildingId dto => create env db user buildingId dto
  | .update user buildingId unitId dto => update env db user buildingId unitId dto
  | .importCsv user buildingId file mode dryRun =>
    (·.1) <$> importCsv env db user buildingId file mode dryRun

/-- A call that throws leaves the store as it is. -/
def next (c : Env × Operation) (db : Db) : Db := Outcome.orElseKeep db (step c.1 db c.2)

end Towerdesk.Units
