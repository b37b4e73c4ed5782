import Towerdesk.Directory
import Towerdesk.Lib.Constraint

/-!
# Units and their forms

A unit names its current owner, and the ownership rows keep the history. Beside the columns the
services look at, a unit has eighteen that are only copied; they are one family here, each with
its own kind. The bodies of the create and update routes come as forms, and the reading of an
uploaded file makes create forms: a row is read header by header from the allowed ones, none of
which is the owner's.
-/

namespace Towerdesk.Units

inductive UnitStatus
  | AVAILABLE | OCCUPIED | UNDER_MAINTENANCE | BLOCKED
deriving DecidableEq, Repr

inductive UnitColumn
  | floor | notes | bedrooms | bathrooms | unitSize | unitSizeUnit | furnishedStatus | balcony
  | kitchenType | rentAnnual | paymentFrequency | securityDepositAmount | serviceChargePerUnit
  | vatApplicable | maintenancePayer | electricityMeterNumber | waterMeterNumber | gasMeterNumber
deriving DecidableEq, Repr

inductive ColumnKind
  | text | integer | number | boolean
  | enum (allowed : List String)
deriving DecidableEq, Repr

inductive ColumnValue
  | text (s : String)
  | integer (n : ℤ)
  | number (q : ℚ)
  | boolean (b : Bool)
  | enum (name : String)
deriving DecidableEq, Repr

namespace UnitColumn

def kind : UnitColumn → ColumnKind
  | floor | bedrooms | bathrooms => .integer
  | unitSize | rentAnnual | securityDepositAmount | serviceChargePerUnit => .number
  | balcony | vatApplicable => .boolean
  | notes | electricityMeterNumber | waterMeterNumber | gasMeterNumber => .text
  | unitSizeUnit => .enum ["SQ_FT"]
  | furnishedStatus => .enum ["UNFURNISHED", "SEMI_FURNISHED", "FULLY_FURNISHED"]
  | kitchenType => .enum ["OPEN", "CLOSED"]
  | paymentFrequency => .enum ["MONTHLY", "QUARTERLY", "SEMI_ANNUAL", "ANNUAL"]
  | maintenancePayer => .enum ["OWNER", "TENANT", "BUILDING"]

def default : UnitColumn → Option ColumnValue
  | unitSizeUnit => some (.enum "SQ_FT")
  | _ => none

/-- What a given value is stored as. -/
def store (value : ColumnValue) : Result ColumnValue :=
  match value with
  | .integer n => (fun n => .integer n) <$> toIntColumn n
  | .number q => (fun q => .number q) <$> toDecimalColumn q
  | v => .ok v

/-- `null` clears a column, except that a decimal cannot be built from it and the unit of the
size is required. -/
def storeNull (column : UnitColumn) : Result (Option ColumnValue) :=
  if column.kind = .number then .error (.internal "[DecimalError] Invalid argument: null")
  else if column = .unitSizeUnit then .error (.internal "Argument must not be null")
  else .ok none

/-- The column after a form's field: kept when the field is left out. -/
def write (column : UnitColumn) (field : Field ColumnValue) (current : Option ColumnValue) :
    Result (Option ColumnValue) :=
  match field with
  | .undefined => .ok current
  | .null => storeNull column
  | .value v => some <$> store v

def all : List UnitColumn :=
  [floor, notes, bedrooms, bathrooms, unitSize, unitSizeUnit, furnishedStatus, balcony,
    kitchenType, rentAnnual, paymentFrequency, securityDepositAmount, serviceChargePerUnit,
    vatApplicable, maintenancePayer, electricityMeterNumber, waterMeterNumber, gasMeterNumber]

end UnitColumn

abbrev Columns := UnitColumn → Option ColumnValue

/-- Writes every column of a form, refusing the form at the first refused column. -/
def writeColumns (fields : UnitColumn → Field ColumnValue) (current : Columns) : Result Columns :=
  UnitColumn.all.foldlM (fun columns column => do
    let value ← column.write (fields column) (columns column)
    return Function.update columns column value) current

structure UnitRecord where
  id : Id
  buildingId : Id
  label : String
  status : UnitStatus
  unitTypeId : Option Id
  ownerId : Option Id
  columns : Columns

structure UnitType where
  id : Id
  orgId : Id
  name : String
  isActive : Bool
deriving DecidableEq, Repr

structure BuildingAmenity where
  id : Id
  buildingId : Id
  isActive : Bool
  isDefault : Bool
deriving DecidableEq, Repr

structure UnitAmenity where
  unitId : Id
  amenityId : Id
deriving DecidableEq, Repr

def UnitAmenity.key (a : UnitAmenity) : Id × Id := (a.unitId, a.amenityId)

/-- The unique indexes beside the primary keys. -/
inductive UnitConstraint
  | Unit_buildingId_label_key
  | UnitOwnership_active_unit_unique
deriving DecidableEq, Repr

def unitLabel (u : UnitRecord) : Option (Id × String) := some (u.buildingId, u.label)

def unitCheck (t : Table UnitRecord.id) : Option UnitConstraint :=
  if t.UniqueOn unitLabel then none else some .Unit_buildingId_label_key

def openUnit (o : UnitOwnership) : Option Id := if o.endDate = none then some o.unitId else none

def ownershipCheck (t : Table UnitOwnership.id) : Option UnitConstraint :=
  if t.UniqueOn openUnit then none else some .UnitOwnership_active_unit_unique

abbrev UnitTable := Constrained UnitRecord.id unitCheck

abbrev OwnershipTable := Constrained UnitOwnership.id ownershipCheck

theorem OwnershipTable.open_unique (t : OwnershipTable) : t.table.UniqueOn openUnit := by
  have hvalid := t.valid
  unfold ownershipCheck at hvalid
  split at hvalid
  · assumption
  · cases hvalid

structure Db where
  buildings : Table Building.id
  owners : Table Owner.id
  unitTypes : Table UnitType.id
  buildingAmenities : Table BuildingAmenity.id
  units : UnitTable
  unitAmenities : Table UnitAmenity.key
  unitOwnerships : OwnershipTable

abbrev DbError := Table.WriteError UnitConstraint

end Towerdesk.Units

namespace Towerdesk.Units

section Forms

def isHexDigit (c : Char) : Bool :=
  c.isDigit || ('a' ≤ c && c ≤ 'f') || ('A' ≤ c && c ≤ 'F')

def isUuid (s : String) : Bool :=
  s.length = 36 && s.toList.zipIdx.all fun (c, i) =>
    if [8, 13, 18, 23].contains i then c = '-' else isHexDigit c

/-- A string that passes `@IsUUID()`. -/
structure Uuid where
  val : Id
  shape : isUuid val = true

theorem Uuid.ne_empty (u : Uuid) : u.val ≠ "" := by
  intro h
  have hshape := u.shape
  rw [h] at hshape
  exact absurd hshape (by decide)

structure CreateUnitDto where
  label : String
  unitTypeId : Field Id
  ownerId : Field Uuid
  amenityIds : Field (List Id)
  columns : UnitColumn → Field ColumnValue

structure UpdateUnitDto where
  label : Field String
  status : Field UnitStatus
  unitTypeId : Field Id
  ownerId : Field Uuid
  amenityIds : Field (List Id)
  columns : UnitColumn → Field ColumnValue

def ownerIdOf (field : Field Uuid) : Option Id := field.toOption.map (·.val)

theorem truthy_ownerIdOf (field : Field Uuid) : truthy (ownerIdOf field) = ownerIdOf field := by
  cases field with
  | undefined => rfl
  | null => rfl
  | value u => exact truthy_eq_some.mpr ⟨rfl, u.ne_empty⟩

end Forms

section Import

/-- How the platform changes case and reads numbers. -/
structure Platform where
  toLowerCase : String → String
  toUpperCase : String → String
  parseInt : String → Option ℤ
  parseFloat : String → Option ℚ

structure ParsedCsv where
  headers : List String
  rows : List (List (String × String))

inductive UnitsImportMode
  | CREATE | UPSERT
deriving DecidableEq, Repr

structure ImportUnitsError where
  row : ℕ
  field : Option String
  message : String
deriving DecidableEq, Repr

def UnitColumn.field : UnitColumn → String
  | floor => "floor"
  | notes => "notes"
  | bedrooms => "bedrooms"
  | bathrooms => "bathrooms"
  | unitSize => "unitSize"
  | unitSizeUnit => "unitSizeUnit"
  | furnishedStatus => "furnishedStatus"
  | balcony => "balcony"
  | kitchenType => "kitchenType"
  | rentAnnual => "rentAnnual"
  | paymentFrequency => "paymentFrequency"
  | securityDepositAmount => "securityDepositAmount"
  | serviceChargePerUnit => "serviceChargePerUnit"
  | vatApplicable => "vatApplicable"
  | maintenancePayer => "maintenancePayer"
  | electricityMeterNumber => "electricityMeterNumber"
  | waterMeterNumber => "waterMeterNumber"
  | gasMeterNumber => "gasMeterNumber"

def UnitColumn.canonical (column : UnitColumn) : String := column.field.toLower

def UNITS_IMPORT_ALLOWED_HEADERS : List String :=
  "label" :: "unittype" :: UnitColumn.all.map UnitColumn.canonical

variable (platform : Platform)

def canonicalHeader (value : String) : String :=
  String.ofList ((platform.toLowerCase value).toList.filter fun c =>
    ¬ isSpace c ∧ c ≠ '_' ∧ c ≠ '-')

/-- The headers in use, by their canonical names, and what is wrong with the others. -/
def readHeaders (headers : List String) : List (String × String) × List ImportUnitsError :=
  headers.zipIdx.foldl (fun (used, errors) (header, index) =>
    let canonical := canonicalHeader platform header
    if canonical ∉ UNITS_IMPORT_ALLOWED_HEADERS then
      let field := if header = "" then "col_" ++ toString (index + 1) else header
      (used, errors ++ [⟨1, some field, "Unknown header: " ++ header⟩])
    else if (used.lookup canonical).isSome then
      (used, errors ++ [⟨1, some header, "Duplicate header: " ++ header⟩])
    else (used ++ [(canonical, header)], errors)) ([], [])

def headerErrors (headers : List String) : List ImportUnitsError :=
  let (used, errors) := readHeaders platform headers
  if (used.lookup "label").isSome then errors
  else errors ++ [⟨1, some "label", "Missing required header: label"⟩]

def readCell (used row : List (String × String)) (canonical : String) : Option String := do
  let actual ← truthy (used.lookup canonical)
  truthy (some (trimString ((row.lookup actual).getD "")))

def normalizeEnum (value : String) : String :=
  String.ofList ((platform.toUpperCase (trimString value)).toList.map fun c =>
    if isSpace c ∨ c = '-' then '_' else c)

def parseBool (value : String) : Option Bool :=
  let normalized := platform.toLowerCase (trimString value)
  if ["true", "1", "yes", "y"].contains normalized then some true
  else if ["false", "0", "no", "n"].contains normalized then some false
  else none

def parseCell (column : UnitColumn) (value : String) : Except String ColumnValue :=
  match column.kind with
  | .text => .ok (.text value)
  | .integer =>
    Outcome.orThrow ((platform.parseInt value).map .integer) ("Invalid integer: " ++ value)
  | .number =>
    Outcome.orThrow ((platform.parseFloat value).map .number) ("Invalid number: " ++ value)
  | .boolean =>
    Outcome.orThrow ((parseBool platform value).map .boolean) ("Invalid boolean: " ++ value)
  | .enum allowed =>
    let normalized := normalizeEnum platform value
    if allowed.contains normalized then .ok (.enum normalized)
    else .error ("Invalid " ++ column.field ++ ": " ++ value)

def columnOfRow (used row : List (String × String)) (column : UnitColumn) : Field ColumnValue :=
  match readCell used row column.canonical with
  | none => .undefined
  | some cell =>
    match parseCell platform column cell with
    | .ok value => .value value
    | .error _ => .undefined

def columnError (used row : List (String × String)) (csvRowNumber : ℕ) (column : UnitColumn) :
    Option ImportUnitsError :=
  match readCell used row column.canonical with
  | none => none
  | some cell =>
    match parseCell platform column cell with
    | .ok _ => none
    | .error message => some ⟨csvRowNumber, some column.field, message⟩

/-- The unit type a row names, the last of those of one name. -/
def findUnitType (unitTypes : List UnitType) (name : String) : Option Id :=
  truthy ((unitTypes.reverse.find? fun t =>
    platform.toLowerCase (trimString t.name) = platform.toLowerCase (trimString name)).map (·.id))

/-- `dto` of a row: nothing in it names an owner. -/
def createUnitDtoOfRow (unitTypes : List UnitType) (used row : List (String × String))
    (label : String) : CreateUnitDto where
  label
  unitTypeId :=
    match (readCell used row "unittype").bind (findUnitType platform unitTypes) with
    | some id => .value id
    | none => .undefined
  ownerId := .undefined
  amenityIds := .undefined
  columns := columnOfRow platform used row

def rowErrors (unitTypes : List UnitType) (used row : List (String × String))
    (csvRowNumber : ℕ) : List ImportUnitsError :=
  UnitColumn.all.filterMap (columnError platform used row csvRowNumber) ++
    match readCell used row "unittype" with
    | none => []
    | some name =>
      if (findUnitType platform unitTypes name).isSome then []
      else [⟨csvRowNumber, some "unitType", "Unit type not found: " ++ name⟩]

structure ParsedUnits where
  seenLabels : List String
  units : List (ℕ × CreateUnitDto)
  errors : List ImportUnitsError

def parseRow (unitTypes : List UnitType) (used : List (String × String)) (acc : ParsedUnits)
    (entry : List (String × String) × ℕ) : ParsedUnits :=
  let row := entry.1
  let csvRowNumber := entry.2 + 2
  if ¬ row.any (fun cell => trimString cell.2 ≠ "") then acc
  else
    match readCell used row "label" with
    | none => { acc with
        errors := acc.errors ++ [⟨csvRowNumber, some "label", "Label is required"⟩] }
    | some label =>
      if acc.seenLabels.contains label then { acc with
        errors := acc.errors ++
          [⟨csvRowNumber, some "label", "Duplicate label in CSV: " ++ label⟩] }
      else
        let errors := rowErrors platform unitTypes used row csvRowNumber
        { seenLabels := acc.seenLabels ++ [label]
          units := if errors.isEmpty then
              acc.units ++
                [(csvRowNumber, createUnitDtoOfRow platform unitTypes used row label)]
            else acc.units
          errors := acc.errors ++ errors }

def parseRows (unitTypes : List UnitType) (used : List (String × String))
    (rows : List (List (String × String))) : ParsedUnits :=
  rows.zipIdx.foldl (parseRow platform unitTypes used) ⟨[], [], []⟩

theorem parseRow_ownerId {unitTypes : List UnitType} {used : List (String × String)}
    {acc : ParsedUnits} {entry : List (String × String) × ℕ}
    (h : ∀ u ∈ acc.units, u.2.ownerId = .undefined) :
    ∀ u ∈ (parseRow platform unitTypes used acc entry).units, u.2.ownerId = .undefined := by
  unfold parseRow
  dsimp only
  split
  · exact h
  · split
    · exact h
    · split
      · exact h
      · dsimp only
        split
        · intro u hu
          rcases List.mem_append.mp hu with hu | hu
          · exact h u hu
          · rw [List.mem_singleton.mp hu]
            rfl
        · exact h

theorem parseRows_ownerId {unitTypes : List UnitType} {used : List (String × String)}
    {rows : List (List (String × String))} :
    ∀ u ∈ (parseRows platform unitTypes used rows).units, u.2.ownerId = .undefined := by
  suffices hfold : ∀ (entries : List (List (String × String) × ℕ)) (acc : ParsedUnits),
      (∀ u ∈ acc.units, u.2.ownerId = .undefined) →
        ∀ u ∈ (entries.foldl (parseRow platform unitTypes used) acc).units,
          u.2.ownerId = .undefined from
    hfold _ ⟨[], [], []⟩ fun u hu => absurd hu List.not_mem_nil
  intro entries
  induction entries with
  | nil => exact fun acc h => h
  | cons entry entries ih => exact fun acc h => ih _ (parseRow_ownerId platform h)

end Import

end Towerdesk.Units
