import Towerdesk.Parking.Slots
import Towerdesk.Units.DryRun

/-!
# Importing parking slots

An uploaded file of parking slots is checked and written like one of units. Nothing in it is a
number, and a dry run foretells the import exactly when no code of the file is held in the
building by a slot of another organisation, which the checks do not look at.
-/

namespace Towerdesk.Parking.SlotImport

open Towerdesk.Units (ParsedCsv Platform canonicalHeader readCell normalizeEnum parseBool isBlank)

section Parsing

inductive ParkingSlotsImportMode
  | CREATE | UPSERT
deriving DecidableEq, Repr

structure ImportParkingSlotsError where
  row : ℕ
  field : Option String
  message : String
deriving DecidableEq, Repr

/-- A row of the file; the type is missing where it could not be read. -/
structure CreateParkingSlotDto where
  code : String
  type : Option ParkingSlotType
  level : Option String
  isCovered : Option Bool
  isActive : Option Bool
deriving DecidableEq, Repr

variable (platform : Platform)

def allowedHeaders : List String := ["code", "type", "level", "iscovered", "isactive"]

def readHeaders (headers : List String) :
    List (String × String) × List ImportParkingSlotsError :=
  headers.zipIdx.foldl (fun (used, errors) (header, index) =>
    let canonical := canonicalHeader platform header
    if canonical ∉ allowedHeaders then
      let field := if header = "" then "col_" ++ toString (index + 1) else header
      (used, errors ++ [⟨1, some field, "Unknown header: " ++ header⟩])
    else if (used.lookup canonical).isSome then
      (used, errors ++ [⟨1, some header, "Duplicate header: " ++ header⟩])
    else (used ++ [(canonical, header)], errors)) ([], [])

def requireHeader (used : List (String × String)) (header : String) :
    List ImportParkingSlotsError :=
  if (used.lookup header).isSome then []
  else [⟨1, some header, "Missing required header: " ++ header⟩]

def headerErrors (headers : List String) : List ImportParkingSlotsError :=
  let (used, errors) := readHeaders platform headers
  errors ++ requireHeader used "code" ++ requireHeader used "type"

def typeNamed (name : String) : Option ParkingSlotType :=
  [("CAR", ParkingSlotType.CAR), ("BIKE", .BIKE), ("EV", .EV)].lookup name

def parseType (value : String) : Option ParkingSlotType :=
  typeNamed (normalizeEnum platform value)

def boolError (used row : List (String × String)) (csvRowNumber : ℕ) (canonical field : String) :
    List ImportParkingSlotsError :=
  match readCell used row canonical with
  | none => []
  | some cell =>
    if (parseBool platform cell).isSome then []
    else [⟨csvRowNumber, some field, "Invalid boolean: " ++ cell⟩]

def rowErrors (used row : List (String × String)) (csvRowNumber : ℕ) (type : String) :
    List ImportParkingSlotsError :=
  (if (parseType platform type).isSome then []
    else [⟨csvRowNumber, some "type", "Invalid type: " ++ type⟩]) ++
    boolError platform used row csvRowNumber "iscovered" "isCovered" ++
    boolError platform used row csvRowNumber "isactive" "isActive"

def dtoOfRow (used row : List (String × String)) (code type : String) : CreateParkingSlotDto where
  code
  type := parseType platform type
  level := readCell used row "level"
  isCovered := (readCell used row "iscovered").bind (parseBool platform)
  isActive := (readCell used row "isactive").bind (parseBool platform)

structure ParsedSlots where
  seenCodes : List String
  slots : List (ℕ × CreateParkingSlotDto)
  errors : List ImportParkingSlotsError

def parseRow (used : List (String × String)) (acc : ParsedSlots)
    (entry : List (String × String) × ℕ) : ParsedSlots :=
  let row := entry.1
  let csvRowNumber := entry.2 + 2
  if isBlank row then acc
  else
    match readCell used row "code", readCell used row "type" with
    | none, _ => { acc with
        errors := acc.errors ++ [⟨csvRowNumber, some "code", "Code is required"⟩] }
    | some _, none => { acc with
        errors := acc.errors ++ [⟨csvRowNumber, some "type", "Type is required"⟩] }
    | some code, some type =>
      if code ∈ acc.seenCodes then { acc with
        errors := acc.errors ++
          [⟨csvRowNumber, some "code", "Duplicate code in CSV: " ++ code⟩] }
      else
        let errors := rowErrors platform used row csvRowNumber type
        { seenCodes := acc.seenCodes ++ [code]
          slots := if errors.isEmpty then
              acc.slots ++ [(csvRowNumber, dtoOfRow platform used row code type)]
            else acc.slots
          errors := acc.errors ++ errors }

def parseRows (used : List (String × String)) (rows : List (List (String × String))) :
    ParsedSlots :=
  rows.zipIdx.foldl (parseRow platform used) ⟨[], [], []⟩

end Parsing

section Service

structure Env where
  platform : Platform
  importedId : ℕ → Id

structure Db where
  buildings : Table Building.id
  slots : SlotTable

structure ImportSummary where
  totalRows : ℕ
  validRows : ℕ
  created : ℕ
  updated : ℕ
deriving DecidableEq, Repr

structure ImportParkingSlotsResponse where
  dryRun : Bool
  mode : ParkingSlotsImportMode
  summary : ImportSummary
  errors : List ImportParkingSlotsError
  slotIds : List Id
deriving DecidableEq, Repr

structure ImportState where
  slots : SlotTable
  slotIds : List Id
  created : ℕ
  updated : ℕ

variable (env : Env) (db : Db)

def findBuilding (orgId buildingId : Id) : Result Building :=
  Outcome.orThrow (db.buildings.findFirst fun b => b.id = buildingId ∧ b.orgId = orgId)
    (.notFound "Building not found")

def existingByCode (orgId buildingId : Id) (code : String) : Option Slot :=
  db.slots.table.findFirst fun s => s.orgId = orgId ∧ s.buildingId = buildingId ∧ s.code = code

def takenCodes (orgId buildingId : Id) (mode : ParkingSlotsImportMode)
    (slots : List (ℕ × CreateParkingSlotDto)) : List ImportParkingSlotsError :=
  match mode with
  | .UPSERT => []
  | .CREATE => (slots.filter fun s => (existingByCode db orgId buildingId s.2.code).isSome).map
      fun s => ⟨s.1, some "code", "Parking slot code already exists: " ++ s.2.code⟩

def writeError : Table.WriteError SlotConstraint → HttpException
  | .recordNotFound => .internal "Record to update not found"
  | _ => .internal "Unique constraint failed"

/-- The data of an update: what the row leaves out stays. -/
def updated (dto : CreateParkingSlotDto) (s : Slot) : Slot :=
  { s with
    level := dto.level.or s.level
    type := dto.type.getD s.type
    isCovered := dto.isCovered.getD s.isCovered
    isActive := dto.isActive.getD s.isActive
    code := dto.code }

def updatedPatch (dto : CreateParkingSlotDto) : Patch Slot.id where
  apply := updated dto
  key_apply _ := rfl

def importUpdate (existing : Slot) (dto : CreateParkingSlotDto) (s : ImportState) :
    Result ImportState := do
  let slots ← (s.slots.write (.update existing.id (updatedPatch dto))).mapError writeError
  return { slots, slotIds := s.slotIds ++ [existing.id], created := s.created
           updated := s.updated + 1 }

def importCreate (orgId buildingId : Id) (dto : CreateParkingSlotDto) (s : ImportState) :
    Result ImportState := do
  let type ← Outcome.orThrow dto.type (.internal "Argument type is missing")
  let slot : Slot :=
    { id := env.importedId s.created
      orgId
      buildingId
      code := dto.code
      level := dto.level
      type
      isCovered := dto.isCovered.getD false
      isActive := dto.isActive.getD true }
  let slots ← (s.slots.write (.create slot)).mapError writeError
  return { slots, slotIds := s.slotIds ++ [slot.id], created := s.created + 1
           updated := s.updated }

/-- An id is looked at for its truth before it is used. -/
def importRow (orgId buildingId : Id) (mode : ParkingSlotsImportMode) (s : ImportState)
    (entry : ℕ × CreateParkingSlotDto) : Result ImportState :=
  match mode, (existingByCode db orgId buildingId entry.2.code).filter (·.id ≠ "") with
  | .UPSERT, some existing => importUpdate existing entry.2 s
  | _, _ => importCreate env orgId buildingId entry.2 s

def importRows (orgId buildingId : Id) (mode : ParkingSlotsImportMode)
    (slots : List (ℕ × CreateParkingSlotDto)) : Result ImportState :=
  slots.foldlM (importRow env db orgId buildingId mode) ⟨db.slots, [], 0, 0⟩

def importSlotsCsv (user : Option AuthenticatedUser) (buildingId : Id) (file : Option ParsedCsv)
    (queryMode : Option ParkingSlotsImportMode) (dryRun : Bool) :
    Result (Db × ImportParkingSlotsResponse) := do
  let orgId ← assertOrgScope user
  let _ ← findBuilding db orgId buildingId
  let parsed ← Outcome.orThrow file (.badRequest "CSV file is required")
  let mode := queryMode.getD .CREATE
  let refused (totalRows validRows : ℕ) (errors : List ImportParkingSlotsError) :
      Db × ImportParkingSlotsResponse :=
    (db, ⟨dryRun, mode, ⟨totalRows, validRows, 0, 0⟩, errors, []⟩)
  if parsed.headers.isEmpty then return refused 0 0 [⟨1, none, "CSV is empty"⟩]
  let errors := headerErrors env.platform parsed.headers
  if ¬ errors.isEmpty then return refused parsed.rows.length 0 errors
  if 5000 < parsed.rows.length then
    return refused parsed.rows.length 0 [⟨1, none, "Too many rows (max 5000)"⟩]
  let used := (readHeaders env.platform parsed.headers).1
  let rows := parseRows env.platform used parsed.rows
  let errors := rows.errors ++ takenCodes db orgId buildingId mode rows.slots
  if dryRun || ¬ errors.isEmpty then
    return refused parsed.rows.length rows.slots.length errors
  let result ← importRows env db orgId buildingId mode rows.slots
  return ({ db with slots := result.slots },
    ⟨dryRun, mode, ⟨parsed.rows.length, rows.slots.length, result.created, result.updated⟩, [],
      result.slotIds⟩)

end Service

section Loop

variable (platform : Platform) (used : List (String × String))

/-- The code of a row that has a type. -/
def codeOf (row : List (String × String)) : Option String :=
  (readCell used row "type").bind fun _ => readCell used row "code"

/-- Nothing is wrong with the row behind those with these codes. -/
structure Accepted (seen : List String) (row : List (String × String)) (code type : String) :
    Prop where
  unseen : code ∉ seen
  coded : readCell used row "code" = some code
  typed : readCell used row "type" = some type
  fields : ∀ n, rowErrors platform used row n type = []

/-- What the loop finds of a row. -/
def verdict (entry : List (String × String) × ℕ) :
    RowImport.Verdict String ImportParkingSlotsError (ℕ × CreateParkingSlotDto) :=
  if isBlank entry.1 then .blank
  else
    match readCell used entry.1 "code", readCell used entry.1 "type" with
    | none, _ => .refused [⟨entry.2 + 2, some "code", "Code is required"⟩]
    | some _, none => .refused [⟨entry.2 + 2, some "type", "Type is required"⟩]
    | some code, some type =>
      .keyed code ⟨entry.2 + 2, some "code", "Duplicate code in CSV: " ++ code⟩
        (rowErrors platform used entry.1 (entry.2 + 2) type)
        (entry.2 + 2, dtoOfRow platform used entry.1 code type)

def ParsedSlots.toScan (parsed : ParsedSlots) :
    RowImport.Scan String ImportParkingSlotsError (ℕ × CreateParkingSlotDto) :=
  ⟨parsed.seenCodes, parsed.slots, parsed.errors⟩

variable {platform used} {row : List (String × String)} {rows : List (List (String × String))}
  {seen : List String} {code type : String} {i n m : ℕ} {acc : ParsedSlots}
  {entry : List (String × String) × ℕ}

theorem boolError_eq_nil_iff {canonical field : String} :
    boolError platform used row n canonical field = [] ↔
      ∀ cell, readCell used row canonical = some cell → (parseBool platform cell).isSome := by
  rw [boolError]
  cases readCell used row canonical with
  | none => exact iff_of_true rfl fun cell h => by cases h
  | some cell =>
    cases hparse : (parseBool platform cell).isSome with
    | true =>
      simp only [hparse, if_true]
      exact iff_of_true trivial fun cell' h => Option.some.inj h ▸ hparse
    | false =>
      simp only [hparse]
      refine iff_of_false (List.cons_ne_nil _ _) fun h => ?_
      rw [h cell rfl] at hparse
      cases hparse

theorem rowErrors_eq_nil_iff : rowErrors platform used row n type = [] ↔
    (parseType platform type).isSome ∧
      (∀ cell, readCell used row "iscovered" = some cell → (parseBool platform cell).isSome) ∧
      ∀ cell, readCell used row "isactive" = some cell → (parseBool platform cell).isSome := by
  rw [rowErrors, List.append_eq_nil_iff, List.append_eq_nil_iff, boolError_eq_nil_iff,
    boolError_eq_nil_iff, and_assoc]
  refine and_congr_left fun _ => ?_
  cases (parseType platform type).isSome <;> simp

theorem verdict_key : (verdict platform used entry).key = codeOf used entry.1 := by
  rw [verdict, codeOf]
  cases hcode : readCell used entry.1 "code" with
  | none => cases readCell used entry.1 "type" <;> split_ifs <;> rfl
  | some code =>
    rw [Units.not_blank_of_readCell hcode]
    cases readCell used entry.1 "type" <;> rfl

theorem toScan_parseRow : (parseRow platform used acc entry).toScan =
    acc.toScan.step (verdict platform used entry) := by
  rw [parseRow, verdict]
  dsimp only
  cases isBlank entry.1 with
  | true => rfl
  | false =>
    cases readCell used entry.1 "code" with
    | none => rfl
    | some code =>
      cases readCell used entry.1 "type" with
      | none => rfl
      | some type =>
        simp only [RowImport.Scan.step, ParsedSlots.toScan]
        by_cases hseen : code ∈ acc.seenCodes
        · simp only [if_pos hseen, Bool.false_eq_true, if_false]
          exact (if_pos hseen).symm
        · simp only [if_neg hseen, Bool.false_eq_true, if_false]
          exact (if_neg hseen).symm

theorem toScan_parseRows : (parseRows platform used rows).toScan =
    RowImport.scan (rows.zipIdx.map (verdict platform used)) := by
  have hstep : ∀ acc entry, ParsedSlots.toScan (parseRow platform used acc entry) =
      (ParsedSlots.toScan acc).step (verdict platform used entry) := fun _ _ => toScan_parseRow
  exact RowImport.scan_eq hstep rfl

theorem keptAfter_eq_some_iff {slot : ℕ × CreateParkingSlotDto} :
    (verdict platform used (row, i)).keptAfter seen = some slot ↔
      ∃ code type, Accepted platform used seen row code type ∧
        slot = (i + 2, dtoOfRow platform used row code type) := by
  have hnone : ∀ {code' type' : String}, readCell used row "code" = none ∨
      readCell used row "type" = none → ¬ Accepted platform used seen row code' type' := by
    rintro code' type' (hcode | htype) haccepted
    · rw [haccepted.coded] at hcode
      cases hcode
    · rw [haccepted.typed] at htype
      cases htype
  rw [verdict]
  cases hcode : readCell used row "code" with
  | none =>
    refine iff_of_false ?_ fun ⟨_, _, haccepted, _⟩ => hnone (.inl hcode) haccepted
    split_ifs <;> exact fun h => by cases h
  | some code =>
    rw [Units.not_blank_of_readCell hcode, if_neg Bool.false_ne_true]
    cases htype : readCell used row "type" with
    | none =>
      exact iff_of_false (fun h => by cases h) fun ⟨_, _, haccepted, _⟩ =>
        hnone (.inr htype) haccepted
    | some type =>
      simp only [RowImport.Verdict.keptAfter, Option.ite_none_right_eq_some, Option.some.injEq]
      constructor
      · rintro ⟨⟨hunseen, hfields⟩, rfl⟩
        refine ⟨code, type, ⟨hunseen, hcode, htype, fun m => ?_⟩, rfl⟩
        exact rowErrors_eq_nil_iff.mpr (rowErrors_eq_nil_iff.mp hfields)
      · rintro ⟨code', type', haccepted, rfl⟩
        obtain rfl := Option.some.inj (hcode.symm.trans haccepted.coded)
        obtain rfl := Option.some.inj (htype.symm.trans haccepted.typed)
        exact ⟨⟨haccepted.unseen, haccepted.fields (i + 2)⟩, rfl⟩

theorem errorsAfter_eq_nil_iff : (verdict platform used (row, i)).errorsAfter seen = [] ↔
    isBlank row = true ∨ ∃ code type, Accepted platform used seen row code type := by
  rw [verdict]
  cases hblank : isBlank row with
  | true => exact iff_of_true rfl (.inl rfl)
  | false =>
    rw [or_iff_right Bool.false_ne_true, if_neg Bool.false_ne_true]
    cases hcode : readCell used row "code" with
    | none =>
      refine iff_of_false (List.cons_ne_nil _ _) fun ⟨_, _, haccepted⟩ => ?_
      rw [haccepted.coded] at hcode
      cases hcode
    | some code =>
      cases htype : readCell used row "type" with
      | none =>
        refine iff_of_false (List.cons_ne_nil _ _) fun ⟨_, _, haccepted⟩ => ?_
        rw [haccepted.typed] at htype
        cases htype
      | some type =>
        simp only [RowImport.Verdict.errorsAfter]
        constructor
        · intro h
          by_cases hseen : code ∈ seen
          · rw [if_pos hseen] at h
            cases h
          · rw [if_neg hseen] at h
            exact ⟨code, type, hseen, hcode, htype, fun m =>
              rowErrors_eq_nil_iff.mpr (rowErrors_eq_nil_iff.mp h)⟩
        · rintro ⟨code', type', haccepted⟩
          obtain rfl := Option.some.inj (hcode.symm.trans haccepted.coded)
          obtain rfl := Option.some.inj (htype.symm.trans haccepted.typed)
          rw [if_neg haccepted.unseen, haccepted.fields]

theorem nodup_codes : ((parseRows platform used rows).slots.map (·.2.code)).Nodup := by
  change ((parseRows platform used rows).toScan.kept.map (·.2.code)).Nodup
  rw [toScan_parseRows]
  refine RowImport.nodup_keys fun key duplicate errors slot hmem => ?_
  obtain ⟨entry, -, hverdict⟩ := List.mem_map.mp hmem
  rw [verdict] at hverdict
  split_ifs at hverdict
  split at hverdict
  · cases hverdict
  · cases hverdict
  · cases hverdict
    rfl

end Loop

section Transaction

variable {env : Env} {db : Db} {orgId buildingId : Id} {mode : ParkingSlotsImportMode}
  {slots front : List (ℕ × CreateParkingSlotDto)} {s s' : ImportState}
  {dto : CreateParkingSlotDto} {existing : Slot}

/-- The transaction behind some of its rows. -/
structure Written (env : Env) (db : Db) (buildingId : Id) (front : List (ℕ × CreateParkingSlotDto))
    (s : ImportState) : Prop where
  counted : s.created + s.updated = front.length
  grown : Upsert.Grown slotCode env.importedId db.slots.table
    (front.map fun entry => (buildingId, entry.2.code)) s.created s.slots.table

/-- Who holds a code in the building belongs to the organisation. -/
def OwnCode (db : Db) (orgId buildingId : Id) (code : String) : Prop :=
  ∀ slot ∈ db.slots.table, slotCode slot = some (buildingId, code) → slot.orgId = orgId

theorem slotCheck_eq_none_iff {t : Table Slot.id} :
    slotCheck t = none ↔ t.UniqueOn slotCode := by
  rw [slotCheck]
  by_cases hunique : t.UniqueOn slotCode
  · exact iff_of_true (if_pos hunique) hunique
  · rw [if_neg hunique]
    exact iff_of_false (Option.some_ne_none _) hunique

theorem written_start (env : Env) (db : Db) (buildingId : Id) :
    Written env db buildingId [] ⟨db.slots, [], 0, 0⟩ where
  counted := rfl
  grown := Upsert.Grown.refl

theorem existingByCode_some {code : String}
    (h : existingByCode db orgId buildingId code = some existing) :
    existing ∈ db.slots.table ∧ slotCode existing = some (buildingId, code) ∧
      existing.orgId = orgId := by
  obtain ⟨hmem, hsame⟩ := Table.findFirst_some h
  rw [decide_eq_true_eq] at hsame
  refine ⟨hmem, ?_, hsame.1⟩
  rw [slotCode, hsame.2.1, hsame.2.2]

theorem existingByCode_none {code : String}
    (h : existingByCode db orgId buildingId code = none) :
    OwnCode db orgId buildingId code ↔
      ∀ slot ∈ db.slots.table, slotCode slot ≠ some (buildingId, code) := by
  refine forall₂_congr fun slot hslot => imp_congr_right fun hcode => iff_of_false ?_ id
  intro horg
  have hnot := List.find?_eq_none.mp h slot hslot
  rw [decide_eq_true_eq] at hnot
  exact hnot ⟨horg, Prod.mk.inj (Option.some.inj hcode)⟩

theorem ownCode_of_some {code : String}
    (h : existingByCode db orgId buildingId code = some existing) :
    OwnCode db orgId buildingId code := by
  obtain ⟨hmem, hcode, horg⟩ := existingByCode_some h
  intro slot hslot hsame
  have hunique := slotCheck_eq_none_iff.mp db.slots.valid
  rw [hunique.eq hslot hmem hsame hcode, horg]

theorem importCreate_ok (h : importCreate env orgId buildingId dto s = .ok s') :
    ∃ slot : Slot, slot.id = env.importedId s.created ∧
      slotCode slot = some (buildingId, dto.code) ∧
      s.slots.table.insert slot = some s'.slots.table ∧ s'.created = s.created + 1 ∧
        s'.updated = s.updated := by
  obtain ⟨type, -, h⟩ := Outcome.bind_eq_ok.mp h
  obtain ⟨slots, hwrite, h⟩ := Outcome.bind_eq_ok.mp h
  rw [← Outcome.pure_eq_ok.mp h]
  exact ⟨_, rfl, rfl, Table.apply_create.mp (Constrained.write_eq_ok.mp
    (Outcome.mapError_eq_ok.mp hwrite)), rfl, rfl⟩

theorem importUpdate_ok (h : importUpdate existing dto s = .ok s') :
    (∃ current ∈ s.slots.table, current.id = existing.id) ∧
      s'.slots.table = s.slots.table.modify existing.id (updatedPatch dto) ∧
        s'.created = s.created ∧ s'.updated = s.updated + 1 := by
  obtain ⟨slots, hwrite, h⟩ := Outcome.bind_eq_ok.mp h
  obtain ⟨hmem, htable⟩ := Table.apply_update.mp (Constrained.write_eq_ok.mp
    (Outcome.mapError_eq_ok.mp hwrite))
  rw [← Outcome.pure_eq_ok.mp h]
  exact ⟨hmem, htable, rfl, rfl⟩

theorem Written.create {n : ℕ} (h : Written env db buildingId front s)
    (hs' : importCreate env orgId buildingId dto s = .ok s') :
    Written env db buildingId (front ++ [(n, dto)]) s' := by
  obtain ⟨slot, hid, hcode, hinsert, hcreated, hupdated⟩ := importCreate_ok hs'
  refine ⟨?_, ?_⟩
  · have hcounted := h.counted
    rw [hcreated, hupdated, List.length_append, List.length_singleton]
    omega
  · rw [List.map_append, hcreated]
    exact h.grown.insert hinsert hid hcode

theorem Written.current (h : Written env db buildingId front s)
    (hexisting : existingByCode db orgId buildingId dto.code = some existing) :
    ∃ current ∈ s.slots.table, current.id = existing.id ∧
      slotCode ((updatedPatch dto).apply current) = slotCode current := by
  obtain ⟨hmem, hcode, -⟩ := existingByCode_some hexisting
  obtain ⟨current, hcurrent, hid, hsame⟩ := h.grown.kept existing hmem
  refine ⟨current, hcurrent, hid, ?_⟩
  have hcurrentCode : current.code = dto.code :=
    (Prod.mk.inj (Option.some.inj (hsame.trans hcode))).2
  change some (current.buildingId, dto.code) = some (current.buildingId, current.code)
  rw [hcurrentCode]

theorem Written.update {n : ℕ} (h : Written env db buildingId front s)
    (hexisting : existingByCode db orgId buildingId dto.code = some existing)
    (hs' : importUpdate existing dto s = .ok s') :
    Written env db buildingId (front ++ [(n, dto)]) s' := by
  obtain ⟨-, htable, hcreated, hcount⟩ := importUpdate_ok hs'
  obtain ⟨current, hcurrent, hid, hcode⟩ := h.current hexisting
  refine ⟨?_, ?_⟩
  · have hcounted := h.counted
    rw [hcreated, hcount, List.length_append, List.length_singleton]
    omega
  · rw [List.map_append, hcreated, htable, ← hid]
    exact h.grown.modify hcurrent hcode

theorem importCreate_ok_iff (hfresh : Upsert.FreshKeys env.importedId db.slots.table)
    (h : Written env db buildingId front s) (htype : dto.type ≠ none)
    (hexisting : existingByCode db orgId buildingId dto.code = none)
    (hnew : ∀ entry ∈ front, entry.2.code ≠ dto.code) :
    (∃ s', importCreate env orgId buildingId dto s = .ok s') ↔
      OwnCode db orgId buildingId dto.code := by
  have hentry : (buildingId, dto.code) ∉ front.map fun entry => (buildingId, entry.2.code) := by
    intro hmem
    obtain ⟨entry, hentry, hsame⟩ := List.mem_map.mp hmem
    exact hnew entry hentry (Prod.mk.inj hsame).2
  have hunique := slotCheck_eq_none_iff.mp s.slots.valid
  rw [existingByCode_none hexisting]
  constructor
  · rintro ⟨s', hs'⟩
    obtain ⟨slot, hid, hcode, hinsert, -⟩ := importCreate_ok hs'
    exact (h.grown.unique_insert hunique hinsert hcode hentry).mp
      (slotCheck_eq_none_iff.mp s'.slots.valid)
  · intro hfree
    obtain ⟨type, htype⟩ := Option.ne_none_iff_exists'.mp htype
    obtain ⟨t, hinsert⟩ := h.grown.exists_insert (a := (⟨env.importedId s.created, orgId,
      buildingId, dto.code, dto.level, type, dto.isCovered.getD false,
      dto.isActive.getD true⟩ : Slot)) hfresh rfl
    have hcheck := slotCheck_eq_none_iff.mpr
      ((h.grown.unique_insert hunique hinsert rfl hentry).mpr hfree)
    obtain ⟨slots, hwrite⟩ := Constrained.exists_write (c := s.slots)
      (Table.apply_create.mpr hinsert) hcheck
    exact Outcome.exists_bind_ok (Outcome.orThrow_eq_ok.mpr htype)
      (Outcome.exists_bind_ok (Outcome.mapError_eq_ok.mpr hwrite) ⟨_, rfl⟩)

theorem exists_importUpdate (h : Written env db buildingId front s)
    (hexisting : existingByCode db orgId buildingId dto.code = some existing) :
    ∃ s', importUpdate existing dto s = .ok s' := by
  obtain ⟨current, hcurrent, hid, hcode⟩ := h.current hexisting
  have hcheck := slotCheck_eq_none_iff.mpr ((slotCheck_eq_none_iff.mp s.slots.valid).modify_of_le
    hcurrent (.inr hcode))
  have happly : (Table.Write.update existing.id (updatedPatch dto)).apply s.slots.table =
      (.ok (s.slots.table.modify current.id (updatedPatch dto)) :
        Except (Table.WriteError SlotConstraint) _) :=
    Table.apply_update.mpr ⟨⟨current, hcurrent, hid⟩, by rw [hid]⟩
  obtain ⟨slots, hwrite⟩ := Constrained.exists_write (c := s.slots) happly hcheck
  exact Outcome.exists_bind_ok (Outcome.mapError_eq_ok.mpr hwrite) ⟨_, rfl⟩

/-- What the checks leave for the transaction to meet. -/
structure Checked (db : Db) (orgId buildingId : Id) (mode : ParkingSlotsImportMode)
    (slots : List (ℕ × CreateParkingSlotDto)) : Prop where
  typed : ∀ entry ∈ slots, entry.2.type ≠ none
  codes : (slots.map (·.2.code)).Nodup
  untaken : mode = .CREATE →
    ∀ entry ∈ slots, existingByCode db orgId buildingId entry.2.code = none

theorem importRow_eq {entry : ℕ × CreateParkingSlotDto} (hids : ∀ s ∈ db.slots.table, s.id ≠ "")
    (h : Checked db orgId buildingId mode slots) (hentry : entry ∈ slots) :
    importRow env db orgId buildingId mode s entry =
      match existingByCode db orgId buildingId entry.2.code with
      | some existing => importUpdate existing entry.2 s
      | none => importCreate env orgId buildingId entry.2 s := by
  unfold importRow
  cases hexisting : existingByCode db orgId buildingId entry.2.code with
  | none => cases mode <;> rfl
  | some existing =>
    have hid := hids existing (existingByCode_some hexisting).1
    rw [Option.filter_some, if_pos (decide_eq_true hid)]
    cases hmode : mode with
    | UPSERT => rfl
    | CREATE =>
      rw [h.untaken hmode entry hentry] at hexisting
      cases hexisting

theorem Written.row {entry : ℕ × CreateParkingSlotDto} (hids : ∀ s ∈ db.slots.table, s.id ≠ "")
    (hchecked : Checked db orgId buildingId mode slots) (hentry : entry ∈ slots)
    (h : Written env db buildingId front s)
    (hs' : importRow env db orgId buildingId mode s entry = .ok s') :
    Written env db buildingId (front ++ [entry]) s' := by
  rw [importRow_eq hids hchecked hentry] at hs'
  cases hexisting : existingByCode db orgId buildingId entry.2.code with
  | none =>
    rw [hexisting] at hs'
    exact h.create hs'
  | some existing =>
    rw [hexisting] at hs'
    exact h.update hexisting hs'

/-- The rows that pass the checks are written exactly when no other organisation has a code. -/
theorem importRows_ok_iff (hfresh : Upsert.FreshKeys env.importedId db.slots.table)
    (hids : ∀ s ∈ db.slots.table, s.id ≠ "") (hchecked : Checked db orgId buildingId mode slots) :
    (∃ result, importRows env db orgId buildingId mode slots = .ok result) ↔
      ∀ entry ∈ slots, OwnCode db orgId buildingId entry.2.code := by
  refine RowImport.foldlM_ok_iff (I := Written env db buildingId)
    (P := fun entry => OwnCode db orgId buildingId entry.2.code)
    (fun front entry back s s' hslots hwritten hs' =>
      hwritten.row hids hchecked (RowImport.mem_of_split hslots) hs')
    (fun front entry back s hslots hwritten => ?_) (written_start env db buildingId)
  have hentry := RowImport.mem_of_split hslots
  have hnew : ∀ other ∈ front, other.2.code ≠ entry.2.code :=
    RowImport.key_ne_of_split hchecked.codes hslots
  rw [importRow_eq hids hchecked hentry]
  cases hexisting : existingByCode db orgId buildingId entry.2.code with
  | none => exact importCreate_ok_iff hfresh hwritten (hchecked.typed entry hentry) hexisting hnew
  | some existing =>
    exact iff_of_true (exists_importUpdate hwritten hexisting) (ownCode_of_some hexisting)

theorem importRows_counted {result : ImportState} (hids : ∀ s ∈ db.slots.table, s.id ≠ "")
    (hchecked : Checked db orgId buildingId mode slots)
    (h : importRows env db orgId buildingId mode slots = .ok result) :
    result.created + result.updated = slots.length := by
  have hwritten := RowImport.foldlM_inv (I := Written env db buildingId)
    (fun front entry back s s' hslots hwritten hs' =>
      hwritten.row hids hchecked (by simp [hslots]) hs') (written_start env db buildingId) h
  exact hwritten.counted

end Transaction

section Checks

variable (platform : Platform) (db : Db) (orgId buildingId : Id) (mode : ParkingSlotsImportMode)
  (parsed : ParsedCsv)

/-- The headers of the file that are in use. -/
def used : List (String × String) := (readHeaders platform parsed.headers).1

def parsedSlots : ParsedSlots := parseRows platform (used platform parsed) parsed.rows

/-- The row at the index is kept, under its code. -/
def Keeps (i : ℕ) (row : List (String × String)) (code type : String) : Prop :=
  parsed.rows[i]? = some row ∧ Accepted platform (used platform parsed)
    ((parsed.rows.take i).filterMap (codeOf (used platform parsed))) row code type

/-- What the checks find: the rows of the file, how many of them are valid, and the errors. -/
def findings : ℕ × ℕ × List ImportParkingSlotsError :=
  if parsed.headers.isEmpty then (0, 0, [⟨1, none, "CSV is empty"⟩])
  else if ¬ (headerErrors platform parsed.headers).isEmpty then
    (parsed.rows.length, 0, headerErrors platform parsed.headers)
  else if 5000 < parsed.rows.length then
    (parsed.rows.length, 0, [⟨1, none, "Too many rows (max 5000)"⟩])
  else
    (parsed.rows.length, (parsedSlots platform parsed).slots.length,
      (parsedSlots platform parsed).errors ++
        takenCodes db orgId buildingId mode (parsedSlots platform parsed).slots)

/-- Nothing is wrong with the file: its headers are allowed and have the code and the type, it is
not too long, every row is blank or kept, and a row to create has a code that the organisation
does not have in the building. -/
structure Clean : Prop where
  headers_ne_nil : parsed.headers ≠ []
  headers : headerErrors platform parsed.headers = []
  length : parsed.rows.length ≤ 5000
  rows : ∀ i row, parsed.rows[i]? = some row → isBlank row = false →
    ∃ code type, Keeps platform parsed i row code type
  untaken : mode = .CREATE → ∀ i row code type, Keeps platform parsed i row code type →
    existingByCode db orgId buildingId code = none

variable {platform db orgId buildingId mode parsed}

theorem mem_parsedSlots {slot : ℕ × CreateParkingSlotDto} :
    slot ∈ (parsedSlots platform parsed).slots ↔
      ∃ i row code type, Keeps platform parsed i row code type ∧
        slot = (i + 2, dtoOfRow platform (used platform parsed) row code type) := by
  change slot ∈ (parseRows platform (used platform parsed) parsed.rows).toScan.kept ↔ _
  rw [toScan_parseRows,
    RowImport.mem_kept_rows (codeOf (used platform parsed)) fun _ => verdict_key]
  simp only [keptAfter_eq_some_iff, Keeps, and_assoc, exists_and_left]

theorem parsedSlots_errors_eq_nil_iff : (parsedSlots platform parsed).errors = [] ↔
    ∀ i row, parsed.rows[i]? = some row → isBlank row = false →
      ∃ code type, Keeps platform parsed i row code type := by
  change (parseRows platform (used platform parsed) parsed.rows).toScan.errors = [] ↔ _
  rw [toScan_parseRows,
    RowImport.errors_rows_eq_nil_iff (codeOf (used platform parsed)) fun _ => verdict_key]
  refine forall₃_congr fun i row hrow => ?_
  simp only [errorsAfter_eq_nil_iff, Keeps, hrow, true_and]
  cases isBlank row with
  | true => exact iff_of_true (.inl rfl) fun h => by cases h
  | false => exact ⟨fun h _ => h.resolve_left Bool.false_ne_true, fun h => .inr (h rfl)⟩

theorem takenCodes_eq_nil_iff {slots : List (ℕ × CreateParkingSlotDto)} :
    takenCodes db orgId buildingId mode slots = [] ↔
      (mode = .CREATE → ∀ entry ∈ slots, existingByCode db orgId buildingId entry.2.code = none) := by
  cases mode with
  | UPSERT => exact iff_of_true rfl fun h => by cases h
  | CREATE =>
    rw [takenCodes, List.map_eq_nil_iff, List.filter_eq_nil_iff]
    simp only [Option.not_isSome_iff_eq_none, forall_const]

theorem findings_eq_nil_iff : (findings platform db orgId buildingId mode parsed).2.2 = [] ↔
    Clean platform db orgId buildingId mode parsed := by
  rw [findings]
  by_cases hempty : parsed.headers = []
  · rw [if_pos (List.isEmpty_iff.mpr hempty)]
    exact iff_of_false (List.cons_ne_nil _ _) fun h => h.headers_ne_nil hempty
  rw [if_neg (mt List.isEmpty_iff.mp hempty)]
  by_cases hheaders : headerErrors platform parsed.headers = []
  · rw [if_neg (not_not.mpr (List.isEmpty_iff.mpr hheaders))]
    by_cases hlength : 5000 < parsed.rows.length
    · rw [if_pos hlength]
      exact iff_of_false (List.cons_ne_nil _ _) fun h => Nat.not_lt.mpr h.length hlength
    · rw [if_neg hlength, List.append_eq_nil_iff, parsedSlots_errors_eq_nil_iff,
        takenCodes_eq_nil_iff]
      constructor
      · rintro ⟨hrows, huntaken⟩
        refine ⟨hempty, hheaders, Nat.not_lt.mp hlength, hrows,
          fun hmode i row code type hkeeps => ?_⟩
        exact huntaken hmode _ (mem_parsedSlots.mpr ⟨i, row, code, type, hkeeps, rfl⟩)
      · intro h
        refine ⟨h.rows, fun hmode entry hentry => ?_⟩
        obtain ⟨i, row, code, type, hkeeps, rfl⟩ := mem_parsedSlots.mp hentry
        exact h.untaken hmode i row code type hkeeps
  · rw [if_pos (mt List.isEmpty_iff.mp hheaders)]
    exact iff_of_false hheaders fun h => hheaders h.headers

theorem checked_of_clean (h : Clean platform db orgId buildingId mode parsed) :
    Checked db orgId buildingId mode (parsedSlots platform parsed).slots where
  typed entry hentry := by
    obtain ⟨i, row, code, type, hkeeps, rfl⟩ := mem_parsedSlots.mp hentry
    exact Option.isSome_iff_ne_none.mp (rowErrors_eq_nil_iff.mp (hkeeps.2.fields 0)).1
  codes := nodup_codes
  untaken hmode entry hentry := by
    obtain ⟨i, row, code, type, hkeeps, rfl⟩ := mem_parsedSlots.mp hentry
    exact h.untaken hmode i row code type hkeeps

theorem findings_valid (h : Clean platform db orgId buildingId mode parsed) :
    (findings platform db orgId buildingId mode parsed).2.1 =
      (parsedSlots platform parsed).slots.length := by
  have hheaders := not_not.mpr (List.isEmpty_iff.mpr h.headers)
  rw [findings, if_neg (mt List.isEmpty_iff.mp h.headers_ne_nil), if_neg hheaders,
    if_neg (Nat.not_lt.mpr h.length)]

end Checks

section Runs

variable {env : Env} {db : Db} {user : Option AuthenticatedUser} {orgId buildingId : Id}
  {building : Building} {parsed : ParsedCsv} {queryMode : Option ParkingSlotsImportMode}

theorem importSlotsCsv_eq {dryRun : Bool} (hscope : assertOrgScope user = .ok orgId)
    (hbuilding : findBuilding db orgId buildingId = .ok building) :
    importSlotsCsv env db user buildingId (some parsed) queryMode dryRun =
      (let mode := queryMode.getD .CREATE
       let found := findings env.platform db orgId buildingId mode parsed
       if dryRun = true ∨ found.2.2 ≠ [] then
         .ok (db, ⟨dryRun, mode, ⟨found.1, found.2.1, 0, 0⟩, found.2.2, []⟩)
       else do
         let result ← importRows env db orgId buildingId mode
           (parsedSlots env.platform parsed).slots
         return ({ db with slots := result.slots },
           ⟨dryRun, mode, ⟨found.1, found.2.1, result.created, result.updated⟩, [],
             result.slotIds⟩)) := by
  rw [importSlotsCsv, hscope]
  change (findBuilding db orgId buildingId >>= fun _ => _) = _
  rw [hbuilding]
  simp only [findings]
  change (if _ then _ else _) = _
  by_cases hempty : parsed.headers.isEmpty = true
  · simp only [if_pos hempty, ne_eq, List.cons_ne_nil, not_false_eq_true, or_true, if_true]
    rfl
  by_cases hheaders : ¬ (headerErrors env.platform parsed.headers).isEmpty = true
  · have hne : headerErrors env.platform parsed.headers ≠ [] := mt List.isEmpty_iff.mpr hheaders
    simp only [if_neg hempty, if_pos hheaders, ne_eq, hne, not_false_eq_true, or_true, if_true]
    rfl
  by_cases hlength : 5000 < parsed.rows.length
  · simp only [if_neg hempty, if_neg hheaders, if_pos hlength, ne_eq, List.cons_ne_nil,
      not_false_eq_true, or_true, if_true]
    rfl
  simp only [if_neg hempty, if_neg hheaders, if_neg hlength]
  by_cases hstop : dryRun = true ∨ (parsedSlots env.platform parsed).errors ++
      takenCodes db orgId buildingId (queryMode.getD .CREATE)
        (parsedSlots env.platform parsed).slots ≠ []
  · rw [if_pos hstop]
    exact if_pos (Units.stops_iff.mpr hstop)
  · rw [if_neg hstop]
    exact if_neg (mt Units.stops_iff.mp hstop)

def ImportParkingSlotsResponse.report (response : ImportParkingSlotsResponse) :
    RowImport.Report ImportParkingSlotsError where
  errors := response.errors
  validRows := response.summary.validRows
  written := response.summary.created + response.summary.updated

/-- What an import says of itself, with the store it leaves. -/
def importReport (env : Env) (db : Db) (user : Option AuthenticatedUser) (buildingId : Id)
    (file : Option ParsedCsv) (queryMode : Option ParkingSlotsImportMode) (dryRun : Bool) :
    Result (Db × RowImport.Report ImportParkingSlotsError) :=
  (fun run => (run.1, run.2.report)) <$> importSlotsCsv env db user buildingId file queryMode dryRun

/-- Of a file with nothing wrong, no code is held in the building by another organisation. -/
def OwnCodes (platform : Platform) (db : Db) (user : Option AuthenticatedUser) (buildingId : Id)
    (file : Option ParsedCsv) (mode : ParkingSlotsImportMode) : Prop :=
  ∀ orgId building parsed, assertOrgScope user = .ok orgId →
    findBuilding db orgId buildingId = .ok building → file = some parsed →
    Clean platform db orgId buildingId mode parsed →
    ∀ i row code type, Keeps platform parsed i row code type → OwnCode db orgId buildingId code

theorem ownCodes_parsedSlots_iff : (∀ entry ∈ (parsedSlots env.platform parsed).slots,
    OwnCode db orgId buildingId entry.2.code) ↔
      ∀ i row code type, Keeps env.platform parsed i row code type →
        OwnCode db orgId buildingId code := by
  constructor
  · intro h i row code type hkeeps
    exact h _ (mem_parsedSlots.mpr ⟨i, row, code, type, hkeeps, rfl⟩)
  · intro h entry hentry
    obtain ⟨i, row, code, type, hkeeps, rfl⟩ := mem_parsedSlots.mp hentry
    exact h i row code type hkeeps

/-- The store behind a transaction, and how many rows it has written. -/
def ImportState.committed (db : Db) (result : ImportState) : Db × ℕ :=
  ({ db with slots := result.slots }, result.created + result.updated)

/-- The run of a file for a building of the caller. -/
def runReport (env : Env) (db : Db) (orgId buildingId : Id) (parsed : ParsedCsv)
    (mode : ParkingSlotsImportMode) (dryRun : Bool) :
    Result (Db × RowImport.Report ImportParkingSlotsError) :=
  RowImport.checkedRun db (findings env.platform db orgId buildingId mode parsed).2.2
    (findings env.platform db orgId buildingId mode parsed).2.1
    (ImportState.committed db <$> importRows env db orgId buildingId mode
      (parsedSlots env.platform parsed).slots) dryRun

/-- The dry run of a file foretells the import exactly when no other organisation has a code of
what has passed the checks. -/
theorem predicts_runReport_iff (hfresh : Upsert.FreshKeys env.importedId db.slots.table)
    (hids : ∀ s ∈ db.slots.table, s.id ≠ "") :
    RowImport.Predicts db (runReport env db orgId buildingId parsed (queryMode.getD .CREATE) true)
        (runReport env db orgId buildingId parsed (queryMode.getD .CREATE) false) ↔
      (Clean env.platform db orgId buildingId (queryMode.getD .CREATE) parsed →
        ∀ entry ∈ (parsedSlots env.platform parsed).slots,
          OwnCode db orgId buildingId entry.2.code) := by
  rw [runReport, runReport, RowImport.predicts_checkedRun_iff, findings_eq_nil_iff]
  · refine forall_congr' fun hclean => ?_
    rw [RowImport.exists_map_ok, importRows_ok_iff hfresh hids (checked_of_clean hclean)]
  · intro hnil r hr
    obtain ⟨result, hresult, rfl⟩ := Outcome.map_eq_ok.mp hr
    have hclean := findings_eq_nil_iff.mp hnil
    rw [findings_valid hclean]
    exact importRows_counted hids (checked_of_clean hclean) hresult

theorem importSlotsCsv_bind {γ : Type} {file : Option ParsedCsv} {dryRun : Bool}
    {f : Db × ImportParkingSlotsResponse → γ} {g : Id → ParsedCsv → Result γ}
    (h : ∀ orgId building parsed, assertOrgScope user = .ok orgId →
      findBuilding db orgId buildingId = .ok building →
      f <$> importSlotsCsv env db user buildingId (some parsed) queryMode dryRun =
        g orgId parsed) :
    f <$> importSlotsCsv env db user buildingId file queryMode dryRun = (do
      let orgId ← assertOrgScope user
      let _ ← findBuilding db orgId buildingId
      let parsed ← Outcome.orThrow file (.badRequest "CSV file is required")
      g orgId parsed) := by
  cases hscope : assertOrgScope user with
  | error e =>
    rw [importSlotsCsv, hscope]
    rfl
  | ok orgId =>
    change _ = (findBuilding db orgId buildingId >>= fun _ => _)
    cases hbuilding : findBuilding db orgId buildingId with
    | error e =>
      rw [importSlotsCsv, hscope]
      change _ <$> (findBuilding db orgId buildingId >>= fun _ => _) = _
      rw [hbuilding]
      rfl
    | ok building =>
      cases file with
      | none =>
        rw [importSlotsCsv, hscope]
        change _ <$> (findBuilding db orgId buildingId >>= fun _ => _) = _
        rw [hbuilding]
        rfl
      | some parsed => exact h orgId building parsed hscope hbuilding

theorem importReport_eq {file : Option ParsedCsv} {dryRun : Bool} :
    importReport env db user buildingId file queryMode dryRun = (do
      let orgId ← assertOrgScope user
      let _ ← findBuilding db orgId buildingId
      let parsed ← Outcome.orThrow file (.badRequest "CSV file is required")
      runReport env db orgId buildingId parsed (queryMode.getD .CREATE) dryRun) := by
  refine importSlotsCsv_bind fun orgId building parsed hscope hbuilding => ?_
  rw [importSlotsCsv_eq hscope hbuilding, runReport, RowImport.checkedRun]
  dsimp only
  split
  · rfl
  · cases importRows env db orgId buildingId (queryMode.getD .CREATE)
      (parsedSlots env.platform parsed).slots <;> rfl

/-- The dry run of an import of slots foretells it exactly when no code of a file with nothing
wrong is held in the building by another organisation. -/
theorem slot_import_predicted_iff (hfresh : Upsert.FreshKeys env.importedId db.slots.table)
    (hids : ∀ s ∈ db.slots.table, s.id ≠ "") (file : Option ParsedCsv) :
    RowImport.Predicts db (importReport env db user buildingId file queryMode true)
        (importReport env db user buildingId file queryMode false) ↔
      OwnCodes env.platform db user buildingId file (queryMode.getD .CREATE) := by
  rw [importReport_eq, importReport_eq]
  simp only [RowImport.predicts_bind_iff, Outcome.orThrow_eq_ok,
    predicts_runReport_iff hfresh hids, ownCodes_parsedSlots_iff]
  constructor
  · exact fun h orgId building parsed hscope hbuilding hfile =>
      h orgId hscope building hbuilding parsed hfile
  · exact fun h orgId hscope building hbuilding parsed hfile =>
      h orgId building parsed hscope hbuilding hfile

/-- Where every slot belongs to the organisation of its building, the dry run always does. -/
theorem ownCodes_of_consistent {file : Option ParsedCsv} {mode : ParkingSlotsImportMode}
    (h : ∀ s ∈ db.slots.table, ∀ b ∈ db.buildings, s.buildingId = b.id → s.orgId = b.orgId) :
    OwnCodes env.platform db user buildingId file mode := by
  intro orgId building parsed _ hbuilding _ _ i row code type _ slot hslot hcode
  obtain ⟨hmem, hfound⟩ := Table.findFirst_some (Outcome.orThrow_eq_ok.mp hbuilding)
  rw [decide_eq_true_eq] at hfound
  have hin : slot.buildingId = buildingId := (Prod.mk.inj (Option.some.inj hcode)).1
  rw [h slot hslot building hmem (hin.trans hfound.1.symm), hfound.2]

/-- Of units and of slots: the dry run foretells the import exactly when the numbers of a file
with nothing wrong fit, and no other organisation has a code of it in the building. -/
theorem dry_runs_predict_iff {unitEnv : Units.Env} {unitDb : Units.Db} {slotEnv : Env} {slotDb : Db}
    (hunits : Upsert.FreshKeys unitEnv.importedId unitDb.units.table)
    (hslots : Upsert.FreshKeys slotEnv.importedId slotDb.slots.table)
    (hids : ∀ s ∈ slotDb.slots.table, s.id ≠ "") (user : Option AuthenticatedUser)
    (buildingId : Id) (file : Option ParsedCsv) :
    (∀ mode : Option Units.UnitsImportMode,
      RowImport.Predicts unitDb (Units.importReport unitEnv unitDb user buildingId file mode true)
          (Units.importReport unitEnv unitDb user buildingId file mode false) ↔
        Units.ImportFits unitEnv.platform unitDb user buildingId file (mode.getD .CREATE)) ∧
    ∀ mode : Option ParkingSlotsImportMode,
      RowImport.Predicts slotDb (importReport slotEnv slotDb user buildingId file mode true)
          (importReport slotEnv slotDb user buildingId file mode false) ↔
        OwnCodes slotEnv.platform slotDb user buildingId file (mode.getD .CREATE) :=
  ⟨fun _ => Units.unit_import_predicted_iff hunits file,
    fun _ => slot_import_predicted_iff hslots hids file⟩

end Runs

section Storeys

/-- As many letters as rows before it. -/
def tallyId (n : ℕ) : Id := .ofList (List.replicate n 'u')

theorem tallyId_injective (m n : ℕ) (h : tallyId m = tallyId n) : m = n := by
  have hlist := congrArg String.toList h
  rw [tallyId, tallyId, String.toList_ofList, String.toList_ofList] at hlist
  simpa using congrArg List.length hlist

def towerEnv : Units.Env where
  now := 0
  unitId := "unit"
  ownershipId := "ownership"
  importedId := tallyId
  platform := Units.asciiPlatform

def garageEnv : Env := ⟨Units.asciiPlatform, tallyId⟩

def emptyGarage : Db where
  buildings := Units.furnishedTower.buildings
  slots := ⟨.empty _, by decide⟩

/-- A floor of eleven digits. -/
def storeys : ParsedCsv := Units.parseCsv "label,floor\nA-101,99999999999"

theorem storeys_predicted_iff :
    (∀ mode : Option Units.UnitsImportMode,
      RowImport.Predicts Units.furnishedTower
          (Units.importReport towerEnv Units.furnishedTower (some ⟨"manager", some "org"⟩) "tower"
            (some storeys) mode true)
          (Units.importReport towerEnv Units.furnishedTower (some ⟨"manager", some "org"⟩) "tower"
            (some storeys) mode false) ↔
        Units.ImportFits Units.asciiPlatform Units.furnishedTower (some ⟨"manager", some "org"⟩)
          "tower" (some storeys) (mode.getD .CREATE)) ∧
    ∀ mode : Option ParkingSlotsImportMode,
      RowImport.Predicts emptyGarage
          (importReport garageEnv emptyGarage (some ⟨"manager", some "org"⟩) "tower"
            (some storeys) mode true)
          (importReport garageEnv emptyGarage (some ⟨"manager", some "org"⟩) "tower"
            (some storeys) mode false) ↔
        OwnCodes Units.asciiPlatform emptyGarage (some ⟨"manager", some "org"⟩) "tower"
          (some storeys) (mode.getD .CREATE) :=
  dry_runs_predict_iff ⟨fun _ _ ha => absurd ha (Table.not_mem_empty _), tallyId_injective⟩
    ⟨fun _ _ ha => absurd ha (Table.not_mem_empty _), tallyId_injective⟩
    (fun _ hs => absurd hs (Table.not_mem_empty _)) _ _ _

/-- The dry run has no errors, and the transaction is refused. -/
theorem storeys_not_predicted :
    ¬ RowImport.Predicts Units.furnishedTower
      (Units.importReport towerEnv Units.furnishedTower (some ⟨"manager", some "org"⟩) "tower"
        (some storeys) none true)
      (Units.importReport towerEnv Units.furnishedTower (some ⟨"manager", some "org"⟩) "tower"
        (some storeys) none false) := by
  intro h
  have hdry : (Units.importReport towerEnv Units.furnishedTower (some ⟨"manager", some "org"⟩)
      "tower" (some storeys) none true).toOption.map (·.2.errors) = some [] := by decide +kernel
  have hreal : (Units.importReport towerEnv Units.furnishedTower (some ⟨"manager", some "org"⟩)
      "tower" (some storeys) none false).toOption.map (·.2.errors) = none := by decide +kernel
  cases hdryRun : Units.importReport towerEnv Units.furnishedTower
      (some ⟨"manager", some "org"⟩) "tower" (some storeys) none true with
  | error e =>
    rw [hdryRun] at hdry
    cases hdry
  | ok r =>
    rw [hdryRun] at hdry
    obtain ⟨r', hr', -⟩ := h.commits.mp ⟨r, hdryRun, Option.some.inj hdry⟩
    rw [hr'] at hreal
    cases hreal

end Storeys

end Towerdesk.Parking.SlotImport
