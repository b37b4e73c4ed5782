import Towerdesk.Leases.Store

/-!
# The lease lifecycle

Direct move-in and move-out. Each reads, decides and prepares the statements of one
transaction; the checks the source makes between its writes are statements too.
-/

namespace Towerdesk.Leases

/-- Identifiers the database or the service draws for the rows of one call. -/
structure FreshIds where
  lease : Id
  occupancy : Id
  user : Id
  request : Id
  allocation : ℕ → Id

/-- What a call depends on besides the tables: the permissions, the clock, fresh
identifiers, how a decimal string is read and how text is lowered. -/
structure Env where
  access : AccessTables
  now : Date
  ids : FreshIds
  parseDecimal : String → Option ℚ
  toLowerCase : String → String

abbrev Plan := List (Transaction.Statement Db DbWrite HttpException)

section Columns

def toDateColumn (d : JsDate) : Result Date :=
  Outcome.orThrow d (.internal "Invalid value: Provided Date object is invalid")

/-- `Decimal(10, 2)`. -/
def toAreaColumn (q : ℚ) : Result ℚ :=
  if |roundCents q| < 10 ^ 8 then .ok (roundCents q)
  else .error (.internal "numeric field overflow")

variable (env : Env)

def newDecimal (s : String) : Result ℚ :=
  Outcome.orThrow (env.parseDecimal s) (.internal "[DecimalError] Invalid argument")

def decimalColumn (s : String) : Result ℚ := newDecimal env s >>= toDecimalColumn

/-- `s ? new Decimal(s) : null`. -/
def decimalOrNull (s : Option String) : Result (Option ℚ) :=
  match truthy s with
  | some s => some <$> decimalColumn env s
  | none => .ok none

def dateOrNull (d : Option JsDate) : Result (Option Date) :=
  match d with
  | some d => some <$> toDateColumn d
  | none => .ok none

def intOrNull (q : Option ℚ) : Result (Option ℤ) :=
  match q with
  | some q => some <$> toIntColumn q
  | none => .ok none

/-- `normalizeNames`; the contract service has the same function as `normalizeTerms`. -/
def normalizeNames (values : List String) : List String :=
  ((values.map trimString).filter (· ≠ "")).foldl
    (fun deduped trimmed =>
      if (deduped.map env.toLowerCase).contains (env.toLowerCase trimmed) then deduped
      else deduped ++ [trimmed]) []

end Columns

section Residents

variable (env : Env) (db : Db)

def normalizeEmail (email : String) : String := env.toLowerCase (trimString email)

def describeEmailOwnershipConflict (existingOrgId : Option Id) (targetOrgId : Id) : String :=
  match truthy existingOrgId with
  | none => "Email already belongs to a platform user"
  | some existingOrgId =>
    if existingOrgId = targetOrgId then "Email already in use in this organization"
    else "Email already belongs to a user in another organization"

/-- The resident of a move-in and, when they are new, the write that creates them. -/
def resolveResidentUser (orgId : Id) (dto : MoveInDto) : Result (Id × Option DbWrite) :=
  match dto.residentUserId with
  | some residentUserId => do
    let user ← Outcome.orThrow
      (db.directory.users.findFirst fun u =>
        u.id = residentUserId ∧ u.orgId = some orgId ∧ u.isActive)
      (.notFound "Resident user not found")
    return (user.id, none)
  | none => do
    let resident ← Outcome.orThrow dto.resident (.badRequest "Resident details are required")
    let email := normalizeEmail env resident.email
    match db.directory.users.findFirst fun u => env.toLowerCase u.email = env.toLowerCase email with
    | some existing => .error (.conflict (describeEmailOwnershipConflict existing.orgId orgId))
    | none => .ok (env.ids.user, some (.user (.create {
        id := env.ids.user
        email
        name := some (trimString resident.name)
        phone := resident.phone.map trimString
        orgId := some orgId
        isActive := true })))

end Residents

section MoveIn

variable (env : Env) (db : Db)

def moveInLease (orgId buildingId unitId : Id) (dto : MoveInDto) : Result Lease := do
  let annualRent ← decimalColumn env dto.annualRent
  let securityDepositAmount ← decimalColumn env dto.securityDepositAmount
  let firstPaymentAmount ← decimalOrNull env dto.firstPaymentAmount
  let depositReceivedAmount ← decimalOrNull env dto.depositReceivedAmount
  let leaseStartDate ← toDateColumn dto.leaseStartDate
  let leaseEndDate ← toDateColumn dto.leaseEndDate
  let tenancyRegistrationExpiry ← dateOrNull dto.tenancyRegistrationExpiry
  let noticeGivenDate ← dateOrNull dto.noticeGivenDate
  let numberOfCheques ← intOrNull dto.numberOfCheques
  return {
    toContractSnapshot := .blank
    toLeaseTerms := {
      leaseStartDate
      leaseEndDate
      tenancyRegistrationExpiry
      noticeGivenDate
      annualRent
      paymentFrequency := dto.paymentFrequency
      numberOfCheques
      securityDepositAmount
      internetTvProvider := dto.internetTvProvider
      serviceChargesPaidBy := dto.serviceChargesPaidBy
      vatApplicable := dto.vatApplicable
      notes := dto.notes
      firstPaymentReceived := dto.firstPaymentReceived
      firstPaymentAmount
      depositReceived := dto.depositReceived
      depositReceivedAmount }
    toMoveOutSettlement := .blank
    id := env.ids.lease
    orgId
    buildingId
    unitId
    occupancyId := some env.ids.occupancy
    residentUserId := none
    status := .ACTIVE
    createdAt := env.now
    updatedAt := env.now }

def moveInOccupancy (buildingId unitId residentUserId : Id) (startAt : Date) : Occupancy where
  id := env.ids.occupancy
  buildingId
  unitId
  residentUserId
  status := .ACTIVE
  startAt
  endAt := none
  createdAt := env.now
  updatedAt := env.now

def moveInProfile (orgId residentUserId : Id) (dto : Option MoveInResidentProfileDto) :
    Result (Option ResidentProfile) :=
  match dto with
  | none => .ok none
  | some dto => do
    let dateOfBirth ← dateOrNull dto.dateOfBirth
    return some {
      orgId
      userId := residentUserId
      emiratesIdNumber := dto.emiratesIdNumber
      passportNumber := dto.passportNumber
      nationality := dto.nationality
      dateOfBirth
      currentAddress := dto.currentAddress
      emergencyContactName := dto.emergencyContactName
      emergencyContactPhone := dto.emergencyContactPhone }

def allocateParkingSlots (orgId buildingId : Id) (slotIds : List Id) (startDate : Date) : Plan :=
  [.require (fun db => (db.parkingSlots.rows.filter fun slot =>
        slot.id ∈ slotIds ∧ slot.orgId = orgId ∧ slot.buildingId = buildingId ∧
          slot.isActive).length = slotIds.length)
      (.notFound "Parking slot not found in org/building"),
    .require (fun db => ¬ ∃ a ∈ db.parkingAllocations, a.parkingSlotId ∈ slotIds ∧ a.endDate = none)
      (.conflict "Parking slot already allocated")] ++
  slotIds.zipIdx.map fun (slotId, i) => .write (.parkingAllocation (.create {
    id := env.ids.allocation i
    orgId
    buildingId
    parkingSlotId := slotId
    occupancyId := some env.ids.occupancy
    unitId := none
    startDate
    endDate := none }))

/-- Cards and stickers are issued alike, into their own tables. -/
def issueItems (items : Db → Table AccessItem.key) (write : Table.Write AccessItem.key → DbWrite)
    (duplicate existing : String) (numbers : List String) : Plan :=
  let unique := normalizeNames env numbers
  [.require (fun _ => unique.length = numbers.length) (.conflict duplicate),
    .require (fun db => ¬ ∃ i ∈ items db, i.leaseId = env.ids.lease ∧ i.number ∈ unique)
      (.conflict existing)] ++
  unique.map fun number => .write (write (.create ⟨env.ids.lease, number, .ISSUED, none⟩))

def moveInActivity (user : Option AuthenticatedUser) (lease : Lease)
    (action : LeaseActivityAction) (payload : List (String × JsonValue)) : DbWrite :=
  .activity ⟨lease.orgId, lease.id, action, user.map (·.sub), payload, env.now⟩

def moveInExtras (user : Option AuthenticatedUser) (lease : Lease)
    (profile : Option ResidentProfile) (documents : List LeaseDocument) (dto : MoveInDto) : Plan :=
  let slotIds := dto.parkingSlotIds.getD []
  (profile.map fun p => .write (.upsertProfile p)).toList ++
  (dto.occupantNames.map fun names =>
    .write (.replaceOccupants lease.id (normalizeNames env names))).toList ++
  (if slotIds = [] then [] else
    allocateParkingSlots env lease.orgId lease.buildingId slotIds lease.leaseStartDate ++
    [.write (moveInActivity env user lease .PARKING_ALLOCATED
      [("slotIds", .texts slotIds), ("count", .number slotIds.length),
        ("occupancyId", .text env.ids.occupancy)])]) ++
  ((dto.vehiclePlateNumbers.getD []).map fun plate =>
    .write (.vehicle (.create ⟨lease.orgId, env.ids.occupancy, trimString plate⟩))) ++
  (if dto.accessCardNumbers.getD [] = [] then [] else
    issueItems env Db.accessCards .accessCard "Duplicate access card numbers"
      "Access card already exists for lease" (dto.accessCardNumbers.getD [])) ++
  (if dto.parkingStickerNumbers.getD [] = [] then [] else
    issueItems env Db.parkingStickers .parkingSticker "Duplicate parking sticker numbers"
      "Parking sticker already exists" (dto.parkingStickerNumbers.getD [])) ++
  documents.map fun document => .write (.document document)

def moveInDocument (orgId leaseId : Id) (dto : MoveInDocumentDto) : Result LeaseDocument := do
  let sizeBytes ← toIntColumn dto.sizeBytes
  return ⟨leaseId, orgId, dto.type, dto.fileName, dto.mimeType, sizeBytes, dto.url⟩

/-- `lockUnit` finds the unit that has just been read. -/
def moveIn (user : Option AuthenticatedUser) (buildingId : Id) (dto : MoveInDto) : Result Plan := do
  let orgId ← assertOrgScope user
  let _ ← Outcome.orThrow
    (db.directory.buildings.findFirst fun b => b.id = buildingId ∧ b.orgId = orgId)
    (.notFound "Building not found")
  let unit ← Outcome.orThrow
    (db.directory.units.findFirst fun u => u.id = dto.unitId ∧ u.buildingId = buildingId)
    (.badRequest "Unit not in building")
  let (residentUserId, newUser) ← resolveResidentUser env db orgId dto
  Outcome.throwIf (∃ o ∈ db.occupancies.table, o.unitId = unit.id ∧ o.status = .ACTIVE)
    (.conflict "Unit already has an active occupancy")
  Outcome.throwIf (∃ o ∈ db.occupancies.table, o.residentUserId = residentUserId ∧ o.status = .ACTIVE)
    (.conflict "Resident already has an active occupancy")
  let lease ← moveInLease env orgId buildingId unit.id dto
  let profile ← moveInProfile orgId residentUserId dto.residentProfile
  let documents ← (dto.documents.getD []).mapM (moveInDocument orgId lease.id)
  return (newUser.map .write).toList ++
    [.write (.occupancy (.create
        (moveInOccupancy env buildingId unit.id residentUserId lease.leaseStartDate))),
      .write (.lease (.create lease)),
      .write (.history ⟨orgId, lease.id, .CREATED, user.map (·.sub),
        buildLeaseCreationChangeSet lease, env.now⟩),
      .write (moveInActivity env user lease .MOVE_IN
        [("occupancyId", .text env.ids.occupancy), ("residentUserId", .text residentUserId),
          ("buildingId", .text buildingId), ("unitId", .text unit.id),
          ("leaseStartDate", .date lease.leaseStartDate),
          ("leaseEndDate", .date lease.leaseEndDate)])] ++
    moveInExtras env user lease profile documents dto

def mapMoveInError (dto : MoveInDto) : DbError → HttpException
  | .violates .uniq_active_occupancy_per_unit =>
    .conflict ("Unit already has an active occupancy (" ++ dto.unitId ++ ")")
  | .violates .uniq_active_occupancy_per_resident =>
    .conflict ("Resident already has an active occupancy" ++
      dto.residentUserId.elim "" (" for resident " ++ ·))
  | .violates .occupancy_status_endat_consistency => .badRequest "Invalid occupancy state"
  | .violates .Lease_occupancyId_key => .conflict "Lease already exists for occupancy"
  | .violates _ => .conflict "Duplicate value"
  | .duplicateKey => .conflict "Duplicate value"
  | .recordNotFound => .internal "Record to update not found"

end MoveIn

section MoveOut

variable (env : Env)

def itemsReturned (now : Date) : Patch AccessItem.key where
  apply i := { i with status := .RETURNED, returnedAt := some now }
  key_apply _ := rfl

def allocationEnded (endDate : Date) : Patch ParkingAllocation.id where
  apply a := { a with endDate := some endDate }
  key_apply _ := rfl

def occupancyEnded (now endAt : Date) : Patch Occupancy.id where
  apply o := { o with status := .ENDED, endAt := some endAt, updatedAt := now }
  key_apply _ := rfl

def leaseEnded (now : Date) (settlement : MoveOutSettlement) : Patch Lease.id where
  apply l := { l with toMoveOutSettlement := settlement, status := .ENDED, updatedAt := now }
  key_apply _ := rfl

/-- `new Decimal(null)` throws. -/
def decimalField (env : Env) (s : Field String) (unsent : ℚ) : Result ℚ :=
  match s with
  | .value s => newDecimal env s
  | .null => .error (.internal "[DecimalError] Invalid argument: null")
  | .undefined => .ok unsent

def moveOutSettlement (lease : Lease) (dto : MoveOutDto) : Result MoveOutSettlement := do
  let actualMoveOutDate ← toDateColumn dto.actualMoveOutDate
  let totalDeductions ← decimalField env dto.totalDeductions (lease.totalDeductions.getD 0)
  let netRefund ← decimalField env dto.netRefund
    (max 0 (lease.securityDepositAmount - totalDeductions))
  let damageCharges ← decimalOrNull env dto.damageCharges
  let pendingRent ← decimalOrNull env dto.pendingRent
  let pendingUtilities ← decimalOrNull env dto.pendingUtilities
  let pendingServiceFines ← decimalOrNull env dto.pendingServiceFines
  let totalDeductionsColumn ← toDecimalColumn totalDeductions
  let netRefundColumn ← toDecimalColumn netRefund
  let accessCardsReturnedCount ← intOrNull dto.accessCardsReturnedCount
  let inspectionDate ← dateOrNull dto.inspectionDate
  let refundDate ← dateOrNull dto.refundDate
  return {
    actualMoveOutDate := some actualMoveOutDate
    forwardingPhone := dto.forwardingPhone
    forwardingEmail := dto.forwardingEmail
    forwardingAddress := dto.forwardingAddress
    finalElectricityReading := dto.finalElectricityReading
    finalWaterReading := dto.finalWaterReading
    finalGasReading := dto.finalGasReading
    wallsCondition := dto.wallsCondition
    floorCondition := dto.floorCondition
    kitchenCondition := dto.kitchenCondition
    bathroomCondition := dto.bathroomCondition
    doorsLocksCondition := dto.doorsLocksCondition
    keysReturned := dto.keysReturned
    accessCardsReturnedCount
    parkingStickersReturned := dto.parkingStickersReturned
    damageDescription := dto.damageDescription
    damageCharges
    pendingRent
    pendingUtilities
    pendingServiceFines
    totalDeductions := some totalDeductionsColumn
    netRefund := some netRefundColumn
    inspectionDoneBy := dto.inspectionDoneBy
    inspectionDate
    managerApproval := dto.managerApproval
    refundMethod := dto.refundMethod
    refundDate
    adminNotes := dto.adminNotes }

def itemsReturnedWrite (leaseId : Id) (now : Date) : Table.Write AccessItem.key :=
  .updateMany (fun i => i.leaseId = leaseId ∧ i.status = .ISSUED) (itemsReturned now)

def moveOutStatements (user : Option AuthenticatedUser) (lease : Lease) (occupancyId : Id)
    (actualMoveOutDate : Date) (settlement : MoveOutSettlement) (dto : MoveOutDto) : Plan :=
  (if dto.markAllAccessCardsReturned = some false then [] else
    [.write (.accessCard (itemsReturnedWrite lease.id env.now))]) ++
  (if dto.markAllParkingStickersReturned = some false then [] else
    [.write (.parkingSticker (itemsReturnedWrite lease.id env.now))]) ++
  [.write (.parkingAllocation (.updateMany
      (fun a => a.orgId = lease.orgId ∧ a.occupancyId = some occupancyId ∧ a.endDate = none)
      (allocationEnded actualMoveOutDate))),
    .write (.occupancy (.updateMany (fun o => o.id = occupancyId)
      (occupancyEnded env.now actualMoveOutDate))),
    .write (.lease (.update lease.id (leaseEnded env.now settlement))),
    .write (.changeSet lease .MOVED_OUT (user.map (·.sub)) env.now),
    .write (.activity ⟨lease.orgId, lease.id, .MOVE_OUT, user.map (·.sub),
      [("occupancyId", .text occupancyId), ("actualMoveOutDate", .date actualMoveOutDate)],
      env.now⟩)]

def moveOut (db : Db) (user : Option AuthenticatedUser) (buildingId leaseId : Id)
    (dto : MoveOutDto) : Result Plan := do
  let orgId ← assertOrgScope user
  let _ ← Outcome.orThrow
    (db.directory.buildings.findFirst fun b => b.id = buildingId ∧ b.orgId = orgId)
    (.notFound "Building not found")
  let lease ← Outcome.orThrow
    (db.leases.table.findFirst fun l =>
      l.id = leaseId ∧ l.orgId = orgId ∧ l.buildingId = buildingId)
    (.notFound "Lease not found")
  Outcome.throwIf (lease.status ≠ .ACTIVE) (.conflict "Only active lease can be moved out")
  let occupancyId ← Outcome.orThrow lease.occupancyId (.conflict "Lease has no active occupancy")
  let actualMoveOutDate ← toDateColumn dto.actualMoveOutDate
  let settlement ← moveOutSettlement env lease dto
  return moveOutStatements env user lease occupancyId actualMoveOutDate settlement dto

end MoveOut

end Towerdesk.Leases
