import Towerdesk.Leases.Lifecycle

/-!
# Contracts

Drafting, editing, activating and cancelling a contract. Cancelling one that is
occupied moves the resident out first, in a transaction of its own.
-/

namespace Towerdesk.Leases

abbrev Service := EStateM HttpException Db Unit

/-- What an error of the database becomes when no service catches it. -/
def mapDbError : DbError → HttpException
  | .duplicateKey => .internal "Unique constraint failed"
  | .recordNotFound => .internal "Record to update not found"
  | .violates _ => .internal "Constraint failed"

def transaction (plan : Db → Result Plan) : Service :=
  Transaction.transaction DbWrite.apply mapDbError plan

def findContractOrThrow (db : Db) (orgId contractId : Id) : Result Lease :=
  Outcome.orThrow (db.leases.table.findFirst fun l => l.id = contractId ∧ l.orgId = orgId)
    (.notFound "Contract not found")

section Draft

variable (env : Env)

def normalizeTerms (terms : List String) : List String := normalizeNames env terms

def areaColumn (s : String) : Result ℚ := newDecimal env s >>= toAreaColumn

def areaOrNull (s : Option String) : Result (Option ℚ) :=
  match truthy s with
  | some s => some <$> areaColumn env s
  | none => .ok none

def draftSnapshot (building : Building) (unit : UnitRow) (resident : User) (contractValue : ℚ)
    (contractDate : Option Date) (propertySizeSqm : Option ℚ) (dto : CreateContractDto) :
    ContractSnapshot where
  ijariId := dto.ijariId
  contractDate
  propertyUsage := dto.propertyUsage
  ownerNameSnapshot := dto.ownerNameSnapshot
  landlordNameSnapshot := dto.landlordNameSnapshot
  tenantNameSnapshot := dto.tenantNameSnapshot.or resident.name
  tenantEmailSnapshot := dto.tenantEmailSnapshot.or (some resident.email)
  landlordEmailSnapshot := dto.landlordEmailSnapshot
  tenantPhoneSnapshot := dto.tenantPhoneSnapshot.or resident.phone
  landlordPhoneSnapshot := dto.landlordPhoneSnapshot
  buildingNameSnapshot := dto.buildingNameSnapshot.or (some building.name)
  locationCommunity := dto.locationCommunity.or (some building.city)
  propertySizeSqm
  propertyTypeLabel := dto.propertyTypeLabel.or unit.unitTypeName
  propertyNumber := dto.propertyNumber.or (some unit.label)
  premisesNoDewa := dto.premisesNoDewa
  plotNo := dto.plotNo
  contractValue := some contractValue
  paymentModeText := dto.paymentModeText

def draftLease (orgId : Id) (building : Building) (unit : UnitRow) (resident : User)
    (dto : CreateContractDto) : Result Lease := do
  let annualRent ← decimalColumn env dto.annualRent
  let securityDepositAmount ← decimalColumn env dto.securityDepositAmount
  let contractValue ← decimalOrNull env dto.contractValue
  let contractDate ← dateOrNull dto.contractDate
  let propertySizeSqm ← areaOrNull env dto.propertySizeSqm
  let leaseStartDate ← toDateColumn dto.contractPeriodFrom
  let leaseEndDate ← toDateColumn dto.contractPeriodTo
  let numberOfCheques ← intOrNull dto.numberOfCheques
  return {
    toContractSnapshot := draftSnapshot building unit resident (contractValue.getD annualRent)
      contractDate propertySizeSqm dto
    toLeaseTerms := {
      leaseStartDate
      leaseEndDate
      tenancyRegistrationExpiry := none
      noticeGivenDate := none
      annualRent
      paymentFrequency := dto.paymentFrequency
      numberOfCheques
      securityDepositAmount
      internetTvProvider := none
      serviceChargesPaidBy := none
      vatApplicable := none
      notes := dto.notes
      firstPaymentReceived := none
      firstPaymentAmount := none
      depositReceived := none
      depositReceivedAmount := none }
    toMoveOutSettlement := .blank
    id := env.ids.lease
    orgId
    buildingId := building.id
    unitId := unit.id
    occupancyId := none
    residentUserId := some resident.id
    status := .DRAFT
    createdAt := env.now
    updatedAt := env.now }

def createDraftContract (db : Db) (user : Option AuthenticatedUser) (buildingId : Id)
    (dto : CreateContractDto) : Result Plan := do
  let orgId ← assertOrgScope user
  let building ← Outcome.orThrow
    (db.directory.buildings.findFirst fun b => b.id = buildingId ∧ b.orgId = orgId)
    (.notFound "Building not found")
  let unit ← Outcome.orThrow
    (db.directory.units.findFirst fun u => u.id = dto.unitId ∧ u.buildingId = buildingId)
    (.badRequest "Unit not in building")
  let resident ← Outcome.orThrow
    (db.directory.users.findFirst fun u =>
      u.id = dto.residentUserId ∧ u.orgId = some orgId ∧ u.isActive)
    (.badRequest "Resident not found in org")
  Outcome.throwIf (dto.contractPeriodTo.le dto.contractPeriodFrom)
    (.badRequest "contractPeriodTo must be after contractPeriodFrom")
  Outcome.throwIf
    (∃ l ∈ db.leases.table, l.orgId = orgId ∧ l.unitId = unit.id ∧ l.status = .ACTIVE)
    (.conflict "Unit already has an active contract")
  let lease ← draftLease env orgId building unit resident dto
  return .write (.lease (.create lease)) ::
    (normalizeTerms env (dto.additionalTerms.getD [])).map
      (fun termText => .write (.term ⟨lease.id, orgId, termText⟩)) ++
    [.write (.history ⟨orgId, lease.id, .CREATED, user.map (·.sub),
      buildLeaseCreationChangeSet lease, env.now⟩)]

end Draft

section Update

/-- The data of an update: what is `none` was not sent. -/
structure ContractData where
  leaseStartDate : Option Date
  leaseEndDate : Option Date
  annualRent : Option ℚ
  paymentFrequency : Option PaymentFrequency
  numberOfCheques : Option (Option ℤ)
  securityDepositAmount : Option ℚ
  ijariId : Option (Option String)
  contractDate : Option (Option Date)
  propertyUsage : Option (Option PropertyUsage)
  ownerNameSnapshot : Option (Option String)
  landlordNameSnapshot : Option (Option String)
  tenantNameSnapshot : Option (Option String)
  tenantEmailSnapshot : Option (Option String)
  landlordEmailSnapshot : Option (Option String)
  tenantPhoneSnapshot : Option (Option String)
  landlordPhoneSnapshot : Option (Option String)
  buildingNameSnapshot : Option (Option String)
  locationCommunity : Option (Option String)
  propertySizeSqm : Option (Option ℚ)
  propertyTypeLabel : Option (Option String)
  propertyNumber : Option (Option String)
  premisesNoDewa : Option (Option String)
  plotNo : Option (Option String)
  contractValue : Option (Option ℚ)
  paymentModeText : Option (Option String)
  notes : Option (Option String)

def ContractData.snapshot (d : ContractData) (s : ContractSnapshot) : ContractSnapshot where
  ijariId := d.ijariId.getD s.ijariId
  contractDate := d.contractDate.getD s.contractDate
  propertyUsage := d.propertyUsage.getD s.propertyUsage
  ownerNameSnapshot := d.ownerNameSnapshot.getD s.ownerNameSnapshot
  landlordNameSnapshot := d.landlordNameSnapshot.getD s.landlordNameSnapshot
  tenantNameSnapshot := d.tenantNameSnapshot.getD s.tenantNameSnapshot
  tenantEmailSnapshot := d.tenantEmailSnapshot.getD s.tenantEmailSnapshot
  landlordEmailSnapshot := d.landlordEmailSnapshot.getD s.landlordEmailSnapshot
  tenantPhoneSnapshot := d.tenantPhoneSnapshot.getD s.tenantPhoneSnapshot
  landlordPhoneSnapshot := d.landlordPhoneSnapshot.getD s.landlordPhoneSnapshot
  buildingNameSnapshot := d.buildingNameSnapshot.getD s.buildingNameSnapshot
  locationCommunity := d.locationCommunity.getD s.locationCommunity
  propertySizeSqm := d.propertySizeSqm.getD s.propertySizeSqm
  propertyTypeLabel := d.propertyTypeLabel.getD s.propertyTypeLabel
  propertyNumber := d.propertyNumber.getD s.propertyNumber
  premisesNoDewa := d.premisesNoDewa.getD s.premisesNoDewa
  plotNo := d.plotNo.getD s.plotNo
  contractValue := d.contractValue.getD s.contractValue
  paymentModeText := d.paymentModeText.getD s.paymentModeText

def ContractData.terms (d : ContractData) (t : LeaseTerms) : LeaseTerms :=
  { t with
    leaseStartDate := d.leaseStartDate.getD t.leaseStartDate
    leaseEndDate := d.leaseEndDate.getD t.leaseEndDate
    annualRent := d.annualRent.getD t.annualRent
    paymentFrequency := d.paymentFrequency.getD t.paymentFrequency
    numberOfCheques := d.numberOfCheques.getD t.numberOfCheques
    securityDepositAmount := d.securityDepositAmount.getD t.securityDepositAmount
    notes := d.notes.getD t.notes }


def leaseEdited (now : Date) (data : ContractData) : Patch Lease.id where
  apply l := { l with
    toContractSnapshot := data.snapshot l.toContractSnapshot
    toLeaseTerms := data.terms l.toLeaseTerms
    updatedAt := now }
  key_apply _ := rfl

def sent {α : Type} : Field α → Option (Option α)
  | .undefined => none
  | f => some f.toOption

def nullableSent {α β : Type} (column : α → Result β) : Field α → Result (Option (Option β))
  | .undefined => .ok none
  | .null => .ok (some none)
  | .value a => (some ∘ some) <$> column a

def requiredSent {α β : Type} (message : String) (column : α → Result β) :
    Field α → Result (Option β)
  | .undefined => .ok none
  | .null => .error (.internal message)
  | .value a => some <$> column a

def dateSent (sentDate : Field JsDate) : Result (Option Date) :=
  if sentDate.isUndefined then .ok none else some <$> toDateColumn (newDate sentDate)

def contractData (env : Env) (dto : UpdateContractDto) : Result ContractData := do
  let leaseStartDate ← dateSent dto.contractPeriodFrom
  let leaseEndDate ← dateSent dto.contractPeriodTo
  let annualRent ← requiredSent "[DecimalError] Invalid argument: null" (decimalColumn env)
    dto.annualRent
  let paymentFrequency ← requiredSent "Argument paymentFrequency must not be null" .ok
    dto.paymentFrequency
  let numberOfCheques ← nullableSent toIntColumn dto.numberOfCheques
  let securityDepositAmount ← requiredSent "[DecimalError] Invalid argument: null"
    (decimalColumn env) dto.securityDepositAmount
  let contractValue ← nullableSent (decimalColumn env) dto.contractValue
  let contractDate ← nullableSent toDateColumn dto.contractDate
  let propertySizeSqm ← nullableSent (areaColumn env) dto.propertySizeSqm
  return {
    leaseStartDate
    leaseEndDate
    annualRent
    paymentFrequency
    numberOfCheques
    securityDepositAmount
    ijariId := sent dto.ijariId
    contractDate
    propertyUsage := sent dto.propertyUsage
    ownerNameSnapshot := sent dto.ownerNameSnapshot
    landlordNameSnapshot := sent dto.landlordNameSnapshot
    tenantNameSnapshot := sent dto.tenantNameSnapshot
    tenantEmailSnapshot := sent dto.tenantEmailSnapshot
    landlordEmailSnapshot := sent dto.landlordEmailSnapshot
    tenantPhoneSnapshot := sent dto.tenantPhoneSnapshot
    landlordPhoneSnapshot := sent dto.landlordPhoneSnapshot
    buildingNameSnapshot := sent dto.buildingNameSnapshot
    locationCommunity := sent dto.locationCommunity
    propertySizeSqm
    propertyTypeLabel := sent dto.propertyTypeLabel
    propertyNumber := sent dto.propertyNumber
    premisesNoDewa := sent dto.premisesNoDewa
    plotNo := sent dto.plotNo
    contractValue
    paymentModeText := sent dto.paymentModeText
    notes := sent dto.notes }

/-- `legalFields.some((field) => dto[field] !== undefined)`. -/
def sendsLegalField (dto : UpdateContractDto) : Bool :=
  !(dto.contractPeriodFrom.isUndefined && dto.contractPeriodTo.isUndefined &&
    dto.annualRent.isUndefined && dto.paymentFrequency.isUndefined &&
    dto.numberOfCheques.isUndefined && dto.securityDepositAmount.isUndefined &&
    dto.contractValue.isUndefined && dto.paymentModeText.isUndefined &&
    dto.ijariId.isUndefined && dto.contractDate.isUndefined && dto.propertyUsage.isUndefined &&
    dto.ownerNameSnapshot.isUndefined && dto.landlordNameSnapshot.isUndefined &&
    dto.tenantNameSnapshot.isUndefined && dto.tenantEmailSnapshot.isUndefined &&
    dto.landlordEmailSnapshot.isUndefined && dto.tenantPhoneSnapshot.isUndefined &&
    dto.landlordPhoneSnapshot.isUndefined && dto.buildingNameSnapshot.isUndefined &&
    dto.locationCommunity.isUndefined && dto.propertySizeSqm.isUndefined &&
    dto.propertyTypeLabel.isUndefined && dto.propertyNumber.isUndefined &&
    dto.premisesNoDewa.isUndefined && dto.plotNo.isUndefined)

/-- `new Date(dto.x ?? before.x)`. -/
def dateOr (sentDate : Field JsDate) (before : Date) : JsDate := sentDate.toOption.getD (some before)

def updateContract (env : Env) (db : Db) (user : Option AuthenticatedUser) (contractId : Id)
    (dto : UpdateContractDto) : Result Plan := do
  let orgId ← assertOrgScope user
  let before ← findContractOrThrow db orgId contractId
  Outcome.throwIf
    (before.status = .ACTIVE ∧ (truthy before.ijariId).isSome ∧ sendsLegalField dto)
    (.conflict ("Legal contract fields are locked for active Ejari-linked contracts. " ++
      "Use amendment/renewal flow."))
  Outcome.throwIf
    ((dto.contractPeriodFrom.toOption.isSome ∨ dto.contractPeriodTo.toOption.isSome) ∧
      (dateOr dto.contractPeriodTo before.leaseEndDate).le
        (dateOr dto.contractPeriodFrom before.leaseStartDate))
    (.badRequest "contractPeriodTo must be after contractPeriodFrom")
  let data ← contractData env dto
  return [.write (.lease (.update before.id (leaseEdited env.now data))),
    .write (.changeSet before .UPDATED (user.map (·.sub)) env.now)]

def replaceAdditionalTerms (env : Env) (db : Db) (user : Option AuthenticatedUser)
    (contractId : Id) (terms : List String) : Result Plan := do
  let orgId ← assertOrgScope user
  let contract ← findContractOrThrow db orgId contractId
  return .write (.clearTerms contract.id) ::
    (normalizeTerms env terms).map fun termText => .write (.term ⟨contract.id, orgId, termText⟩)

end Update

section Status

variable (env : Env)

def leaseStatusSet (now : Date) (status : LeaseStatus) : Patch Lease.id where
  apply l := { l with status, updatedAt := now }
  key_apply _ := rfl

def activateContract (db : Db) (user : Option AuthenticatedUser) (contractId : Id) :
    Result Plan := do
  let orgId ← assertOrgScope user
  let existing ← findContractOrThrow db orgId contractId
  Outcome.throwIf (existing.status = .ENDED) (.conflict "Ended contract cannot be activated")
  return if existing.status = .ACTIVE then [] else
    [.write (.lease (.update existing.id (leaseStatusSet env.now .ACTIVE))),
      .write (.activity ⟨orgId, existing.id, .CONTRACT_ACTIVATED, user.map (·.sub),
        [("fromStatus", .text existing.status.toText), ("toStatus", .text "ACTIVE")], env.now⟩)]

def requestStatusSet (now : Date) (status : MoveRequestStatus) : Patch MoveRequest.id where
  apply r := { r with status, updatedAt := now }
  key_apply _ := rfl

theorem not_isOpen_cancelled {now : Date} {r : MoveRequest} :
    ¬ ((requestStatusSet now .CANCELLED).apply r).isOpen := by
  simp [MoveRequest.isOpen, requestStatusSet]

theorem not_isOpen_completed {now : Date} {r : MoveRequest} :
    ¬ ((requestStatusSet now .COMPLETED).apply r).isOpen := by
  simp [MoveRequest.isOpen, requestStatusSet]

def cancelRequestsWrite (now : Date) (lease : Lease) : Table.Write MoveRequest.id :=
  .updateMany (fun r => r.orgId = lease.orgId ∧ r.leaseId = lease.id ∧ r.isOpen)
    (requestStatusSet now .CANCELLED)

def cancelContractStatements (user : Option AuthenticatedUser) (existing : Lease)
    (reason : Option String) : Plan :=
  [.write (.moveRequest .MOVE_IN (cancelRequestsWrite env.now existing)),
    .write (.moveRequest .MOVE_OUT (cancelRequestsWrite env.now existing)),
    .write (.lease (.update existing.id (leaseStatusSet env.now .CANCELLED))),
    .write (.activity ⟨existing.orgId, existing.id, .CONTRACT_CANCELLED, user.map (·.sub),
      [("fromStatus", .text existing.status.toText), ("toStatus", .text "CANCELLED"),
        ("reason", .ofOption .text reason)], env.now⟩)]

def cancellableContract (user : Option AuthenticatedUser) (contractId : Id) (db : Db) :
    Result Lease := do
  let orgId ← assertOrgScope user
  let existing ← findContractOrThrow db orgId contractId
  Outcome.throwIf (existing.status = .ENDED) (.conflict "Ended contract cannot be cancelled")
  return existing

def cancelContract (user : Option AuthenticatedUser) (contractId : Id) (reason : Option String) :
    Service := do
  let existing ← Transaction.read (cancellableContract user contractId)
  if existing.status = .ACTIVE ∧ existing.occupancyId.isSome then
    transaction fun db => moveOut env db user existing.buildingId existing.id (.at env.now)
  transaction fun _ => .ok (cancelContractStatements env user existing reason)

end Status

end Towerdesk.Leases
