import Towerdesk.Leases.Contracts
import Towerdesk.Leases.MoveRequests
import Towerdesk.Lib.Run

/-!
# Operations on leases

The lease endpoint edits the row the contract endpoint edits, with a form of its own: the terms
without the contract snapshot. Together the calls that write a lease, its occupancy or its move
requests make a system: one call after the other, a call that throws leaving behind what its
transactions have committed by then.
-/

namespace Towerdesk.Leases

/-- What a request sends; `none` was not sent. Dates and counts are first as the service
holds them, then as the columns do. -/
structure LeaseUpdate (δ ν : Type) where
  leaseStartDate : Option δ
  leaseEndDate : Option δ
  tenancyRegistrationExpiry : Option (Option δ)
  noticeGivenDate : Option (Option δ)
  annualRent : Option ℚ
  paymentFrequency : Option PaymentFrequency
  numberOfCheques : Option (Option ν)
  securityDepositAmount : Option ℚ
  internetTvProvider : Option (Option String)
  serviceChargesPaidBy : Option (Option ServiceChargesPaidBy)
  vatApplicable : Option (Option Bool)
  notes : Option (Option String)
  firstPaymentReceived : Option (Option YesNo)
  firstPaymentAmount : Option (Option ℚ)
  depositReceived : Option (Option YesNo)
  depositReceivedAmount : Option (Option ℚ)
deriving DecidableEq

def LeaseUpdate.empty : LeaseUpdate JsDate ℚ :=
  ⟨none, none, none, none, none, none, none, none, none, none, none, none, none, none, none, none⟩

section Build

variable (env : Env)

def toDecimal (value field : String) : Result ℚ :=
  let trimmed := trimString value
  if trimmed = "" then .error (.badRequest (field ++ " must be a valid decimal string"))
  else Outcome.orThrow (env.parseDecimal trimmed)
    (.badRequest (field ++ " must be a valid decimal string"))

/-- `dto.x ? this.toDecimal(dto.x, field) : null`, of a field that was sent. -/
def decimalSent (field : String) : Field String → Result (Option (Option ℚ))
  | .undefined => .ok none
  | .null => .ok (some none)
  | .value s => if s = "" then .ok (some none) else (some ∘ some) <$> toDecimal env s field

def buildUpdateData (dto : UpdateLeaseDto) : Result (LeaseUpdate JsDate ℚ) := do
  let annualRent ← dto.annualRent.mapM (toDecimal env · "annualRent")
  let securityDepositAmount ←
    dto.securityDepositAmount.mapM (toDecimal env · "securityDepositAmount")
  let firstPaymentAmount ← decimalSent env "firstPaymentAmount" dto.firstPaymentAmount
  let depositReceivedAmount ← decimalSent env "depositReceivedAmount" dto.depositReceivedAmount
  return {
    leaseStartDate := dto.leaseStartDate
    leaseEndDate := dto.leaseEndDate
    tenancyRegistrationExpiry := sent dto.tenancyRegistrationExpiry
    noticeGivenDate := sent dto.noticeGivenDate
    annualRent
    paymentFrequency := dto.paymentFrequency
    numberOfCheques := sent dto.numberOfCheques
    securityDepositAmount
    internetTvProvider := sent dto.internetTvProvider
    serviceChargesPaidBy := sent dto.serviceChargesPaidBy
    vatApplicable := sent dto.vatApplicable
    notes := sent dto.notes
    firstPaymentReceived := sent dto.firstPaymentReceived
    firstPaymentAmount
    depositReceived := sent dto.depositReceived
    depositReceivedAmount }

end Build

def LeaseUpdate.columns (data : LeaseUpdate JsDate ℚ) : Result (LeaseUpdate Date ℤ) := do
  let leaseStartDate ← data.leaseStartDate.mapM toDateColumn
  let leaseEndDate ← data.leaseEndDate.mapM toDateColumn
  let tenancyRegistrationExpiry ← data.tenancyRegistrationExpiry.mapM (·.mapM toDateColumn)
  let noticeGivenDate ← data.noticeGivenDate.mapM (·.mapM toDateColumn)
  let annualRent ← data.annualRent.mapM toDecimalColumn
  let numberOfCheques ← data.numberOfCheques.mapM (·.mapM toIntColumn)
  let securityDepositAmount ← data.securityDepositAmount.mapM toDecimalColumn
  let firstPaymentAmount ← data.firstPaymentAmount.mapM (·.mapM toDecimalColumn)
  let depositReceivedAmount ← data.depositReceivedAmount.mapM (·.mapM toDecimalColumn)
  return {
    leaseStartDate
    leaseEndDate
    tenancyRegistrationExpiry
    noticeGivenDate
    annualRent
    paymentFrequency := data.paymentFrequency
    numberOfCheques
    securityDepositAmount
    internetTvProvider := data.internetTvProvider
    serviceChargesPaidBy := data.serviceChargesPaidBy
    vatApplicable := data.vatApplicable
    notes := data.notes
    firstPaymentReceived := data.firstPaymentReceived
    firstPaymentAmount
    depositReceived := data.depositReceived
    depositReceivedAmount }

def LeaseUpdate.terms (data : LeaseUpdate Date ℤ) (t : LeaseTerms) : LeaseTerms where
  leaseStartDate := data.leaseStartDate.getD t.leaseStartDate
  leaseEndDate := data.leaseEndDate.getD t.leaseEndDate
  tenancyRegistrationExpiry := data.tenancyRegistrationExpiry.getD t.tenancyRegistrationExpiry
  noticeGivenDate := data.noticeGivenDate.getD t.noticeGivenDate
  annualRent := data.annualRent.getD t.annualRent
  paymentFrequency := data.paymentFrequency.getD t.paymentFrequency
  numberOfCheques := data.numberOfCheques.getD t.numberOfCheques
  securityDepositAmount := data.securityDepositAmount.getD t.securityDepositAmount
  internetTvProvider := data.internetTvProvider.getD t.internetTvProvider
  serviceChargesPaidBy := data.serviceChargesPaidBy.getD t.serviceChargesPaidBy
  vatApplicable := data.vatApplicable.getD t.vatApplicable
  notes := data.notes.getD t.notes
  firstPaymentReceived := data.firstPaymentReceived.getD t.firstPaymentReceived
  firstPaymentAmount := data.firstPaymentAmount.getD t.firstPaymentAmount
  depositReceived := data.depositReceived.getD t.depositReceived
  depositReceivedAmount := data.depositReceivedAmount.getD t.depositReceivedAmount

def leaseUpdated (now : Date) (data : LeaseUpdate Date ℤ) : Patch Lease.id where
  apply l := { l with toLeaseTerms := data.terms l.toLeaseTerms, updatedAt := now }
  key_apply _ := rfl

def checkedUpdate (env : Env) (lease : Lease) (dto : UpdateLeaseDto) :
    Result (LeaseUpdate JsDate ℚ) := do
  let data ← buildUpdateData env dto
  Outcome.throwIf (data = .empty) (.badRequest "No lease fields provided")
  Outcome.throwIf
    ((data.leaseEndDate.getD lease.leaseEndDate).le (data.leaseStartDate.getD lease.leaseStartDate))
    (.badRequest "leaseEndDate must be after leaseStartDate")
  return data

def leaseToUpdate (env : Env) (user : Option AuthenticatedUser) (leaseId : Id)
    (dto : UpdateLeaseDto) (db : Db) : Result (Lease × LeaseUpdate JsDate ℚ) := do
  let orgId ← assertOrgScope user
  let lease ← Outcome.orThrow (db.leases.table.findFirst fun l => l.id = leaseId ∧ l.orgId = orgId)
    (.notFound "Lease not found")
  let data ← checkedUpdate env lease dto
  return (lease, data)

/-- `updateMany` that finds no row is answered with "Lease not found". -/
def updateLeaseForOrg (env : Env) (lease : Lease) (data : LeaseUpdate JsDate ℚ) (db : Db) :
    Result Plan := do
  let columns ← data.columns
  Outcome.throwIf (¬ ∃ l ∈ db.leases.table, l.id = lease.id ∧ l.orgId = lease.orgId)
    (.notFound "Lease not found")
  return [.write (.lease (.updateMany (fun l => l.id = lease.id ∧ l.orgId = lease.orgId)
    (leaseUpdated env.now columns)))]

def updateLease (env : Env) (user : Option AuthenticatedUser) (leaseId : Id)
    (dto : UpdateLeaseDto) : Service := do
  let (lease, data) ← Transaction.read (leaseToUpdate env user leaseId dto)
  transaction (updateLeaseForOrg env lease data)
  transaction fun _ => .ok [.write (.changeSet lease .UPDATED (user.map (·.sub)) env.now)]

end Towerdesk.Leases

namespace Towerdesk.Leases

inductive Operation
  | createDraftContract (user : Option AuthenticatedUser) (buildingId : Id) (dto : CreateContractDto)
  | updateContract (user : Option AuthenticatedUser) (contractId : Id) (dto : UpdateContractDto)
  | updateLease (user : Option AuthenticatedUser) (leaseId : Id) (dto : UpdateLeaseDto)
  | replaceAdditionalTerms (user : Option AuthenticatedUser) (contractId : Id) (terms : List String)
  | activateContract (user : Option AuthenticatedUser) (contractId : Id)
  | cancelContract (user : Option AuthenticatedUser) (contractId : Id) (reason : Option String)
  | createResidentMoveInRequest (user : Option AuthenticatedUser) (contractId : Id)
      (dto : CreateMoveRequestDto)
  | createResidentMoveOutRequest (user : Option AuthenticatedUser) (contractId : Id)
      (dto : CreateMoveRequestDto)
  | approveMoveInRequest (user : Option AuthenticatedUser) (requestId : Id)
  | rejectMoveInRequest (user : Option AuthenticatedUser) (requestId : Id)
      (dto : RejectMoveRequestDto)
  | approveMoveOutRequest (user : Option AuthenticatedUser) (requestId : Id)
  | rejectMoveOutRequest (user : Option AuthenticatedUser) (requestId : Id)
      (dto : RejectMoveRequestDto)
  | executeApprovedMoveIn (user : Option AuthenticatedUser) (contractId : Id)
  | executeApprovedMoveOut (user : Option AuthenticatedUser) (contractId : Id)
  | moveIn (user : Option AuthenticatedUser) (buildingId : Id) (dto : MoveInDto)
  | moveOut (user : Option AuthenticatedUser) (buildingId leaseId : Id) (dto : MoveOutDto)

def call (env : Env) : Operation → Service
  | .createDraftContract user buildingId dto =>
    transaction fun db => createDraftContract env db user buildingId dto
  | .updateContract user contractId dto =>
    transaction fun db => updateContract env db user contractId dto
  | .updateLease user leaseId dto => updateLease env user leaseId dto
  | .replaceAdditionalTerms user contractId terms =>
    transaction fun db => replaceAdditionalTerms env db user contractId terms
  | .activateContract user contractId => transaction fun db => activateContract env db user contractId
  | .cancelContract user contractId reason => cancelContract env user contractId reason
  | .createResidentMoveInRequest user contractId dto =>
    transaction fun db => createResidentMoveInRequest env db user contractId dto
  | .createResidentMoveOutRequest user contractId dto =>
    transaction fun db => createResidentMoveOutRequest env db user contractId dto
  | .approveMoveInRequest user requestId =>
    transaction fun db => approveMoveInRequest env db user requestId
  | .rejectMoveInRequest user requestId dto =>
    transaction fun db => rejectMoveInRequest env db user requestId dto
  | .approveMoveOutRequest user requestId =>
    transaction fun db => approveMoveOutRequest env db user requestId
  | .rejectMoveOutRequest user requestId dto =>
    transaction fun db => rejectMoveOutRequest env db user requestId dto
  | .executeApprovedMoveIn user contractId =>
    transaction fun db => executeApprovedMoveIn env db user contractId
  | .executeApprovedMoveOut user contractId => executeApprovedMoveOut env user contractId
  | .moveIn user buildingId dto =>
    Transaction.transaction DbWrite.apply (mapMoveInError dto) fun db =>
      moveIn env db user buildingId dto
  | .moveOut user buildingId leaseId dto =>
    transaction fun db => moveOut env db user buildingId leaseId dto

def next (c : Env × Operation) (db : Db) : Db := Transaction.final (call c.1 c.2 db)

def returned {ε σ α : Type} : EStateM.Result ε σ α → Bool
  | .ok _ _ => true
  | .error _ _ => false

theorem ends_of_returned {ε σ α : Type} {throws returns : σ → Prop} {r : EStateM.Result ε σ α}
    (h : Transaction.Ends throws (fun _ => returns) r) (hr : returned r = true) :
    returns (Transaction.final r) := by
  cases r with
  | ok a s => exact h
  | error e s => cases hr

theorem ends_of_thrown {ε σ α : Type} {throws returns : σ → Prop} {r : EStateM.Result ε σ α}
    (h : Transaction.Ends throws (fun _ => returns) r) (hr : returned r ≠ true) :
    throws (Transaction.final r) := by
  cases r with
  | ok a s => exact absurd rfl hr
  | error e s => exact h

def Succeeds (env : Env) (op : Operation) (db : Db) : Prop := returned (call env op db) = true

instance (env : Env) (op : Operation) (db : Db) : Decidable (Succeeds env op db) :=
  inferInstanceAs (Decidable (_ = true))

end Towerdesk.Leases
