import Towerdesk.Tenancy

/-!
# Lease history

A history row records, for every tracked field whose value differs between two
versions of a lease, the value before and after. Dates and decimals are recorded as
strings; two of them have the same string exactly when they are equal.
-/

namespace Towerdesk

section Text

def LeaseStatus.toText : LeaseStatus → String
  | .DRAFT => "DRAFT"
  | .ACTIVE => "ACTIVE"
  | .ENDED => "ENDED"
  | .CANCELLED => "CANCELLED"

def PropertyUsage.toText : PropertyUsage → String
  | .INDUSTRIAL => "INDUSTRIAL"
  | .COMMERCIAL => "COMMERCIAL"
  | .RESIDENTIAL => "RESIDENTIAL"

def PaymentFrequency.toText : PaymentFrequency → String
  | .MONTHLY => "MONTHLY"
  | .QUARTERLY => "QUARTERLY"
  | .SEMI_ANNUAL => "SEMI_ANNUAL"
  | .ANNUAL => "ANNUAL"

def ServiceChargesPaidBy.toText : ServiceChargesPaidBy → String
  | .OWNER => "OWNER"
  | .TENANT => "TENANT"

def YesNo.toText : YesNo → String
  | .YES => "YES"
  | .NO => "NO"

def ConditionStatus.toText : ConditionStatus → String
  | .OK => "OK"
  | .REPAIR_NEEDED => "REPAIR_NEEDED"

def ApprovalStatus.toText : ApprovalStatus → String
  | .APPROVED => "APPROVED"
  | .PENDING => "PENDING"
  | .REJECTED => "REJECTED"

def RefundMethod.toText : RefundMethod → String
  | .BANK_TRANSFER => "BANK_TRANSFER"
  | .CHEQUE => "CHEQUE"
  | .CASH => "CASH"

end Text

namespace Leases

inductive JsonValue
  | null
  | text (s : String)
  | number (n : ℤ)
  | boolean (b : Bool)
  | date (d : Date)
  | decimal (q : ℚ)
  | texts (ss : List String)
deriving DecidableEq

def JsonValue.ofOption {α : Type} (f : α → JsonValue) (a : Option α) : JsonValue := a.elim .null f

inductive TrackedLeaseField
  | status | ijariId | contractDate | propertyUsage | ownerNameSnapshot | landlordNameSnapshot
  | tenantNameSnapshot | tenantEmailSnapshot | landlordEmailSnapshot | tenantPhoneSnapshot
  | landlordPhoneSnapshot | buildingNameSnapshot | locationCommunity | propertySizeSqm
  | propertyTypeLabel | propertyNumber | premisesNoDewa | plotNo | contractValue | paymentModeText
  | leaseStartDate | leaseEndDate | tenancyRegistrationExpiry | noticeGivenDate | annualRent
  | paymentFrequency | numberOfCheques | securityDepositAmount | internetTvProvider
  | serviceChargesPaidBy | vatApplicable | notes | firstPaymentReceived | firstPaymentAmount
  | depositReceived | depositReceivedAmount | actualMoveOutDate | forwardingPhone | forwardingEmail
  | forwardingAddress | finalElectricityReading | finalWaterReading | finalGasReading
  | wallsCondition | floorCondition | kitchenCondition | bathroomCondition | doorsLocksCondition
  | keysReturned | accessCardsReturnedCount | parkingStickersReturned | damageDescription
  | damageCharges | pendingRent | pendingUtilities | pendingServiceFines | totalDeductions
  | netRefund | inspectionDoneBy | inspectionDate | managerApproval | refundMethod | refundDate
  | adminNotes
deriving DecidableEq, Repr

def leaseTrackedFields : List TrackedLeaseField :=
  [.status, .ijariId, .contractDate, .propertyUsage, .ownerNameSnapshot, .landlordNameSnapshot,
    .tenantNameSnapshot, .tenantEmailSnapshot, .landlordEmailSnapshot, .tenantPhoneSnapshot,
    .landlordPhoneSnapshot, .buildingNameSnapshot, .locationCommunity, .propertySizeSqm,
    .propertyTypeLabel, .propertyNumber, .premisesNoDewa, .plotNo, .contractValue, .paymentModeText,
    .leaseStartDate, .leaseEndDate, .tenancyRegistrationExpiry, .noticeGivenDate, .annualRent,
    .paymentFrequency, .numberOfCheques, .securityDepositAmount, .internetTvProvider,
    .serviceChargesPaidBy, .vatApplicable, .notes, .firstPaymentReceived, .firstPaymentAmount,
    .depositReceived, .depositReceivedAmount, .actualMoveOutDate, .forwardingPhone,
    .forwardingEmail, .forwardingAddress, .finalElectricityReading, .finalWaterReading,
    .finalGasReading, .wallsCondition, .floorCondition, .kitchenCondition, .bathroomCondition,
    .doorsLocksCondition, .keysReturned, .accessCardsReturnedCount, .parkingStickersReturned,
    .damageDescription, .damageCharges, .pendingRent, .pendingUtilities, .pendingServiceFines,
    .totalDeductions, .netRefund, .inspectionDoneBy, .inspectionDate, .managerApproval,
    .refundMethod, .refundDate, .adminNotes]

def normalizeLeaseValue (l : Lease) : TrackedLeaseField → JsonValue
  | .status => .text l.status.toText
  | .ijariId => .ofOption .text l.ijariId
  | .contractDate => .ofOption .date l.contractDate
  | .propertyUsage => .ofOption (.text ·.toText) l.propertyUsage
  | .ownerNameSnapshot => .ofOption .text l.ownerNameSnapshot
  | .landlordNameSnapshot => .ofOption .text l.landlordNameSnapshot
  | .tenantNameSnapshot => .ofOption .text l.tenantNameSnapshot
  | .tenantEmailSnapshot => .ofOption .text l.tenantEmailSnapshot
  | .landlordEmailSnapshot => .ofOption .text l.landlordEmailSnapshot
  | .tenantPhoneSnapshot => .ofOption .text l.tenantPhoneSnapshot
  | .landlordPhoneSnapshot => .ofOption .text l.landlordPhoneSnapshot
  | .buildingNameSnapshot => .ofOption .text l.buildingNameSnapshot
  | .locationCommunity => .ofOption .text l.locationCommunity
  | .propertySizeSqm => .ofOption .decimal l.propertySizeSqm
  | .propertyTypeLabel => .ofOption .text l.propertyTypeLabel
  | .propertyNumber => .ofOption .text l.propertyNumber
  | .premisesNoDewa => .ofOption .text l.premisesNoDewa
  | .plotNo => .ofOption .text l.plotNo
  | .contractValue => .ofOption .decimal l.contractValue
  | .paymentModeText => .ofOption .text l.paymentModeText
  | .leaseStartDate => .date l.leaseStartDate
  | .leaseEndDate => .date l.leaseEndDate
  | .tenancyRegistrationExpiry => .ofOption .date l.tenancyRegistrationExpiry
  | .noticeGivenDate => .ofOption .date l.noticeGivenDate
  | .annualRent => .decimal l.annualRent
  | .paymentFrequency => .text l.paymentFrequency.toText
  | .numberOfCheques => .ofOption .number l.numberOfCheques
  | .securityDepositAmount => .decimal l.securityDepositAmount
  | .internetTvProvider => .ofOption .text l.internetTvProvider
  | .serviceChargesPaidBy => .ofOption (.text ·.toText) l.serviceChargesPaidBy
  | .vatApplicable => .ofOption .boolean l.vatApplicable
  | .notes => .ofOption .text l.notes
  | .firstPaymentReceived => .ofOption (.text ·.toText) l.firstPaymentReceived
  | .firstPaymentAmount => .ofOption .decimal l.firstPaymentAmount
  | .depositReceived => .ofOption (.text ·.toText) l.depositReceived
  | .depositReceivedAmount => .ofOption .decimal l.depositReceivedAmount
  | .actualMoveOutDate => .ofOption .date l.actualMoveOutDate
  | .forwardingPhone => .ofOption .text l.forwardingPhone
  | .forwardingEmail => .ofOption .text l.forwardingEmail
  | .forwardingAddress => .ofOption .text l.forwardingAddress
  | .finalElectricityReading => .ofOption .text l.finalElectricityReading
  | .finalWaterReading => .ofOption .text l.finalWaterReading
  | .finalGasReading => .ofOption .text l.finalGasReading
  | .wallsCondition => .ofOption (.text ·.toText) l.wallsCondition
  | .floorCondition => .ofOption (.text ·.toText) l.floorCondition
  | .kitchenCondition => .ofOption (.text ·.toText) l.kitchenCondition
  | .bathroomCondition => .ofOption (.text ·.toText) l.bathroomCondition
  | .doorsLocksCondition => .ofOption (.text ·.toText) l.doorsLocksCondition
  | .keysReturned => .ofOption (.text ·.toText) l.keysReturned
  | .accessCardsReturnedCount => .ofOption .number l.accessCardsReturnedCount
  | .parkingStickersReturned => .ofOption (.text ·.toText) l.parkingStickersReturned
  | .damageDescription => .ofOption .text l.damageDescription
  | .damageCharges => .ofOption .decimal l.damageCharges
  | .pendingRent => .ofOption .decimal l.pendingRent
  | .pendingUtilities => .ofOption .decimal l.pendingUtilities
  | .pendingServiceFines => .ofOption .decimal l.pendingServiceFines
  | .totalDeductions => .ofOption .decimal l.totalDeductions
  | .netRefund => .ofOption .decimal l.netRefund
  | .inspectionDoneBy => .ofOption .text l.inspectionDoneBy
  | .inspectionDate => .ofOption .date l.inspectionDate
  | .managerApproval => .ofOption (.text ·.toText) l.managerApproval
  | .refundMethod => .ofOption (.text ·.toText) l.refundMethod
  | .refundDate => .ofOption .date l.refundDate
  | .adminNotes => .ofOption .text l.adminNotes

structure LeaseHistoryFieldChange where
  field : TrackedLeaseField
  before : JsonValue
  after : JsonValue
deriving DecidableEq

def changesBetween (previous current : TrackedLeaseField → JsonValue) :
    List LeaseHistoryFieldChange :=
  (leaseTrackedFields.map fun field => ⟨field, previous field, current field⟩).filter
    fun change => change.before ≠ change.after

def buildLeaseChangeSet (previous current : Lease) : List LeaseHistoryFieldChange :=
  changesBetween (normalizeLeaseValue previous) (normalizeLeaseValue current)

def buildLeaseCreationChangeSet (lease : Lease) : List LeaseHistoryFieldChange :=
  changesBetween (fun _ => .null) (normalizeLeaseValue lease)

end Leases

end Towerdesk
