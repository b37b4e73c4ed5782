import Towerdesk.Tenancy

/-!
# The forms of the lease module

What the contract and lifecycle endpoints receive. A date string is given as what
`new Date` makes of it; a field the code only reads through `??` or a truthiness
test is an `Option`, one it compares with `undefined` is a `Field`.
-/

namespace Towerdesk.Leases

/-- The result of `new Date`; `none` is the invalid date. -/
abbrev JsDate := Option Date

/-- `a.getTime() <= b.getTime()`. -/
def JsDate.le (a b : JsDate) : Bool :=
  match a, b with
  | some a, some b => a ≤ b
  | _, _ => false

/-- `new Date(null)` is the epoch. -/
def newDate : Field JsDate → JsDate
  | .value d => d
  | .null => some 0
  | .undefined => none

structure CreateContractDto where
  unitId : Id
  residentUserId : Id
  contractPeriodFrom : JsDate
  contractPeriodTo : JsDate
  annualRent : String
  paymentFrequency : PaymentFrequency
  numberOfCheques : Option ℚ
  securityDepositAmount : String
  contractValue : Option String
  paymentModeText : Option String
  ijariId : Option String
  contractDate : Option JsDate
  propertyUsage : Option PropertyUsage
  ownerNameSnapshot : Option String
  landlordNameSnapshot : Option String
  tenantNameSnapshot : Option String
  tenantEmailSnapshot : Option String
  landlordEmailSnapshot : Option String
  tenantPhoneSnapshot : Option String
  landlordPhoneSnapshot : Option String
  buildingNameSnapshot : Option String
  locationCommunity : Option String
  propertySizeSqm : Option String
  propertyTypeLabel : Option String
  propertyNumber : Option String
  premisesNoDewa : Option String
  plotNo : Option String
  notes : Option String
  additionalTerms : Option (List String)

structure UpdateContractDto where
  contractPeriodFrom : Field JsDate
  contractPeriodTo : Field JsDate
  annualRent : Field String
  paymentFrequency : Field PaymentFrequency
  numberOfCheques : Field ℚ
  securityDepositAmount : Field String
  contractValue : Field String
  paymentModeText : Field String
  ijariId : Field String
  contractDate : Field JsDate
  propertyUsage : Field PropertyUsage
  ownerNameSnapshot : Field String
  landlordNameSnapshot : Field String
  tenantNameSnapshot : Field String
  tenantEmailSnapshot : Field String
  landlordEmailSnapshot : Field String
  tenantPhoneSnapshot : Field String
  landlordPhoneSnapshot : Field String
  buildingNameSnapshot : Field String
  locationCommunity : Field String
  propertySizeSqm : Field String
  propertyTypeLabel : Field String
  propertyNumber : Field String
  premisesNoDewa : Field String
  plotNo : Field String
  notes : Field String

/-- Validation keeps `null` out of the fields that are an `Option` here. -/
structure UpdateLeaseDto where
  leaseStartDate : Option JsDate
  leaseEndDate : Option JsDate
  tenancyRegistrationExpiry : Field JsDate
  noticeGivenDate : Field JsDate
  annualRent : Option String
  paymentFrequency : Option PaymentFrequency
  numberOfCheques : Field ℚ
  securityDepositAmount : Option String
  internetTvProvider : Field String
  serviceChargesPaidBy : Field ServiceChargesPaidBy
  vatApplicable : Field Bool
  notes : Field String
  firstPaymentReceived : Field YesNo
  firstPaymentAmount : Field String
  depositReceived : Field YesNo
  depositReceivedAmount : Field String

structure CreateMoveRequestDto where
  requestedMoveAt : JsDate
  notes : Option String

structure RejectMoveRequestDto where
  rejectionReason : Option String

structure MoveInResidentDto where
  name : String
  email : String
  phone : Option String

structure MoveInResidentProfileDto where
  emiratesIdNumber : Option String
  passportNumber : Option String
  nationality : Option String
  dateOfBirth : Option JsDate
  currentAddress : Option String
  emergencyContactName : Option String
  emergencyContactPhone : Option String

inductive LeaseDocumentType
  | EMIRATES_ID_COPY | PASSPORT_COPY | SIGNED_TENANCY_CONTRACT | CHEQUE_COPY | OTHER
deriving DecidableEq, Repr

structure MoveInDocumentDto where
  type : LeaseDocumentType
  fileName : String
  mimeType : String
  sizeBytes : ℚ
  url : String

structure MoveInDto where
  unitId : Id
  residentUserId : Option Id
  resident : Option MoveInResidentDto
  residentProfile : Option MoveInResidentProfileDto
  leaseStartDate : JsDate
  leaseEndDate : JsDate
  tenancyRegistrationExpiry : Option JsDate
  noticeGivenDate : Option JsDate
  annualRent : String
  paymentFrequency : PaymentFrequency
  numberOfCheques : Option ℚ
  securityDepositAmount : String
  internetTvProvider : Option String
  serviceChargesPaidBy : Option ServiceChargesPaidBy
  vatApplicable : Option Bool
  notes : Option String
  firstPaymentReceived : Option YesNo
  firstPaymentAmount : Option String
  depositReceived : Option YesNo
  depositReceivedAmount : Option String
  occupantNames : Option (List String)
  parkingSlotIds : Option (List Id)
  vehiclePlateNumbers : Option (List String)
  accessCardNumbers : Option (List String)
  parkingStickerNumbers : Option (List String)
  documents : Option (List MoveInDocumentDto)

structure MoveOutDto where
  actualMoveOutDate : JsDate
  forwardingPhone : Option String
  forwardingEmail : Option String
  forwardingAddress : Option String
  finalElectricityReading : Option String
  finalWaterReading : Option String
  finalGasReading : Option String
  wallsCondition : Option ConditionStatus
  floorCondition : Option ConditionStatus
  kitchenCondition : Option ConditionStatus
  bathroomCondition : Option ConditionStatus
  doorsLocksCondition : Option ConditionStatus
  keysReturned : Option YesNo
  accessCardsReturnedCount : Option ℚ
  parkingStickersReturned : Option YesNo
  damageDescription : Option String
  damageCharges : Option String
  pendingRent : Option String
  pendingUtilities : Option String
  pendingServiceFines : Option String
  totalDeductions : Field String
  netRefund : Field String
  inspectionDoneBy : Option String
  inspectionDate : Option JsDate
  managerApproval : Option ApprovalStatus
  refundMethod : Option RefundMethod
  refundDate : Option JsDate
  adminNotes : Option String
  markAllAccessCardsReturned : Option Bool
  markAllParkingStickersReturned : Option Bool

/-- `{ actualMoveOutDate }`, as the contract service calls `moveOut`. -/
def MoveOutDto.at (actualMoveOutDate : Date) : MoveOutDto where
  actualMoveOutDate := some actualMoveOutDate
  forwardingPhone := none
  forwardingEmail := none
  forwardingAddress := none
  finalElectricityReading := none
  finalWaterReading := none
  finalGasReading := none
  wallsCondition := none
  floorCondition := none
  kitchenCondition := none
  bathroomCondition := none
  doorsLocksCondition := none
  keysReturned := none
  accessCardsReturnedCount := none
  parkingStickersReturned := none
  damageDescription := none
  damageCharges := none
  pendingRent := none
  pendingUtilities := none
  pendingServiceFines := none
  totalDeductions := .undefined
  netRefund := .undefined
  inspectionDoneBy := none
  inspectionDate := none
  managerApproval := none
  refundMethod := none
  refundDate := none
  adminNotes := none
  markAllAccessCardsReturned := none
  markAllParkingStickersReturned := none

end Towerdesk.Leases
