import Towerdesk.Common

/-!
# Occupancies and leases

The rows a tenancy is made of. A lease is grouped as its forms are: the contract
snapshot, the terms, and the settlement recorded at move-out.
-/

namespace Towerdesk

inductive OccupancyStatus
  | ACTIVE | ENDED
deriving DecidableEq, Repr

structure Occupancy where
  id : Id
  buildingId : Id
  unitId : Id
  residentUserId : Id
  status : OccupancyStatus
  startAt : Date
  endAt : Option Date
  createdAt : Date
  updatedAt : Date
deriving DecidableEq, Repr

inductive LeaseStatus
  | DRAFT | ACTIVE | ENDED | CANCELLED
deriving DecidableEq, Repr

inductive PropertyUsage
  | INDUSTRIAL | COMMERCIAL | RESIDENTIAL
deriving DecidableEq, Repr

inductive PaymentFrequency
  | MONTHLY | QUARTERLY | SEMI_ANNUAL | ANNUAL
deriving DecidableEq, Repr

inductive ServiceChargesPaidBy
  | OWNER | TENANT
deriving DecidableEq, Repr

inductive YesNo
  | YES | NO
deriving DecidableEq, Repr

inductive ConditionStatus
  | OK | REPAIR_NEEDED
deriving DecidableEq, Repr

inductive ApprovalStatus
  | APPROVED | PENDING | REJECTED
deriving DecidableEq, Repr

inductive RefundMethod
  | BANK_TRANSFER | CHEQUE | CASH
deriving DecidableEq, Repr

structure ContractSnapshot where
  ijariId : Option String
  contractDate : Option Date
  propertyUsage : Option PropertyUsage
  ownerNameSnapshot : Option String
  landlordNameSnapshot : Option String
  tenantNameSnapshot : Option String
  tenantEmailSnapshot : Option String
  landlordEmailSnapshot : Option String
  tenantPhoneSnapshot : Option String
  landlordPhoneSnapshot : Option String
  buildingNameSnapshot : Option String
  locationCommunity : Option String
  propertySizeSqm : Option ℚ
  propertyTypeLabel : Option String
  propertyNumber : Option String
  premisesNoDewa : Option String
  plotNo : Option String
  contractValue : Option ℚ
  paymentModeText : Option String
deriving DecidableEq

def ContractSnapshot.blank : ContractSnapshot where
  ijariId := none
  contractDate := none
  propertyUsage := none
  ownerNameSnapshot := none
  landlordNameSnapshot := none
  tenantNameSnapshot := none
  tenantEmailSnapshot := none
  landlordEmailSnapshot := none
  tenantPhoneSnapshot := none
  landlordPhoneSnapshot := none
  buildingNameSnapshot := none
  locationCommunity := none
  propertySizeSqm := none
  propertyTypeLabel := none
  propertyNumber := none
  premisesNoDewa := none
  plotNo := none
  contractValue := none
  paymentModeText := none

structure LeaseTerms where
  leaseStartDate : Date
  leaseEndDate : Date
  tenancyRegistrationExpiry : Option Date
  noticeGivenDate : Option Date
  annualRent : ℚ
  paymentFrequency : PaymentFrequency
  numberOfCheques : Option ℤ
  securityDepositAmount : ℚ
  internetTvProvider : Option String
  serviceChargesPaidBy : Option ServiceChargesPaidBy
  vatApplicable : Option Bool
  notes : Option String
  firstPaymentReceived : Option YesNo
  firstPaymentAmount : Option ℚ
  depositReceived : Option YesNo
  depositReceivedAmount : Option ℚ
deriving DecidableEq

structure MoveOutSettlement where
  actualMoveOutDate : Option Date
  forwardingPhone : Option String
  forwardingEmail : Option String
  forwardingAddress : Option String
  finalElectricityReading : Option String
  finalWaterReading : Option String
  finalGasReading : Option String
  wallsCondition : Option ConditionStatus
  floorCondition : Option ConditionStatus
  kitchenCondition : Option ConditionStatus
  bathroomCondition : Option ConditionStatus
  doorsLocksCondition : Option ConditionStatus
  keysReturned : Option YesNo
  accessCardsReturnedCount : Option ℤ
  parkingStickersReturned : Option YesNo
  damageDescription : Option String
  damageCharges : Option ℚ
  pendingRent : Option ℚ
  pendingUtilities : Option ℚ
  pendingServiceFines : Option ℚ
  totalDeductions : Option ℚ
  netRefund : Option ℚ
  inspectionDoneBy : Option String
  inspectionDate : Option Date
  managerApproval : Option ApprovalStatus
  refundMethod : Option RefundMethod
  refundDate : Option Date
  adminNotes : Option String
deriving DecidableEq

def MoveOutSettlement.blank : MoveOutSettlement where
  actualMoveOutDate := none
  forwardingPhone := none
  forwardingEmail := none
  forwardingAddress := none
  finalElectricityReading := none
  finalWaterReading := none
  finalGasReading := none
  wallsCondition := none
  floorCondition := none
  kitchenCondition := none
  bathroomCondition := none
  doorsLocksCondition := none
  keysReturned := none
  accessCardsReturnedCount := none
  parkingStickersReturned := none
  damageDescription := none
  damageCharges := none
  pendingRent := none
  pendingUtilities := none
  pendingServiceFines := none
  totalDeductions := none
  netRefund := none
  inspectionDoneBy := none
  inspectionDate := none
  managerApproval := none
  refundMethod := none
  refundDate := none
  adminNotes := none

structure Lease extends ContractSnapshot, LeaseTerms, MoveOutSettlement where
  id : Id
  orgId : Id
  buildingId : Id
  unitId : Id
  occupancyId : Option Id
  residentUserId : Option Id
  status : LeaseStatus
  createdAt : Date
  updatedAt : Date
deriving DecidableEq

end Towerdesk
