import Towerdesk.Leases.Changes

/-!
# A building with two units

The smallest world in which a contract can be drafted, activated and executed: two
units, two residents and a manager who may review and execute move requests.
-/

namespace Towerdesk.Leases

def sceneAccess : AccessTables where
  permissions := ⟨[⟨"review", MOVE_REVIEW_PERMISSION⟩, ⟨"in", MOVE_IN_EXECUTE_PERMISSION⟩,
    ⟨"out", MOVE_OUT_EXECUTE_PERMISSION⟩], by decide⟩
  roleTemplates := ⟨[⟨"managers", some "org", "lease_manager", false, .ORG⟩], by decide⟩
  rolePermissions := ⟨[⟨"managers", "review"⟩, ⟨"managers", "in"⟩, ⟨"managers", "out"⟩], by decide⟩
  userAccessAssignments := ⟨[⟨"managing", "manager", "managers", .ORG, none⟩], by decide⟩
  userPermissions := .empty _

def sceneDirectory : Directory where
  buildings := ⟨[⟨"building", "org", "Tower", "City"⟩], by decide⟩
  units := ⟨[⟨"101", "building", "101", none, none⟩, ⟨"102", "building", "102", none, none⟩],
    by decide⟩
  users := ⟨[⟨"manager", "manager@example.com", none, none, some "org", true⟩,
    ⟨"ann", "ann@example.com", none, none, some "org", true⟩,
    ⟨"ben", "ben@example.com", none, none, some "org", true⟩], by decide⟩
  serviceProviders := .empty _
  serviceProviderBuildings := .empty _
  serviceProviderUsers := .empty _
  serviceProviderAccessGrants := .empty _
  owners := .empty _
  ownerAccessGrants := .empty _
  unitOwnerships := .empty _

def Db.start (directory : Directory) : Db where
  directory
  leases := ⟨.empty _, by decide⟩
  occupancies := ⟨.empty _, by decide⟩
  moveInRequests := ⟨.empty _, by decide⟩
  moveOutRequests := ⟨.empty _, by decide⟩
  additionalTerms := []
  history := []
  activity := []
  accessCards := .empty _
  parkingStickers := .empty _
  parkingSlots := .empty _
  parkingAllocations := .empty _
  vehicles := .empty _
  occupants := []
  documents := []
  residentProfiles := .empty _
  notifications := []

/-- A call at an instant whose fresh rows are all called `name`. -/
def at_ (now : Date) (name : Id) (op : Operation) : Env × Operation :=
  ({ access := sceneAccess
     now
     ids := ⟨name, name, name, name, fun _ => name⟩
     parseDecimal := fun _ => some 1000
     toLowerCase := id }, op)

def manager : Option AuthenticatedUser := some ⟨"manager", some "org"⟩

def draftForm (unitId residentUserId : Id) : CreateContractDto where
  unitId
  residentUserId
  contractPeriodFrom := some 0
  contractPeriodTo := some 1000
  annualRent := "1000"
  paymentFrequency := .ANNUAL
  numberOfCheques := none
  securityDepositAmount := "1000"
  contractValue := none
  paymentModeText := none
  ijariId := none
  contractDate := none
  propertyUsage := none
  ownerNameSnapshot := none
  landlordNameSnapshot := none
  tenantNameSnapshot := none
  tenantEmailSnapshot := none
  landlordEmailSnapshot := none
  tenantPhoneSnapshot := none
  landlordPhoneSnapshot := none
  buildingNameSnapshot := none
  locationCommunity := none
  propertySizeSqm := none
  propertyTypeLabel := none
  propertyNumber := none
  premisesNoDewa := none
  plotNo := none
  notes := none
  additionalTerms := none

def managerDrafts (now : Date) (contractId unitId residentUserId : Id) : Env × Operation :=
  at_ now contractId (.createDraftContract manager "building" (draftForm unitId residentUserId))

def managerDraftsEjari (now : Date) (contractId unitId residentUserId ijariId : Id) :
    Env × Operation :=
  at_ now contractId (.createDraftContract manager "building"
    { draftForm unitId residentUserId with ijariId := some ijariId })

def managerActivates (now : Date) (contractId : Id) : Env × Operation :=
  at_ now "unused" (.activateContract manager contractId)

def managerCancels (now : Date) (contractId : Id) : Env × Operation :=
  at_ now "unused" (.cancelContract manager contractId none)

def residentAsksIn (now : Date) (requestId contractId residentUserId : Id) : Env × Operation :=
  at_ now requestId
    (.createResidentMoveInRequest (some ⟨residentUserId, some "org"⟩) contractId ⟨some now, none⟩)

def managerApprovesIn (now : Date) (requestId : Id) : Env × Operation :=
  at_ now "unused" (.approveMoveInRequest manager requestId)

def managerMovesIn (now : Date) (occupancyId contractId : Id) : Env × Operation :=
  at_ now occupancyId (.executeApprovedMoveIn manager contractId)

def residentAsksOut (now : Date) (requestId contractId residentUserId : Id) : Env × Operation :=
  at_ now requestId
    (.createResidentMoveOutRequest (some ⟨residentUserId, some "org"⟩) contractId ⟨some now, none⟩)

def managerApprovesOut (now : Date) (requestId : Id) : Env × Operation :=
  at_ now "unused" (.approveMoveOutRequest manager requestId)

def managerMovesOut (now : Date) (contractId : Id) : Env × Operation :=
  at_ now "unused" (.moveOut manager "building" contractId (.at now))

def frequencyForm (paymentFrequency : PaymentFrequency) : UpdateLeaseDto where
  leaseStartDate := none
  leaseEndDate := none
  tenancyRegistrationExpiry := .undefined
  noticeGivenDate := .undefined
  annualRent := none
  paymentFrequency := some paymentFrequency
  numberOfCheques := .undefined
  securityDepositAmount := none
  internetTvProvider := .undefined
  serviceChargesPaidBy := .undefined
  vatApplicable := .undefined
  notes := .undefined
  firstPaymentReceived := .undefined
  firstPaymentAmount := .undefined
  depositReceived := .undefined
  depositReceivedAmount := .undefined

def managerEditsLease (now : Date) (leaseId : Id) (dto : UpdateLeaseDto) : Env × Operation :=
  at_ now "unused" (.updateLease manager leaseId dto)

def moveInForm (unitId residentUserId : Id) (leaseStartDate leaseEndDate : Date) : MoveInDto where
  unitId
  residentUserId := some residentUserId
  resident := none
  residentProfile := none
  leaseStartDate := some leaseStartDate
  leaseEndDate := some leaseEndDate
  tenancyRegistrationExpiry := none
  noticeGivenDate := none
  annualRent := "1000"
  paymentFrequency := .ANNUAL
  numberOfCheques := none
  securityDepositAmount := "1000"
  internetTvProvider := none
  serviceChargesPaidBy := none
  vatApplicable := none
  notes := none
  firstPaymentReceived := none
  firstPaymentAmount := none
  depositReceived := none
  depositReceivedAmount := none
  occupantNames := none
  parkingSlotIds := none
  vehiclePlateNumbers := none
  accessCardNumbers := none
  parkingStickerNumbers := none
  documents := none

def managerMovesInDirectly (now : Date) (leaseId unitId residentUserId : Id)
    (leaseStartDate leaseEndDate : Date) : Env × Operation :=
  at_ now leaseId
    (.moveIn manager "building" (moveInForm unitId residentUserId leaseStartDate leaseEndDate))

def occupiedContract : List (Env × Operation) :=
  [managerDrafts 1 "contract" "101" "ann", managerActivates 2 "contract",
    residentAsksIn 3 "request" "contract" "ann", managerApprovesIn 4 "request",
    managerMovesIn 5 "occupancy" "contract"]

end Towerdesk.Leases
