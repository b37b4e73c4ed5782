import Towerdesk.Lib.Table
import Towerdesk.Maintenance.Policy

/-!
# The request row

A maintenance request with all its columns, its reading by the policy, and the
guards that look at nothing else.
-/

namespace Towerdesk.Maintenance

structure MaintenanceRequest where
  id : Id
  orgId : Id
  buildingId : Id
  unitId : Option Id
  occupancyIdAtCreation : Option Id
  leaseIdAtCreation : Option Id
  createdByUserId : Id
  title : String
  description : Option String
  status : MaintenanceRequestStatus
  type : Option MaintenanceRequestType
  priority : Option MaintenanceRequestPriority
  assignedToUserId : Option Id
  serviceProviderId : Option Id
  serviceProviderAssignedUserId : Option Id
  estimateStatus : EstimateStatus
  estimateRequestedAt : Option Date
  estimateRequestedByUserId : Option Id
  estimateDueAt : Option Date
  estimateReminderSentAt : Option Date
  estimateSubmittedAt : Option Date
  estimateSubmittedByUserId : Option Id
  ownerApprovalStatus : OwnerApprovalStatus
  ownerApprovalRequestedAt : Option Date
  ownerApprovalRequestedByUserId : Option Id
  ownerApprovalDeadlineAt : Option Date
  ownerApprovalDecidedAt : Option Date
  ownerApprovalDecidedByOwnerUserId : Option Id
  ownerApprovalReason : Option String
  approvalRequiredReason : Option String
  estimatedAmount : Option ℚ
  estimatedCurrency : Option String
  isEmergency : Bool
  emergencySignals : List EmergencySignal
  isLikeForLike : Option Bool
  isUpgrade : Option Bool
  isMajorReplacement : Option Bool
  isResponsibilityDisputed : Option Bool
  ownerApprovalDecisionSource : Option OwnerApprovalDecisionSource
  ownerApprovalOverrideReason : Option String
  ownerApprovalOverriddenByUserId : Option Id
  assignedAt : Option Date
  completedAt : Option Date
  canceledAt : Option Date
  createdAt : Date
  updatedAt : Date
deriving DecidableEq

abbrev RequestPatch := Patch MaintenanceRequest.id

namespace MaintenanceRequest

variable (request : MaintenanceRequest)

def policyInput : MaintenanceRequestPolicyInput where
  status := request.status
  ownerApprovalStatus := request.ownerApprovalStatus
  estimateStatus := request.estimateStatus
  estimatedAmount := request.estimatedAmount
  isEmergency := request.isEmergency
  emergencySignals := request.emergencySignals
  isLikeForLike := request.isLikeForLike
  isUpgrade := request.isUpgrade
  isMajorReplacement := request.isMajorReplacement
  isResponsibilityDisputed := request.isResponsibilityDisputed
  createdAt := request.createdAt
  title := request.title
  description := request.description
  type := request.type
  priority := request.priority

def route : PolicyRoute := getMaintenanceRequestPolicyRoute request.policyInput

def assertExecutionUnlocked : Result Unit := do
  Outcome.throwIf (OWNER_APPROVAL_BLOCKING_STATUSES.contains request.ownerApprovalStatus)
    (.conflict "Request is blocked pending owner approval")
  Outcome.throwIf (request.estimateStatus = .REQUESTED)
    (.conflict "Request is blocked pending estimate submission")
  Outcome.throwIf (request.route = .OWNER_APPROVAL_REQUIRED)
    (.conflict "Request requires owner approval before execution")

def assertRequestOpenForApproval : Result Unit :=
  Outcome.throwIf (request.status = .COMPLETED ∨ request.status = .CANCELED)
    (.conflict "Request is closed")

def assertOpenOrAssigned : Result Unit :=
  Outcome.throwIf (request.status ≠ .OPEN ∧ request.status ≠ .ASSIGNED)
    (.conflict "Request is not open or assigned")

/-- What `assertExecutionUnlocked` accepts. -/
structure ExecutionUnlocked : Prop where
  not_pending : request.ownerApprovalStatus ≠ .PENDING
  not_rejected : request.ownerApprovalStatus ≠ .REJECTED
  not_requested : request.estimateStatus ≠ .REQUESTED
  route_ne : request.route ≠ .OWNER_APPROVAL_REQUIRED

variable {request} {u : Unit}

theorem assertExecutionUnlocked_ok :
    request.assertExecutionUnlocked = .ok u ↔ request.ExecutionUnlocked := by
  simp only [assertExecutionUnlocked, Outcome.bind_eq_ok, Outcome.throwIf_eq_ok,
    exists_const, contains_blocking_iff, not_or]
  constructor
  · rintro ⟨⟨hpending, hrejected⟩, hestimate, hroute⟩
    exact ⟨hpending, hrejected, hestimate, hroute⟩
  · rintro ⟨hpending, hrejected, hestimate, hroute⟩
    exact ⟨⟨hpending, hrejected⟩, hestimate, hroute⟩

theorem assertRequestOpenForApproval_ok :
    request.assertRequestOpenForApproval = .ok u ↔ ¬ request.status.IsClosed :=
  Outcome.throwIf_eq_ok

theorem assertOpenOrAssigned_ok :
    request.assertOpenOrAssigned = .ok u ↔ request.status = .OPEN ∨ request.status = .ASSIGNED := by
  rw [assertOpenOrAssigned, Outcome.throwIf_eq_ok]
  tauto

end MaintenanceRequest

end Towerdesk.Maintenance
