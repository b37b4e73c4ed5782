import Towerdesk.Common

/-!
# Maintenance request vocabulary

The enumerations of a maintenance request and the status transitions a status
update may ask for.
-/

namespace Towerdesk.Maintenance

inductive MaintenanceRequestStatus
  | OPEN | ASSIGNED | IN_PROGRESS | COMPLETED | CANCELED
deriving DecidableEq, Repr

inductive OwnerApprovalStatus
  | NOT_REQUIRED | PENDING | APPROVED | REJECTED
deriving DecidableEq, Repr

inductive EstimateStatus
  | NOT_REQUESTED | REQUESTED | SUBMITTED
deriving DecidableEq, Repr

inductive OwnerApprovalDecisionSource
  | OWNER | MANAGEMENT_OVERRIDE | EMERGENCY_OVERRIDE
deriving DecidableEq, Repr

inductive EmergencySignal
  | ACTIVE_LEAK | NO_POWER | SAFETY_RISK | NO_COOLING
deriving DecidableEq, Repr

inductive PolicyRoute
  | DIRECT_ASSIGN | EMERGENCY_DISPATCH | NEEDS_ESTIMATE | OWNER_APPROVAL_REQUIRED
deriving DecidableEq, Repr

inductive RequestQueue
  | NEW | NEEDS_ESTIMATE | AWAITING_ESTIMATE | AWAITING_OWNER | READY_TO_ASSIGN
  | ASSIGNED | IN_PROGRESS | OVERDUE
deriving DecidableEq, Repr

inductive OwnerApprovalAuditAction
  | REQUIRED | REQUESTED | RESENT | APPROVED | REJECTED | OVERRIDDEN
deriving DecidableEq, Repr

inductive CommentAuthorType
  | OWNER | TENANT | STAFF | SYSTEM
deriving DecidableEq, Repr

inductive CommentVisibility
  | SHARED | INTERNAL
deriving DecidableEq, Repr

inductive CommentReadScope
  | BUILDING | PROVIDER
deriving DecidableEq, Repr

inductive MaintenanceRequestType
  | CLEANING | ELECTRICAL | MAINTENANCE | PLUMBING_AC_HEATING | OTHER
deriving DecidableEq, Repr

inductive MaintenanceRequestPriority
  | LOW | NORMAL | HIGH
deriving DecidableEq, Repr

def MAINTENANCE_STATUS_TRANSITIONS : MaintenanceRequestStatus → List MaintenanceRequestStatus
  | .OPEN => [.ASSIGNED]
  | .ASSIGNED => [.IN_PROGRESS]
  | .IN_PROGRESS => [.COMPLETED]
  | .COMPLETED => []
  | .CANCELED => []

def OWNER_APPROVAL_BLOCKING_STATUSES : List OwnerApprovalStatus := [.PENDING, .REJECTED]

theorem contains_blocking_iff {s : OwnerApprovalStatus} :
    OWNER_APPROVAL_BLOCKING_STATUSES.contains s = true ↔ s = .PENDING ∨ s = .REJECTED := by
  cases s <;> simp [OWNER_APPROVAL_BLOCKING_STATUSES]

def MAINTENANCE_REQUEST_OVERDUE_HOURS : ℤ := 72

namespace MaintenanceRequestStatus

def IsClosed (s : MaintenanceRequestStatus) : Prop := s = .COMPLETED ∨ s = .CANCELED

instance (s : MaintenanceRequestStatus) : Decidable s.IsClosed :=
  inferInstanceAs (Decidable (_ ∨ _))

/-- ASSIGNED, IN_PROGRESS and COMPLETED: the work has been handed to somebody. -/
def IsExecution (s : MaintenanceRequestStatus) : Prop :=
  s = .ASSIGNED ∨ s = .IN_PROGRESS ∨ s = .COMPLETED

instance (s : MaintenanceRequestStatus) : Decidable s.IsExecution :=
  inferInstanceAs (Decidable (_ ∨ _ ∨ _))

theorem open_not_isExecution : ¬ IsExecution .OPEN := by decide

theorem canceled_not_isExecution : ¬ IsExecution .CANCELED := by decide

theorem not_isClosed_of_transition {s t : MaintenanceRequestStatus}
    (h : t ∈ MAINTENANCE_STATUS_TRANSITIONS s) : ¬ s.IsClosed := by
  cases s <;> simp_all [MAINTENANCE_STATUS_TRANSITIONS, IsClosed]

end MaintenanceRequestStatus

end Towerdesk.Maintenance
