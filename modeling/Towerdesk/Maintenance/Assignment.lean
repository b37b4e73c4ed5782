import Towerdesk.Maintenance.Entry

/-!
# Assignment and execution

The operations that hand a request to somebody and drive the work: assignment to
staff, to a provider, to a provider's worker from either portal, the estimate
request, taking the provider off again, and the two status updates. All but the
estimate request pass the execution gate.
-/

namespace Towerdesk.Maintenance

section Data

variable (now : Date)

def assignRequestData (staffUserId : Id) : RequestPatch where
  apply r := { r with
    assignedToUserId := some staffUserId
    serviceProviderId := none
    serviceProviderAssignedUserId := none
    assignedAt := some now
    status := .ASSIGNED }
  key_apply _ := rfl

def assignProviderData (providerId : Id) : RequestPatch where
  apply r := { r with
    assignedToUserId := none
    serviceProviderId := some providerId
    serviceProviderAssignedUserId := none
    assignedAt := some now
    status := .ASSIGNED }
  key_apply _ := rfl

def requestEstimateData (providerId userId : Id) (estimateDueAt : Date) : RequestPatch where
  apply r := { r with
    assignedToUserId := none
    serviceProviderId := some providerId
    serviceProviderAssignedUserId := none
    estimateStatus := .REQUESTED
    estimateRequestedAt := some now
    estimateRequestedByUserId := some userId
    estimateDueAt := some estimateDueAt
    estimateReminderSentAt := none
    estimateSubmittedAt := none
    estimateSubmittedByUserId := none
    assignedAt := none
    estimatedAmount := none
    estimatedCurrency := none
    ownerApprovalStatus := .NOT_REQUIRED
    ownerApprovalRequestedAt := none
    ownerApprovalRequestedByUserId := none
    ownerApprovalDeadlineAt := none
    ownerApprovalReason := none
    approvalRequiredReason := none
    ownerApprovalDecidedAt := none
    ownerApprovalDecidedByOwnerUserId := none
    ownerApprovalDecisionSource := none
    ownerApprovalOverrideReason := none
    ownerApprovalOverriddenByUserId := none
    status := .OPEN }
  key_apply _ := rfl

/-- `assignedAt: request.assignedAt ?? new Date()`, from the request as read. -/
def assignWorkerData (request : MaintenanceRequest) (workerId : Id) : RequestPatch where
  apply r := { r with
    assignedToUserId := none
    serviceProviderAssignedUserId := some workerId
    assignedAt := request.assignedAt.getD now
    status := .ASSIGNED }
  key_apply _ := rfl

def unassignData : RequestPatch where
  apply r := { r with
    serviceProviderId := none
    serviceProviderAssignedUserId := none
    assignedAt := none
    status := .OPEN }
  key_apply _ := rfl

def unassignEstimateData : RequestPatch where
  apply r := { r with
    serviceProviderId := none
    serviceProviderAssignedUserId := none
    estimateStatus := .NOT_REQUESTED
    estimateRequestedAt := none
    estimateRequestedByUserId := none
    estimateDueAt := none
    estimateReminderSentAt := none
    estimateSubmittedAt := none
    estimateSubmittedByUserId := none
    estimatedAmount := none
    estimatedCurrency := none
    assignedAt := none
    status := .OPEN }
  key_apply _ := rfl

/-- The completion time is stamped, or else written back as read. -/
def updateStatusData (request : MaintenanceRequest) (status : MaintenanceRequestStatus) :
    RequestPatch where
  apply r := { r with
    status
    completedAt := if status = .COMPLETED then some now else request.completedAt }
  key_apply _ := rfl

end Data

variable (env : Env) (db : Db)

def assignedWrite (request : MaintenanceRequest) (data : RequestPatch) (name : EventName)
    (userId : Id) : Write :=
  .update ⟨request.id, data, [], some ⟨name, toEventRequest env, some (toEventRequest env request),
    userId⟩⟩

section Management

def assertServiceProvider (providerId buildingId : Id) : Result ServiceProvider := do
  let provider ← Outcome.orThrow
    ((env.world.directory.serviceProviders.findUnique providerId).filter (·.isActive))
    (.badRequest "Service provider not found or inactive")
  let _ ← Outcome.orThrow (env.world.findServiceProviderBuildingLink provider.id buildingId)
    (.badRequest "Service provider not linked to building")
  return provider

def assertProviderMember (providerId userId : Id) : Result ServiceProviderUser :=
  Outcome.orThrow
    ((env.world.findServiceProviderUserMembership providerId userId).bind fun (m, user) =>
      if m.isActive ∧ user.any (·.isActive) then some m else none)
    (.badRequest "User is not an active member of the assigned service provider")

def assignRequest (user : Option AuthenticatedUser) (buildingId requestId staffUserId : Id) :
    Result Write := do
  let entry ← enterAsManager env user buildingId "Staff cannot assign requests"
  let request ← findByIdForBuilding db entry.orgId buildingId requestId
  request.assertOpenOrAssigned
  request.assertExecutionUnlocked
  let staffUser ← Outcome.orThrow
    ((env.world.directory.users.findUnique staffUserId).filter fun u =>
      u.isActive ∧ u.orgId = some entry.orgId)
    (.badRequest "Staff user not in org")
  let staffAssignments :=
    env.world.findBuildingScopedAssignmentsForUser buildingId staffUser.id entry.orgId
  Outcome.throwIf
    (¬ staffAssignments.any (World.assignmentHasPermissions · REQUEST_HANDLING_PERMISSIONS))
    (.badRequest "Staff user lacks building-scoped request handling access")
  Outcome.throwIf (staffAssignments = []) (.badRequest "Staff user not assigned to building")
  return assignedWrite env request (assignRequestData env.now staffUser.id) .ASSIGNED entry.userId

def assignProvider (user : Option AuthenticatedUser) (buildingId requestId serviceProviderId : Id) :
    Result Write := do
  let entry ← enterAsManager env user buildingId "Staff cannot assign requests"
  let request ← findByIdForBuilding db entry.orgId buildingId requestId
  request.assertOpenOrAssigned
  request.assertExecutionUnlocked
  let provider ← assertServiceProvider env serviceProviderId buildingId
  return assignedWrite env request (assignProviderData env.now provider.id) .ASSIGNED entry.userId

def buildEstimateDueAt : Date := env.now + env.estimateTtlHours * 60 * 60 * 1000

def requestEstimateFromProvider (user : Option AuthenticatedUser)
    (buildingId requestId serviceProviderId : Id) : Result Write := do
  let entry ← enterAsManager env user buildingId "Staff cannot request estimates"
  let request ← findByIdForBuilding db entry.orgId buildingId requestId
  request.assertOpenOrAssigned
  Outcome.throwIf (request.ownerApprovalStatus = .PENDING)
    (.conflict "Estimate request is not allowed while owner approval is pending")
  Outcome.throwIf (request.route ≠ .NEEDS_ESTIMATE ∧ request.ownerApprovalStatus ≠ .REJECTED)
    (.conflict "Estimate request is only allowed while the request is awaiting an estimate")
  let provider ← assertServiceProvider env serviceProviderId buildingId
  let userId ← env.world.directory.connectUser entry.userId
  return assignedWrite env request
    (requestEstimateData env.now provider.id userId (buildEstimateDueAt env)) .ASSIGNED entry.userId

def assignProviderWorker (user : Option AuthenticatedUser) (buildingId requestId workerUserId : Id) :
    Result Write := do
  let entry ← enterAsManager env user buildingId "Staff cannot assign requests"
  let request ← findByIdForBuilding db entry.orgId buildingId requestId
  request.assertOpenOrAssigned
  request.assertExecutionUnlocked
  let providerId ← Outcome.orThrow (truthy request.serviceProviderId)
    (.conflict "Request must be assigned to a service provider first")
  Outcome.throwIf
    (¬ (env.world.directory.serviceProviders.findUnique providerId).any (·.isActive))
    (.badRequest "Assigned service provider is no longer active")
  let membership ← assertProviderMember env providerId workerUserId
  return assignedWrite env request (assignWorkerData env.now request membership.userId) .ASSIGNED
    entry.userId

def unassignProvider (user : Option AuthenticatedUser) (buildingId requestId : Id) :
    Result Write := do
  let entry ← enterAsManager env user buildingId "Staff cannot assign requests"
  let request ← findByIdForBuilding db entry.orgId buildingId requestId
  request.assertOpenOrAssigned
  let _ ← Outcome.orThrow (truthy request.serviceProviderId)
    (.conflict "Request is not assigned to a service provider")
  request.assertExecutionUnlocked
  let data := if request.estimateStatus = .REQUESTED then unassignEstimateData else unassignData
  return assignedWrite env request data .STATUS_CHANGED entry.userId

def assertTransition (request : MaintenanceRequest) (status : MaintenanceRequestStatus) :
    Result Unit :=
  Outcome.throwIf (status ∉ MAINTENANCE_STATUS_TRANSITIONS request.status)
    (.conflict "Invalid status transition")

def updateRequestStatus (user : Option AuthenticatedUser) (buildingId requestId : Id)
    (status : MaintenanceRequestStatus) : Result Write := do
  let entry ← enterBuilding env user buildingId
  let request ← findByIdForBuilding db entry.orgId buildingId requestId
  assertTransition request status
  entry.assertOwnAssignment request
  request.assertExecutionUnlocked
  return .update ⟨request.id, updateStatusData env.now request status, [],
    some ⟨.STATUS_CHANGED, toEventRequest env, none, entry.userId⟩⟩

end Management

section Providers

def updateProviderRequestStatus (user : Option AuthenticatedUser) (requestId : Id)
    (status : MaintenanceRequestStatus) : Result Write := do
  let entry ← enterProvider env user
  let request ← findByIdForServiceProviders db entry.accessContext.providerIds requestId
  entry.assertProviderRequestWriteAccess request
  assertTransition request status
  request.assertExecutionUnlocked
  return assignedWrite env request (updateStatusData env.now request status) .STATUS_CHANGED
    entry.userId

def assignProviderWorkerFromProvider (user : Option AuthenticatedUser)
    (requestId workerUserId : Id) : Result Write := do
  let entry ← enterProvider env user
  let request ← findByIdForServiceProviders db entry.accessContext.providerIds requestId
  let providerId ← Outcome.orThrow (truthy request.serviceProviderId)
    (.conflict "Request must be assigned to a service provider first")
  Outcome.throwIf (providerId ∉ entry.accessContext.adminProviderIds) (.forbidden "Forbidden")
  request.assertOpenOrAssigned
  request.assertExecutionUnlocked
  let membership ← assertProviderMember env providerId workerUserId
  return assignedWrite env request (assignWorkerData env.now request membership.userId) .ASSIGNED
    entry.userId

end Providers

section Specs

variable {env db} {user : Option AuthenticatedUser} {buildingId requestId : Id} {w : Write}

theorem assignRequest_ok {staffUserId : Id}
    (h : assignRequest env db user buildingId requestId staffUserId = .ok w) :
    ∃ request ∈ db.maintenanceRequests, request.id = requestId ∧
      (request.status = .OPEN ∨ request.status = .ASSIGNED) ∧ request.ExecutionUnlocked ∧
      ∃ staffId userId,
        w = assignedWrite env request (assignRequestData env.now staffId) .ASSIGNED userId := by
  simp only [assignRequest, Outcome.bind_eq_ok, Outcome.throwIf_eq_ok, exists_const,
    MaintenanceRequest.assertOpenOrAssigned_ok, MaintenanceRequest.assertExecutionUnlocked_ok,
    Outcome.pure_eq_ok] at h
  obtain ⟨entry, -, request, hload, hopen, hunlocked, staff, -, -, -, rfl⟩ := h
  obtain ⟨hmem, hid⟩ := findByIdForBuilding_ok hload
  exact ⟨request, hmem, hid, hopen, hunlocked, _, _, rfl⟩

theorem assignProvider_ok {serviceProviderId : Id}
    (h : assignProvider env db user buildingId requestId serviceProviderId = .ok w) :
    ∃ request ∈ db.maintenanceRequests, request.id = requestId ∧
      (request.status = .OPEN ∨ request.status = .ASSIGNED) ∧ request.ExecutionUnlocked ∧
      ∃ providerId userId,
        w = assignedWrite env request (assignProviderData env.now providerId) .ASSIGNED userId := by
  simp only [assignProvider, Outcome.bind_eq_ok, exists_const,
    MaintenanceRequest.assertOpenOrAssigned_ok, MaintenanceRequest.assertExecutionUnlocked_ok,
    Outcome.pure_eq_ok] at h
  obtain ⟨entry, -, request, hload, hopen, hunlocked, provider, -, rfl⟩ := h
  obtain ⟨hmem, hid⟩ := findByIdForBuilding_ok hload
  exact ⟨request, hmem, hid, hopen, hunlocked, _, _, rfl⟩

theorem requestEstimateFromProvider_ok {serviceProviderId : Id}
    (h : requestEstimateFromProvider env db user buildingId requestId serviceProviderId = .ok w) :
    ∃ request ∈ db.maintenanceRequests, request.id = requestId ∧
      (request.status = .OPEN ∨ request.status = .ASSIGNED) ∧
      request.ownerApprovalStatus ≠ .PENDING ∧
      (request.route = .NEEDS_ESTIMATE ∨ request.ownerApprovalStatus = .REJECTED) ∧
      ∃ providerId userId actorUserId,
        w = assignedWrite env request
          (requestEstimateData env.now providerId userId (buildEstimateDueAt env)) .ASSIGNED
          actorUserId := by
  simp only [requestEstimateFromProvider, Outcome.bind_eq_ok, Outcome.throwIf_eq_ok, exists_const,
    MaintenanceRequest.assertOpenOrAssigned_ok, Outcome.pure_eq_ok] at h
  obtain ⟨entry, -, request, hload, hopen, hpending, hroute, provider, -, userId, -, rfl⟩ := h
  obtain ⟨hmem, hid⟩ := findByIdForBuilding_ok hload
  exact ⟨request, hmem, hid, hopen, hpending, by tauto, _, _, _, rfl⟩

theorem assignProviderWorker_ok {workerUserId : Id}
    (h : assignProviderWorker env db user buildingId requestId workerUserId = .ok w) :
    ∃ request ∈ db.maintenanceRequests, request.id = requestId ∧
      (request.status = .OPEN ∨ request.status = .ASSIGNED) ∧ request.ExecutionUnlocked ∧
      request.serviceProviderId ≠ none ∧ ∃ workerId userId,
        w = assignedWrite env request (assignWorkerData env.now request workerId) .ASSIGNED
          userId := by
  simp only [assignProviderWorker, Outcome.bind_eq_ok, Outcome.throwIf_eq_ok, Outcome.orThrow_eq_ok,
    exists_const, truthy_eq_some, MaintenanceRequest.assertOpenOrAssigned_ok,
    MaintenanceRequest.assertExecutionUnlocked_ok, Outcome.pure_eq_ok] at h
  obtain ⟨entry, -, request, hload, hopen, hunlocked, providerId, ⟨hprovider, -⟩, -, m, -, rfl⟩ := h
  obtain ⟨hmem, hid⟩ := findByIdForBuilding_ok hload
  exact ⟨request, hmem, hid, hopen, hunlocked, by simp [hprovider], _, _, rfl⟩

theorem assignProviderWorkerFromProvider_ok {workerUserId : Id}
    (h : assignProviderWorkerFromProvider env db user requestId workerUserId = .ok w) :
    ∃ request ∈ db.maintenanceRequests, request.id = requestId ∧
      (request.status = .OPEN ∨ request.status = .ASSIGNED) ∧ request.ExecutionUnlocked ∧
      request.serviceProviderId ≠ none ∧ ∃ workerId userId,
        w = assignedWrite env request (assignWorkerData env.now request workerId) .ASSIGNED
          userId := by
  simp only [assignProviderWorkerFromProvider, Outcome.bind_eq_ok, Outcome.throwIf_eq_ok,
    Outcome.orThrow_eq_ok, exists_const, truthy_eq_some,
    MaintenanceRequest.assertOpenOrAssigned_ok, MaintenanceRequest.assertExecutionUnlocked_ok,
    Outcome.pure_eq_ok] at h
  obtain ⟨entry, -, request, hload, providerId, ⟨hprovider, -⟩, -, hopen, hunlocked, m, -, rfl⟩ := h
  obtain ⟨hmem, hid, -⟩ := findByIdForServiceProviders_ok hload
  exact ⟨request, hmem, hid, hopen, hunlocked, by simp [hprovider], _, _, rfl⟩

/-- The branch that also clears the estimate is never reached: the execution gate has
already refused a request whose estimate is still asked for. -/
theorem unassignProvider_ok (h : unassignProvider env db user buildingId requestId = .ok w) :
    ∃ request ∈ db.maintenanceRequests, request.id = requestId ∧
      (request.status = .OPEN ∨ request.status = .ASSIGNED) ∧ request.ExecutionUnlocked ∧
      request.serviceProviderId ≠ none ∧ ∃ userId,
        w = assignedWrite env request unassignData .STATUS_CHANGED userId := by
  simp only [unassignProvider, Outcome.bind_eq_ok, Outcome.orThrow_eq_ok, exists_const,
    truthy_eq_some, MaintenanceRequest.assertOpenOrAssigned_ok,
    MaintenanceRequest.assertExecutionUnlocked_ok, Outcome.pure_eq_ok] at h
  obtain ⟨entry, -, request, hload, hopen, providerId, ⟨hprovider, -⟩, hunlocked, rfl⟩ := h
  obtain ⟨hmem, hid⟩ := findByIdForBuilding_ok hload
  refine ⟨request, hmem, hid, hopen, hunlocked, by simp [hprovider], entry.userId, ?_⟩
  rw [if_neg hunlocked.not_requested]

theorem updateRequestStatus_ok {status : MaintenanceRequestStatus}
    (h : updateRequestStatus env db user buildingId requestId status = .ok w) :
    ∃ request ∈ db.maintenanceRequests, request.id = requestId ∧
      status ∈ MAINTENANCE_STATUS_TRANSITIONS request.status ∧ request.ExecutionUnlocked ∧
      ∃ event, w = .update ⟨request.id, updateStatusData env.now request status, [], event⟩ := by
  simp only [updateRequestStatus, assertTransition, Outcome.bind_eq_ok, Outcome.throwIf_eq_ok,
    exists_const, not_not, MaintenanceRequest.assertExecutionUnlocked_ok, Outcome.pure_eq_ok] at h
  obtain ⟨entry, -, request, hload, htransition, -, -, hunlocked, rfl⟩ := h
  obtain ⟨hmem, hid⟩ := findByIdForBuilding_ok hload
  exact ⟨request, hmem, hid, htransition, hunlocked, _, rfl⟩

theorem updateProviderRequestStatus_ok {status : MaintenanceRequestStatus}
    (h : updateProviderRequestStatus env db user requestId status = .ok w) :
    ∃ request ∈ db.maintenanceRequests, request.id = requestId ∧
      status ∈ MAINTENANCE_STATUS_TRANSITIONS request.status ∧ request.ExecutionUnlocked ∧
      ∃ event, w = .update ⟨request.id, updateStatusData env.now request status, [], event⟩ := by
  simp only [updateProviderRequestStatus, assertTransition, Outcome.bind_eq_ok,
    Outcome.throwIf_eq_ok, exists_const, not_not, MaintenanceRequest.assertExecutionUnlocked_ok,
    Outcome.pure_eq_ok] at h
  obtain ⟨entry, -, request, hload, -, -, htransition, hunlocked, rfl⟩ := h
  obtain ⟨hmem, hid, -⟩ := findByIdForServiceProviders_ok hload
  exact ⟨request, hmem, hid, htransition, hunlocked, _, rfl⟩

end Specs

end Towerdesk.Maintenance
