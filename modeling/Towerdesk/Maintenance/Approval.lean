import Towerdesk.Maintenance.Entry
import Towerdesk.Maintenance.Triage

/-!
# Owner approval and estimates

Triage, estimate submission, asking the owner, the owner's decision and the
management override. Every operation that asks or decides leaves an audit row; the
two that take an approval back as a side effect of an estimate leave none.
-/

namespace Towerdesk.Maintenance

section Data

def requireApprovalData (t : TriageColumns) (approvalRequiredReason : String)
    (requestedAt : Option Date) (requestedByUserId : Option Id) (deadlineAt : Option Date) :
    RequestPatch where
  apply r := { t.set r with
    ownerApprovalStatus := .PENDING
    approvalRequiredReason := some approvalRequiredReason
    ownerApprovalRequestedAt := requestedAt
    ownerApprovalRequestedByUserId := requestedByUserId
    ownerApprovalDeadlineAt := deadlineAt
    ownerApprovalReason := none
    ownerApprovalDecidedAt := none
    ownerApprovalDecidedByOwnerUserId := none
    ownerApprovalDecisionSource := none
    ownerApprovalOverrideReason := none
    ownerApprovalOverriddenByUserId := none }
  key_apply _ := rfl

def approvalRequestedData (now : Date) (userId : Id) : RequestPatch where
  apply r := { r with
    ownerApprovalRequestedAt := some now
    ownerApprovalRequestedByUserId := some userId }
  key_apply _ := rfl

def triageData (t : TriageColumns) : RequestPatch where
  apply := t.set
  key_apply _ := rfl

def estimatePendingData (now : Date) (actorUserId : Id) (t : TriageColumns)
    (requiredReason : String) (requestedAt : Option Date) (requestedByUserId : Option Id)
    (deadlineAt : Option Date) : RequestPatch where
  apply r := { t.set r with
    estimateStatus := .SUBMITTED
    estimateSubmittedAt := some now
    estimateSubmittedByUserId := some actorUserId
    estimateReminderSentAt := none
    ownerApprovalStatus := .PENDING
    approvalRequiredReason := some requiredReason
    ownerApprovalRequestedAt := requestedAt
    ownerApprovalRequestedByUserId := requestedByUserId
    ownerApprovalDeadlineAt := deadlineAt
    ownerApprovalReason := none
    ownerApprovalDecidedAt := none
    ownerApprovalDecidedByOwnerUserId := none
    ownerApprovalDecisionSource := none
    ownerApprovalOverrideReason := none
    ownerApprovalOverriddenByUserId := none }
  key_apply _ := rfl

def estimateSettledData (now : Date) (actorUserId : Id) (t : TriageColumns) : RequestPatch where
  apply r := { t.set r with
    estimateStatus := .SUBMITTED
    estimateSubmittedAt := some now
    estimateSubmittedByUserId := some actorUserId
    estimateReminderSentAt := none
    ownerApprovalStatus := .NOT_REQUIRED
    ownerApprovalRequestedAt := none
    ownerApprovalRequestedByUserId := none
    ownerApprovalDeadlineAt := none
    ownerApprovalReason := none
    approvalRequiredReason := none
    ownerApprovalDecidedAt := none
    ownerApprovalDecidedByOwnerUserId := none
    ownerApprovalDecisionSource := none
    ownerApprovalOverrideReason := none
    ownerApprovalOverriddenByUserId := none }
  key_apply _ := rfl

def overrideData (now : Date) (userId : Id) (decisionSource : OwnerApprovalDecisionSource)
    (overrideReason : String) : RequestPatch where
  apply r := { r with
    ownerApprovalStatus := .APPROVED
    ownerApprovalDecidedAt := some now
    ownerApprovalDecidedByOwnerUserId := none
    ownerApprovalReason := none
    ownerApprovalDecisionSource := some decisionSource
    ownerApprovalOverrideReason := some overrideReason
    ownerApprovalOverriddenByUserId := some userId }
  key_apply _ := rfl

def ownerDecisionData (now : Date) (userId : Id) (status : OwnerApprovalStatus)
    (approvalReason : Option String) : RequestPatch where
  apply r := { r with
    ownerApprovalStatus := status
    ownerApprovalDecidedAt := some now
    ownerApprovalDecidedByOwnerUserId := some userId
    ownerApprovalReason := approvalReason
    ownerApprovalDecisionSource := some .OWNER
    ownerApprovalOverrideReason := none
    ownerApprovalOverriddenByUserId := none }
  key_apply _ := rfl

end Data

section Audits

def requiredAudit (userId : Id) (previousStatus : OwnerApprovalStatus) (reason : String) :
    List AuditData :=
  if previousStatus = .PENDING then []
  else [⟨userId, .REQUIRED, previousStatus, .PENDING, none, some reason⟩]

def requestedAudit (userId : Id) (action : OwnerApprovalAuditAction) (reason : Option String) :
    AuditData :=
  ⟨userId, action, .PENDING, .PENDING, none, reason⟩

end Audits

variable (env : Env) (db : Db)

section Requests

def assertLinkedToUnit (request : MaintenanceRequest) : Result Id :=
  Outcome.orThrow (truthy request.unitId)
    (.conflict "Owner approval requires a request linked to a unit")

def requireOwnerApproval (user : Option AuthenticatedUser) (buildingId requestId : Id)
    (dto : RequireOwnerApprovalDto) : Result Write := do
  let entry ← enterAsManager env user buildingId "Staff cannot request owner approval"
  let request ← findByIdForBuilding db entry.orgId buildingId requestId
  let _ ← assertLinkedToUnit request
  request.assertRequestOpenForApproval
  let triage ← buildPolicyTriageUpdateData dto.toPolicyTriageFieldsDto request none
  let columns ← triage.toColumns
  let deadlineAt ← nextDeadline env dto.ownerApprovalDeadlineAt request
  return .update {
    requestId := request.id
    data := requireApprovalData columns dto.approvalRequiredReason none none deadlineAt
    audits := [⟨entry.userId, .REQUIRED, request.ownerApprovalStatus, .PENDING, none,
      some dto.approvalRequiredReason⟩]
    event := none }

def requestOwnerApprovalNow (user : Option AuthenticatedUser) (buildingId requestId : Id)
    (dto : RequireOwnerApprovalDto) : Result Write := do
  let entry ← enterAsManager env user buildingId "Staff cannot request owner approval"
  let request ← findByIdForBuilding db entry.orgId buildingId requestId
  let _ ← assertLinkedToUnit request
  request.assertRequestOpenForApproval
  Outcome.throwIf
    (request.ownerApprovalStatus = .PENDING ∧ request.ownerApprovalRequestedAt.isSome)
    (.conflict "Owner approval has already been requested; use resend instead")
  let triage ← buildPolicyTriageUpdateData dto.toPolicyTriageFieldsDto request none
  let columns ← triage.toColumns
  let deadlineAt ← nextDeadline env dto.ownerApprovalDeadlineAt request
  let userId ← env.world.directory.connectUser entry.userId
  return .update {
    requestId := request.id
    data := requireApprovalData columns dto.approvalRequiredReason (some env.now) (some userId)
      deadlineAt
    audits := requiredAudit entry.userId request.ownerApprovalStatus dto.approvalRequiredReason ++
      [requestedAudit entry.userId .REQUESTED (some dto.approvalRequiredReason)]
    event := some ⟨.OWNER_APPROVAL_REQUESTED, toEventRequest env, none, entry.userId⟩ }

/-- `markOwnerApprovalRequested`; the closed statuses are not looked at. -/
def markOwnerApprovalRequested (user : Option AuthenticatedUser) (buildingId requestId : Id)
    (action : OwnerApprovalAuditAction) (requiresExistingRequest : Bool) : Result Write := do
  let entry ← enterAsManager env user buildingId "Staff cannot request owner approval"
  let request ← findByIdForBuilding db entry.orgId buildingId requestId
  Outcome.throwIf (request.ownerApprovalStatus ≠ .PENDING)
    (.conflict "Owner approval must be pending before it can be requested")
  Outcome.throwIf (requiresExistingRequest ∧ request.ownerApprovalRequestedAt = none)
    (.conflict "Owner approval has not been requested yet")
  Outcome.throwIf (¬ requiresExistingRequest ∧ request.ownerApprovalRequestedAt.isSome)
    (.conflict "Owner approval has already been requested; use resend instead")
  let userId ← env.world.directory.connectUser entry.userId
  return .update {
    requestId := request.id
    data := approvalRequestedData env.now userId
    audits := [⟨entry.userId, action, request.ownerApprovalStatus, request.ownerApprovalStatus,
      none, request.approvalRequiredReason⟩]
    event := some ⟨if action = .RESENT then .OWNER_APPROVAL_REMINDER else .OWNER_APPROVAL_REQUESTED,
      toEventRequest env, none, entry.userId⟩ }

def requestOwnerApproval (user : Option AuthenticatedUser) (buildingId requestId : Id) :
    Result Write :=
  markOwnerApprovalRequested env db user buildingId requestId .REQUESTED false

def resendOwnerApprovalRequest (user : Option AuthenticatedUser) (buildingId requestId : Id) :
    Result Write :=
  markOwnerApprovalRequested env db user buildingId requestId .RESENT true

def updateRequestPolicyTriage (user : Option AuthenticatedUser) (buildingId requestId : Id)
    (dto : PolicyTriageFieldsDto) : Result Write := do
  ensureRequestPolicyPayload dto
  let entry ← enterAsManager env user buildingId "Staff cannot update request triage"
  let request ← findByIdForBuilding db entry.orgId buildingId requestId
  request.assertRequestOpenForApproval
  let triage ← buildPolicyTriageUpdateData dto request none
  let columns ← triage.toColumns
  return .update ⟨request.id, triageData columns, [], none⟩

end Requests

section Estimates

def estimateRoute (request : MaintenanceRequest) (t : TriageUpdate) : PolicyRoute :=
  getMaintenanceRequestPolicyRoute { t.overlay request.policyInput with
    ownerApprovalStatus := some .NOT_REQUIRED
    estimateStatus := some .SUBMITTED }

def hadRequestedApproval (request : MaintenanceRequest) : Bool :=
  request.ownerApprovalStatus = .PENDING && request.ownerApprovalRequestedAt.isSome

def estimateAudits (request : MaintenanceRequest) (actorUserId : Id)
    (dto : SubmitRequestEstimateDto) : List AuditData :=
  requiredAudit actorUserId request.ownerApprovalStatus (requiredReason dto) ++
    if hadRequestedApproval request then []
    else [requestedAudit actorUserId .REQUESTED (some (requiredReason dto))]

def submitRequestEstimateInTx (request : MaintenanceRequest) (actorUserId : Id)
    (dto : SubmitRequestEstimateDto) : Result Write := do
  request.assertRequestOpenForApproval
  let triage ← buildPolicyTriageUpdateData dto.toPolicyTriageFieldsDto request
    (some (request.estimatedCurrency.getD "AED"))
  let columns ← triage.toColumns
  let userId ← env.world.directory.connectUser actorUserId
  if estimateRoute request triage = .OWNER_APPROVAL_REQUIRED ∧ (truthy request.unitId).isSome then
    let requestedByUserId ← env.world.directory.connectUser
      (if hadRequestedApproval request then
        (truthy request.ownerApprovalRequestedByUserId).getD actorUserId else actorUserId)
    let deadlineAt ← nextDeadline env dto.ownerApprovalDeadlineAt request
    return .update {
      requestId := request.id
      data := estimatePendingData env.now userId columns (requiredReason dto)
        (if hadRequestedApproval request then request.ownerApprovalRequestedAt else some env.now)
        (some requestedByUserId) deadlineAt
      audits := estimateAudits request actorUserId dto
      event := if hadRequestedApproval request then none
        else some ⟨.OWNER_APPROVAL_REQUESTED, toEventRequest env, none, actorUserId⟩ }
  else
    return .update ⟨request.id, estimateSettledData env.now userId columns, [], none⟩

def submitRequestEstimate (user : Option AuthenticatedUser) (buildingId requestId : Id)
    (dto : SubmitRequestEstimateDto) : Result Write := do
  let entry ← enterAsManager env user buildingId "Staff cannot submit request estimates"
  let request ← findByIdForBuilding db entry.orgId buildingId requestId
  submitRequestEstimateInTx env request entry.userId dto

def submitProviderRequestEstimate (user : Option AuthenticatedUser) (requestId : Id)
    (dto : SubmitRequestEstimateDto) : Result Write := do
  let entry ← enterProvider env user
  let request ← findByIdForServiceProviders db entry.accessContext.providerIds requestId
  entry.assertProviderRequestWriteAccess request
  submitRequestEstimateInTx env request entry.userId dto

end Estimates

section Decisions

structure OverrideOwnerApprovalDto where
  decisionSource : OwnerApprovalDecisionSource
  ownerApprovalOverrideReason : String
deriving DecidableEq

def overrideOwnerApproval (user : Option AuthenticatedUser) (buildingId requestId : Id)
    (dto : OverrideOwnerApprovalDto) : Result Write := do
  let orgId ← assertOrgScope user
  let userId ← assertUserId user
  let _ ← env.world.directory.assertBuildingInOrg buildingId orgId
  env.world.assertOverridePermission userId orgId buildingId
  let request ← findByIdForBuilding db orgId buildingId requestId
  Outcome.throwIf (request.ownerApprovalStatus ≠ .PENDING)
    (.conflict "Only pending owner approvals can be overridden")
  Outcome.throwIf
    (dto.decisionSource = .MANAGEMENT_OVERRIDE ∧
      request.ownerApprovalDeadlineAt.all (env.now < ·))
    (.conflict "Urgent override requires an expired owner approval deadline")
  let overriddenByUserId ← env.world.directory.connectUser userId
  return .update {
    requestId := request.id
    data := overrideData env.now overriddenByUserId dto.decisionSource dto.ownerApprovalOverrideReason
    audits := [⟨userId, .OVERRIDDEN, request.ownerApprovalStatus, .APPROVED,
      some dto.decisionSource, some dto.ownerApprovalOverrideReason⟩]
    event := some ⟨.OWNER_REQUEST_OVERRIDDEN, toEventRequest env, none, userId⟩ }

/-- Approving and rejecting differ in the status, the audit action and the event. -/
def decideAccessibleRequest (userId requestId : Id) (status : OwnerApprovalStatus)
    (action : OwnerApprovalAuditAction) (event : EventName) (approvalReason : Option String) :
    Result Write := do
  let (request, unit) ← getAccessibleRequestById env db userId requestId
  Outcome.throwIf (request.ownerApprovalStatus ≠ .PENDING) (.notFound "Request not found")
  let decidedByUserId ← env.world.directory.connectUser userId
  return .update {
    requestId
    data := ownerDecisionData env.now decidedByUserId status approvalReason
    audits := [⟨userId, action, request.ownerApprovalStatus, status, some .OWNER, approvalReason⟩]
    event := some ⟨event, toOwnerEventRequest unit, none, userId⟩ }

def approveAccessibleRequest (userId requestId : Id) (approvalReason : Option String) :
    Result Write :=
  decideAccessibleRequest env db userId requestId .APPROVED .APPROVED .OWNER_REQUEST_APPROVED
    approvalReason

def rejectAccessibleRequest (userId requestId : Id) (approvalReason : String) : Result Write :=
  decideAccessibleRequest env db userId requestId .REJECTED .REJECTED .OWNER_REQUEST_REJECTED
    (some approvalReason)

end Decisions

section Specs

variable {env db} {user : Option AuthenticatedUser} {buildingId requestId : Id} {w : Write}

theorem requireOwnerApproval_ok {dto : RequireOwnerApprovalDto}
    (h : requireOwnerApproval env db user buildingId requestId dto = .ok w) :
    ∃ request ∈ db.maintenanceRequests, request.id = requestId ∧ ¬ request.status.IsClosed ∧
      ∃ columns deadlineAt userId, w = .update {
        requestId := request.id
        data := requireApprovalData columns dto.approvalRequiredReason none none deadlineAt
        audits := [⟨userId, .REQUIRED, request.ownerApprovalStatus, .PENDING, none,
          some dto.approvalRequiredReason⟩]
        event := none } := by
  simp only [requireOwnerApproval, Outcome.bind_eq_ok, exists_const,
    MaintenanceRequest.assertRequestOpenForApproval_ok, Outcome.pure_eq_ok] at h
  obtain ⟨entry, -, request, hload, unitId, -, hopen, triage, -, columns, -, deadlineAt, -, rfl⟩ := h
  obtain ⟨hmem, hid⟩ := findByIdForBuilding_ok hload
  exact ⟨request, hmem, hid, hopen, _, _, _, rfl⟩

theorem requestOwnerApprovalNow_ok {dto : RequireOwnerApprovalDto}
    (h : requestOwnerApprovalNow env db user buildingId requestId dto = .ok w) :
    ∃ request ∈ db.maintenanceRequests, request.id = requestId ∧ ¬ request.status.IsClosed ∧
      ∃ columns deadlineAt userId actorUserId event, w = .update {
        requestId := request.id
        data := requireApprovalData columns dto.approvalRequiredReason (some env.now) (some userId)
          deadlineAt
        audits := requiredAudit actorUserId request.ownerApprovalStatus dto.approvalRequiredReason ++
          [requestedAudit actorUserId .REQUESTED (some dto.approvalRequiredReason)]
        event } := by
  simp only [requestOwnerApprovalNow, Outcome.bind_eq_ok, Outcome.throwIf_eq_ok, exists_const,
    MaintenanceRequest.assertRequestOpenForApproval_ok, Outcome.pure_eq_ok] at h
  obtain ⟨entry, -, request, hload, unitId, -, hopen, -, triage, -, columns, -, deadlineAt, -,
    userId, -, rfl⟩ := h
  obtain ⟨hmem, hid⟩ := findByIdForBuilding_ok hload
  exact ⟨request, hmem, hid, hopen, _, _, _, _, _, rfl⟩

theorem markOwnerApprovalRequested_ok {action : OwnerApprovalAuditAction} {existing : Bool}
    (h : markOwnerApprovalRequested env db user buildingId requestId action existing = .ok w) :
    ∃ request ∈ db.maintenanceRequests, request.id = requestId ∧
      request.ownerApprovalStatus = .PENDING ∧ ∃ userId actorUserId event, w = .update {
        requestId := request.id
        data := approvalRequestedData env.now userId
        audits := [requestedAudit actorUserId action request.approvalRequiredReason]
        event } := by
  simp only [markOwnerApprovalRequested, Outcome.bind_eq_ok, Outcome.throwIf_eq_ok, exists_const,
    Outcome.pure_eq_ok, not_not] at h
  obtain ⟨entry, -, request, hload, hpending, -, -, userId, -, rfl⟩ := h
  obtain ⟨hmem, hid⟩ := findByIdForBuilding_ok hload
  exact ⟨request, hmem, hid, hpending, userId, entry.userId, _, by rw [hpending, requestedAudit]⟩

theorem updateRequestPolicyTriage_ok {dto : PolicyTriageFieldsDto}
    (h : updateRequestPolicyTriage env db user buildingId requestId dto = .ok w) :
    ∃ request ∈ db.maintenanceRequests, request.id = requestId ∧ ¬ request.status.IsClosed ∧
      ∃ columns, triageColumns dto request = .ok columns ∧
        w = .update ⟨request.id, triageData columns, [], none⟩ := by
  simp only [updateRequestPolicyTriage, Outcome.bind_eq_ok, exists_const,
    MaintenanceRequest.assertRequestOpenForApproval_ok, Outcome.pure_eq_ok] at h
  obtain ⟨-, -, entry, -, request, hload, hopen, triage, htriage, columns, hcolumns, rfl⟩ := h
  obtain ⟨hmem, hid⟩ := findByIdForBuilding_ok hload
  exact ⟨request, hmem, hid, hopen, columns, Outcome.bind_eq_ok.mpr ⟨triage, htriage, hcolumns⟩, rfl⟩

/-- The route of the merged facts decides, for a request of a unit, between asking the owner
and settling. -/
theorem submitRequestEstimateInTx_cases {request : MaintenanceRequest} {actorUserId : Id}
    {dto : SubmitRequestEstimateDto}
    (h : submitRequestEstimateInTx env request actorUserId dto = .ok w) :
    ¬ request.status.IsClosed ∧ ∃ triage columns userId,
      buildPolicyTriageUpdateData dto.toPolicyTriageFieldsDto request
        (some (request.estimatedCurrency.getD "AED")) = .ok triage ∧
      triage.toColumns = .ok columns ∧
      ((estimateRoute request triage = .OWNER_APPROVAL_REQUIRED ∧ (truthy request.unitId).isSome ∧
          ∃ requestedByUserId deadlineAt event, w = .update {
            requestId := request.id
            data := estimatePendingData env.now userId columns (requiredReason dto)
              (if hadRequestedApproval request then request.ownerApprovalRequestedAt
                else some env.now) requestedByUserId deadlineAt
            audits := estimateAudits request actorUserId dto
            event }) ∨
        ¬ (estimateRoute request triage = .OWNER_APPROVAL_REQUIRED ∧
            (truthy request.unitId).isSome) ∧
          w = .update ⟨request.id, estimateSettledData env.now userId columns, [], none⟩) := by
  simp only [submitRequestEstimateInTx, Outcome.bind_eq_ok, exists_const,
    MaintenanceRequest.assertRequestOpenForApproval_ok] at h
  obtain ⟨hopen, triage, htriage, columns, hcolumns, userId, -, h⟩ := h
  refine ⟨hopen, triage, columns, userId, htriage, hcolumns, ?_⟩
  by_cases hroute : estimateRoute request triage = .OWNER_APPROVAL_REQUIRED ∧
      (truthy request.unitId).isSome
  · rw [if_pos hroute] at h
    simp only [Outcome.bind_eq_ok, Outcome.pure_eq_ok] at h
    obtain ⟨requestedBy, -, deadlineAt, -, rfl⟩ := h
    exact .inl ⟨hroute.1, hroute.2, _, _, _, rfl⟩
  · rw [if_neg hroute] at h
    exact .inr ⟨hroute, (Outcome.pure_eq_ok.mp h).symm⟩

theorem submitRequestEstimateInTx_ok {request : MaintenanceRequest} {actorUserId : Id}
    {dto : SubmitRequestEstimateDto}
    (h : submitRequestEstimateInTx env request actorUserId dto = .ok w) :
    ¬ request.status.IsClosed ∧ ∃ columns userId,
      (∃ requestedAt requestedByUserId deadlineAt event, w = .update {
        requestId := request.id
        data := estimatePendingData env.now userId columns (requiredReason dto) requestedAt
          requestedByUserId deadlineAt
        audits := estimateAudits request actorUserId dto
        event }) ∨
      w = .update ⟨request.id, estimateSettledData env.now userId columns, [], none⟩ := by
  obtain ⟨hopen, triage, columns, userId, -, -, hw⟩ := submitRequestEstimateInTx_cases h
  obtain ⟨-, -, _, _, _, rfl⟩ | ⟨-, rfl⟩ := hw
  · exact ⟨hopen, columns, userId, .inl ⟨_, _, _, _, rfl⟩⟩
  · exact ⟨hopen, columns, userId, .inr rfl⟩

theorem submitRequestEstimate_ok {dto : SubmitRequestEstimateDto}
    (h : submitRequestEstimate env db user buildingId requestId dto = .ok w) :
    ∃ request ∈ db.maintenanceRequests, request.id = requestId ∧ ∃ actorUserId,
      submitRequestEstimateInTx env request actorUserId dto = .ok w := by
  simp only [submitRequestEstimate, Outcome.bind_eq_ok] at h
  obtain ⟨entry, -, request, hload, h⟩ := h
  obtain ⟨hmem, hid⟩ := findByIdForBuilding_ok hload
  exact ⟨request, hmem, hid, _, h⟩

theorem submitProviderRequestEstimate_ok {dto : SubmitRequestEstimateDto}
    (h : submitProviderRequestEstimate env db user requestId dto = .ok w) :
    ∃ request ∈ db.maintenanceRequests, request.id = requestId ∧ ∃ actorUserId,
      submitRequestEstimateInTx env request actorUserId dto = .ok w := by
  simp only [submitProviderRequestEstimate, Outcome.bind_eq_ok] at h
  obtain ⟨entry, -, request, hload, -, -, h⟩ := h
  obtain ⟨hmem, hid, -⟩ := findByIdForServiceProviders_ok hload
  exact ⟨request, hmem, hid, _, h⟩

theorem overrideOwnerApproval_ok {dto : OverrideOwnerApprovalDto}
    (h : overrideOwnerApproval env db user buildingId requestId dto = .ok w) :
    ∃ request ∈ db.maintenanceRequests, request.id = requestId ∧
      request.ownerApprovalStatus = .PENDING ∧ ∃ userId actorUserId event, w = .update {
        requestId := request.id
        data := overrideData env.now userId dto.decisionSource dto.ownerApprovalOverrideReason
        audits := [⟨actorUserId, .OVERRIDDEN, .PENDING, .APPROVED, some dto.decisionSource,
          some dto.ownerApprovalOverrideReason⟩]
        event } := by
  simp only [overrideOwnerApproval, Outcome.bind_eq_ok, Outcome.throwIf_eq_ok, exists_const,
    Outcome.pure_eq_ok, not_not] at h
  obtain ⟨orgId, -, actorUserId, -, building, -, -, -, request, hload, hpending, -, userId, -, rfl⟩ := h
  obtain ⟨hmem, hid⟩ := findByIdForBuilding_ok hload
  exact ⟨request, hmem, hid, hpending, userId, actorUserId, _, by rw [hpending]⟩

theorem decideAccessibleRequest_ok {userId : Id} {status : OwnerApprovalStatus}
    {action : OwnerApprovalAuditAction} {name : EventName} {approvalReason : Option String}
    (h : decideAccessibleRequest env db userId requestId status action name approvalReason = .ok w) :
    ∃ request ∈ db.maintenanceRequests, request.id = requestId ∧
      request.ownerApprovalStatus = .PENDING ∧ ∃ decidedByUserId event, w = .update {
        requestId := request.id
        data := ownerDecisionData env.now decidedByUserId status approvalReason
        audits := [⟨userId, action, .PENDING, status, some .OWNER, approvalReason⟩]
        event } := by
  simp only [decideAccessibleRequest, Outcome.bind_eq_ok] at h
  obtain ⟨⟨request, unit⟩, hload, h⟩ := h
  simp only [Outcome.throwIf_eq_ok, exists_const, not_not, Outcome.pure_eq_ok] at h
  obtain ⟨hpending, decidedBy, -, rfl⟩ := h
  obtain ⟨hmem, hid⟩ := getAccessibleRequestById_ok hload
  exact ⟨request, hmem, hid, hpending, decidedBy, _, by rw [hpending, hid]⟩

end Specs

end Towerdesk.Maintenance
