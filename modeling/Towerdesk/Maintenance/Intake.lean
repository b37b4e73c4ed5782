import Towerdesk.Maintenance.Entry

/-!
# Intake, cancellation, comments and attachments

The operations of the resident portal and the ones next to them that leave the
assignment, estimate and approval columns alone. Comments and attachments are rows
of their own; reading a thread moves the reader's mark.
-/

namespace Towerdesk.Maintenance

inductive RequestPriorityDto
  | LOW | MEDIUM | HIGH
deriving DecidableEq, Repr

structure CreateResidentRequestDto where
  title : String
  description : Field String
  type : Field MaintenanceRequestType
  priority : Field RequestPriorityDto
  attachments : Field (List AttachmentInput)
  isEmergency : Field Bool
  emergencySignals : Field (List EmergencySignal)
deriving DecidableEq

structure UpdateResidentRequestDto where
  title : Field String
  description : Field String
  type : Field MaintenanceRequestType
  priority : Field RequestPriorityDto
  isEmergency : Field Bool
  emergencySignals : Field (List EmergencySignal)
deriving DecidableEq

structure CreateBuildingRequestCommentDto where
  message : String
  visibility : Field CommentVisibility
deriving DecidableEq

def normalizePriority (value : Field RequestPriorityDto) : Option MaintenanceRequestPriority :=
  value.toOption.map fun
    | .LOW => .LOW
    | .MEDIUM => .NORMAL
    | .HIGH => .HIGH

def normalizeType (value : Field MaintenanceRequestType) : Option MaintenanceRequestType :=
  value.toOption

def normalizeEmergencySignals (values : Field (List EmergencySignal)) : List EmergencySignal :=
  (values.toOption.getD []).eraseDups

section Residents

variable (env : Env) (db : Db)

def newRequest (entry : ResidentEntry) (dto : CreateResidentRequestDto) : MaintenanceRequest :=
  let emergencySignals := normalizeEmergencySignals dto.emergencySignals
  { id := env.freshId
    orgId := entry.orgId
    buildingId := entry.occupancy.buildingId
    unitId := some entry.occupancy.unitId
    occupancyIdAtCreation := some entry.occupancy.id
    leaseIdAtCreation :=
      ((env.world.leaseOfOccupancy entry.occupancy.id).filter (·.status = .ACTIVE)).map (·.id)
    createdByUserId := entry.userId
    title := dto.title
    description := dto.description.toOption
    status := .OPEN
    type := normalizeType dto.type
    priority := normalizePriority dto.priority
    assignedToUserId := none
    serviceProviderId := none
    serviceProviderAssignedUserId := none
    estimateStatus := .NOT_REQUESTED
    estimateRequestedAt := none
    estimateRequestedByUserId := none
    estimateDueAt := none
    estimateReminderSentAt := none
    estimateSubmittedAt := none
    estimateSubmittedByUserId := none
    ownerApprovalStatus := .NOT_REQUIRED
    ownerApprovalRequestedAt := none
    ownerApprovalRequestedByUserId := none
    ownerApprovalDeadlineAt := none
    ownerApprovalDecidedAt := none
    ownerApprovalDecidedByOwnerUserId := none
    ownerApprovalReason := none
    approvalRequiredReason := none
    estimatedAmount := none
    estimatedCurrency := none
    isEmergency := dto.isEmergency = .value true || !emergencySignals.isEmpty
    emergencySignals
    isLikeForLike := none
    isUpgrade := none
    isMajorReplacement := none
    isResponsibilityDisputed := none
    ownerApprovalDecisionSource := none
    ownerApprovalOverrideReason := none
    ownerApprovalOverriddenByUserId := none
    assignedAt := none
    completedAt := none
    canceledAt := none
    createdAt := env.now
    updatedAt := env.now }

def newAttachments (requestId orgId userId : Id) (attachments : List AttachmentInput) :
    List Attachment :=
  attachments.map fun a => ⟨a, requestId, orgId, userId⟩

def createResidentRequest (user : Option AuthenticatedUser) (dto : CreateResidentRequestDto) :
    Result Write := do
  let entry ← enterResident env user
  let request := newRequest env entry dto
  return .create request
    (newAttachments request.id entry.orgId entry.userId (dto.attachments.toOption.getD []))
    ⟨.CREATED, toEventRequest env request, none, entry.userId, none, none⟩

/-- The columns `updateResidentRequest` writes; a missing type or priority is left out
of the update. -/
def updateResidentData (dto : UpdateResidentRequestDto) (request : MaintenanceRequest) :
    RequestPatch :=
  let emergencySignals :=
    if dto.emergencySignals.isUndefined then request.emergencySignals
    else normalizeEmergencySignals dto.emergencySignals
  let isEmergency :=
    if dto.isEmergency.isUndefined ∧ dto.emergencySignals.isUndefined then request.isEmergency
    else dto.isEmergency = .value true || !emergencySignals.isEmpty
  let type := if dto.type.isUndefined then request.type else normalizeType dto.type
  let priority := if dto.priority.isUndefined then request.priority else normalizePriority dto.priority
  { apply := fun r => { r with
      title := dto.title.toOption.getD request.title
      description := dto.description.toOption.or request.description
      type := type.or r.type
      priority := priority.or r.priority
      isEmergency
      emergencySignals }
    key_apply := fun _ => rfl }

def updateResidentRequest (user : Option AuthenticatedUser) (requestId : Id)
    (dto : UpdateResidentRequestDto) : Result Write := do
  let entry ← enterResident env user
  let request ← findByIdForCreator db entry.orgId entry.userId requestId
  Outcome.throwIf (request.status ≠ .OPEN) (.conflict "Request cannot be edited")
  Outcome.throwIf
    (dto.title.isUndefined ∧ dto.description.isUndefined ∧ dto.type.isUndefined ∧
      dto.priority.isUndefined ∧ dto.isEmergency.isUndefined ∧ dto.emergencySignals.isUndefined)
    (.badRequest "No changes provided")
  return .update ⟨request.id, updateResidentData dto request, [], none⟩

end Residents

section Cancellation

variable (env : Env) (db : Db)

def canceledData (now : Date) : RequestPatch where
  apply r := { r with status := .CANCELED, canceledAt := some now }
  key_apply _ := rfl

def assertCancelable (request : MaintenanceRequest) : Result Unit :=
  Outcome.throwIf (request.status = .COMPLETED ∨ request.status = .CANCELED)
    (.conflict "Request cannot be canceled")

def cancelWrite (request : MaintenanceRequest) (userId : Id) : Write :=
  .update ⟨request.id, canceledData env.now, [], some ⟨.CANCELED, toEventRequest env, none, userId⟩⟩

def cancelResidentRequest (user : Option AuthenticatedUser) (requestId : Id) : Result Write := do
  let entry ← enterResident env user
  let request ← findByIdForCreator db entry.orgId entry.userId requestId
  assertCancelable request
  return cancelWrite env request entry.userId

def cancelBuildingRequest (user : Option AuthenticatedUser) (buildingId requestId : Id) :
    Result Write := do
  let entry ← enterBuilding env user buildingId
  Outcome.throwIf
    (¬ entry.accessContext.hasAnyBuildingAccess ∧
      ¬ env.world.hasGlobalPermission entry.userId entry.orgId "requests.update_status")
    (.forbidden "Forbidden")
  Outcome.throwIf entry.accessContext.isBuildingStaffOnly (.forbidden "Staff cannot cancel requests")
  let request ← findByIdForBuilding db entry.orgId buildingId requestId
  assertCancelable request
  return cancelWrite env request entry.userId

end Cancellation

section Comments

variable (env : Env) (db : Db)

def assertNotClosed (request : MaintenanceRequest) : Result Unit :=
  Outcome.throwIf (request.status = .CANCELED ∨ request.status = .COMPLETED)
    (.conflict "Request is closed")

def newComment (requestId orgId userId : Id) (authorOwnerId : Option Id)
    (authorType : CommentAuthorType) (visibility : CommentVisibility) (message : String) : Comment :=
  ⟨env.freshId, requestId, orgId, userId, authorOwnerId, authorType, visibility, message, env.now⟩

def commentedEvent (request : MaintenanceRequestSnapshot) (comment : Comment)
    (actorIsResident : Bool) : Event :=
  ⟨.COMMENTED, request, none, comment.authorUserId, actorIsResident,
    some (comment.id, comment.message)⟩

def listComments (orgId : Option Id) (requestId : Id) (visibility : Option CommentVisibility) :
    List Comment :=
  (db.comments.filter fun c =>
      c.requestId = requestId ∧ orgId.all (c.orgId = ·) ∧
        visibility.all (c.visibility = ·)).insertionSort
    fun a b => a.createdAt ≤ b.createdAt

def addResidentComment (user : Option AuthenticatedUser) (requestId : Id) (message : String) :
    Result Write := do
  let entry ← enterResident env user
  let request ← findByIdForCreator db entry.orgId entry.userId requestId
  assertNotClosed request
  let comment := newComment env request.id entry.orgId entry.userId none .TENANT .SHARED message
  return .comment ⟨comment, none, none, commentedEvent (toEventRequest env request) comment true⟩

def addBuildingComment (user : Option AuthenticatedUser) (buildingId requestId : Id)
    (dto : CreateBuildingRequestCommentDto) : Result Write := do
  let entry ← enterBuilding env user buildingId
  let request ← findByIdForBuilding db entry.orgId buildingId requestId
  entry.assertOwnAssignment request
  let comment := newComment env request.id entry.orgId entry.userId none .STAFF
    (dto.visibility.toOption.getD .SHARED) dto.message
  return .comment {
    comment
    readState := some ⟨entry.userId, request.id, .BUILDING, comment.createdAt⟩
    ownerReadState := none
    event := if comment.visibility = .SHARED then
      some (commentedEvent (toEventRequest env request) comment false) else none }

def listBuildingComments (user : Option AuthenticatedUser) (buildingId requestId : Id) :
    Result Write := do
  let entry ← enterBuilding env user buildingId
  let request ← findByIdForBuilding db entry.orgId buildingId requestId
  entry.assertOwnAssignment request
  let comments := listComments db (some entry.orgId) request.id none
  return .markRead
    (comments.getLast?.map fun c => ⟨entry.userId, request.id, .BUILDING, c.createdAt⟩) none

def addProviderComment (user : Option AuthenticatedUser) (requestId : Id) (message : String) :
    Result Write := do
  let entry ← enterProvider env user
  let request ← findByIdForServiceProviders db entry.accessContext.providerIds requestId
  assertNotClosed request
  entry.assertProviderRequestWriteAccess request
  let comment := newComment env request.id request.orgId entry.userId none .STAFF .SHARED message
  return .comment {
    comment
    readState := some ⟨entry.userId, request.id, .PROVIDER, comment.createdAt⟩
    ownerReadState := none
    event := commentedEvent (toEventRequest env request) comment false }

def listProviderComments (user : Option AuthenticatedUser) (requestId : Id) : Result Write := do
  let entry ← enterProvider env user
  let request ← findByIdForServiceProviders db entry.accessContext.providerIds requestId
  let comments := listComments db (truthy request.orgId) request.id (some .SHARED)
  return .markRead
    (comments.getLast?.map fun c => ⟨entry.userId, request.id, .PROVIDER, c.createdAt⟩) none

def addAccessibleRequestComment (userId requestId : Id) (message : String) : Result Write := do
  let (request, unit) ← getAccessibleRequestById env db userId requestId
  let comment := newComment env request.id unit.orgId userId unit.ownerId .OWNER .SHARED message
  return .comment {
    comment
    readState := none
    ownerReadState := some ⟨userId, request.id, comment.createdAt⟩
    event := commentedEvent (toOwnerEventRequest unit request) comment false }

def listAccessibleRequestComments (userId requestId : Id) : Result Write := do
  let (request, unit) ← getAccessibleRequestById env db userId requestId
  let comments := listComments db (some unit.orgId) request.id (some .SHARED)
  return .markRead none (comments.getLast?.map fun c => ⟨userId, request.id, c.createdAt⟩)

end Comments

section Attachments

variable (env : Env) (db : Db)

def addBuildingAttachments (user : Option AuthenticatedUser) (buildingId requestId : Id)
    (attachments : List AttachmentInput) : Result Write := do
  let entry ← enterBuilding env user buildingId
  let request ← findByIdForBuilding db entry.orgId buildingId requestId
  assertNotClosed request
  entry.assertOwnAssignment request
  return .attach (newAttachments request.id entry.orgId entry.userId attachments)

def addProviderAttachments (user : Option AuthenticatedUser) (requestId : Id)
    (attachments : List AttachmentInput) : Result Write := do
  let entry ← enterProvider env user
  let request ← findByIdForServiceProviders db entry.accessContext.providerIds requestId
  assertNotClosed request
  entry.assertProviderRequestWriteAccess request
  return .attach (newAttachments request.id request.orgId entry.userId attachments)

end Attachments

section Specs

variable {env : Env} {db : Db} {user : Option AuthenticatedUser} {buildingId requestId : Id}
  {w : Write}

theorem createResidentRequest_ok {dto : CreateResidentRequestDto}
    (h : createResidentRequest env user dto = .ok w) :
    ∃ entry attachments event, entry.orgId ≠ "" ∧
      w = .create (newRequest env entry dto) attachments event := by
  simp only [createResidentRequest, Outcome.bind_eq_ok, Outcome.pure_eq_ok] at h
  obtain ⟨entry, hentry, rfl⟩ := h
  refine ⟨entry, _, _, ?_, rfl⟩
  simp only [enterResident, Outcome.bind_eq_ok, Outcome.pure_eq_ok] at hentry
  obtain ⟨orgId, horg, userId, -, occupancy, -, rfl⟩ := hentry
  exact assertOrgScope_ok horg

theorem updateResidentRequest_ok {dto : UpdateResidentRequestDto}
    (h : updateResidentRequest env db user requestId dto = .ok w) :
    ∃ request ∈ db.maintenanceRequests, request.id = requestId ∧ request.status = .OPEN ∧
      w = .update ⟨request.id, updateResidentData dto request, [], none⟩ := by
  simp only [updateResidentRequest, Outcome.bind_eq_ok, Outcome.throwIf_eq_ok, exists_const,
    Outcome.pure_eq_ok, not_not] at h
  obtain ⟨entry, -, request, hload, hopen, -, rfl⟩ := h
  obtain ⟨hmem, hid⟩ := findByIdForCreator_ok hload
  exact ⟨request, hmem, hid, hopen, rfl⟩

theorem cancelResidentRequest_ok (h : cancelResidentRequest env db user requestId = .ok w) :
    ∃ request ∈ db.maintenanceRequests, request.id = requestId ∧ ¬ request.status.IsClosed ∧
      ∃ userId, w = cancelWrite env request userId := by
  simp only [cancelResidentRequest, assertCancelable, Outcome.bind_eq_ok,
    Outcome.throwIf_eq_ok, exists_const, Outcome.pure_eq_ok] at h
  obtain ⟨entry, -, request, hload, hopen, rfl⟩ := h
  obtain ⟨hmem, hid⟩ := findByIdForCreator_ok hload
  exact ⟨request, hmem, hid, hopen, _, rfl⟩

theorem cancelBuildingRequest_ok
    (h : cancelBuildingRequest env db user buildingId requestId = .ok w) :
    ∃ request ∈ db.maintenanceRequests, request.id = requestId ∧ ¬ request.status.IsClosed ∧
      ∃ userId, w = cancelWrite env request userId := by
  simp only [cancelBuildingRequest, assertCancelable, Outcome.bind_eq_ok,
    Outcome.throwIf_eq_ok, exists_const, Outcome.pure_eq_ok] at h
  obtain ⟨entry, -, -, -, request, hload, hopen, rfl⟩ := h
  obtain ⟨hmem, hid⟩ := findByIdForBuilding_ok hload
  exact ⟨request, hmem, hid, hopen, _, rfl⟩

end Specs

end Towerdesk.Maintenance
