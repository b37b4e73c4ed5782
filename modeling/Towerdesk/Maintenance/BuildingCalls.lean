import Towerdesk.Maintenance.Steps

/-!
# Calls at a building

Everything management and staff can call at a building, the calls that only read among them,
with what each gives back. A call that returns writes the rows of one request at most.
-/

namespace Towerdesk.Maintenance

section Reads

structure ListBuildingRequestsQueryDto where
  status : Option MaintenanceRequestStatus
  ownerApprovalStatus : Option OwnerApprovalStatus
  queue : Option RequestQueue
deriving DecidableEq

structure CommentTimestamp where
  requestId : Id
  createdAt : Date
deriving DecidableEq

variable (env : Env) (db : Db)

def listByBuilding (orgId buildingId : Id) (status : Option MaintenanceRequestStatus)
    (assignedToUserId : Option Id) : List MaintenanceRequest :=
  (db.maintenanceRequests.rows.filter fun r =>
      r.orgId = orgId ∧ r.buildingId = buildingId ∧ status.all (r.status = ·) ∧
        (truthy assignedToUserId).all (r.assignedToUserId = some ·)).insertionSort
    fun a b => b.createdAt ≤ a.createdAt

def listCommentReadStates (userId : Id) (requestIds : List Id) (scope : CommentReadScope) :
    List CommentReadState :=
  db.commentReadStates.rows.filter fun s =>
    s.userId = userId ∧ s.requestId ∈ requestIds ∧ s.scope = scope

def listCommentTimestamps (orgId : Option Id) (requestIds : List Id) (excludingAuthorUserId : Id)
    (visibility : Option CommentVisibility) : List CommentTimestamp :=
  (db.comments.filter fun c =>
      (truthy orgId).all (c.orgId = ·) ∧ c.requestId ∈ requestIds ∧
        c.authorUserId ≠ excludingAuthorUserId ∧ visibility.all (c.visibility = ·)).map
    fun c => ⟨c.requestId, c.createdAt⟩

/-- The comments counted. -/
def countUnreadCommentsForRequests (userId : Id) (orgId : Option Id) (requestIds : List Id)
    (scope : CommentReadScope) (visibility : Option CommentVisibility) : List CommentTimestamp :=
  let readStates := listCommentReadStates db userId requestIds scope
  (listCommentTimestamps db orgId requestIds userId visibility).filter fun c =>
    (readStates.find? fun s => s.requestId = c.requestId).all (·.lastReadAt < c.createdAt)

/-- Staff see what is assigned to them. -/
def BuildingEntry.assignedToUserId (entry : BuildingEntry) : Option Id :=
  if entry.accessContext.isBuildingStaffOnly then some entry.userId else none

def ListBuildingRequestsQueryDto.matches (query : ListBuildingRequestsQueryDto)
    (request : MaintenanceRequest) : Bool :=
  query.ownerApprovalStatus.all (request.ownerApprovalStatus = ·) ∧
    query.queue.all (getPrimaryMaintenanceRequestQueue request.policyInput env.now = some ·)

def listBuildingRequests (user : Option AuthenticatedUser) (buildingId : Id)
    (query : Option ListBuildingRequestsQueryDto) : Result (List MaintenanceRequest) := do
  let entry ← enterBuilding env user buildingId
  let requests := listByBuilding db entry.orgId buildingId (query.bind (·.status))
    entry.assignedToUserId
  return requests.filter fun request => query.all (·.matches env request)

def getBuildingRequest (user : Option AuthenticatedUser) (buildingId requestId : Id) :
    Result MaintenanceRequest := do
  let entry ← enterBuilding env user buildingId
  let request ← findByIdForBuilding db entry.orgId buildingId requestId
  entry.assertOwnAssignment request
  return request

/-- The comments counted; the call gives their number. -/
def countUnreadBuildingComments (user : Option AuthenticatedUser) (buildingId : Id) :
    Result (List CommentTimestamp) := do
  let entry ← enterBuilding env user buildingId
  let requests := listByBuilding db entry.orgId buildingId none entry.assignedToUserId
  return countUnreadCommentsForRequests db entry.userId (some entry.orgId) (requests.map (·.id))
    .BUILDING none

end Reads

inductive BuildingOperation
  | listBuildingRequests (query : Option ListBuildingRequestsQueryDto)
  | getBuildingRequest (requestId : Id)
  | assignRequest (requestId staffUserId : Id)
  | assignProvider (requestId serviceProviderId : Id)
  | requestEstimateFromProvider (requestId serviceProviderId : Id)
  | assignProviderWorker (requestId workerUserId : Id)
  | unassignProvider (requestId : Id)
  | updateRequestStatus (requestId : Id) (status : MaintenanceRequestStatus)
  | requireOwnerApproval (requestId : Id) (dto : RequireOwnerApprovalDto)
  | requestOwnerApprovalNow (requestId : Id) (dto : RequireOwnerApprovalDto)
  | requestOwnerApproval (requestId : Id)
  | resendOwnerApprovalRequest (requestId : Id)
  | updateRequestPolicyTriage (requestId : Id) (dto : PolicyTriageFieldsDto)
  | submitRequestEstimate (requestId : Id) (dto : SubmitRequestEstimateDto)
  | overrideOwnerApproval (requestId : Id) (dto : OverrideOwnerApprovalDto)
  | cancelBuildingRequest (requestId : Id)
  | addBuildingComment (requestId : Id) (dto : CreateBuildingRequestCommentDto)
  | listBuildingComments (requestId : Id)
  | countUnreadBuildingComments
  | addBuildingAttachments (requestId : Id) (attachments : List AttachmentInput)

/-- The requests or comments a call gives back, or the comments whose number it gives. -/
inductive Response
  | requests (requests : List MaintenanceRequest)
  | comments (comments : List Comment)
  | unreadCount (counted : List CommentTimestamp)

section Calls

variable (env : Env) (db : Db)

/-- The call gives back the request as it is after the write. -/
def updatedRequest (op : Operation) : Result (Response × Db) := do
  let db' ← step env op db
  return (.requests (op.requestId.bind db'.maintenanceRequests.findUnique).toList, db')

def BuildingOperation.perform (user : Option AuthenticatedUser) (buildingId : Id) :
    BuildingOperation → Result (Response × Db)
  | .listBuildingRequests query => do
    let requests ← Maintenance.listBuildingRequests env db user buildingId query
    return (.requests requests, db)
  | .getBuildingRequest requestId => do
    let request ← Maintenance.getBuildingRequest env db user buildingId requestId
    return (.requests [request], db)
  | .assignRequest requestId staffUserId =>
    updatedRequest env db (.assignRequest user buildingId requestId staffUserId)
  | .assignProvider requestId serviceProviderId =>
    updatedRequest env db (.assignProvider user buildingId requestId serviceProviderId)
  | .requestEstimateFromProvider requestId serviceProviderId =>
    updatedRequest env db (.requestEstimateFromProvider user buildingId requestId serviceProviderId)
  | .assignProviderWorker requestId workerUserId =>
    updatedRequest env db (.assignProviderWorker user buildingId requestId workerUserId)
  | .unassignProvider requestId =>
    updatedRequest env db (.unassignProvider user buildingId requestId)
  | .updateRequestStatus requestId status =>
    updatedRequest env db (.updateRequestStatus user buildingId requestId status)
  | .requireOwnerApproval requestId dto =>
    updatedRequest env db (.requireOwnerApproval user buildingId requestId dto)
  | .requestOwnerApprovalNow requestId dto =>
    updatedRequest env db (.requestOwnerApprovalNow user buildingId requestId dto)
  | .requestOwnerApproval requestId =>
    updatedRequest env db (.requestOwnerApproval user buildingId requestId)
  | .resendOwnerApprovalRequest requestId =>
    updatedRequest env db (.resendOwnerApprovalRequest user buildingId requestId)
  | .updateRequestPolicyTriage requestId dto =>
    updatedRequest env db (.updateRequestPolicyTriage user buildingId requestId dto)
  | .submitRequestEstimate requestId dto =>
    updatedRequest env db (.submitRequestEstimate user buildingId requestId dto)
  | .overrideOwnerApproval requestId dto =>
    updatedRequest env db (.overrideOwnerApproval user buildingId requestId dto)
  | .cancelBuildingRequest requestId =>
    updatedRequest env db (.cancelBuildingRequest user buildingId requestId)
  | .addBuildingComment requestId dto => do
    let db' ← step env (.addBuildingComment user buildingId requestId dto) db
    return (.comments (db'.comments.drop db.comments.length), db')
  | .listBuildingComments requestId => do
    let db' ← step env (.listBuildingComments user buildingId requestId) db
    return (.comments (listComments db (user.bind (·.orgId)) requestId none), db')
  | .countUnreadBuildingComments => do
    let counted ← Maintenance.countUnreadBuildingComments env db user buildingId
    return (.unreadCount counted, db)
  | .addBuildingAttachments requestId attachments =>
    updatedRequest env db (.addBuildingAttachments user buildingId requestId attachments)

def BuildingOperation.requestId : BuildingOperation → Option Id
  | .listBuildingRequests _ | .countUnreadBuildingComments => none
  | .getBuildingRequest requestId | .assignRequest requestId _ | .assignProvider requestId _
  | .requestEstimateFromProvider requestId _ | .assignProviderWorker requestId _
  | .unassignProvider requestId | .updateRequestStatus requestId _
  | .requireOwnerApproval requestId _ | .requestOwnerApprovalNow requestId _
  | .requestOwnerApproval requestId | .resendOwnerApprovalRequest requestId
  | .updateRequestPolicyTriage requestId _ | .submitRequestEstimate requestId _
  | .overrideOwnerApproval requestId _ | .cancelBuildingRequest requestId
  | .addBuildingComment requestId _ | .listBuildingComments requestId
  | .addBuildingAttachments requestId _ => requestId

end Calls

end Towerdesk.Maintenance
