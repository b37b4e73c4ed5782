import Towerdesk.Maintenance.Intake
import Towerdesk.Maintenance.Assignment
import Towerdesk.Maintenance.Approval
import Towerdesk.Lib.ReadWrite

/-!
# The operations as one system

Every operation of the request service and of the owner portfolio that writes, and
the estimate monitor's marking of one request. The ones that only read return data
and have no step. A step plans against the store and commits to it; what a step can
do to one request is said once, by `Change` for each operation and by `RowStep` for
a request that may or may not be the one written.
-/

namespace Towerdesk.Maintenance

inductive Operation
  | createResidentRequest (user : Option AuthenticatedUser) (dto : CreateResidentRequestDto)
  | updateResidentRequest (user : Option AuthenticatedUser) (requestId : Id)
      (dto : UpdateResidentRequestDto)
  | cancelResidentRequest (user : Option AuthenticatedUser) (requestId : Id)
  | cancelBuildingRequest (user : Option AuthenticatedUser) (buildingId requestId : Id)
  | assignRequest (user : Option AuthenticatedUser) (buildingId requestId staffUserId : Id)
  | assignProvider (user : Option AuthenticatedUser) (buildingId requestId serviceProviderId : Id)
  | requestEstimateFromProvider (user : Option AuthenticatedUser)
      (buildingId requestId serviceProviderId : Id)
  | assignProviderWorker (user : Option AuthenticatedUser) (buildingId requestId workerUserId : Id)
  | unassignProvider (user : Option AuthenticatedUser) (buildingId requestId : Id)
  | updateRequestStatus (user : Option AuthenticatedUser) (buildingId requestId : Id)
      (status : MaintenanceRequestStatus)
  | updateProviderRequestStatus (user : Option AuthenticatedUser) (requestId : Id)
      (status : MaintenanceRequestStatus)
  | assignProviderWorkerFromProvider (user : Option AuthenticatedUser) (requestId workerUserId : Id)
  | requireOwnerApproval (user : Option AuthenticatedUser) (buildingId requestId : Id)
      (dto : RequireOwnerApprovalDto)
  | requestOwnerApprovalNow (user : Option AuthenticatedUser) (buildingId requestId : Id)
      (dto : RequireOwnerApprovalDto)
  | requestOwnerApproval (user : Option AuthenticatedUser) (buildingId requestId : Id)
  | resendOwnerApprovalRequest (user : Option AuthenticatedUser) (buildingId requestId : Id)
  | updateRequestPolicyTriage (user : Option AuthenticatedUser) (buildingId requestId : Id)
      (dto : PolicyTriageFieldsDto)
  | submitRequestEstimate (user : Option AuthenticatedUser) (buildingId requestId : Id)
      (dto : SubmitRequestEstimateDto)
  | submitProviderRequestEstimate (user : Option AuthenticatedUser) (requestId : Id)
      (dto : SubmitRequestEstimateDto)
  | overrideOwnerApproval (user : Option AuthenticatedUser) (buildingId requestId : Id)
      (dto : OverrideOwnerApprovalDto)
  | approveAccessibleRequest (userId requestId : Id) (approvalReason : Option String)
  | rejectAccessibleRequest (userId requestId : Id) (approvalReason : String)
  | addResidentComment (user : Option AuthenticatedUser) (requestId : Id) (message : String)
  | addBuildingComment (user : Option AuthenticatedUser) (buildingId requestId : Id)
      (dto : CreateBuildingRequestCommentDto)
  | listBuildingComments (user : Option AuthenticatedUser) (buildingId requestId : Id)
  | addProviderComment (user : Option AuthenticatedUser) (requestId : Id) (message : String)
  | listProviderComments (user : Option AuthenticatedUser) (requestId : Id)
  | addAccessibleRequestComment (userId requestId : Id) (message : String)
  | listAccessibleRequestComments (userId requestId : Id)
  | addBuildingAttachments (user : Option AuthenticatedUser) (buildingId requestId : Id)
      (attachments : List AttachmentInput)
  | addProviderAttachments (user : Option AuthenticatedUser) (requestId : Id)
      (attachments : List AttachmentInput)
  | remindEstimate (requestId : Id)

def Operation.requestId : Operation → Option Id
  | .createResidentRequest _ _ => none
  | .updateResidentRequest _ requestId _ => requestId
  | .cancelResidentRequest _ requestId => requestId
  | .cancelBuildingRequest _ _ requestId => requestId
  | .assignRequest _ _ requestId _ => requestId
  | .assignProvider _ _ requestId _ => requestId
  | .requestEstimateFromProvider _ _ requestId _ => requestId
  | .assignProviderWorker _ _ requestId _ => requestId
  | .unassignProvider _ _ requestId => requestId
  | .updateRequestStatus _ _ requestId _ => requestId
  | .updateProviderRequestStatus _ requestId _ => requestId
  | .assignProviderWorkerFromProvider _ requestId _ => requestId
  | .requireOwnerApproval _ _ requestId _ => requestId
  | .requestOwnerApprovalNow _ _ requestId _ => requestId
  | .requestOwnerApproval _ _ requestId => requestId
  | .resendOwnerApprovalRequest _ _ requestId => requestId
  | .updateRequestPolicyTriage _ _ requestId _ => requestId
  | .submitRequestEstimate _ _ requestId _ => requestId
  | .submitProviderRequestEstimate _ requestId _ => requestId
  | .overrideOwnerApproval _ _ requestId _ => requestId
  | .approveAccessibleRequest _ requestId _ => requestId
  | .rejectAccessibleRequest _ requestId _ => requestId
  | .addResidentComment _ requestId _ => requestId
  | .addBuildingComment _ _ requestId _ => requestId
  | .listBuildingComments _ _ requestId => requestId
  | .addProviderComment _ requestId _ => requestId
  | .listProviderComments _ requestId => requestId
  | .addAccessibleRequestComment _ requestId _ => requestId
  | .listAccessibleRequestComments _ requestId => requestId
  | .addBuildingAttachments _ _ requestId _ => requestId
  | .addProviderAttachments _ requestId _ => requestId
  | .remindEstimate requestId => requestId

/-- `scanAndEmitReminders` for one request of the scan. -/
def remindEstimate (env : Env) (db : Db) (requestId : Id) : Write :=
  match db.maintenanceRequests.findFirst fun r =>
      r.id = requestId ∧ estimateReminderPending env.now r with
  | some request => .remind request.id env.now
      ⟨.ESTIMATE_REMINDER, toEventRequest env request, none, "system", none, none⟩
  | none => .skip

/-- The read step. -/
def plan (env : Env) (db : Db) : Operation → Result Write
  | .createResidentRequest user dto => createResidentRequest env user dto
  | .updateResidentRequest user requestId dto => updateResidentRequest env db user requestId dto
  | .cancelResidentRequest user requestId => cancelResidentRequest env db user requestId
  | .cancelBuildingRequest user buildingId requestId =>
    cancelBuildingRequest env db user buildingId requestId
  | .assignRequest user buildingId requestId staffUserId =>
    assignRequest env db user buildingId requestId staffUserId
  | .assignProvider user buildingId requestId serviceProviderId =>
    assignProvider env db user buildingId requestId serviceProviderId
  | .requestEstimateFromProvider user buildingId requestId serviceProviderId =>
    requestEstimateFromProvider env db user buildingId requestId serviceProviderId
  | .assignProviderWorker user buildingId requestId workerUserId =>
    assignProviderWorker env db user buildingId requestId workerUserId
  | .unassignProvider user buildingId requestId => unassignProvider env db user buildingId requestId
  | .updateRequestStatus user buildingId requestId status =>
    updateRequestStatus env db user buildingId requestId status
  | .updateProviderRequestStatus user requestId status =>
    updateProviderRequestStatus env db user requestId status
  | .assignProviderWorkerFromProvider user requestId workerUserId =>
    assignProviderWorkerFromProvider env db user requestId workerUserId
  | .requireOwnerApproval user buildingId requestId dto =>
    requireOwnerApproval env db user buildingId requestId dto
  | .requestOwnerApprovalNow user buildingId requestId dto =>
    requestOwnerApprovalNow env db user buildingId requestId dto
  | .requestOwnerApproval user buildingId requestId =>
    requestOwnerApproval env db user buildingId requestId
  | .resendOwnerApprovalRequest user buildingId requestId =>
    resendOwnerApprovalRequest env db user buildingId requestId
  | .updateRequestPolicyTriage user buildingId requestId dto =>
    updateRequestPolicyTriage env db user buildingId requestId dto
  | .submitRequestEstimate user buildingId requestId dto =>
    submitRequestEstimate env db user buildingId requestId dto
  | .submitProviderRequestEstimate user requestId dto =>
    submitProviderRequestEstimate env db user requestId dto
  | .overrideOwnerApproval user buildingId requestId dto =>
    overrideOwnerApproval env db user buildingId requestId dto
  | .approveAccessibleRequest userId requestId approvalReason =>
    approveAccessibleRequest env db userId requestId approvalReason
  | .rejectAccessibleRequest userId requestId approvalReason =>
    rejectAccessibleRequest env db userId requestId approvalReason
  | .addResidentComment user requestId message => addResidentComment env db user requestId message
  | .addBuildingComment user buildingId requestId dto =>
    addBuildingComment env db user buildingId requestId dto
  | .listBuildingComments user buildingId requestId =>
    listBuildingComments env db user buildingId requestId
  | .addProviderComment user requestId message => addProviderComment env db user requestId message
  | .listProviderComments user requestId => listProviderComments env db user requestId
  | .addAccessibleRequestComment userId requestId message =>
    addAccessibleRequestComment env db userId requestId message
  | .listAccessibleRequestComments userId requestId =>
    listAccessibleRequestComments env db userId requestId
  | .addBuildingAttachments user buildingId requestId attachments =>
    addBuildingAttachments env db user buildingId requestId attachments
  | .addProviderAttachments user requestId attachments =>
    addProviderAttachments env db user requestId attachments
  | .remindEstimate requestId => .ok (remindEstimate env db requestId)

/-- One operation with what it reads at its read step and at its write step. -/
structure Call where
  env : Env
  operation : Operation
  writeEnv : Env

def machine : ReadWrite.Machine Call Write Db HttpException where
  plan c db := plan c.env db c.operation
  commit c w db := commit c.writeEnv w db

def step (env : Env) (op : Operation) (db : Db) : Result Db :=
  ReadWrite.atomic machine ⟨env, op, env⟩ db

/-- A sequential run: an operation that throws leaves the store as it was. -/
def next (l : Env × Operation) (db : Db) : Db := Outcome.orElseKeep db (step l.1 l.2 db)

def run (db : Db) (ls : List (Env × Operation)) : Db := Run.exec next db ls

/-- What each operation does to the request it updates, with the guards it passed. -/
inductive Change (env : Env) (r : MaintenanceRequest) : Operation → RowUpdate → Prop
  | updateResidentRequest {user requestId dto} (hopen : r.status = .OPEN) :
      Change env r (.updateResidentRequest user requestId dto)
        ⟨r.id, updateResidentData dto r, [], none⟩
  | cancelResidentRequest {user requestId event}
      (hopen : ¬ r.status.IsClosed) :
      Change env r (.cancelResidentRequest user requestId) ⟨r.id, canceledData env.now, [], event⟩
  | cancelBuildingRequest {user buildingId requestId event}
      (hopen : ¬ r.status.IsClosed) :
      Change env r (.cancelBuildingRequest user buildingId requestId)
        ⟨r.id, canceledData env.now, [], event⟩
  | assignRequest {user buildingId requestId staffUserId staffId event}
      (hopen : r.status = .OPEN ∨ r.status = .ASSIGNED) (hunlocked : r.ExecutionUnlocked) :
      Change env r (.assignRequest user buildingId requestId staffUserId)
        ⟨r.id, assignRequestData env.now staffId, [], event⟩
  | assignProvider {user buildingId requestId serviceProviderId providerId event}
      (hopen : r.status = .OPEN ∨ r.status = .ASSIGNED)
      (hunlocked : r.ExecutionUnlocked) :
      Change env r (.assignProvider user buildingId requestId serviceProviderId)
        ⟨r.id, assignProviderData env.now providerId, [], event⟩
  | requestEstimateFromProvider {user buildingId requestId serviceProviderId providerId userId event}
      (hopen : r.status = .OPEN ∨ r.status = .ASSIGNED)
      (hpending : r.ownerApprovalStatus ≠ .PENDING)
      (hroute : r.route = .NEEDS_ESTIMATE ∨ r.ownerApprovalStatus = .REJECTED) :
      Change env r (.requestEstimateFromProvider user buildingId requestId serviceProviderId)
        ⟨r.id, requestEstimateData env.now providerId userId (buildEstimateDueAt env), [], event⟩
  | assignProviderWorker {user buildingId requestId workerUserId workerId event}
      (hopen : r.status = .OPEN ∨ r.status = .ASSIGNED)
      (hunlocked : r.ExecutionUnlocked) (hprovider : r.serviceProviderId ≠ none) :
      Change env r (.assignProviderWorker user buildingId requestId workerUserId)
        ⟨r.id, assignWorkerData env.now r workerId, [], event⟩
  | assignProviderWorkerFromProvider {user requestId workerUserId workerId event}
      (hopen : r.status = .OPEN ∨ r.status = .ASSIGNED)
      (hunlocked : r.ExecutionUnlocked) (hprovider : r.serviceProviderId ≠ none) :
      Change env r (.assignProviderWorkerFromProvider user requestId workerUserId)
        ⟨r.id, assignWorkerData env.now r workerId, [], event⟩
  | unassignProvider {user buildingId requestId event}
      (hopen : r.status = .OPEN ∨ r.status = .ASSIGNED) (hunlocked : r.ExecutionUnlocked)
      (hprovider : r.serviceProviderId ≠ none) :
      Change env r (.unassignProvider user buildingId requestId) ⟨r.id, unassignData, [], event⟩
  | updateRequestStatus {user buildingId requestId status event}
      (htransition : status ∈ MAINTENANCE_STATUS_TRANSITIONS r.status)
      (hunlocked : r.ExecutionUnlocked) :
      Change env r (.updateRequestStatus user buildingId requestId status)
        ⟨r.id, updateStatusData env.now r status, [], event⟩
  | updateProviderRequestStatus {user requestId status event}
      (htransition : status ∈ MAINTENANCE_STATUS_TRANSITIONS r.status)
      (hunlocked : r.ExecutionUnlocked) :
      Change env r (.updateProviderRequestStatus user requestId status)
        ⟨r.id, updateStatusData env.now r status, [], event⟩
  | requireOwnerApproval {user buildingId requestId dto columns deadlineAt userId}
      (hopen : ¬ r.status.IsClosed) :
      Change env r (.requireOwnerApproval user buildingId requestId dto)
        ⟨r.id, requireApprovalData columns dto.approvalRequiredReason none none deadlineAt,
          [⟨userId, .REQUIRED, r.ownerApprovalStatus, .PENDING, none,
            some dto.approvalRequiredReason⟩], none⟩
  | requestOwnerApprovalNow {user buildingId requestId dto columns deadlineAt userId actorUserId event}
      (hopen : ¬ r.status.IsClosed) :
      Change env r (.requestOwnerApprovalNow user buildingId requestId dto)
        ⟨r.id, requireApprovalData columns dto.approvalRequiredReason (some env.now) (some userId)
          deadlineAt, requiredAudit actorUserId r.ownerApprovalStatus dto.approvalRequiredReason ++
            [requestedAudit actorUserId .REQUESTED (some dto.approvalRequiredReason)], event⟩
  | requestOwnerApproval {user buildingId requestId userId actorUserId event}
      (hpending : r.ownerApprovalStatus = .PENDING) :
      Change env r (.requestOwnerApproval user buildingId requestId)
        ⟨r.id, approvalRequestedData env.now userId,
          [requestedAudit actorUserId .REQUESTED r.approvalRequiredReason], event⟩
  | resendOwnerApprovalRequest {user buildingId requestId userId actorUserId event}
      (hpending : r.ownerApprovalStatus = .PENDING) :
      Change env r (.resendOwnerApprovalRequest user buildingId requestId)
        ⟨r.id, approvalRequestedData env.now userId,
          [requestedAudit actorUserId .RESENT r.approvalRequiredReason], event⟩
  | updateRequestPolicyTriage {user buildingId requestId dto columns}
      (hopen : ¬ r.status.IsClosed) (hcolumns : triageColumns dto r = .ok columns) :
      Change env r (.updateRequestPolicyTriage user buildingId requestId dto)
        ⟨r.id, triageData columns, [], none⟩
  | submitRequestEstimatePending {user buildingId requestId dto columns userId actorUserId
      requestedAt requestedByUserId deadlineAt event}
      (hopen : ¬ r.status.IsClosed) :
      Change env r (.submitRequestEstimate user buildingId requestId dto)
        ⟨r.id, estimatePendingData env.now userId columns (requiredReason dto) requestedAt
          requestedByUserId deadlineAt, estimateAudits r actorUserId dto, event⟩
  | submitRequestEstimateSettled {user buildingId requestId dto columns userId}
      (hopen : ¬ r.status.IsClosed) :
      Change env r (.submitRequestEstimate user buildingId requestId dto)
        ⟨r.id, estimateSettledData env.now userId columns, [], none⟩
  | submitProviderRequestEstimatePending {user requestId dto columns userId actorUserId
      requestedAt requestedByUserId deadlineAt event}
      (hopen : ¬ r.status.IsClosed) :
      Change env r (.submitProviderRequestEstimate user requestId dto)
        ⟨r.id, estimatePendingData env.now userId columns (requiredReason dto) requestedAt
          requestedByUserId deadlineAt, estimateAudits r actorUserId dto, event⟩
  | submitProviderRequestEstimateSettled {user requestId dto columns userId}
      (hopen : ¬ r.status.IsClosed) :
      Change env r (.submitProviderRequestEstimate user requestId dto)
        ⟨r.id, estimateSettledData env.now userId columns, [], none⟩
  | overrideOwnerApproval {user buildingId requestId dto userId actorUserId event}
      (hpending : r.ownerApprovalStatus = .PENDING) :
      Change env r (.overrideOwnerApproval user buildingId requestId dto)
        ⟨r.id, overrideData env.now userId dto.decisionSource dto.ownerApprovalOverrideReason,
          [⟨actorUserId, .OVERRIDDEN, .PENDING, .APPROVED, some dto.decisionSource,
            some dto.ownerApprovalOverrideReason⟩], event⟩
  | approveAccessibleRequest {userId requestId approvalReason decidedByUserId event}
      (hpending : r.ownerApprovalStatus = .PENDING) :
      Change env r (.approveAccessibleRequest userId requestId approvalReason)
        ⟨r.id, ownerDecisionData env.now decidedByUserId .APPROVED approvalReason,
          [⟨userId, .APPROVED, .PENDING, .APPROVED, some .OWNER, approvalReason⟩], event⟩
  | rejectAccessibleRequest {userId requestId approvalReason decidedByUserId event}
      (hpending : r.ownerApprovalStatus = .PENDING) :
      Change env r (.rejectAccessibleRequest userId requestId approvalReason)
        ⟨r.id, ownerDecisionData env.now decidedByUserId .REJECTED (some approvalReason),
          [⟨userId, .REJECTED, .PENDING, .REJECTED, some .OWNER, some approvalReason⟩], event⟩

end Towerdesk.Maintenance
