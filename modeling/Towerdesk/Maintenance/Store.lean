import Towerdesk.Portals
import Towerdesk.Maintenance.Request

/-!
# The request store

The tables the maintenance operations write, and what one write does to them. An
operation prepares its write from what it read; committing the write updates the
row by its id alone, whatever that row holds by then, and appends the audit rows
and the event that go with it. The event log is the order of emission.
-/

namespace Towerdesk.Maintenance

structure OwnerApprovalAudit where
  requestId : Id
  orgId : Id
  actorUserId : Option Id
  action : OwnerApprovalAuditAction
  fromStatus : Option OwnerApprovalStatus
  toStatus : OwnerApprovalStatus
  decisionSource : Option OwnerApprovalDecisionSource
  reason : Option String
  createdAt : Date
deriving DecidableEq

structure Comment where
  id : Id
  requestId : Id
  orgId : Id
  authorUserId : Id
  authorOwnerId : Option Id
  authorType : CommentAuthorType
  visibility : CommentVisibility
  message : String
  createdAt : Date
deriving DecidableEq

structure CommentReadState where
  userId : Id
  requestId : Id
  scope : CommentReadScope
  lastReadAt : Date
deriving DecidableEq

def CommentReadState.key (s : CommentReadState) : Id × Id × CommentReadScope :=
  (s.userId, s.requestId, s.scope)

def CommentReadState.update (s : CommentReadState) : Patch CommentReadState.key where
  apply r := { r with lastReadAt := s.lastReadAt }
  key_apply _ := rfl

structure OwnerRequestCommentReadState where
  userId : Id
  requestId : Id
  lastReadAt : Date
deriving DecidableEq

def OwnerRequestCommentReadState.key (s : OwnerRequestCommentReadState) : Id × Id :=
  (s.userId, s.requestId)

def OwnerRequestCommentReadState.update (s : OwnerRequestCommentReadState) :
    Patch OwnerRequestCommentReadState.key where
  apply r := { r with lastReadAt := s.lastReadAt }
  key_apply _ := rfl

structure AttachmentInput where
  fileName : String
  mimeType : String
  sizeBytes : ℕ
  url : String
deriving DecidableEq

structure Attachment extends AttachmentInput where
  requestId : Id
  orgId : Id
  uploadedByUserId : Id
deriving DecidableEq

inductive EventName
  | CREATED | ASSIGNED | STATUS_CHANGED | COMMENTED | CANCELED | ESTIMATE_REMINDER
  | OWNER_APPROVAL_REQUESTED | OWNER_APPROVAL_REMINDER | OWNER_REQUEST_APPROVED
  | OWNER_REQUEST_REJECTED | OWNER_REQUEST_OVERRIDDEN
deriving DecidableEq

structure MaintenanceRequestSnapshot where
  id : Id
  orgId : Id
  buildingId : Id
  unitId : Option Id
  title : String
  status : MaintenanceRequestStatus
  ownerApprovalStatus : OwnerApprovalStatus
  createdByUserId : Id
  assignedToUserId : Option Id
  serviceProviderId : Option Id
  serviceProviderAssignedUserId : Option Id
  isEmergency : Bool
  emergencySignals : List EmergencySignal
  unit : Option (Id × String)
deriving DecidableEq

structure Event where
  name : EventName
  request : MaintenanceRequestSnapshot
  previousRequest : Option MaintenanceRequestSnapshot
  actorUserId : Id
  actorIsResident : Option Bool
  comment : Option (Id × String)
deriving DecidableEq

structure Db where
  maintenanceRequests : Table MaintenanceRequest.id
  ownerApprovalAudits : List OwnerApprovalAudit
  comments : List Comment
  commentReadStates : Table CommentReadState.key
  ownerCommentReadStates : Table OwnerRequestCommentReadState.key
  attachments : List Attachment
  events : List Event

def Db.empty : Db := ⟨.empty _, [], [], .empty _, .empty _, [], []⟩

/-- Everything an operation reads besides the store: the other tables, the clock, a
fresh identifier, the configured lifetime of an estimate and how the platform reads
a date string. -/
structure Env where
  world : World
  now : Date
  freshId : Id
  estimateTtlHours : ℤ
  parseDate : String → Option Date

/-- The management and resident form of `toEventRequest`. -/
def toEventRequest (env : Env) (request : MaintenanceRequest) : MaintenanceRequestSnapshot where
  id := request.id
  orgId := request.orgId
  buildingId := request.buildingId
  unitId := request.unitId
  title := request.title
  status := request.status
  ownerApprovalStatus := request.ownerApprovalStatus
  createdByUserId := request.createdByUserId
  assignedToUserId := request.assignedToUserId
  serviceProviderId := request.serviceProviderId
  serviceProviderAssignedUserId := request.serviceProviderAssignedUserId
  isEmergency := request.isEmergency
  emergencySignals := request.emergencySignals
  unit := (request.unitId.bind env.world.directory.units.findUnique).map fun u => (u.id, u.label)

/-- The owner portal's form: building, organisation and unit come from the unit scope,
and neither the provider side nor the emergency signals are carried. -/
def toOwnerEventRequest (unit : PortfolioUnitRow) (request : MaintenanceRequest) :
    MaintenanceRequestSnapshot where
  id := request.id
  orgId := unit.orgId
  buildingId := unit.buildingId
  unitId := unit.unitId
  title := request.title
  status := request.status
  ownerApprovalStatus := request.ownerApprovalStatus
  createdByUserId := request.createdByUserId
  assignedToUserId := request.assignedToUserId
  serviceProviderId := none
  serviceProviderAssignedUserId := none
  isEmergency := request.isEmergency
  emergencySignals := []
  unit := some (unit.unitId, unit.unitLabel)

structure AuditData where
  actorUserId : Id
  action : OwnerApprovalAuditAction
  fromStatus : OwnerApprovalStatus
  toStatus : OwnerApprovalStatus
  decisionSource : Option OwnerApprovalDecisionSource
  reason : Option String

structure UpdateEvent where
  name : EventName
  snapshot : MaintenanceRequest → MaintenanceRequestSnapshot
  previousRequest : Option MaintenanceRequestSnapshot
  actorUserId : Id

structure RowUpdate where
  requestId : Id
  data : RequestPatch
  audits : List AuditData
  event : Option UpdateEvent

structure CommentPost where
  comment : Comment
  readState : Option CommentReadState
  ownerReadState : Option OwnerRequestCommentReadState
  event : Option Event

inductive Write
  | create (request : MaintenanceRequest) (attachments : List Attachment) (event : Event)
  | update (u : RowUpdate)
  | remind (requestId : Id) (now : Date) (event : Event)
  | comment (c : CommentPost)
  | attach (attachments : List Attachment)
  | markRead (readState : Option CommentReadState)
      (ownerReadState : Option OwnerRequestCommentReadState)
  | skip

/-- The `updatedAt` column is set by every update. -/
def touched (data : RequestPatch) (now : Date) : RequestPatch where
  apply r := { data.apply r with updatedAt := now }
  key_apply := data.key_apply

def AuditData.toRow (now : Date) (updated : MaintenanceRequest) (a : AuditData) :
    OwnerApprovalAudit where
  requestId := updated.id
  orgId := updated.orgId
  actorUserId := a.actorUserId
  action := a.action
  fromStatus := a.fromStatus
  toStatus := a.toStatus
  decisionSource := a.decisionSource
  reason := a.reason
  createdAt := now

def UpdateEvent.toEvent (updated : MaintenanceRequest) (e : UpdateEvent) : Event where
  name := e.name
  request := e.snapshot updated
  previousRequest := e.previousRequest
  actorUserId := e.actorUserId
  actorIsResident := none
  comment := none

/-- `where` of `markEstimateReminderSentIfPending`, tested by the update itself. -/
def estimateReminderPending (now : Date) (request : MaintenanceRequest) : Bool :=
  request.estimateStatus = .REQUESTED ∧ request.estimateDueAt.any (· ≤ now) ∧
    request.estimateReminderSentAt = none ∧ ¬ request.status.IsClosed

def reminderSent (now : Date) : RequestPatch where
  apply r := if estimateReminderPending now r then
    { r with estimateReminderSentAt := some now, updatedAt := now } else r
  key_apply r := by split_ifs <;> rfl

namespace Db

variable (db : Db)

def upsertReadState (s : CommentReadState) : Db :=
  match db.commentReadStates.insert s with
  | some t => { db with commentReadStates := t }
  | none => { db with commentReadStates := db.commentReadStates.modify s.key s.update }

def upsertOwnerReadState (s : OwnerRequestCommentReadState) : Db :=
  match db.ownerCommentReadStates.insert s with
  | some t => { db with ownerCommentReadStates := t }
  | none => { db with ownerCommentReadStates := db.ownerCommentReadStates.modify s.key s.update }

def upsertReadStates (s : Option CommentReadState) (o : Option OwnerRequestCommentReadState) : Db :=
  let db' := s.elim db db.upsertReadState
  o.elim db' db'.upsertOwnerReadState

def applyUpdate (now : Date) (u : RowUpdate) (updated : MaintenanceRequest) : Db :=
  { db with
    maintenanceRequests := db.maintenanceRequests.modify u.requestId (touched u.data now)
    ownerApprovalAudits := db.ownerApprovalAudits ++ u.audits.map (·.toRow now updated)
    events := db.events ++ (u.event.map (·.toEvent updated)).toList }

end Db

/-- The write step. -/
def commit (env : Env) : Write → Db → Result Db
  | .create request attachments event, db => do
    let requests ← Outcome.orThrow (db.maintenanceRequests.insert request)
      (.internal "Unique constraint failed")
    return { db with
      maintenanceRequests := requests
      attachments := db.attachments ++ attachments
      events := db.events ++ [event] }
  | .update u, db => do
    let request ← Outcome.orThrow (db.maintenanceRequests.findUnique u.requestId)
      (.internal "Record to update not found")
    return db.applyUpdate env.now u ((touched u.data env.now).apply request)
  | .remind requestId now event, db =>
    if (db.maintenanceRequests.findUnique requestId).any (estimateReminderPending now) then
      .ok { db with
        maintenanceRequests := db.maintenanceRequests.modify requestId (reminderSent now)
        events := db.events ++ [event] }
    else .ok db
  | .comment c, db =>
    .ok { db.upsertReadStates c.readState c.ownerReadState with
      comments := db.comments ++ [c.comment]
      events := db.events ++ c.event.toList }
  | .attach attachments, db => .ok { db with attachments := db.attachments ++ attachments }
  | .markRead readState ownerReadState, db => .ok (db.upsertReadStates readState ownerReadState)
  | .skip, db => .ok db

section Commit

variable {env : Env} {db db' : Db}

theorem upsertReadStates_eq (db : Db) (s : Option CommentReadState)
    (o : Option OwnerRequestCommentReadState) :
    ∃ t u, db.upsertReadStates s o =
      { db with commentReadStates := t, ownerCommentReadStates := u } := by
  have hs : ∀ db : Db, ∃ t, s.elim db db.upsertReadState = { db with commentReadStates := t } := by
    intro db
    cases s with
    | none => exact ⟨db.commentReadStates, rfl⟩
    | some s =>
      rw [Option.elim_some, Db.upsertReadState]
      split
      · exact ⟨_, rfl⟩
      · exact ⟨_, rfl⟩
  have ho : ∀ db : Db, ∃ u,
      o.elim db db.upsertOwnerReadState = { db with ownerCommentReadStates := u } := by
    intro db
    cases o with
    | none => exact ⟨db.ownerCommentReadStates, rfl⟩
    | some o =>
      rw [Option.elim_some, Db.upsertOwnerReadState]
      split
      · exact ⟨_, rfl⟩
      · exact ⟨_, rfl⟩
  obtain ⟨t, ht⟩ := hs db
  obtain ⟨u, hu⟩ := ho (s.elim db db.upsertReadState)
  exact ⟨t, u, by rw [Db.upsertReadStates, hu, ht]⟩

@[simp] theorem upsertReadStates_requests (s : Option CommentReadState)
    (o : Option OwnerRequestCommentReadState) :
    (db.upsertReadStates s o).maintenanceRequests = db.maintenanceRequests := by
  obtain ⟨t, u, h⟩ := upsertReadStates_eq db s o
  rw [h]

@[simp] theorem upsertReadStates_audits (s : Option CommentReadState)
    (o : Option OwnerRequestCommentReadState) :
    (db.upsertReadStates s o).ownerApprovalAudits = db.ownerApprovalAudits := by
  obtain ⟨t, u, h⟩ := upsertReadStates_eq db s o
  rw [h]

theorem commit_create {request : MaintenanceRequest} {attachments : List Attachment}
    {event : Event} :
    commit env (.create request attachments event) db = .ok db' ↔
      ∃ t, db.maintenanceRequests.insert request = some t ∧
        db' = { db with
          maintenanceRequests := t
          attachments := db.attachments ++ attachments
          events := db.events ++ [event] } := by
  simp only [commit, Outcome.bind_eq_ok, Outcome.orThrow_eq_ok, Outcome.pure_eq_ok]
  exact exists_congr fun t => and_congr_right fun _ => eq_comm

theorem commit_update {u : RowUpdate} :
    commit env (.update u) db = .ok db' ↔
      ∃ request ∈ db.maintenanceRequests, request.id = u.requestId ∧
        db' = db.applyUpdate env.now u ((touched u.data env.now).apply request) := by
  simp only [commit, Outcome.bind_eq_ok, Outcome.orThrow_eq_ok, Table.findUnique_eq_some,
    Outcome.pure_eq_ok, and_assoc]
  exact exists_congr fun r => and_congr_right fun _ => and_congr_right fun _ => eq_comm

theorem commit_requests_eq {w : Write} (h : commit env w db = .ok db')
    (hcreate : ∀ r as e, w ≠ .create r as e) (hupdate : ∀ u, w ≠ .update u)
    (hremind : ∀ i n e, w ≠ .remind i n e) :
    db'.maintenanceRequests = db.maintenanceRequests ∧
      db'.ownerApprovalAudits = db.ownerApprovalAudits := by
  cases w with
  | create r as e => exact absurd rfl (hcreate r as e)
  | update u => exact absurd rfl (hupdate u)
  | remind i n e => exact absurd rfl (hremind i n e)
  | comment c =>
    obtain rfl := Except.ok.inj h
    simp
  | attach as =>
    obtain rfl := Except.ok.inj h
    simp
  | markRead s o =>
    obtain rfl := Except.ok.inj h
    simp
  | skip =>
    obtain rfl := Except.ok.inj h
    simp

end Commit

end Towerdesk.Maintenance
