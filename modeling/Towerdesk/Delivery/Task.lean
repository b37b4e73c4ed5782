import Towerdesk.Common
import Towerdesk.Lib.IsoDate
import Towerdesk.Lib.Table

/-!
# Delivery tasks

The row of a delivery task with all its columns, its payload by kind, and the record the
repository hands out: `mapRecord` passes every date through its text, which has no
milliseconds. Below it are the creation and the single-row updates of the repository, with
the facts about one row that their callers use.
-/

namespace Towerdesk.Delivery

open IsoDate (TimeValue)

inductive DeliveryTaskKind
  | AUTH_PASSWORD_EMAIL
  | PUSH_NOTIFICATION
  | BROADCAST_FANOUT
deriving DecidableEq, Repr

inductive DeliveryTaskStatus
  | PENDING
  | PROCESSING
  | SUCCEEDED
  | FAILED
  | RETRIED
deriving DecidableEq, Repr

inductive PasswordResetEmailPurpose
  | PASSWORD_RESET
  | RESIDENT_INVITE
  | OWNER_INVITE
  | PROVIDER_INVITE
deriving DecidableEq, Repr

structure PasswordEmailContext where
  inviteeName : Option String
  inviterName : Option String
deriving DecidableEq

structure PasswordEmailDeliveryPayload where
  email : String
  token : String
  expiresAt : String
  purpose : PasswordResetEmailPurpose
  context : Option PasswordEmailContext
  issuedByUserId : Option Id
  residentInviteTokenHash : Option String
deriving DecidableEq

/-- A value of a JSON object; a nested document stands as its text. -/
inductive JsonValue
  | string (text : String)
  | strings (texts : List String)
  | document (text : String)
deriving DecidableEq

abbrev JsonObject := List (String × JsonValue)

structure PushNotificationDeliveryPayload where
  orgId : Id
  userIds : List Id
  title : String
  body : Option String
  data : Option JsonObject
deriving DecidableEq

structure BroadcastFanoutDeliveryPayload where
  broadcastId : Id
  orgId : Id
  userIds : List Id
  title : String
  body : Option String
  senderUserId : Id
  buildingIds : List Id
  metadata : String
deriving DecidableEq

inductive DeliveryTaskPayload
  | passwordEmail (payload : PasswordEmailDeliveryPayload)
  | pushNotification (payload : PushNotificationDeliveryPayload)
  | broadcastFanout (payload : BroadcastFanoutDeliveryPayload)
deriving DecidableEq

def DeliveryTaskPayload.kind : DeliveryTaskPayload → DeliveryTaskKind
  | .passwordEmail _ => .AUTH_PASSWORD_EMAIL
  | .pushNotification _ => .PUSH_NOTIFICATION
  | .broadcastFanout _ => .BROADCAST_FANOUT

namespace DeliveryTaskPayload

variable {payload : DeliveryTaskPayload}

theorem exists_passwordEmail (h : payload.kind = .AUTH_PASSWORD_EMAIL) :
    ∃ email, payload = .passwordEmail email := by
  cases payload with
  | passwordEmail email => exact ⟨email, rfl⟩
  | pushNotification _ | broadcastFanout _ => cases h

theorem exists_pushNotification (h : payload.kind = .PUSH_NOTIFICATION) :
    ∃ push, payload = .pushNotification push := by
  cases payload with
  | pushNotification push => exact ⟨push, rfl⟩
  | passwordEmail _ | broadcastFanout _ => cases h

theorem exists_broadcastFanout (h : payload.kind = .BROADCAST_FANOUT) :
    ∃ broadcast, payload = .broadcastFanout broadcast := by
  cases payload with
  | broadcastFanout broadcast => exact ⟨broadcast, rfl⟩
  | passwordEmail _ | pushNotification _ => cases h

end DeliveryTaskPayload

structure DeliveryTask where
  id : Id
  status : DeliveryTaskStatus
  queueName : String
  jobName : String
  orgId : Option Id
  userId : Option Id
  referenceType : Option String
  referenceId : Option String
  payload : DeliveryTaskPayload
  attemptCount : ℤ
  maxAttempts : ℤ
  queuedAt : TimeValue
  lastAttemptAt : Option TimeValue
  processingStartedAt : Option TimeValue
  completedAt : Option TimeValue
  lastError : Option String
  retriedAt : Option TimeValue
  replacedByTaskId : Option Id
  createdAt : TimeValue
  updatedAt : TimeValue
deriving DecidableEq

def DeliveryTask.kind (task : DeliveryTask) : DeliveryTaskKind := task.payload.kind

abbrev DeliveryTasks := Table DeliveryTask.id

/-- `new Date(String(date))`: the text of a date ends at its second. -/
def wholeSecond (date : TimeValue) : TimeValue :=
  ⟨date.1 / 1000 * 1000, by
    have hrange : -8640000000000000 ≤ date.1 ∧ date.1 ≤ 8640000000000000 := date.2
    constructor
    · show (-8640000000000000 : ℤ) ≤ _
      omega
    · show _ ≤ (8640000000000000 : ℤ)
      omega⟩

theorem wholeSecond_le (date : TimeValue) : wholeSecond date ≤ date := by
  show date.1 / 1000 * 1000 ≤ date.1
  omega

/-- What a query returns for a row. -/
def mapRecord (record : DeliveryTask) : DeliveryTask where
  id := record.id
  status := record.status
  queueName := record.queueName
  jobName := record.jobName
  orgId := record.orgId
  userId := record.userId
  referenceType := record.referenceType
  referenceId := record.referenceId
  payload := record.payload
  attemptCount := record.attemptCount
  maxAttempts := record.maxAttempts
  queuedAt := wholeSecond record.queuedAt
  lastAttemptAt := record.lastAttemptAt.map wholeSecond
  processingStartedAt := record.processingStartedAt.map wholeSecond
  completedAt := record.completedAt.map wholeSecond
  lastError := record.lastError
  retriedAt := record.retriedAt.map wholeSecond
  replacedByTaskId := record.replacedByTaskId
  createdAt := wholeSecond record.createdAt
  updatedAt := wholeSecond record.updatedAt

def findById (tasks : DeliveryTasks) (id : Id) : Option DeliveryTask :=
  (tasks.findUnique id).map mapRecord

section Updates

structure DeliveryTaskCreateInput where
  queueName : String
  jobName : String
  orgId : Option Id := none
  userId : Option Id := none
  referenceType : Option String := none
  referenceId : Option String := none
  payload : DeliveryTaskPayload
  maxAttempts : Option ℤ := none

def DeliveryTaskCreateInput.row (input : DeliveryTaskCreateInput) (id : Id) (now : TimeValue) :
    DeliveryTask where
  id := id
  status := .PENDING
  queueName := input.queueName
  jobName := input.jobName
  orgId := input.orgId
  userId := input.userId
  referenceType := input.referenceType
  referenceId := input.referenceId
  payload := input.payload
  attemptCount := 0
  maxAttempts := input.maxAttempts.getD 5
  queuedAt := now
  lastAttemptAt := none
  processingStartedAt := none
  completedAt := none
  lastError := none
  retriedAt := none
  replacedByTaskId := none
  createdAt := now
  updatedAt := now

def create (tasks : DeliveryTasks) (id : Id) (input : DeliveryTaskCreateInput) (now : TimeValue) :
    Except String (DeliveryTask × DeliveryTasks) :=
  match tasks.insert (input.row id now) with
  | none => .error "Unique constraint failed on the fields: (id)"
  | some tasks' => .ok (mapRecord (input.row id now), tasks')

/-- The columns an update may set; `none` leaves a column alone. -/
structure TaskData where
  status : Option DeliveryTaskStatus := none
  attemptCount : Option ℤ := none
  lastAttemptAt : Option TimeValue := none
  processingStartedAt : Option TimeValue := none
  completedAt : Option TimeValue := none
  lastError : Option (Option String) := none

def TaskData.patch (data : TaskData) (now : TimeValue) : Patch DeliveryTask.id where
  apply := fun task => { task with
    status := data.status.getD task.status
    attemptCount := data.attemptCount.getD task.attemptCount
    lastAttemptAt := data.lastAttemptAt <|> task.lastAttemptAt
    processingStartedAt := data.processingStartedAt <|> task.processingStartedAt
    completedAt := data.completedAt <|> task.completedAt
    lastError := data.lastError.getD task.lastError
    updatedAt := now }
  key_apply := fun _ => rfl

def update (tasks : DeliveryTasks) (id : Id) (data : TaskData) (now : TimeValue) :
    Except String (DeliveryTask × DeliveryTasks) :=
  match tasks.findUnique id with
  | none => .error "Record to update not found."
  | some task => .ok (mapRecord ((data.patch now).apply task), tasks.modify id (data.patch now))

/-- `slice(0, n)` counts UTF-16 code units; half of a pair is stored as U+FFFD. -/
def sliceText : ℕ → List Char → List Char
  | 0, _ => []
  | _, [] => []
  | 1, c :: _ => if c.toNat < 0x10000 then [c] else ['\uFFFD']
  | n + 2, c :: cs => c :: sliceText (if c.toNat < 0x10000 then n + 1 else n) cs

def truncateError (error : String) : String := .ofList (sliceText 2000 error.toList)

/-- Nothing more is done to a task that succeeded or was replaced. -/
def DeliveryTask.isFinished (task : DeliveryTask) : Bool :=
  task.status = .SUCCEEDED ∨ task.status = .RETRIED

def processingData (existing : DeliveryTask) (now : TimeValue) : TaskData where
  status := some .PROCESSING
  attemptCount := some (existing.attemptCount + 1)
  processingStartedAt := some (existing.processingStartedAt.getD now)
  lastAttemptAt := some now
  lastError := some none

def retryScheduledData (error : String) : TaskData where
  status := some .PENDING
  lastError := some (some (truncateError error))

def failedData (error : String) (now : TimeValue) : TaskData where
  status := some .FAILED
  completedAt := some now
  lastError := some (some (truncateError error))

def succeededData (now : TimeValue) : TaskData where
  status := some .SUCCEEDED
  completedAt := some now
  lastError := some none

def markProcessing (tasks : DeliveryTasks) (id : Id) (now : TimeValue) :
    Except String (Option DeliveryTask × DeliveryTasks) :=
  match findById tasks id with
  | none => .ok (none, tasks)
  | some existing =>
    if existing.isFinished then .ok (some existing, tasks)
    else (update tasks id (processingData existing now) now).map (Prod.map some fun tasks => tasks)

def markRetryScheduled (tasks : DeliveryTasks) (id : Id) (error : String) (now : TimeValue) :
    Except String (DeliveryTask × DeliveryTasks) :=
  update tasks id (retryScheduledData error) now

def markFailed (tasks : DeliveryTasks) (id : Id) (error : String) (now : TimeValue) :
    Except String (DeliveryTask × DeliveryTasks) :=
  update tasks id (failedData error now) now

def markSucceeded (tasks : DeliveryTasks) (id : Id) (now : TimeValue) :
    Except String (DeliveryTask × DeliveryTasks) :=
  update tasks id (succeededData now) now

def claimForRetry (tasks : DeliveryTasks) (id : Id) (now : TimeValue) :
    Option DeliveryTask × DeliveryTasks :=
  match tasks.findUnique id with
  | none => (none, tasks)
  | some task =>
    if task.status = .FAILED ∧ task.retriedAt = none ∧ task.replacedByTaskId = none then
      let claimed := tasks.modify id (TaskData.patch { status := some .PROCESSING } now)
      (findById claimed id, claimed)
    else (none, tasks)

def releaseRetryClaim (tasks : DeliveryTasks) (id : Id) (now : TimeValue) :
    Except String (DeliveryTask × DeliveryTasks) :=
  update tasks id { status := some .FAILED } now

def retriedPatch (replacedByTaskId : Id) (now : TimeValue) : Patch DeliveryTask.id where
  apply := fun task => { task with
    status := .RETRIED
    retriedAt := some now
    replacedByTaskId := some replacedByTaskId
    completedAt := some now
    updatedAt := now }
  key_apply := fun _ => rfl

def markRetried (tasks : DeliveryTasks) (id replacedByTaskId : Id) (now : TimeValue) :
    Except String (DeliveryTask × DeliveryTasks) :=
  match tasks.findUnique id with
  | none => .error "Record to update not found."
  | some task =>
    .ok (mapRecord ((retriedPatch replacedByTaskId now).apply task),
      tasks.modify id (retriedPatch replacedByTaskId now))

end Updates

section Rows

variable {tasks tasks' : DeliveryTasks} {id : Id} {task : DeliveryTask} {data : TaskData}
  {now : TimeValue}

theorem findById_of_findUnique (h : tasks.findUnique id = some task) :
    findById tasks id = some (mapRecord task) := by
  rw [findById, h, Option.map_some]

theorem update_of_findUnique (h : tasks.findUnique id = some task) :
    update tasks id data now =
      .ok (mapRecord ((data.patch now).apply task), tasks.modify id (data.patch now)) := by
  rw [update, h]

theorem findUnique_modify_self (p : Patch DeliveryTask.id)
    (h : tasks.findUnique id = some task) :
    (tasks.modify id p).findUnique id = some (p.apply task) := by
  obtain ⟨hmem, rfl⟩ := Table.findUnique_eq_some.mp h
  exact Table.findUnique_modify hmem

theorem findUnique_modify_other {other : Id} (p : Patch DeliveryTask.id) (hne : id ≠ other)
    (h : tasks.findUnique id = some task) : (tasks.modify other p).findUnique id = some task := by
  obtain ⟨hmem, rfl⟩ := Table.findUnique_eq_some.mp h
  exact Table.findUnique_eq_some.mpr ⟨Table.mem_modify_of_ne hmem hne, rfl⟩

theorem findUnique_create {input : DeliveryTaskCreateInput} {created : DeliveryTask}
    (h : create tasks id input now = .ok (created, tasks')) :
    created = mapRecord (input.row id now) ∧
      tasks'.findUnique id = some (input.row id now) := by
  unfold create at h
  cases hins : tasks.insert (input.row id now) with
  | none => simp [hins] at h
  | some inserted =>
    rw [hins] at h
    obtain ⟨rfl, rfl⟩ := Prod.mk.inj (Except.ok.inj h)
    exact ⟨rfl, Table.findUnique_eq_some.mpr ⟨(Table.mem_insert hins).mpr (.inr rfl), rfl⟩⟩

theorem findUnique_create_other {other : Id} {input : DeliveryTaskCreateInput}
    {created : DeliveryTask} (h : create tasks other input now = .ok (created, tasks'))
    (htask : tasks.findUnique id = some task) :
    id ≠ other ∧ tasks'.findUnique id = some task := by
  obtain ⟨hmem, rfl⟩ := Table.findUnique_eq_some.mp htask
  unfold create at h
  cases hins : tasks.insert (input.row other now) with
  | none => simp [hins] at h
  | some inserted =>
    rw [hins] at h
    obtain ⟨-, rfl⟩ := Prod.mk.inj (Except.ok.inj h)
    exact ⟨Table.fresh_of_insert hins hmem,
      Table.findUnique_eq_some.mpr ⟨(Table.mem_insert hins).mpr (.inl hmem), rfl⟩⟩

theorem markProcessing_of_findUnique (h : tasks.findUnique id = some task)
    (hopen : task.isFinished = false) :
    markProcessing tasks id now =
      .ok (some (mapRecord (((processingData (mapRecord task) now).patch now).apply task)),
        tasks.modify id ((processingData (mapRecord task) now).patch now)) := by
  have hopen' : (mapRecord task).isFinished = false := hopen
  rw [markProcessing, findById_of_findUnique h]
  simp only [hopen', update_of_findUnique h]
  rfl

end Rows

end Towerdesk.Delivery
