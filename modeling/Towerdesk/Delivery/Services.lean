import Towerdesk.Delivery.Task

/-!
# Delivery services

Password emails, push notifications and broadcast fan-outs are delivered through a task:
it is created, handed to the queue, and processed by a worker or, when the queue does not
take the job, at once. The three services share how a task is dispatched and processed and
differ in the delivery. What the queue, the mail and push providers, the commit of a
fan-out and the realtime channel answer comes from outside.
-/

namespace Towerdesk.Delivery

open IsoDate (TimeValue)

inductive NotificationType
  | REQUEST_CREATED
  | REQUEST_ASSIGNED
  | REQUEST_STATUS_CHANGED
  | REQUEST_COMMENTED
  | REQUEST_CANCELED
  | ESTIMATE_REMINDER
  | OWNER_APPROVAL_REQUESTED
  | OWNER_APPROVAL_REMINDER
  | OWNER_REQUEST_APPROVED
  | OWNER_REQUEST_REJECTED
  | OWNER_REQUEST_OVERRIDDEN
  | OWNER_ACCESS_GRANTED
  | OWNER_ACCESS_DISABLED
  | MOVE_IN_REQUEST_CREATED
  | MOVE_OUT_REQUEST_CREATED
  | VISITOR_ARRIVED
  | BROADCAST
  | CONVERSATION_CREATED
  | MESSAGE_CREATED
deriving DecidableEq, Repr

structure NotificationInput where
  orgId : Id
  recipientUserId : Id
  type : NotificationType
  title : String
  body : Option String
  data : JsonObject
deriving DecidableEq

inductive ResidentInviteStatus
  | SENT
  | FAILED
  | ACCEPTED
deriving DecidableEq, Repr

structure ResidentInvite where
  tokenHash : String
  status : ResidentInviteStatus
  failedAt : Option TimeValue
  failureReason : Option String
deriving DecidableEq

structure Job where
  queueName : String
  jobName : String
  taskId : Id
  attempts : ℤ
  backoffMs : ℕ
deriving DecidableEq

structure Store where
  tasks : DeliveryTasks
  jobs : List Job
  notifications : List NotificationInput
  residentInvites : List ResidentInvite

inductive QueueAnswer
  | disabled
  | throws (message : String)
  | accepts
deriving DecidableEq, Repr

/-- What a call meets outside the application. -/
structure Outside where
  now : TimeValue
  queue : QueueAnswer
  sendPasswordResetEmail : PasswordEmailDeliveryPayload → Except String Unit
  deliverToUsersNow : Id → PushNotificationDeliveryPayload → Except String Unit
  commitNotifications : List NotificationInput → Except String Unit
  publishCreatedNotifications : Id → List NotificationInput → Except String Unit
  pushProviderNoop : Bool
  pushTaskId : Id

section Queue

/-- `queueService.enqueue`: no connection, no queue. -/
def enqueue (outside : Outside) (job : Job) (store : Store) : Except String Bool × Store :=
  match outside.queue with
  | .disabled => (.ok false, store)
  | .throws message => (.error message, store)
  | .accepts => (.ok true, { store with jobs := store.jobs ++ [job] })

end Queue

section Shared

/-- What the services differ in: `attempt` is the body of the `try`. -/
structure DeliveryService where
  kind : DeliveryTaskKind
  backoffMs : ℕ
  attempt : Outside → DeliveryTask → Store → Except String Unit × Store
  onExhausted : Outside → DeliveryTask → String → Store → Store

variable (service : DeliveryService) (outside : Outside)

/-- The `catch` of a failed attempt: attempts decide between FAILED and another one. -/
def DeliveryService.fail (processing : DeliveryTask) (message : String) (allowThrow : Bool)
    (store : Store) : Except String Unit × Store :=
  let exhausted := processing.maxAttempts ≤ processing.attemptCount
  let marked := if exhausted then markFailed store.tasks processing.id message outside.now
    else markRetryScheduled store.tasks processing.id message outside.now
  match marked with
  | .error e => (.error e, store)
  | .ok (_, tasks) =>
    let failed := { store with tasks := tasks }
    (if allowThrow then .error message else .ok (),
      if exhausted then service.onExhausted outside processing message failed else failed)

def DeliveryService.process (taskId : Id) (allowThrow : Bool) (store : Store) :
    Except String Unit × Store :=
  match findById store.tasks taskId with
  | none => (.ok (), store)
  | some task =>
    if task.kind ≠ service.kind ∨ task.isFinished then (.ok (), store)
    else
      match markProcessing store.tasks taskId outside.now with
      | .error message => (.error message, store)
      | .ok (none, tasks) => (.ok (), { store with tasks := tasks })
      | .ok (some processing, tasks) =>
        if processing.isFinished then (.ok (), { store with tasks := tasks })
        else
          match service.attempt outside processing { store with tasks := tasks } with
          | (.ok (), store') => (.ok (), store')
          | (.error message, store') => service.fail outside processing message allowThrow store'

def DeliveryService.job (task : DeliveryTask) : Job where
  queueName := task.queueName
  jobName := task.jobName
  taskId := task.id
  attempts := task.maxAttempts
  backoffMs := service.backoffMs

def DeliveryService.dispatchTask (task : DeliveryTask) (store : Store) :
    Except String Unit × Store :=
  match enqueue outside (service.job task) store with
  | (.ok true, store') => (.ok (), store')
  | (_, store') => service.process outside task.id false store'

def DeliveryService.createAndDispatch (id : Id) (input : DeliveryTaskCreateInput)
    (store : Store) : Except String DeliveryTask × Store :=
  match create store.tasks id input outside.now with
  | .error message => (.error message, store)
  | .ok (task, tasks) =>
    match service.dispatchTask outside task { store with tasks := tasks } with
    | (.error message, store') => (.error message, store')
    | (.ok (), store') => (.ok task, store')

def deliverThenMark (delivered : Except String Unit) (outside : Outside) (taskId : Id)
    (store : Store) : Except String Unit × Store :=
  match delivered with
  | .error message => (.error message, store)
  | .ok () =>
    match markSucceeded store.tasks taskId outside.now with
    | .error message => (.error message, store)
    | .ok (_, tasks) => (.ok (), { store with tasks := tasks })

end Shared

namespace AuthPasswordDelivery

def markResidentInviteFailed (tokenHash reason : String) (now : TimeValue)
    (invites : List ResidentInvite) : List ResidentInvite :=
  invites.map fun invite =>
    if invite.tokenHash = tokenHash ∧ invite.status = .SENT then
      { invite with
        status := .FAILED
        failedAt := some now
        failureReason := some (.ofList (sliceText 1000 reason.toList)) }
    else invite

def service : DeliveryService where
  kind := .AUTH_PASSWORD_EMAIL
  backoffMs := 15000
  attempt := fun outside processing store =>
    match processing.payload with
    | .passwordEmail payload =>
      deliverThenMark (outside.sendPasswordResetEmail payload) outside processing.id store
    | _ => (.error "unknown error", store)
  onExhausted := fun outside processing message store =>
    match processing.payload with
    | .passwordEmail payload =>
      match truthy payload.residentInviteTokenHash with
      | none => store
      | some tokenHash =>
        { store with
          residentInvites :=
            markResidentInviteFailed tokenHash message outside.now store.residentInvites }
    | _ => store

def processTask (outside : Outside) (taskId : Id) (allowThrow : Bool) (store : Store) :
    Except String Unit × Store :=
  service.process outside taskId allowThrow store

structure TaskInput where
  queueName : String
  jobName : String
  orgId : Option Id
  userId : Option Id
  referenceType : Option String
  referenceId : Option String
  maxAttempts : Option ℤ
  payload : PasswordEmailDeliveryPayload

def TaskInput.createInput (input : TaskInput) : DeliveryTaskCreateInput where
  queueName := input.queueName
  jobName := input.jobName
  orgId := input.orgId
  userId := input.userId
  referenceType := input.referenceType
  referenceId := input.referenceId
  payload := .passwordEmail input.payload
  maxAttempts := input.maxAttempts

def createAndDispatchTask (outside : Outside) (id : Id) (input : TaskInput) (store : Store) :
    Except String DeliveryTask × Store :=
  service.createAndDispatch outside id input.createInput store

end AuthPasswordDelivery

namespace PushNotifications

def service : DeliveryService where
  kind := .PUSH_NOTIFICATION
  backoffMs := 10000
  attempt := fun outside processing store =>
    match processing.payload with
    | .pushNotification payload =>
      deliverThenMark (outside.deliverToUsersNow processing.id payload) outside processing.id store
    | _ => (.error "unknown error", store)
  onExhausted := fun _ _ _ store => store

def processDeliveryTask (outside : Outside) (taskId : Id) (allowThrow : Bool) (store : Store) :
    Except String Unit × Store :=
  service.process outside taskId allowThrow store

def createInput (input : PushNotificationDeliveryPayload) : DeliveryTaskCreateInput where
  queueName := "push-deliveries"
  jobName := "notifications.push"
  orgId := some input.orgId
  payload := .pushNotification input
  maxAttempts := some 5

def enqueueDelivery (outside : Outside) (id : Id) (input : PushNotificationDeliveryPayload)
    (store : Store) : Except String DeliveryTask × Store :=
  service.createAndDispatch outside id (createInput input) store

def sendToUsers (outside : Outside) (id : Id) (input : PushNotificationDeliveryPayload)
    (store : Store) : Except String Unit × Store :=
  if outside.pushProviderNoop then (.ok (), store)
  else
    let userIds := input.userIds.eraseDups.filter (· ≠ "")
    if userIds.isEmpty then (.ok (), store)
    else
      let (created, store') := enqueueDelivery outside id { input with userIds := userIds } store
      (created.map fun _ => (), store')

end PushNotifications

namespace BroadcastDelivery

def data (payload : BroadcastFanoutDeliveryPayload) : JsonObject :=
  [("broadcastId", .string payload.broadcastId), ("buildingIds", .strings payload.buildingIds),
    ("senderUserId", .string payload.senderUserId), ("metadata", .document payload.metadata)]

def notifications (payload : BroadcastFanoutDeliveryPayload) : List NotificationInput :=
  payload.userIds.map fun userId =>
    { orgId := payload.orgId
      recipientUserId := userId
      type := .BROADCAST
      title := payload.title
      body := payload.body
      data := data payload }

/-- The transaction: nothing for a task that succeeded meanwhile, else the notifications and
the status, or neither. -/
def fanOut (outside : Outside) (taskId : Id) (payload : BroadcastFanoutDeliveryPayload)
    (store : Store) : Except String (List NotificationInput) × Store :=
  if (findById store.tasks taskId).any (·.status = .SUCCEEDED) then (.ok [], store)
  else
    match outside.commitNotifications (notifications payload) with
    | .error message => (.error message, store)
    | .ok () =>
      match markSucceeded store.tasks taskId outside.now with
      | .error message => (.error message, store)
      | .ok (_, tasks) =>
        (.ok (notifications payload),
          { store with
            tasks := tasks
            notifications := store.notifications ++ notifications payload })

/-- `queuePushForNotificationBatch`, whose failure is only logged. -/
def queuePush (outside : Outside) (payload : BroadcastFanoutDeliveryPayload) (store : Store) :
    Store :=
  (PushNotifications.sendToUsers outside outside.pushTaskId
    { orgId := payload.orgId
      userIds := payload.userIds
      title := payload.title
      body := payload.body
      data := some (("kind", .string "notification") ::
        ("notificationType", .string "BROADCAST") :: data payload) } store).2

def service : DeliveryService where
  kind := .BROADCAST_FANOUT
  backoffMs := 10000
  attempt := fun outside processing store =>
    match processing.payload with
    | .broadcastFanout payload =>
      match fanOut outside processing.id payload store with
      | (.error message, store') => (.error message, store')
      | (.ok created, store') =>
        if created.isEmpty then (.ok (), store')
        else
          match outside.publishCreatedNotifications payload.orgId created with
          | .error message => (.error message, store')
          | .ok () => (.ok (), queuePush outside payload store')
    | _ => (.error "unknown error", store)
  onExhausted := fun _ _ _ store => store

def processTask (outside : Outside) (taskId : Id) (allowThrow : Bool) (store : Store) :
    Except String Unit × Store :=
  service.process outside taskId allowThrow store

def createInput (payload : BroadcastFanoutDeliveryPayload) : DeliveryTaskCreateInput where
  queueName := "broadcast-deliveries"
  jobName := "broadcasts.fanout"
  orgId := some payload.orgId
  userId := some payload.senderUserId
  referenceType := some "BROADCAST"
  referenceId := some payload.broadcastId
  payload := .broadcastFanout payload
  maxAttempts := some 5

def enqueueFanoutTask (outside : Outside) (id : Id) (payload : BroadcastFanoutDeliveryPayload)
    (store : Store) : Except String DeliveryTask × Store :=
  service.createAndDispatch outside id (createInput payload) store

end BroadcastDelivery

end Towerdesk.Delivery
