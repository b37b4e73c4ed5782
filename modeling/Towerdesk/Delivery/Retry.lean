import Towerdesk.Delivery.Fanout
import Towerdesk.Delivery.Handover
import Towerdesk.Delivery.Stranding
import Towerdesk.Directory

/-!
# Retrying a delivery task

A retry claims a failed task, with the status that an execution uses too, has the service
of its kind create and dispatch a replacement, and marks the task retried by it; when the
service throws the claim is released. The steps of a retry and those of an execution of the
same task, each with one statement on the database, run in any order. What a service writes
beside the tasks before it creates the replacement is written with it, and the dispatch of
the replacement, which leaves the task alone, is one step.
-/

namespace Towerdesk.Delivery

open IsoDate (TimeValue)
open Interleaving (Machine Config)
open Handover (Event)

/-- What a step meets outside, whether it is lost there, and the error of its statement. -/
structure RetryTurn extends Turn where
  databaseError : Option String
  findUser : Id → Option User
  nextToken : String
  nextTokenHash : String
  nextExpiresAt : String
  replacementId : Id

section Replacement

variable (turn : RetryTurn)

def AuthPasswordDelivery.retryTask (task : DeliveryTask)
    (payload : PasswordEmailDeliveryPayload) :
    Result (AuthPasswordDelivery.TaskInput × List ResidentInvite) := do
  let userId ← Outcome.orThrow (truthy task.userId)
    (.conflict "Cannot retry auth delivery task without a user reference")
  let user ← Outcome.orThrow (turn.findUser userId)
    (.notFound "User not found for auth delivery task")
  Outcome.throwIf (!user.isActive)
    (.conflict "Cannot retry auth delivery task for an inactive user")
  let isInvite := payload.purpose = .RESIDENT_INVITE
  return (
    { queueName := task.queueName
      jobName := task.jobName
      orgId := task.orgId
      userId := task.userId
      referenceType := task.referenceType
      referenceId := some turn.nextTokenHash
      maxAttempts := some task.maxAttempts
      payload := { payload with
        email := user.email
        token := turn.nextToken
        expiresAt := turn.nextExpiresAt
        residentInviteTokenHash := if isInvite then some turn.nextTokenHash else none } },
    if isInvite ∧ (truthy task.orgId).isSome then [⟨turn.nextTokenHash, .SENT, none, none⟩] else [])

/-- The replacement that the service of the task's kind asks for, with the invites it sends. -/
def retryByKind (task : DeliveryTask) : Result (Dispatch × List ResidentInvite) :=
  match task.payload with
  | .passwordEmail payload =>
    (fun (input, invites) => (.passwordEmail input, invites)) <$>
      AuthPasswordDelivery.retryTask turn task payload
  | .pushNotification payload => .ok (.pushNotification payload, [])
  | .broadcastFanout payload => .ok (.broadcastFanout payload, [])

end Replacement

section Steps

inductive Retry
  | waiting
  | found
  | claiming
  | claimed (record : DeliveryTask)
  | created (dispatch : Dispatch) (replacement : DeliveryTask)
  | dispatched (replacement : DeliveryTask)
  | releasing (error : HttpException)
  | refused
  | retried (replacement : DeliveryTask)
  | failed (error : HttpException)
  | lost

/-- Emails and push notifications are delivered first and marked afterwards. -/
inductive Sender
  | passwordEmail
  | pushNotification
deriving DecidableEq, Repr

def Sender.service : Sender → DeliveryService
  | .passwordEmail => AuthPasswordDelivery.service
  | .pushNotification => PushNotifications.service

def Sender.delivered : Sender → Outside → Id → DeliveryTaskPayload → Except String Unit
  | .passwordEmail => AuthPasswordDelivery.delivered
  | .pushNotification => PushNotifications.delivered

inductive Sending
  | waiting
  | found
  | marking (existing : DeliveryTask)
  | processing (record : DeliveryTask)
  | delivered (record : DeliveryTask)
  | failing (record : DeliveryTask) (message : String)
  | stopped

inductive Party
  | sends (sender : Sender) (sending : Sending)
  | fansOut (execution : Execution)
  | retries (retry : Retry)

structure Ledger where
  store : Store
  events : List Event

def Ledger.write (ledger : Ledger) (tasks : DeliveryTasks) : Ledger :=
  { ledger with store := { ledger.store with tasks := tasks } }

def Ledger.note (ledger : Ledger) (event : Event) : Ledger :=
  { ledger with events := ledger.events ++ [event] }

variable (taskId : Id) (turn : RetryTurn)

def Sending.step (sender : Sender) (sending : Sending) (ledger : Ledger) : Sending × Ledger :=
  match sending with
  | .waiting =>
    match findById ledger.store.tasks taskId with
    | none => (.stopped, ledger)
    | some task =>
      (if task.kind ≠ sender.service.kind ∨ task.isFinished then .stopped else .found, ledger)
  | .found =>
    match findById ledger.store.tasks taskId with
    | none => (.stopped, ledger)
    | some existing => (if existing.isFinished then .stopped else .marking existing, ledger)
  | .marking existing =>
    match update ledger.store.tasks taskId (processingData existing turn.outside.now)
        turn.outside.now with
    | .error _ => (.stopped, ledger)
    | .ok (record, tasks) =>
      (if record.isFinished then .stopped else .processing record, ledger.write tasks)
  | .processing record =>
    match sender.delivered turn.outside record.id record.payload with
    | .error message => (.failing record message, ledger)
    | .ok () => (.delivered record, ledger.note .delivered)
  | .delivered record =>
    match markSucceeded ledger.store.tasks record.id turn.outside.now with
    | .error message => (.failing record message, ledger)
    | .ok (_, tasks) => (.stopped, ledger.write tasks)
  | .failing record message =>
    (.stopped, { ledger with
      store := (sender.service.fail turn.outside record message false ledger.store).2 })
  | .stopped => (.stopped, ledger)

/-- A fan-out delivers when its transaction commits. -/
def fanOutEvents : Execution → Execution → List Event
  | .fanningOut _ _, .failing _ _ => []
  | .fanningOut _ _, _ => [.delivered]
  | _, _ => []

def Execution.noted (execution : Execution) (ledger : Ledger) : Execution × Ledger :=
  let (execution', store) := execution.step taskId turn.outside ledger.store
  (execution', ⟨store, ledger.events ++ fanOutEvents execution execution'⟩)

/-- Why a task that was not claimed cannot be retried. -/
def retryRefusal : Option DeliveryTask → HttpException
  | none => .notFound "Delivery task not found"
  | some current =>
    if current.status = .RETRIED then .conflict "Delivery task has already been retried"
    else if current.status ≠ .FAILED then .conflict "Only failed delivery tasks can be retried"
    else if current.retriedAt.isSome ∨ (truthy current.replacedByTaskId).isSome then
      .conflict "Delivery task has already been retried"
    else .conflict "Delivery task retry is already in progress"

def createReplacement (record : DeliveryTask) (ledger : Ledger) : Retry × Ledger :=
  match retryByKind turn record with
  | .error error => (.releasing error, ledger)
  | .ok (dispatch, invites) =>
    match create ledger.store.tasks turn.replacementId dispatch.createInput turn.outside.now with
    | .error message => (.releasing (.internal message), ledger)
    | .ok (replacement, tasks) =>
      (.created dispatch replacement,
        { store := { ledger.store with
            tasks := tasks
            residentInvites := ledger.store.residentInvites ++ invites }
          events := ledger.events ++ [.replaced] })

def Retry.step (retry : Retry) (ledger : Ledger) : Retry × Ledger :=
  match retry with
  | .waiting =>
    match findById ledger.store.tasks taskId with
    | none => (.failed (.notFound "Delivery task not found"), ledger)
    | some _ => (.found, ledger)
  | .found =>
    match claimForRetry ledger.store.tasks taskId turn.outside.now with
    | (none, _) => (.refused, ledger)
    | (some _, tasks) => (.claiming, (ledger.write tasks).note .claimed)
  | .claiming =>
    match findById ledger.store.tasks taskId with
    | none => (.refused, ledger)
    | some record => (.claimed record, ledger)
  | .claimed record => createReplacement turn record ledger
  | .created dispatch replacement =>
    match dispatch.service.dispatchTask turn.outside replacement ledger.store with
    | (.error message, store) => (.releasing (.internal message), { ledger with store := store })
    | (.ok (), store) => (.dispatched replacement, { ledger with store := store })
  | .dispatched replacement =>
    match markRetried ledger.store.tasks taskId replacement.id turn.outside.now with
    | .error message => (.failed (.internal message), ledger)
    | .ok (_, tasks) => (.retried replacement, ledger.write tasks)
  | .releasing error =>
    match releaseRetryClaim ledger.store.tasks taskId turn.outside.now with
    | .error message => (.failed (.internal message), ledger)
    | .ok (_, tasks) => (.failed error, ledger.write tasks)
  | .refused => (.failed (retryRefusal (findById ledger.store.tasks taskId)), ledger)
  | .retried replacement => (.retried replacement, ledger)
  | .failed error => (.failed error, ledger)
  | .lost => (.lost, ledger)

end Steps

section Alone

variable (sender : Sender) (taskId : Id) (turn : RetryTurn)

/-- The steps of an execution with nobody in between. -/
def sendingAlone (store : Store) : ℕ → Sending × Ledger
  | 0 => (.waiting, ⟨store, []⟩)
  | n + 1 => (sendingAlone store n).1.step taskId turn sender (sendingAlone store n).2

variable {sender taskId turn} {store : Store} {ledger : Ledger} {n : ℕ}

theorem sendingAlone_next {sending : Sending}
    (h : sendingAlone sender taskId turn store n = (sending, ledger)) :
    sendingAlone sender taskId turn store (n + 1) = sending.step taskId turn sender ledger := by
  have hnext : sendingAlone sender taskId turn store (n + 1) =
      (sendingAlone sender taskId turn store n).1.step taskId turn sender
        (sendingAlone sender taskId turn store n).2 := rfl
  rw [hnext, h]

theorem sendingAlone_stopped (h : sendingAlone sender taskId turn store n = (.stopped, ledger))
    (k : ℕ) : (sendingAlone sender taskId turn store (n + k)).2 = ledger :=
  congrArg Prod.snd (Run.rest_of_fixed (fun r => r.1.step taskId turn sender r.2) (fun _ => rfl) h
    rfl k)

theorem Sender.attempt_eq (sender : Sender) (outside : Outside) (record : DeliveryTask)
    (store : Store) : sender.service.attempt outside record store =
      deliverThenMark (sender.delivered outside record.id record.payload) outside record.id
        store := by
  cases sender with
  | passwordEmail =>
    simp only [Sender.service, AuthPasswordDelivery.service, Sender.delivered,
      AuthPasswordDelivery.delivered]
    cases record.payload <;> rfl
  | pushNotification =>
    simp only [Sender.service, PushNotifications.service, Sender.delivered,
      PushNotifications.delivered]
    cases record.payload <;> rfl

theorem sendingAlone_attempt {record : DeliveryTask}
    (h : sendingAlone sender taskId turn store n = (.processing record, ledger)) :
    (sendingAlone sender taskId turn store (n + 3)).2.store =
      match sender.service.attempt turn.outside record ledger.store with
      | (.ok (), store') => store'
      | (.error message, store') =>
        (sender.service.fail turn.outside record message false store').2 := by
  have hone := sendingAlone_next h
  simp only [Sending.step] at hone
  rw [Sender.attempt_eq]
  unfold deliverThenMark
  cases hdelivered : sender.delivered turn.outside record.id record.payload with
  | error message =>
    simp only [hdelivered] at hone
    rw [sendingAlone_stopped (sendingAlone_next hone) 1]
  | ok u =>
    simp only [hdelivered] at hone
    have htwo := sendingAlone_next hone
    simp only [Sending.step, Ledger.note] at htwo
    simp only
    cases hmark : markSucceeded ledger.store.tasks record.id turn.outside.now with
    | error message =>
      simp only [hmark] at htwo
      rw [sendingAlone_stopped (sendingAlone_next htwo) 0]
    | ok marked =>
      simp only [hmark] at htwo
      rw [sendingAlone_stopped htwo 1]
      rfl

/-- An execution with nobody in between does what `processTask` does. -/
theorem sendingAlone_process (sender : Sender) (taskId : Id) (turn : RetryTurn)
    (allowThrow : Bool) (store : Store) :
    (sendingAlone sender taskId turn store 6).2.store =
      (sender.service.process turn.outside taskId allowThrow store).2 := by
  have hone : sendingAlone sender taskId turn store 1 =
      Sending.waiting.step taskId turn sender ⟨store, []⟩ := rfl
  simp only [Sending.step] at hone
  unfold DeliveryService.process
  cases hfind : findById store.tasks taskId with
  | none =>
    simp only [hfind] at hone
    rw [sendingAlone_stopped hone 5]
  | some task =>
    simp only [hfind] at hone
    by_cases hskip : task.kind ≠ sender.service.kind ∨ task.isFinished
    · rw [if_pos hskip] at hone
      simp only
      rw [if_pos (by exact hskip), sendingAlone_stopped hone 5]
    rw [if_neg hskip] at hone
    have hopen : ¬ task.isFinished = true := fun h => hskip (.inr h)
    have htwo := sendingAlone_next hone
    simp only [Sending.step, hfind, if_neg hopen] at htwo
    have hthree := sendingAlone_next htwo
    simp only [Sending.step] at hthree
    simp only [markProcessing, hfind, if_neg hopen]
    rw [if_neg (by exact hskip)]
    cases hupdate : update store.tasks taskId (processingData task turn.outside.now)
        turn.outside.now with
    | error message =>
      simp only [hupdate] at hthree
      simp only [Except.map]
      rw [sendingAlone_stopped hthree 3]
    | ok marked =>
      obtain ⟨record, tasks⟩ := marked
      simp only [hupdate] at hthree
      simp only [Except.map, Prod.map]
      by_cases hfinished : record.isFinished
      · rw [if_pos hfinished] at hthree
        rw [if_pos hfinished, sendingAlone_stopped hthree 3]
        rfl
      rw [if_neg hfinished] at hthree
      rw [if_neg hfinished, sendingAlone_attempt hthree]
      simp only [Ledger.write]
      generalize sender.service.attempt turn.outside record { store with tasks := tasks } = attempted
      obtain ⟨outcome, store'⟩ := attempted
      cases outcome with
      | ok u => rfl
      | error message => exact (fail_store _ _ _ _ _).symm

end Alone

section Errors

/-- Where an error on the database leads, from each statement. -/
def Sending.throws (message : String) : Sending → Sending
  | .processing record | .delivered record => .failing record message
  | .waiting | .found | .marking _ | .failing _ _ | .stopped => .stopped

/-- What fails behind a committed fan-out is only logged. -/
def Execution.throws (message : String) : Execution → Execution
  | .processing record | .fanningOut record _ => .failing record message
  | .publishing _ _ | .succeeded => .succeeded
  | .waiting | .found | .marking _ | .failing _ _ | .stopped => .stopped

def Retry.throws (message : String) : Retry → Retry
  | .claimed _ | .created _ _ => .releasing (.internal message)
  | .retried replacement => .retried replacement
  | .failed error => .failed error
  | .lost => .lost
  | .waiting | .found | .claiming | .dispatched _ | .releasing _ | .refused =>
    .failed (.internal message)

def Party.throws (message : String) : Party → Party
  | .sends sender sending => .sends sender (sending.throws message)
  | .fansOut execution => .fansOut (execution.throws message)
  | .retries retry => .retries (retry.throws message)

def Party.crashed : Party → Party
  | .sends sender _ => .sends sender .stopped
  | .fansOut _ => .fansOut .stopped
  | .retries _ => .retries .lost

end Errors

section Machine

def Party.act (taskId : Id) (turn : RetryTurn) : Party → Ledger → Party × Ledger
  | .sends sender sending, ledger =>
    (sending.step taskId turn sender ledger).map (.sends sender) id
  | .fansOut execution, ledger => (execution.noted taskId turn ledger).map .fansOut id
  | .retries retry, ledger => (retry.step taskId turn ledger).map .retries id

def Party.step (taskId : Id) (turn : RetryTurn) (party : Party) (ledger : Ledger) :
    Party × Ledger :=
  if turn.crashes then (party.crashed, ledger)
  else
    match turn.databaseError with
    | some message => (party.throws message, ledger)
    | none => party.act taskId turn ledger

def retryMachine (π : Type*) (taskId : Id) : Machine π RetryTurn Party Ledger where
  step _ turn party ledger := party.step taskId turn ledger

/-- What a process does with the task: executions of a kind that is not the task's stop. -/
inductive Role
  | execution (kind : DeliveryTaskKind)
  | retry
deriving DecidableEq, Repr

def Role.start : Role → Party
  | .execution .AUTH_PASSWORD_EMAIL => .sends .passwordEmail .waiting
  | .execution .PUSH_NOTIFICATION => .sends .pushNotification .waiting
  | .execution .BROADCAST_FANOUT => .fansOut .waiting
  | .retry => .retries .waiting

def raceStart {π : Type*} (role : π → Role) (store : Store) : Config π Party Ledger :=
  ⟨⟨store, []⟩, fun p => (role p).start⟩

def raced {π : Type*} [DecidableEq π] (taskId : Id) (role : π → Role) (store : Store)
    (ms : List (π × RetryTurn)) : Config π Party Ledger :=
  Run.exec (Interleaving.next (retryMachine π taskId)) (raceStart role store) ms

end Machine

end Towerdesk.Delivery
