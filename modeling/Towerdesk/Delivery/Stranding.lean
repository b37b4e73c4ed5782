import Towerdesk.Delivery.Frames

/-!
# Stranded tasks

A task that the queue did not take is processed once, here and now, with the bookkeeping of
a worker: a failed attempt leaves it PENDING for an attempt that nobody will make, unless
it was the last one allowed. So a dispatched task is held by a job, succeeded or failed
exactly when the queue takes it, the delivery succeeds, or one attempt is all it has.
-/

namespace Towerdesk.Delivery

open IsoDate (TimeValue)

section Dispatches

inductive Dispatch
  | passwordEmail (input : AuthPasswordDelivery.TaskInput)
  | pushNotification (input : PushNotificationDeliveryPayload)
  | broadcastFanout (payload : BroadcastFanoutDeliveryPayload)

namespace Dispatch

def service : Dispatch → DeliveryService
  | .passwordEmail _ => AuthPasswordDelivery.service
  | .pushNotification _ => PushNotifications.service
  | .broadcastFanout _ => BroadcastDelivery.service

def createInput : Dispatch → DeliveryTaskCreateInput
  | .passwordEmail input => input.createInput
  | .pushNotification input => PushNotifications.createInput input
  | .broadcastFanout payload => BroadcastDelivery.createInput payload

def run (d : Dispatch) (outside : Outside) (id : Id) (store : Store) :
    Except String DeliveryTask × Store :=
  match d with
  | .passwordEmail input => AuthPasswordDelivery.createAndDispatchTask outside id input store
  | .pushNotification input => PushNotifications.enqueueDelivery outside id input store
  | .broadcastFanout payload => BroadcastDelivery.enqueueFanoutTask outside id payload store

theorem run_eq (d : Dispatch) (outside : Outside) (id : Id) (store : Store) :
    d.run outside id store = d.service.createAndDispatch outside id d.createInput store := by
  cases d with
  | passwordEmail input => rfl
  | pushNotification input => rfl
  | broadcastFanout payload => rfl

def maxAttempts (d : Dispatch) : ℤ := d.createInput.maxAttempts.getD 5

end Dispatch

/-- The outside lets the delivery of a task through. -/
def Outside.Delivers (outside : Outside) (id : Id) : DeliveryTaskPayload → Prop
  | .passwordEmail payload => outside.sendPasswordResetEmail payload = .ok ()
  | .pushNotification payload => outside.deliverToUsersNow id payload = .ok ()
  | .broadcastFanout payload =>
    outside.commitNotifications (BroadcastDelivery.notifications payload) = .ok () ∧
      (payload.userIds.isEmpty ∨ outside.publishCreatedNotifications payload.orgId
        (BroadcastDelivery.notifications payload) = .ok ())

/-- A task is held by a new job, or succeeded, or failed and can be retried. -/
def NotStranded (before after : Store) (id : Id) (now : TimeValue) : Prop :=
  (∃ job, after.jobs = before.jobs ++ [job] ∧ job.taskId = id) ∨
    ∃ task, findById after.tasks id = some task ∧ (task.status = .SUCCEEDED ∨
      task.status = .FAILED ∧ (claimForRetry after.tasks id now).1.isSome)

end Dispatches

section Rows

structure Unretried (tasks : DeliveryTasks) (id : Id) (task : DeliveryTask) : Prop where
  found : tasks.findUnique id = some task
  retriedAt : task.retriedAt = none
  replacedByTaskId : task.replacedByTaskId = none

theorem Unretried.modify {tasks : DeliveryTasks} {id : Id} {task : DeliveryTask}
    (h : Unretried tasks id task) (data : TaskData) (now : TimeValue) :
    Unretried (tasks.modify id (data.patch now)) id ((data.patch now).apply task) :=
  ⟨findUnique_modify_self _ h.found, h.retriedAt, h.replacedByTaskId⟩

theorem Unretried.id_eq {tasks : DeliveryTasks} {id : Id} {task : DeliveryTask}
    (h : Unretried tasks id task) : task.id = id :=
  (Table.findUnique_eq_some.mp h.found).2

theorem Unretried.of_untouched {id : Id} {task : DeliveryTask} {before after : Store}
    (h : Unretried before.tasks id task) (huntouched : Untouched id before after) :
    Unretried after.tasks id task :=
  ⟨(huntouched task h.found).1, h.retriedAt, h.replacedByTaskId⟩

end Rows

section Attempts

/-- What the shared code needs of an attempt: it succeeds exactly when the outside delivers,
and leaves the row of the task in place. -/
structure DeliveryService.Lawful (service : DeliveryService) : Prop where
  delivered : ∀ {outside store id task}, Unretried store.tasks id task →
    task.kind = service.kind → task.status = .PROCESSING → outside.Delivers id task.payload →
    (service.attempt outside (mapRecord task) store).1 = .ok () ∧
      ∃ task', Unretried (service.attempt outside (mapRecord task) store).2.tasks id task' ∧
        task'.status = .SUCCEEDED
  undelivered : ∀ {outside store id task}, Unretried store.tasks id task →
    task.kind = service.kind → task.status = .PROCESSING → ¬ outside.Delivers id task.payload →
    (∃ message, (service.attempt outside (mapRecord task) store).1 = .error message) ∧
      (service.attempt outside (mapRecord task) store).2.jobs = store.jobs ∧
      ∃ task', Unretried (service.attempt outside (mapRecord task) store).2.tasks id task'
  exhausted : ∀ outside processing message store,
    (service.onExhausted outside processing message store).tasks = store.tasks ∧
      (service.onExhausted outside processing message store).jobs = store.jobs

theorem exists_error {x : Except String Unit} (h : x ≠ .ok ()) : ∃ message, x = .error message := by
  cases x with
  | error message => exact ⟨message, rfl⟩
  | ok u => exact absurd rfl h

theorem lawful_of_deliverThenMark {service : DeliveryService}
    (delivered : Outside → Id → DeliveryTaskPayload → Except String Unit)
    (hattempt : ∀ outside processing store, processing.kind = service.kind →
      service.attempt outside processing store =
        deliverThenMark (delivered outside processing.id processing.payload) outside
          processing.id store)
    (hdelivers : ∀ outside id payload, payload.kind = service.kind →
      (outside.Delivers id payload ↔ delivered outside id payload = .ok ()))
    (hexhausted : ∀ outside processing message store,
      (service.onExhausted outside processing message store).tasks = store.tasks ∧
        (service.onExhausted outside processing message store).jobs = store.jobs) :
    service.Lawful where
  delivered := by
    intro outside store id task h hkind _ hdelivered
    have hok := (hdelivers outside id task.payload hkind).mp hdelivered
    have hid : (mapRecord task).id = id := h.id_eq
    have hpayload : (mapRecord task).payload = task.payload := rfl
    rw [hattempt outside (mapRecord task) store hkind, hid, hpayload, hok, deliverThenMark,
      markSucceeded, update_of_findUnique h.found]
    exact ⟨rfl, _, h.modify _ _, rfl⟩
  undelivered := by
    intro outside store id task h hkind _ hdelivered
    obtain ⟨message, herror⟩ := exists_error (mt (hdelivers outside id task.payload hkind).mpr
      hdelivered)
    have hid : (mapRecord task).id = id := h.id_eq
    have hpayload : (mapRecord task).payload = task.payload := rfl
    rw [hattempt outside (mapRecord task) store hkind, hid, hpayload, herror]
    exact ⟨⟨message, rfl⟩, rfl, task, h⟩
  exhausted := hexhausted

def AuthPasswordDelivery.delivered (outside : Outside) (_ : Id) :
    DeliveryTaskPayload → Except String Unit
  | .passwordEmail payload => outside.sendPasswordResetEmail payload
  | _ => .error "unknown error"

theorem lawful_authPasswordDelivery : AuthPasswordDelivery.service.Lawful := by
  refine lawful_of_deliverThenMark AuthPasswordDelivery.delivered ?_ ?_ ?_
  · intro outside processing store hkind
    obtain ⟨email, hpayload⟩ := DeliveryTaskPayload.exists_passwordEmail hkind
    simp only [AuthPasswordDelivery.service, AuthPasswordDelivery.delivered, hpayload]
  · intro outside id payload hkind
    obtain ⟨email, rfl⟩ := DeliveryTaskPayload.exists_passwordEmail hkind
    exact Iff.rfl
  · intro outside processing message store
    simp only [AuthPasswordDelivery.service]
    split
    · split <;> exact ⟨rfl, rfl⟩
    · exact ⟨rfl, rfl⟩

def PushNotifications.delivered (outside : Outside) (id : Id) :
    DeliveryTaskPayload → Except String Unit
  | .pushNotification payload => outside.deliverToUsersNow id payload
  | _ => .error "unknown error"

theorem lawful_pushNotifications : PushNotifications.service.Lawful := by
  refine lawful_of_deliverThenMark PushNotifications.delivered ?_ ?_ fun _ _ _ _ => ⟨rfl, rfl⟩
  · intro outside processing store hkind
    obtain ⟨push, hpayload⟩ := DeliveryTaskPayload.exists_pushNotification hkind
    simp only [PushNotifications.service, PushNotifications.delivered, hpayload]
  · intro outside id payload hkind
    obtain ⟨push, rfl⟩ := DeliveryTaskPayload.exists_pushNotification hkind
    exact Iff.rfl

section Broadcast

variable {outside : Outside} {store : Store} {id : Id} {task : DeliveryTask}
  {payload : BroadcastFanoutDeliveryPayload}

theorem fanOut_ok (h : Unretried store.tasks id task) (hopen : task.status ≠ .SUCCEEDED)
    (hcommit : outside.commitNotifications (BroadcastDelivery.notifications payload) = .ok ()) :
    BroadcastDelivery.fanOut outside id payload store =
      (.ok (BroadcastDelivery.notifications payload),
        { store with
          tasks := store.tasks.modify id ((succeededData outside.now).patch outside.now)
          notifications := store.notifications ++ BroadcastDelivery.notifications payload }) := by
  have hstatus : ¬ (mapRecord task).status = .SUCCEEDED := hopen
  simp only [BroadcastDelivery.fanOut, findById_of_findUnique h.found, hcommit, markSucceeded,
    update_of_findUnique h.found, Option.any_some, hstatus, decide_false, Bool.false_eq_true,
    if_false]

theorem fanOut_error (h : Unretried store.tasks id task) (hopen : task.status ≠ .SUCCEEDED)
    {message : String}
    (hcommit : outside.commitNotifications (BroadcastDelivery.notifications payload) =
      .error message) :
    BroadcastDelivery.fanOut outside id payload store = (.error message, store) := by
  have hstatus : ¬ (mapRecord task).status = .SUCCEEDED := hopen
  simp only [BroadcastDelivery.fanOut, findById_of_findUnique h.found, hcommit,
    Option.any_some, hstatus, decide_false, Bool.false_eq_true, if_false]

theorem isEmpty_notifications :
    (BroadcastDelivery.notifications payload).isEmpty = payload.userIds.isEmpty :=
  List.isEmpty_map

/-- A fan-out that committed can still fail to be published. -/
theorem attempt_broadcast (h : Unretried store.tasks id task) (hopen : task.status ≠ .SUCCEEDED)
    (hpayload : task.payload = .broadcastFanout payload)
    (hcommit : outside.commitNotifications (BroadcastDelivery.notifications payload) = .ok ()) :
    ∃ store', store'.jobs = store.jobs ∧
      (∃ task', Unretried store'.tasks id task' ∧ task'.status = .SUCCEEDED) ∧
      (payload.userIds.isEmpty = true →
        BroadcastDelivery.service.attempt outside (mapRecord task) store = (.ok (), store')) ∧
      ∀ published, payload.userIds.isEmpty = false →
        outside.publishCreatedNotifications payload.orgId
          (BroadcastDelivery.notifications payload) = published →
        BroadcastDelivery.service.attempt outside (mapRecord task) store =
          (published, if published.toBool then BroadcastDelivery.queuePush outside payload store'
            else store') := by
  have hid : (mapRecord task).id = id := h.id_eq
  have hpayload' : (mapRecord task).payload = .broadcastFanout payload := hpayload
  refine ⟨{ store with
      tasks := store.tasks.modify id ((succeededData outside.now).patch outside.now)
      notifications := store.notifications ++ BroadcastDelivery.notifications payload },
    rfl, ⟨_, h.modify (succeededData outside.now) outside.now, rfl⟩, ?_, ?_⟩
  · intro hnobody
    simp only [BroadcastDelivery.service, hpayload', hid, fanOut_ok h hopen hcommit,
      isEmpty_notifications, hnobody, if_true]
  · intro published hsomebody hpublished
    simp only [BroadcastDelivery.service, hpayload', hid, fanOut_ok h hopen hcommit,
      isEmpty_notifications, hsomebody, Bool.false_eq_true, if_false, hpublished]
    cases published <;> rfl

theorem lawful_broadcastDelivery : BroadcastDelivery.service.Lawful where
  delivered := by
    intro outside store id task h hkind hstatus hdelivers
    have hopen : task.status ≠ .SUCCEEDED := by
      rw [hstatus]
      decide
    obtain ⟨payload, hpayload⟩ := DeliveryTaskPayload.exists_broadcastFanout hkind
    rw [hpayload] at hdelivers
    obtain ⟨hcommit, hpublish⟩ := hdelivers
    obtain ⟨store', -, ⟨task', htask', hsucceeded⟩, hnobody, hsomebody⟩ :=
      attempt_broadcast h hopen hpayload hcommit
    cases hempty : payload.userIds.isEmpty with
    | true =>
      rw [hnobody hempty]
      exact ⟨rfl, task', htask', hsucceeded⟩
    | false =>
      have hok := hpublish.resolve_left (ne_true_of_eq_false hempty)
      rw [hsomebody (.ok ()) hempty hok]
      exact ⟨rfl, task', htask'.of_untouched (untouched_queuePush outside payload), hsucceeded⟩
  undelivered := by
    intro outside store id task h hkind hstatus hdelivers
    have hopen : task.status ≠ .SUCCEEDED := by
      rw [hstatus]
      decide
    obtain ⟨payload, hpayload⟩ := DeliveryTaskPayload.exists_broadcastFanout hkind
    rw [hpayload] at hdelivers
    by_cases hcommit :
        outside.commitNotifications (BroadcastDelivery.notifications payload) = .ok ()
    · -- the fan-out is there, and what fails is to publish it
      obtain ⟨hempty, hpublish⟩ := not_or.mp (not_and.mp hdelivers hcommit)
      obtain ⟨message, herror⟩ := exists_error hpublish
      obtain ⟨store', hjobs, ⟨task', htask', -⟩, -, hsomebody⟩ :=
        attempt_broadcast h hopen hpayload hcommit
      rw [hsomebody (.error message) (eq_false_of_ne_true hempty) herror]
      exact ⟨⟨message, rfl⟩, hjobs, task', htask'⟩
    · obtain ⟨message, herror⟩ := exists_error hcommit
      have hid : (mapRecord task).id = id := h.id_eq
      have hpayload' : (mapRecord task).payload = .broadcastFanout payload := hpayload
      simp only [BroadcastDelivery.service, hpayload', hid, fanOut_error h hopen herror]
      exact ⟨⟨message, rfl⟩, trivial, task, h⟩
  exhausted := fun _ _ _ _ => ⟨rfl, rfl⟩

end Broadcast

end Attempts

section Processing

variable {service : DeliveryService} {outside : Outside} {store : Store} {id : Id}
  {task : DeliveryTask}

def statusAfterFailure (task : DeliveryTask) : DeliveryTaskStatus :=
  if task.maxAttempts ≤ task.attemptCount then .FAILED else .PENDING

theorem fail_spec (outside : Outside) (message : String) (hlawful : service.Lawful)
    {processing : DeliveryTask}
    (h : Unretried store.tasks id task) (hid : processing.id = id) :
    (service.fail outside processing message false store).1 = .ok () ∧
      (service.fail outside processing message false store).2.jobs = store.jobs ∧
      ∃ task', Unretried (service.fail outside processing message false store).2.tasks id task' ∧
        task'.status = statusAfterFailure processing := by
  subst hid
  unfold DeliveryService.fail statusAfterFailure
  by_cases hlast : processing.maxAttempts ≤ processing.attemptCount
  · simp only [if_pos hlast, markFailed, update_of_findUnique h.found, hlawful.exhausted]
    exact ⟨rfl, trivial, _, h.modify _ _, rfl⟩
  · simp only [if_neg hlast, markRetryScheduled, update_of_findUnique h.found]
    exact ⟨rfl, trivial, _, h.modify _ _, rfl⟩

theorem process_eq (outside : Outside) (h : Unretried store.tasks id task)
    (hkind : task.kind = service.kind) (hopen : task.isFinished = false) :
    ∃ tasks processing, Unretried tasks id processing ∧ processing.kind = service.kind ∧
      processing.status = .PROCESSING ∧ processing.payload = task.payload ∧
      processing.maxAttempts = task.maxAttempts ∧
      processing.attemptCount = task.attemptCount + 1 ∧
      service.process outside id false store =
        match service.attempt outside (mapRecord processing) { store with tasks := tasks } with
        | (.ok (), store') => (.ok (), store')
        | (.error message, store') =>
          service.fail outside (mapRecord processing) message false store' := by
  refine ⟨_, _, h.modify (processingData (mapRecord task) outside.now) outside.now, hkind, rfl, rfl,
    rfl, rfl, ?_⟩
  have hskip : ¬ ((mapRecord task).kind ≠ service.kind ∨ (mapRecord task).isFinished = true) :=
    not_or.mpr ⟨not_not.mpr hkind, ne_true_of_eq_false hopen⟩
  simp only [DeliveryService.process, findById_of_findUnique h.found, if_neg hskip,
    markProcessing_of_findUnique h.found hopen]
  exact if_neg Bool.false_ne_true

/-- Processing here and now never throws; what it leaves depends on the delivery. -/
theorem process_spec (outside : Outside) (hlawful : service.Lawful)
    (h : Unretried store.tasks id task) (hkind : task.kind = service.kind)
    (hopen : task.isFinished = false) :
    (service.process outside id false store).1 = .ok () ∧
      (outside.Delivers id task.payload →
        ∃ task', Unretried (service.process outside id false store).2.tasks id task' ∧
          task'.status = .SUCCEEDED) ∧
      (¬ outside.Delivers id task.payload →
        (service.process outside id false store).2.jobs = store.jobs ∧
        ∃ task', Unretried (service.process outside id false store).2.tasks id task' ∧
          task'.status = statusAfterFailure
            { task with attemptCount := task.attemptCount + 1 }) := by
  obtain ⟨tasks, processing, hrow, hkind', hstatus, hpayload, hmax, hcount, heq⟩ :=
    process_eq outside h hkind hopen
  have hrow' : Unretried ({ store with tasks := tasks } : Store).tasks id processing := hrow
  rw [heq]
  by_cases hdelivers : outside.Delivers id task.payload
  · obtain ⟨hok, task', htask', hsucceeded⟩ :=
      hlawful.delivered hrow' hkind' hstatus (hpayload ▸ hdelivers)
    generalize service.attempt outside (mapRecord processing) { store with tasks := tasks } =
      attempted at hok htask' ⊢
    obtain ⟨outcome, store'⟩ := attempted
    obtain rfl : outcome = .ok () := hok
    exact ⟨rfl, fun _ => ⟨task', htask', hsucceeded⟩, fun hnot => absurd hdelivers hnot⟩
  · obtain ⟨⟨message, herror⟩, hjobs, task', htask'⟩ :=
      hlawful.undelivered hrow' hkind' hstatus (hpayload ▸ hdelivers)
    generalize service.attempt outside (mapRecord processing) { store with tasks := tasks } =
      attempted at herror hjobs htask' ⊢
    obtain ⟨outcome, store'⟩ := attempted
    obtain rfl : outcome = .error message := herror
    have hid : (mapRecord processing).id = id := hrow.id_eq
    obtain ⟨hok, hjobs', task'', htask'', hafter⟩ :=
      fail_spec outside message hlawful htask' hid
    refine ⟨hok, fun hyes => absurd hyes hdelivers, fun _ => ?_⟩
    refine ⟨hjobs'.trans hjobs, task'', htask'', ?_⟩
    rw [hafter]
    simp only [statusAfterFailure, mapRecord, hmax, hcount]

end Processing

section Runs

variable {d : Dispatch} {outside : Outside} {store store' : Store} {id : Id}
  {task : DeliveryTask}

theorem lawful (d : Dispatch) : d.service.Lawful := by
  cases d with
  | passwordEmail input => exact lawful_authPasswordDelivery
  | pushNotification input => exact lawful_pushNotifications
  | broadcastFanout payload => exact lawful_broadcastDelivery

theorem kind_row (d : Dispatch) (id : Id) (now : TimeValue) :
    (d.createInput.row id now).kind = d.service.kind := by
  cases d <;> rfl

theorem run_cases (h : d.run outside id store = (.ok task, store')) :
    ∃ tasks, Unretried tasks id (d.createInput.row id outside.now) ∧
      ((outside.queue = .accepts ∧ store'.tasks = tasks ∧
          ∃ job, job.taskId = id ∧ store'.jobs = store.jobs ++ [job]) ∨
        (outside.queue ≠ .accepts ∧
          store' = (d.service.process outside id false { store with tasks := tasks }).2)) := by
  rw [Dispatch.run_eq, DeliveryService.createAndDispatch] at h
  cases hcreate : create store.tasks id d.createInput outside.now with
  | error message =>
    rw [hcreate] at h
    cases h
  | ok created =>
    obtain ⟨created, tasks⟩ := created
    obtain ⟨rfl, hfound⟩ := findUnique_create hcreate
    simp only [hcreate] at h
    refine ⟨tasks, ⟨hfound, rfl, rfl⟩, ?_⟩
    cases hqueue : outside.queue with
    | accepts =>
      simp only [DeliveryService.dispatchTask, enqueue, hqueue] at h
      obtain ⟨-, rfl⟩ := Prod.mk.inj h
      exact .inl ⟨rfl, rfl, _, rfl, rfl⟩
    | disabled | throws message =>
      refine .inr ⟨nofun, ?_⟩
      simp only [DeliveryService.dispatchTask, enqueue, hqueue] at h
      have hid : (mapRecord (d.createInput.row id outside.now)).id = id := rfl
      rw [hid] at h
      generalize d.service.process outside id false { store with tasks := tasks } = processed at h ⊢
      obtain ⟨outcome, after⟩ := processed
      cases outcome with
      | error message => cases h
      | ok u => exact (Prod.mk.inj h).2.symm

theorem claimForRetry_of_unretried {tasks : DeliveryTasks} {now : TimeValue}
    (h : Unretried tasks id task) (hfailed : task.status = .FAILED) :
    (claimForRetry tasks id now).1.isSome := by
  simp only [claimForRetry, h.found, hfailed, h.retriedAt, h.replacedByTaskId, and_self, if_true,
    findById_of_findUnique (findUnique_modify_self _ h.found), Option.isSome_some]

theorem not_notStranded {now : TimeValue} (hjobs : store'.jobs = store.jobs)
    (h : Unretried store'.tasks id task) (hpending : task.status = .PENDING) :
    ¬ NotStranded store store' id now := by
  rintro (⟨job, hjob, -⟩ | ⟨task', htask', hstatus⟩)
  · rw [hjobs] at hjob
    have hlength := congrArg List.length hjob
    simp at hlength
  · rw [findById_of_findUnique h.found] at htask'
    obtain rfl := Option.some.inj htask'
    have hpending' : (mapRecord task).status = .PENDING := hpending
    rw [hpending'] at hstatus
    rcases hstatus with hstatus | ⟨hstatus, -⟩ <;> cases hstatus

theorem run_spec (h : d.run outside id store = (.ok task, store')) :
    (outside.queue = .accepts ∨ outside.Delivers id d.createInput.payload ∨ d.maxAttempts ≤ 1 →
        NotStranded store store' id outside.now) ∧
      (¬ (outside.queue = .accepts ∨ outside.Delivers id d.createInput.payload ∨
          d.maxAttempts ≤ 1) → ¬ NotStranded store store' id outside.now) := by
  obtain ⟨tasks, hrow, ⟨hqueue, -, job, hjob, hjobs⟩ | ⟨hqueue, rfl⟩⟩ := run_cases h
  · exact ⟨fun _ => .inl ⟨job, hjobs, hjob⟩, fun hnot => absurd (.inl hqueue) hnot⟩
  have hrow' : Unretried ({ store with tasks := tasks } : Store).tasks id
      (d.createInput.row id outside.now) := hrow
  have hspec := process_spec outside (lawful d) hrow' (kind_row d id outside.now) rfl
  by_cases hdelivers : outside.Delivers id d.createInput.payload
  · obtain ⟨task', htask', hsucceeded⟩ := hspec.2.1 hdelivers
    refine ⟨fun _ => .inr ⟨_, findById_of_findUnique htask'.found, .inl hsucceeded⟩, fun hnot => ?_⟩
    exact absurd (.inr (.inl hdelivers)) hnot
  · obtain ⟨hjobs, task', htask', hstatus⟩ := hspec.2.2 hdelivers
    have hattempts : statusAfterFailure
        { d.createInput.row id outside.now with
          attemptCount := (d.createInput.row id outside.now).attemptCount + 1 } =
        if d.maxAttempts ≤ 1 then .FAILED else .PENDING := rfl
    rw [hattempts] at hstatus
    constructor
    · intro hwhen
      rw [if_pos ((hwhen.resolve_left hqueue).resolve_left hdelivers)] at hstatus
      exact .inr ⟨_, findById_of_findUnique htask'.found,
        .inr ⟨hstatus, claimForRetry_of_unretried htask' hstatus⟩⟩
    · intro hnot
      rw [if_neg fun hone => hnot (.inr (.inr hone))] at hstatus
      exact not_notStranded hjobs htask' hstatus

/-- A dispatch leaves its task held, succeeded or failed exactly when the queue takes the
job, the delivery succeeds, or the one attempt made is the last. -/
theorem not_stranded_iff (h : d.run outside id store = (.ok task, store')) :
    NotStranded store store' id outside.now ↔
      outside.queue = .accepts ∨ outside.Delivers id d.createInput.payload ∨
        d.maxAttempts ≤ 1 := by
  obtain ⟨hkept, hstranded⟩ := run_spec h
  exact ⟨fun hnot => not_not.mp fun hwhen => hstranded hwhen hnot, hkept⟩

end Runs

section Scene

def emptyStore : Store := ⟨.empty _, [], [], []⟩

def offline : Outside where
  now := .epoch
  queue := .disabled
  sendPasswordResetEmail := fun _ => .error "connect ECONNREFUSED"
  deliverToUsersNow := fun _ _ => .error "fetch failed"
  commitNotifications := fun _ => .error "Transaction failed"
  publishCreatedNotifications := fun _ _ => .ok ()
  pushProviderNoop := false
  pushTaskId := "push"

def resetEmail : AuthPasswordDelivery.TaskInput where
  queueName := "auth-deliveries"
  jobName := "auth.password-email"
  orgId := none
  userId := some "user"
  referenceType := some "PASSWORD_RESET_TOKEN"
  referenceId := some "hash"
  maxAttempts := some 5
  payload := ⟨"user@example.com", "token", "1970-01-01T01:00:00.000Z", .PASSWORD_RESET, none, none,
    none⟩

def resetEmailTask : DeliveryTask :=
  mapRecord ((Dispatch.passwordEmail resetEmail).createInput.row "task" offline.now)

theorem run_offline : ((Dispatch.passwordEmail resetEmail).run offline "task" emptyStore).1 =
    .ok resetEmailTask := rfl

/-- Four attempts are left and nobody will make them. -/
theorem reset_email_stranded : ∃ task store',
    (Dispatch.passwordEmail resetEmail).run offline "task" emptyStore = (.ok task, store') ∧
      ¬ NotStranded emptyStore store' "task" offline.now := by
  refine ⟨_, _, Prod.ext run_offline rfl, (run_spec (Prod.ext run_offline rfl)).2 ?_⟩
  rintro (hqueue | hdelivers | hlast)
  · cases hqueue
  · cases hdelivers
  · exact absurd hlast (by decide)

theorem not_stranded_queued : NotStranded emptyStore
    ((Dispatch.passwordEmail resetEmail).run { offline with queue := .accepts } "task"
      emptyStore).2 "task" offline.now := by
  have hrun : (Dispatch.passwordEmail resetEmail).run { offline with queue := .accepts } "task"
      emptyStore = (.ok resetEmailTask, ((Dispatch.passwordEmail resetEmail).run
        { offline with queue := .accepts } "task" emptyStore).2) := Prod.ext rfl rfl
  exact (not_stranded_iff hrun).mpr (.inl rfl)

end Scene

end Towerdesk.Delivery
