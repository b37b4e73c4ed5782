import Towerdesk.Delivery.Frames
import Towerdesk.Lib.Interleaving
import Mathlib.Data.List.Count

/-!
# Broadcast fan-out under concurrency

Any number of executions of `processTask` for one broadcast task, each a sequence of reads
and writes with nothing locked in between: the two of `markProcessing`, the status that the
transaction reads, its commit, the publication, and the update after a failure. Each
recipient gets one notification as long as no execution writes the row of a task that has
succeeded; the status that the transaction reads is not enough.
-/

namespace Towerdesk.Delivery

open IsoDate (TimeValue)
open Interleaving (Machine Config AtStep)

section Executions

/-- Where an execution stands, with what it has read so far. -/
inductive Execution
  | waiting
  | found
  | marking (existing : DeliveryTask)
  | processing (record : DeliveryTask)
  | fanningOut (record : DeliveryTask) (payload : BroadcastFanoutDeliveryPayload)
  | publishing (record : DeliveryTask) (payload : BroadcastFanoutDeliveryPayload)
  | failing (record : DeliveryTask) (message : String)
  | succeeded
  | stopped

/-- What an execution meets outside at one step, or that it is lost there. -/
structure Turn where
  outside : Outside
  crashes : Bool

variable (taskId : Id) (outside : Outside)

def readTask (store : Store) : Execution :=
  match findById store.tasks taskId with
  | none => .stopped
  | some task =>
    if task.kind ≠ .BROADCAST_FANOUT ∨ task.isFinished then .stopped else .found

def readExisting (store : Store) : Execution :=
  match findById store.tasks taskId with
  | none => .stopped
  | some existing => if existing.isFinished then .stopped else .marking existing

/-- The update of `markProcessing`, by id alone. -/
def mark (existing : DeliveryTask) (store : Store) : Execution × Store :=
  match update store.tasks taskId (processingData existing outside.now) outside.now with
  | .error _ => (.stopped, store)
  | .ok (record, tasks) =>
    (if record.isFinished then .stopped else .processing record,
      { store with tasks := tasks })

/-- The status that the transaction reads; what another one has not committed is not seen. -/
def readCurrent (record : DeliveryTask) (store : Store) : Execution :=
  match record.payload with
  | .broadcastFanout payload =>
    if (findById store.tasks record.id).any (·.status = .SUCCEEDED) then .succeeded
    else .fanningOut record payload
  | _ => .failing record "unknown error"

/-- The writes of the transaction, seen by others when it commits. -/
def commitFanOut (record : DeliveryTask) (payload : BroadcastFanoutDeliveryPayload)
    (store : Store) : Execution × Store :=
  match outside.commitNotifications (BroadcastDelivery.notifications payload) with
  | .error message => (.failing record message, store)
  | .ok () =>
    match markSucceeded store.tasks record.id outside.now with
    | .error message => (.failing record message, store)
    | .ok (_, tasks) =>
      (if (BroadcastDelivery.notifications payload).isEmpty then .succeeded
        else .publishing record payload,
        { store with
          tasks := tasks
          notifications := store.notifications ++ BroadcastDelivery.notifications payload })

def publish (record : DeliveryTask) (payload : BroadcastFanoutDeliveryPayload)
    (store : Store) : Execution × Store :=
  match outside.publishCreatedNotifications payload.orgId
      (BroadcastDelivery.notifications payload) with
  | .error message => (.failing record message, store)
  | .ok () => (.succeeded, BroadcastDelivery.queuePush outside payload store)

def Execution.step (execution : Execution) (store : Store) : Execution × Store :=
  match execution with
  | .waiting => (readTask taskId store, store)
  | .found => (readExisting taskId store, store)
  | .marking existing => mark taskId outside existing store
  | .processing record => (readCurrent record store, store)
  | .fanningOut record payload => commitFanOut outside record payload store
  | .publishing record payload => publish outside record payload store
  | .failing record message =>
    (.stopped, (BroadcastDelivery.service.fail outside record message false store).2)
  | .succeeded => (.succeeded, store)
  | .stopped => (.stopped, store)

def fanOutMachine (π : Type*) (taskId : Id) : Machine π Turn Execution Store where
  step _ turn execution store :=
    if turn.crashes then (.stopped, store) else execution.step taskId turn.outside store

end Executions

section Alone

variable (taskId : Id) (outside : Outside)

/-- The steps of an execution with nobody in between. -/
def alone (store : Store) : ℕ → Execution × Store
  | 0 => (.waiting, store)
  | n + 1 => (alone store n).1.step taskId outside (alone store n).2

variable {taskId outside}

theorem alone_settled {store store' : Store} {n : ℕ} {execution : Execution}
    (h : alone taskId outside store n = (execution, store'))
    (hsettled : execution = .succeeded ∨ execution = .stopped) (k : ℕ) :
    alone taskId outside store (n + k) = (execution, store') := by
  have hfixed : execution.step taskId outside store' = (execution, store') := by
    rcases hsettled with rfl | rfl <;> rfl
  exact Run.rest_of_fixed (fun r => r.1.step taskId outside r.2) (fun _ => rfl) h hfixed k

theorem fail_store (service : DeliveryService) (record : DeliveryTask) (message : String)
    (allowThrow : Bool) (store : Store) :
    (service.fail outside record message allowThrow store).2 =
      (service.fail outside record message false store).2 := by
  unfold DeliveryService.fail
  dsimp only
  split <;> rfl

theorem alone_next {store store' : Store} {n : ℕ} {execution : Execution}
    (h : alone taskId outside store n = (execution, store')) :
    alone taskId outside store (n + 1) = execution.step taskId outside store' := by
  have hnext : alone taskId outside store (n + 1) =
      (alone taskId outside store n).1.step taskId outside (alone taskId outside store n).2 := rfl
  rw [hnext, h]

theorem alone_failing {store store' : Store} {n : ℕ} {record : DeliveryTask} {message : String}
    (h : alone taskId outside store n = (.failing record message, store')) (k : ℕ) :
    (alone taskId outside store (n + 1 + k)).2 =
      (BroadcastDelivery.service.fail outside record message false store').2 := by
  rw [alone_settled (alone_next h) (.inr rfl)]

theorem alone_attempt {store store₁ store₂ : Store} {n : ℕ} {record : DeliveryTask}
    {outcome : Except String Unit}
    (h : alone taskId outside store n = (.processing record, store₁))
    (hattempt : BroadcastDelivery.service.attempt outside record store₁ = (outcome, store₂)) :
    (alone taskId outside store (n + 4)).2 =
      match outcome with
      | .ok () => store₂
      | .error message =>
        (BroadcastDelivery.service.fail outside record message false store₂).2 := by
  have hone : alone taskId outside store (n + 1) = (readCurrent record store₁, store₁) :=
    alone_next h
  simp only [BroadcastDelivery.service] at hattempt
  unfold readCurrent at hone
  cases hpayload : record.payload with
  | passwordEmail payload | pushNotification payload =>
    simp only [hpayload] at hone hattempt
    obtain ⟨rfl, rfl⟩ := Prod.mk.inj hattempt
    exact alone_failing hone 2
  | broadcastFanout payload =>
    simp only [hpayload, BroadcastDelivery.fanOut] at hone hattempt
    by_cases hdone : (findById store₁.tasks record.id).any (·.status = .SUCCEEDED)
    · simp only [if_pos hdone] at hone hattempt
      obtain ⟨rfl, rfl⟩ := Prod.mk.inj hattempt
      exact congrArg Prod.snd (alone_settled hone (.inl rfl) 3)
    simp only [if_neg hdone] at hone hattempt
    have htwo : alone taskId outside store (n + 2) = commitFanOut outside record payload store₁ :=
      alone_next hone
    unfold commitFanOut at htwo
    cases hcommit : outside.commitNotifications (BroadcastDelivery.notifications payload) with
    | error message =>
      simp only [hcommit] at htwo hattempt
      obtain ⟨rfl, rfl⟩ := Prod.mk.inj hattempt
      exact alone_failing htwo 1
    | ok u =>
      cases hmark : markSucceeded store₁.tasks record.id outside.now with
      | error message =>
        simp only [hcommit, hmark] at htwo hattempt
        obtain ⟨rfl, rfl⟩ := Prod.mk.inj hattempt
        exact alone_failing htwo 1
      | ok marked =>
        simp only [hcommit, hmark] at htwo hattempt
        by_cases hnobody : (BroadcastDelivery.notifications payload).isEmpty
        · simp only [if_pos hnobody] at htwo hattempt
          obtain ⟨rfl, rfl⟩ := Prod.mk.inj hattempt
          exact congrArg Prod.snd (alone_settled htwo (.inl rfl) 2)
        simp only [if_neg hnobody] at htwo hattempt
        have hthree := alone_next htwo
        simp only [Execution.step, publish] at hthree
        cases hpublish : outside.publishCreatedNotifications payload.orgId
            (BroadcastDelivery.notifications payload) with
        | error message =>
          simp only [hpublish] at hthree hattempt
          obtain ⟨rfl, rfl⟩ := Prod.mk.inj hattempt
          exact alone_failing hthree 0
        | ok u =>
          simp only [hpublish] at hthree hattempt
          obtain ⟨rfl, rfl⟩ := Prod.mk.inj hattempt
          exact congrArg Prod.snd (alone_settled hthree (.inl rfl) 1)

/-- An execution with nobody in between does what `processTask` does. -/
theorem alone_processTask (taskId : Id) (outside : Outside) (allowThrow : Bool) (store : Store) :
    (alone taskId outside store 7).2 =
      (BroadcastDelivery.processTask outside taskId allowThrow store).2 := by
  have hone : alone taskId outside store 1 = (readTask taskId store, store) := rfl
  unfold readTask at hone
  unfold BroadcastDelivery.processTask DeliveryService.process
  cases hfind : findById store.tasks taskId with
  | none =>
    simp only [hfind] at hone
    exact congrArg Prod.snd (alone_settled hone (.inr rfl) 6)
  | some task =>
    simp only [hfind] at hone
    by_cases hskip : task.kind ≠ .BROADCAST_FANOUT ∨ task.isFinished
    · rw [if_pos hskip] at hone
      simp only
      rw [if_pos (by exact hskip)]
      exact congrArg Prod.snd (alone_settled hone (.inr rfl) 6)
    rw [if_neg hskip] at hone
    have hopen : ¬ task.isFinished = true := fun h => hskip (.inr h)
    have htwo := alone_next hone
    simp only [Execution.step, readExisting, hfind, if_neg hopen] at htwo
    have hthree := alone_next htwo
    simp only [Execution.step, mark] at hthree
    simp only [markProcessing, hfind, if_neg hopen]
    rw [if_neg (by exact hskip)]
    cases hupdate : update store.tasks taskId (processingData task outside.now) outside.now with
    | error message =>
      simp only [hupdate] at hthree
      exact congrArg Prod.snd (alone_settled hthree (.inr rfl) 4)
    | ok marked =>
      obtain ⟨record, tasks⟩ := marked
      simp only [hupdate] at hthree
      simp only [Except.map, Prod.map]
      by_cases hfinished : record.isFinished
      · rw [if_pos hfinished] at hthree
        rw [if_pos hfinished]
        exact congrArg Prod.snd (alone_settled hthree (.inr rfl) 4)
      rw [if_neg hfinished] at hthree
      rw [if_neg hfinished]
      cases hattempt : BroadcastDelivery.service.attempt outside record
          { store with tasks := tasks } with
      | mk outcome store₂ =>
        have hfour := alone_attempt hthree hattempt
        rw [hfour]
        cases outcome with
        | ok u => rfl
        | error message => exact (fail_store _ _ _ _ _).symm

end Alone

section Order

variable {π : Type*} (taskId : Id) (payload : BroadcastFanoutDeliveryPayload) (start : Store)

/-- How many of the task's notifications a user got since the start. -/
def received (store : Store) (userId : Id) : ℕ :=
  (store.notifications.drop start.notifications.length).countP fun notification =>
    notification.recipientUserId = userId ∧ notification.type = .BROADCAST ∧
      notification.data = BroadcastDelivery.data payload

/-- The transaction of the execution has committed, or had nothing left to do. -/
def Execution.HasSucceeded : Execution → Prop
  | .publishing _ _ | .succeeded => True
  | _ => False

def ExactlyOnce (c : Config π Execution Store) : Prop :=
  ∀ userId ∈ payload.userIds, received payload start c.shared userId ≤ 1 ∧
    ((∃ p, (c.locals p).HasSucceeded) → received payload start c.shared userId = 1)

def Execution.writes (outside : Outside) : Execution → Bool
  | .marking _ | .failing _ _ => true
  | .fanningOut _ payload =>
    (outside.commitNotifications (BroadcastDelivery.notifications payload)).toBool
  | _ => false

/-- A step that writes the row of the task does not find it succeeded. -/
def FindsUnfinished (_ : π) (turn : Turn) (execution : Execution) (store : Store) : Prop :=
  turn.crashes = false → execution.writes turn.outside = true →
    ∀ task ∈ store.tasks, task.id = taskId → task.status ≠ .SUCCEEDED

instance (p : π) (turn : Turn) (execution : Execution) (store : Store) :
    Decidable (FindsUnfinished taskId p turn execution store) :=
  inferInstanceAs (Decidable (turn.crashes = false → execution.writes turn.outside = true →
    ∀ task ∈ store.tasks, task.id = taskId → task.status ≠ .SUCCEEDED))

/-- The notifications are there when the task has succeeded, and not before. -/
structure Books (store : Store) (task : DeliveryTask) : Prop where
  found : store.tasks.findUnique taskId = some task
  payload_eq : task.payload = .broadcastFanout payload
  notifications : store.notifications = start.notifications ++
    if task.status = .SUCCEEDED then BroadcastDelivery.notifications payload else []

/-- What an execution carries is of this task; once it has succeeded so has the task. -/
structure Carries (execution : Execution) (store : Store) : Prop where
  record : match execution with
    | .processing record => record.id = taskId ∧ record.payload = .broadcastFanout payload
    | .fanningOut record payload' | .publishing record payload' =>
      record.id = taskId ∧ payload' = payload
    | .failing record _ => record.id = taskId
    | _ => True
  succeeded : execution.HasSucceeded → ∃ task, store.tasks.findUnique taskId = some task ∧
    task.status = .SUCCEEDED

end Order

section Steps

variable {π : Type*} {taskId : Id} {payload : BroadcastFanoutDeliveryPayload} {start : Store}
  {store store' : Store} {task task' : DeliveryTask} {outside : Outside}

theorem Books.update (h : Books taskId payload start store task) (data : TaskData)
    (now : TimeValue) (hopen : task.status ≠ .SUCCEEDED)
    (hdata : ((data.patch now).apply task).status ≠ .SUCCEEDED) :
    Books taskId payload start { store with tasks := store.tasks.modify taskId (data.patch now) }
      ((data.patch now).apply task) := by
  refine ⟨findUnique_modify_self _ h.found, h.payload_eq, ?_⟩
  have hnotifications := h.notifications
  rw [if_neg hopen] at hnotifications
  rw [if_neg hdata]
  exact hnotifications

theorem Books.commit (h : Books taskId payload start store task) (now : TimeValue)
    (hopen : task.status ≠ .SUCCEEDED) :
    Books taskId payload start
      { store with
        tasks := store.tasks.modify taskId ((succeededData now).patch now)
        notifications := store.notifications ++ BroadcastDelivery.notifications payload }
      (((succeededData now).patch now).apply task) := by
  refine ⟨findUnique_modify_self _ h.found, h.payload_eq, ?_⟩
  have hnotifications := h.notifications
  rw [if_neg hopen, List.append_nil] at hnotifications
  have hdone : (((succeededData now).patch now).apply task).status = .SUCCEEDED := rfl
  rw [hnotifications, if_pos hdone]

theorem Books.of_untouched (h : Books taskId payload start store task)
    (huntouched : Untouched taskId store store') : Books taskId payload start store' task := by
  obtain ⟨hfound, hnotifications⟩ := huntouched task h.found
  exact ⟨hfound, h.payload_eq, hnotifications.trans h.notifications⟩

theorem Books.fail (h : Books taskId payload start store task) (hopen : task.status ≠ .SUCCEEDED)
    {record : DeliveryTask} (hid : record.id = taskId) (message : String) :
    ∃ task', Books taskId payload start
      (BroadcastDelivery.service.fail outside record message false store).2 task' := by
  subst hid
  unfold DeliveryService.fail
  by_cases hlast : record.maxAttempts ≤ record.attemptCount
  · simp only [if_pos hlast, markFailed, update_of_findUnique h.found]
    exact ⟨_, h.update _ outside.now hopen nofun⟩
  · simp only [if_neg hlast, markRetryScheduled, update_of_findUnique h.found]
    exact ⟨_, h.update _ outside.now hopen nofun⟩

theorem carries_of_blank {execution : Execution} (h : execution = .waiting ∨ execution = .found ∨
    execution = .stopped ∨ ∃ existing, execution = .marking existing) :
    Carries taskId payload execution store := by
  obtain rfl | rfl | rfl | ⟨existing, rfl⟩ := h <;> exact ⟨trivial, False.elim⟩

theorem readTask_cases (taskId : Id) (store : Store) :
    readTask taskId store = .stopped ∨ readTask taskId store = .found := by
  unfold readTask
  split
  · exact .inl rfl
  · split_ifs
    · exact .inl rfl
    · exact .inr rfl

theorem readExisting_cases (taskId : Id) (store : Store) :
    readExisting taskId store = .stopped ∨
      ∃ existing, readExisting taskId store = .marking existing := by
  unfold readExisting
  split
  · exact .inl rfl
  · split_ifs
    · exact .inl rfl
    · exact .inr ⟨_, rfl⟩

structure StepKeeps (taskId : Id) (payload : BroadcastFanoutDeliveryPayload) (start : Store)
    (task : DeliveryTask) (r : Execution × Store) : Prop where
  books : ∃ task', Books taskId payload start r.2 task' ∧
    (task.status = .SUCCEEDED → task'.status = .SUCCEEDED)
  carries : Carries taskId payload r.1 r.2

theorem stepKeeps_read {execution : Execution} (h : Books taskId payload start store task)
    (hcarries : Carries taskId payload execution store) :
    StepKeeps taskId payload start task (execution, store) :=
  ⟨⟨task, h, id⟩, hcarries⟩

theorem stepKeeps_mark (h : Books taskId payload start store task)
    (hopen : task.status ≠ .SUCCEEDED) (existing : DeliveryTask) :
    StepKeeps taskId payload start task (mark taskId outside existing store) := by
  have hbooks := h.update (processingData existing outside.now) outside.now hopen nofun
  have hmarked : ¬ (mapRecord (((processingData existing outside.now).patch outside.now).apply
      task)).isFinished = true := Bool.false_ne_true
  simp only [mark, update_of_findUnique h.found]
  rw [if_neg hmarked]
  refine ⟨⟨_, hbooks, fun hdone => absurd hdone hopen⟩, ⟨?_, h.payload_eq⟩, False.elim⟩
  exact (Table.findUnique_eq_some.mp h.found).2

theorem stepKeeps_readCurrent {record : DeliveryTask} (h : Books taskId payload start store task)
    (hid : record.id = taskId) (hpayload : record.payload = .broadcastFanout payload) :
    StepKeeps taskId payload start task (readCurrent record store, store) := by
  refine stepKeeps_read h ?_
  simp only [readCurrent, hpayload, hid, findById_of_findUnique h.found, Option.any_some]
  by_cases hdone : (mapRecord task).status = .SUCCEEDED
  · rw [if_pos (decide_eq_true hdone)]
    exact ⟨trivial, fun _ => ⟨task, h.found, hdone⟩⟩
  · rw [if_neg (ne_true_of_eq_false (decide_eq_false hdone))]
    exact ⟨⟨hid, rfl⟩, False.elim⟩

theorem stepKeeps_commit {record : DeliveryTask} (h : Books taskId payload start store task)
    (hid : record.id = taskId)
    (hopen : (Execution.fanningOut record payload).writes outside = true →
      task.status ≠ .SUCCEEDED) :
    StepKeeps taskId payload start task (commitFanOut outside record payload store) := by
  unfold commitFanOut
  cases hcommit : outside.commitNotifications (BroadcastDelivery.notifications payload) with
  | error message => exact stepKeeps_read h ⟨hid, False.elim⟩
  | ok u =>
    have hwriting : (Execution.fanningOut record payload).writes outside = true := by
      simp only [Execution.writes, hcommit]
      rfl
    have hunfinished := hopen hwriting
    have hbooks := h.commit outside.now hunfinished
    simp only [markSucceeded, hid, update_of_findUnique h.found]
    refine ⟨⟨_, hbooks, fun hdone => absurd hdone hunfinished⟩, ?_⟩
    split_ifs
    · exact ⟨trivial, fun _ => ⟨_, hbooks.found, rfl⟩⟩
    · exact ⟨⟨hid, rfl⟩, fun _ => ⟨_, hbooks.found, rfl⟩⟩

theorem stepKeeps_publish {record : DeliveryTask} (h : Books taskId payload start store task)
    (hid : record.id = taskId) (hdone : task.status = .SUCCEEDED) :
    StepKeeps taskId payload start task (publish outside record payload store) := by
  unfold publish
  cases outside.publishCreatedNotifications payload.orgId
      (BroadcastDelivery.notifications payload) with
  | error message => exact stepKeeps_read h ⟨hid, False.elim⟩
  | ok u =>
    have hbooks := h.of_untouched (untouched_queuePush outside payload)
    exact ⟨⟨task, hbooks, id⟩, trivial, fun _ => ⟨task, hbooks.found, hdone⟩⟩

theorem stepKeeps_step {p : π} {turn : Turn} {execution : Execution}
    (h : Books taskId payload start store task) (hcarries : Carries taskId payload execution store)
    (hwrites : FindsUnfinished taskId p turn execution store) :
    StepKeeps taskId payload start task
      ((fanOutMachine π taskId).step p turn execution store) := by
  show StepKeeps taskId payload start task
    (if turn.crashes then (.stopped, store) else execution.step taskId turn.outside store)
  by_cases hcrash : turn.crashes = true
  · rw [if_pos hcrash]
    exact stepKeeps_read h (carries_of_blank (.inr (.inr (.inl rfl))))
  rw [if_neg hcrash]
  obtain ⟨htask, hid⟩ := Table.findUnique_eq_some.mp h.found
  have hopen : execution.writes turn.outside = true → task.status ≠ .SUCCEEDED :=
    fun hwriting => hwrites (eq_false_of_ne_true hcrash) hwriting task htask hid
  have hrecord := hcarries.record
  cases execution with
  | waiting =>
    refine stepKeeps_read h (carries_of_blank ?_)
    obtain hstopped | hfound := readTask_cases taskId store
    · exact .inr (.inr (.inl hstopped))
    · exact .inr (.inl hfound)
  | found =>
    refine stepKeeps_read h (carries_of_blank ?_)
    exact .inr (.inr (readExisting_cases taskId store))
  | marking existing => exact stepKeeps_mark h (hopen rfl) existing
  | processing record => exact stepKeeps_readCurrent h hrecord.1 hrecord.2
  | fanningOut record payload' =>
    obtain ⟨hrecord, rfl⟩ := hrecord
    exact stepKeeps_commit h hrecord hopen
  | publishing record payload' =>
    obtain ⟨hrecord, rfl⟩ := hrecord
    obtain ⟨task', htask', hdone⟩ := hcarries.succeeded trivial
    obtain rfl := Option.some.inj (h.found.symm.trans htask')
    exact stepKeeps_publish h hrecord hdone
  | failing record message =>
    obtain ⟨task', hbooks⟩ := h.fail (hopen rfl) hrecord message
    exact ⟨⟨task', hbooks, fun hdone => absurd hdone (hopen rfl)⟩,
      carries_of_blank (.inr (.inr (.inl rfl)))⟩
  | succeeded => exact stepKeeps_read h hcarries
  | stopped => exact stepKeeps_read h hcarries

theorem Carries.keep {execution : Execution} (h : Carries taskId payload execution store)
    (hkeeps : ∀ task, store.tasks.findUnique taskId = some task → task.status = .SUCCEEDED →
      ∃ task', store'.tasks.findUnique taskId = some task' ∧ task'.status = .SUCCEEDED) :
    Carries taskId payload execution store' := by
  refine ⟨h.record, fun hsucceeded => ?_⟩
  obtain ⟨task, htask, hdone⟩ := h.succeeded hsucceeded
  exact hkeeps task htask hdone

end Steps

section Runs

variable {π : Type*} [DecidableEq π] {taskId : Id} {payload : BroadcastFanoutDeliveryPayload}
  {start : Store} {task : DeliveryTask}

theorem received_of_books {store : Store} (h : Books taskId payload start store task)
    (husers : payload.userIds.Nodup) {userId : Id} (huser : userId ∈ payload.userIds) :
    received payload start store userId = if task.status = .SUCCEEDED then 1 else 0 := by
  rw [received, h.notifications, List.drop_left]
  split_ifs with hdone
  · have hcount : (BroadcastDelivery.notifications payload).countP (fun notification =>
        notification.recipientUserId = userId ∧ notification.type = .BROADCAST ∧
          notification.data = BroadcastDelivery.data payload) = payload.userIds.count userId := by
      rw [BroadcastDelivery.notifications, List.countP_map, List.count]
      refine List.countP_congr fun id _ => ?_
      simp
    rw [hcount]
    exact List.count_eq_one_of_mem husers huser
  · rfl

theorem coherent_run (hstart : Books taskId payload start start task)
    {ms : List (π × Turn)}
    (hms : Run.Along (Interleaving.next (fanOutMachine π taskId))
      (AtStep (FindsUnfinished taskId)) (.start start .waiting) ms) :
    Interleaving.Coherent (fun store => ∃ task, Books taskId payload start store task)
      (fun _ => Carries taskId payload)
      (Run.exec (Interleaving.next (fanOutMachine π taskId)) (.start start .waiting) ms) := by
  refine Interleaving.coherent_exec ?_ ?_ ⟨⟨task, hstart⟩, fun _ => carries_of_blank (.inl rfl)⟩ hms
  · rintro p turn execution store ⟨task, h⟩ hcarries hwrites
    obtain ⟨⟨task', hbooks, -⟩, hcarries'⟩ := stepKeeps_step h hcarries hwrites
    exact ⟨⟨task', hbooks⟩, hcarries'⟩
  · rintro p turn execution store q other - ⟨task, h⟩ hcarries hwrites hother
    obtain ⟨⟨task', hbooks, hkeeps⟩, -⟩ := stepKeeps_step h hcarries hwrites
    refine hother.keep fun task₀ htask₀ hdone => ⟨task', hbooks.found, hkeeps ?_⟩
    obtain rfl := Option.some.inj (h.found.symm.trans htask₀)
    exact hdone

theorem coherent_of_succeeded (htask : start.tasks.findUnique taskId = some task)
    (hdone : task.status = .SUCCEEDED) {ms : List (π × Turn)}
    (hms : Run.Along (Interleaving.next (fanOutMachine π taskId))
      (AtStep (FindsUnfinished taskId)) (.start start .waiting) ms) :
    Interleaving.Coherent (fun store => store = start)
      (fun _ execution _ => execution = .waiting ∨ execution = .stopped)
      (Run.exec (Interleaving.next (fanOutMachine π taskId)) (.start start .waiting) ms) := by
  have hread : readTask taskId start = .stopped := by
    have hfinished : (mapRecord task).isFinished = true := decide_eq_true (.inl hdone)
    simp only [readTask, findById_of_findUnique htask]
    rw [if_pos (.inr hfinished)]
  refine Interleaving.coherent_exec ?_ ?_ ⟨rfl, fun _ => .inl rfl⟩ hms
  · rintro p turn execution store rfl hexecution -
    by_cases hcrash : turn.crashes = true
    · simp only [fanOutMachine, if_pos hcrash]
      exact ⟨trivial, .inr trivial⟩
    · simp only [fanOutMachine, if_neg hcrash]
      rcases hexecution with rfl | rfl
      · exact ⟨rfl, .inr hread⟩
      · exact ⟨rfl, .inr rfl⟩
  · intro p turn execution store q other _ _ _ _ hother
    exact hother

/-- As long as no execution writes the row of the task once it has succeeded, every
recipient gets one notification when an execution succeeds, and never more. -/
theorem exactly_once_of_unfinished (htask : start.tasks.findUnique taskId = some task)
    (hpayload : task.payload = .broadcastFanout payload) (husers : payload.userIds.Nodup)
    {ms : List (π × Turn)}
    (hms : Run.Along (Interleaving.next (fanOutMachine π taskId))
      (AtStep (FindsUnfinished taskId)) (.start start .waiting) ms) :
    ExactlyOnce payload start
      (Run.exec (Interleaving.next (fanOutMachine π taskId)) (.start start .waiting) ms) := by
  by_cases hbefore : task.status = .SUCCEEDED
  · obtain ⟨hstore, hexecutions⟩ := coherent_of_succeeded htask hbefore hms
    intro userId _
    rw [hstore, received, List.drop_length, List.countP_nil]
    refine ⟨Nat.zero_le 1, ?_⟩
    rintro ⟨p, hsucceeded⟩
    rcases hexecutions p with hexecution | hexecution
    · rw [hexecution] at hsucceeded
      exact hsucceeded.elim
    · rw [hexecution] at hsucceeded
      exact hsucceeded.elim
  have hstart : Books taskId payload start start task :=
    ⟨htask, hpayload, by rw [if_neg hbefore, List.append_nil]⟩
  obtain ⟨⟨last, hbooks⟩, hcarries⟩ := coherent_run hstart hms
  intro userId huser
  rw [received_of_books hbooks husers huser]
  constructor
  · split_ifs
    · exact le_rfl
    · exact Nat.zero_le 1
  · rintro ⟨p, hsucceeded⟩
    obtain ⟨task', htask', hdone⟩ := (hcarries p).succeeded hsucceeded
    obtain rfl := Option.some.inj (hbooks.found.symm.trans htask')
    rw [if_pos hdone]

end Runs

section Scene

def broadcast : BroadcastFanoutDeliveryPayload where
  broadcastId := "broadcast"
  orgId := "org"
  userIds := ["ann", "bob"]
  title := "Water outage"
  body := none
  senderUserId := "manager"
  buildingIds := ["building"]
  metadata := "null"

def postedTask : DeliveryTask := (BroadcastDelivery.createInput broadcast).row "task" .epoch

def postedStore : Store := ⟨⟨[postedTask], by decide⟩, [], [], []⟩

def online : Outside where
  now := ⟨1000, by decide⟩
  queue := .accepts
  sendPasswordResetEmail := fun _ => .ok ()
  deliverToUsersNow := fun _ _ => .ok ()
  commitNotifications := fun _ => .ok ()
  publishCreatedNotifications := fun _ _ => .ok ()
  pushProviderNoop := false
  pushTaskId := "push"

def turns (ps : List Bool) : List (Bool × Turn) := ps.map (·, ⟨online, false⟩)

theorem exactly_once_in_turn : ExactlyOnce broadcast postedStore
    (Run.exec (Interleaving.next (fanOutMachine Bool "task")) (.start postedStore .waiting)
      (turns [true, true, true, true, true, true, false])) := by
  have htask : postedStore.tasks.findUnique "task" = some postedTask := by decide +kernel
  exact exactly_once_of_unfinished htask rfl (by decide) (by decide +kernel)

/-- Both executions read the status before either commits. -/
theorem notified_twice : ¬ ∀ ms : List (Bool × Turn), ExactlyOnce broadcast postedStore
    (Run.exec (Interleaving.next (fanOutMachine Bool "task")) (.start postedStore .waiting)
      ms) := by
  intro h
  have honce := (h (turns [true, true, true, true, false, false, false, false, true, false]) "ann"
    (by decide)).1
  exact absurd honce (by decide +kernel)

end Scene

end Towerdesk.Delivery
