import Towerdesk.Delivery.Retry
import Mathlib.Data.Fintype.Option

/-!
# Retries and executions of one task

A retry claims a task with the status PROCESSING, which an execution that finds it takes for
its own to begin with, and every mark is an update by id that looks at nothing. A retry
therefore takes a task over for good only when no execution begins on a claimed or final
task, none gives up a task that has succeeded, no claim is made while one is at work, and
a replacement that was created is dispatched. Each step is then one of a handover.
-/

namespace Towerdesk.Delivery

open IsoDate (TimeValue)
open Interleaving (Config)
open Handover (Event Phase Desk Moves InOrder IsFinal NothingAfterClaim)

section Phases

def Sending.phase : Sending → Phase
  | .waiting | .found | .marking _ => .idle
  | .processing _ | .delivered _ | .failing _ _ => .busy
  | .stopped => .over

def Execution.phase : Execution → Phase
  | .waiting | .found | .marking _ => .idle
  | .processing _ | .fanningOut _ _ | .publishing _ _ | .failing _ _ => .busy
  | .succeeded | .stopped => .over

def Retry.phase : Retry → Phase
  | .waiting | .found => .idle
  | .claiming | .claimed _ => .holding
  | .created _ _ | .dispatched _ => .replacing
  | .releasing _ => .releasing
  | .refused | .retried _ | .failed _ | .lost => .over

def Party.phase : Party → Phase
  | .sends _ sending => sending.phase
  | .fansOut execution => execution.phase
  | .retries retry => retry.phase

variable (taskId : Id)

def Sending.On : Sending → Prop
  | .processing record | .delivered record | .failing record _ => record.id = taskId
  | .waiting | .found | .marking _ | .stopped => True

def Execution.On : Execution → Prop
  | .processing record | .fanningOut record _ | .publishing record _ | .failing record _ =>
    record.id = taskId
  | .waiting | .found | .marking _ | .succeeded | .stopped => True

def Retry.On : Retry → Prop
  | .created _ replacement => taskId ≠ replacement.id
  | _ => True

/-- What a party carries is of this task, and a replacement is another one. -/
def Party.On : Party → Prop
  | .sends _ sending => sending.On taskId
  | .fansOut execution => execution.On taskId
  | .retries retry => retry.On taskId

def FindsOpen (ledger : Ledger) : Prop :=
  ∀ task ∈ ledger.store.tasks, task.id = taskId → ¬ IsFinal task.status

def FindsUnsucceeded (ledger : Ledger) : Prop :=
  ∀ task ∈ ledger.store.tasks, task.id = taskId → task.status ≠ .SUCCEEDED

instance (ledger : Ledger) : Decidable (FindsOpen taskId ledger) :=
  inferInstanceAs (Decidable (∀ task ∈ ledger.store.tasks, _))

instance (ledger : Ledger) : Decidable (FindsUnsucceeded taskId ledger) :=
  inferInstanceAs (Decidable (∀ task ∈ ledger.store.tasks, _))

/-- What a step may meet, where `free` says that no execution is at work. -/
def Party.Undisturbed (turn : RetryTurn) (free : Prop) (ledger : Ledger) : Party → Prop
  | .sends _ (.marking _) | .fansOut (.marking _) =>
    turn.databaseError = none → .claimed ∉ ledger.events ∧ FindsOpen taskId ledger
  | .sends _ (.failing _ _) | .fansOut (.failing _ _) =>
    turn.databaseError = none → FindsUnsucceeded taskId ledger
  | .retries .found => turn.databaseError = none →
    (claimForRetry ledger.store.tasks taskId turn.outside.now).1.isSome → free
  | .retries (.created dispatch replacement) => turn.databaseError = none ∧
    (dispatch.service.dispatchTask turn.outside replacement ledger.store).1.toBool
  | _ => True

instance (turn : RetryTurn) (free : Prop) [Decidable free] (ledger : Ledger) :
    ∀ party : Party, Decidable (party.Undisturbed taskId turn free ledger)
  | .sends _ (.marking _) | .fansOut (.marking _) =>
    inferInstanceAs (Decidable (turn.databaseError = none → _ ∧ FindsOpen taskId ledger))
  | .sends _ (.failing _ _) | .fansOut (.failing _ _) =>
    inferInstanceAs (Decidable (turn.databaseError = none → FindsUnsucceeded taskId ledger))
  | .retries .found => inferInstanceAs (Decidable (turn.databaseError = none → _ → free))
  | .retries (.created _ _) => inferInstanceAs (Decidable (turn.databaseError = none ∧ _))
  | .sends _ .waiting | .sends _ .found | .sends _ (.processing _) | .sends _ (.delivered _)
  | .sends _ .stopped | .fansOut .waiting | .fansOut .found | .fansOut (.processing _)
  | .fansOut (.fanningOut _ _) | .fansOut (.publishing _ _) | .fansOut .succeeded
  | .fansOut .stopped | .retries .waiting | .retries .claiming | .retries (.claimed _)
  | .retries (.dispatched _) | .retries (.releasing _) | .retries .refused
  | .retries (.retried _) | .retries (.failed _) | .retries .lost => isTrue trivial

variable {π : Type*}

def Undisturbed (m : π × RetryTurn) (c : Config π Party Ledger) : Prop :=
  m.2.crashes = false →
    (c.locals m.1).Undisturbed taskId m.2 (∀ p, (c.locals p).phase ≠ .busy) c.shared

instance [Fintype π] (m : π × RetryTurn) (c : Config π Party Ledger) :
    Decidable (Undisturbed taskId m c) :=
  inferInstanceAs (Decidable (m.2.crashes = false →
    (c.locals m.1).Undisturbed taskId m.2 (∀ p, (c.locals p).phase ≠ .busy) c.shared))

end Phases

section Steps

variable {taskId : Id} {turn : RetryTurn} {free : Prop} {ledger : Ledger} {task : DeliveryTask}

/-- A step on the rows is a move of the handover. -/
def Refines (taskId : Id) (free : Prop) (ph : Phase) (d : Desk) (ph' : Phase) (ledger : Ledger) :
    Prop :=
  ∃ task, ledger.store.tasks.findUnique taskId = some task ∧
    Moves free ph d ph' ⟨task.status, ledger.events⟩

theorem refines_stay {ph : Phase} (hrow : ledger.store.tasks.findUnique taskId = some task) :
    Refines taskId free ph ⟨task.status, ledger.events⟩ ph ledger :=
  ⟨task, hrow, .stay ph _⟩

theorem refines_leave {ph : Phase} (hrow : ledger.store.tasks.findUnique taskId = some task) :
    Refines taskId free ph ⟨task.status, ledger.events⟩ .over ledger :=
  ⟨task, hrow, .leave ph _⟩

theorem fail_row {service : DeliveryService} (hlawful : service.Lawful) (outside : Outside)
    (message : String) {store : Store} {record : DeliveryTask}
    (hrow : store.tasks.findUnique taskId = some task) (hid : record.id = taskId) :
    ∃ task', (service.fail outside record message false store).2.tasks.findUnique taskId =
        some task' ∧ ¬ IsFinal task'.status := by
  subst hid
  unfold DeliveryService.fail
  by_cases hlast : record.maxAttempts ≤ record.attemptCount
  · simp only [if_pos hlast, markFailed, update_of_findUnique hrow, hlawful.exhausted]
    exact ⟨_, findUnique_modify_self _ hrow, show ¬ IsFinal .FAILED by decide⟩
  · simp only [if_neg hlast, markRetryScheduled, update_of_findUnique hrow]
    exact ⟨_, findUnique_modify_self _ hrow, show ¬ IsFinal .PENDING by decide⟩

theorem Sender.lawful (sender : Sender) : sender.service.Lawful := by
  cases sender with
  | passwordEmail => exact lawful_authPasswordDelivery
  | pushNotification => exact lawful_pushNotifications

theorem mem_row (hrow : ledger.store.tasks.findUnique taskId = some task) :
    task ∈ ledger.store.tasks ∧ task.id = taskId :=
  Table.findUnique_eq_some.mp hrow

theorem Sending.step_refines {sender : Sender} {sending : Sending}
    (hrow : ledger.store.tasks.findUnique taskId = some task) (hon : sending.On taskId)
    (hturn : turn.databaseError = none)
    (hcalm : (Party.sends sender sending).Undisturbed taskId turn free ledger) :
    Refines taskId free sending.phase ⟨task.status, ledger.events⟩
        (sending.step taskId turn sender ledger).1.phase (sending.step taskId turn sender ledger).2 ∧
      (sending.step taskId turn sender ledger).1.On taskId := by
  obtain ⟨hmem, hid⟩ := mem_row hrow
  cases sending with
  | waiting | found =>
    simp only [Sending.step, findById_of_findUnique hrow]
    split_ifs
    · exact ⟨refines_leave hrow, trivial⟩
    · exact ⟨refines_stay hrow, trivial⟩
  | marking existing =>
    obtain ⟨hclaim, hopen⟩ := hcalm hturn
    simp only [Sending.step, update_of_findUnique hrow]
    rw [if_neg (by exact Bool.false_ne_true)]
    exact ⟨⟨_, findUnique_modify_self _ hrow, .begin _ hclaim (hopen task hmem hid)⟩, hid⟩
  | processing record =>
    simp only [Sending.step]
    cases sender.delivered turn.outside record.id record.payload with
    | error message => exact ⟨refines_stay hrow, hon⟩
    | ok u => exact ⟨⟨task, hrow, .deliver _⟩, hon⟩
  | delivered record =>
    obtain rfl : record.id = taskId := hon
    simp only [Sending.step, markSucceeded, update_of_findUnique hrow]
    exact ⟨⟨_, findUnique_modify_self _ hrow, .succeed _⟩, trivial⟩
  | failing record message =>
    obtain ⟨task', hrow', hstatus⟩ := fail_row sender.lawful turn.outside message hrow hon
    exact ⟨⟨task', hrow', .giveUp _ task'.status hstatus (hcalm hturn task hmem hid)⟩, trivial⟩
  | stopped => exact ⟨refines_stay hrow, trivial⟩

theorem Execution.noted_eq (execution : Execution) :
    execution.noted taskId turn ledger =
      ((execution.step taskId turn.outside ledger.store).1,
        ⟨(execution.step taskId turn.outside ledger.store).2, ledger.events ++
          fanOutEvents execution (execution.step taskId turn.outside ledger.store).1⟩) := rfl

theorem commitFanOut_cases (turn : RetryTurn) {record : DeliveryTask}
    (payload : BroadcastFanoutDeliveryPayload)
    (hrow : ledger.store.tasks.findUnique taskId = some task) (hid : record.id = taskId) :
    (∃ message, commitFanOut turn.outside record payload ledger.store =
        (.failing record message, ledger.store)) ∨
      ∃ task', (commitFanOut turn.outside record payload ledger.store).2.tasks.findUnique taskId =
          some task' ∧ task'.status = .SUCCEEDED ∧
        ((commitFanOut turn.outside record payload ledger.store).1 = .succeeded ∨
          (commitFanOut turn.outside record payload ledger.store).1 =
            .publishing record payload) := by
  subst hid
  unfold commitFanOut
  cases turn.outside.commitNotifications (BroadcastDelivery.notifications payload) with
  | error message => exact .inl ⟨message, rfl⟩
  | ok u =>
    simp only [markSucceeded, update_of_findUnique hrow]
    refine .inr ⟨_, findUnique_modify_self _ hrow, rfl, ?_⟩
    split_ifs
    · exact .inl rfl
    · exact .inr rfl

theorem readCurrent_cases (record : DeliveryTask) (store : Store) :
    readCurrent record store = .succeeded ∨
      (∃ payload, readCurrent record store = .fanningOut record payload) ∨
        ∃ message, readCurrent record store = .failing record message := by
  unfold readCurrent
  split
  · split_ifs
    · exact .inl rfl
    · exact .inr (.inl ⟨_, rfl⟩)
  · exact .inr (.inr ⟨_, rfl⟩)

theorem Execution.step_refines {execution : Execution}
    (hrow : ledger.store.tasks.findUnique taskId = some task) (hon : execution.On taskId)
    (hturn : turn.databaseError = none)
    (hcalm : (Party.fansOut execution).Undisturbed taskId turn free ledger) :
    Refines taskId free execution.phase ⟨task.status, ledger.events⟩
        (execution.noted taskId turn ledger).1.phase (execution.noted taskId turn ledger).2 ∧
      (execution.noted taskId turn ledger).1.On taskId := by
  obtain ⟨hmem, hid⟩ := mem_row hrow
  rw [Execution.noted_eq]
  cases execution with
  | waiting =>
    simp only [Execution.step, fanOutEvents, List.append_nil]
    rcases readTask_cases taskId ledger.store with hread | hread
    · rw [hread]
      exact ⟨refines_leave hrow, trivial⟩
    · rw [hread]
      exact ⟨refines_stay hrow, trivial⟩
  | found =>
    simp only [Execution.step, fanOutEvents, List.append_nil]
    rcases readExisting_cases taskId ledger.store with hread | ⟨existing, hread⟩
    · rw [hread]
      exact ⟨refines_leave hrow, trivial⟩
    · rw [hread]
      exact ⟨refines_stay hrow, trivial⟩
  | marking existing =>
    obtain ⟨hclaim, hopen⟩ := hcalm hturn
    simp only [Execution.step, fanOutEvents, List.append_nil, mark, update_of_findUnique hrow]
    rw [if_neg (by exact Bool.false_ne_true)]
    exact ⟨⟨_, findUnique_modify_self _ hrow, .begin _ hclaim (hopen task hmem hid)⟩, hid⟩
  | processing record =>
    simp only [Execution.step, fanOutEvents, List.append_nil]
    rcases readCurrent_cases record ledger.store with
      hread | ⟨payload, hread⟩ | ⟨message, hread⟩
    · rw [hread]
      exact ⟨refines_leave hrow, trivial⟩
    · rw [hread]
      exact ⟨refines_stay hrow, hon⟩
    · rw [hread]
      exact ⟨refines_stay hrow, hon⟩
  | fanningOut record payload =>
    simp only [Execution.step]
    rcases commitFanOut_cases turn payload hrow hon with
      ⟨message, hfailed⟩ | ⟨task', hrow', hdone, hnext | hnext⟩
    · rw [hfailed]
      simp only [fanOutEvents, List.append_nil]
      exact ⟨refines_stay hrow, hon⟩
    · rw [hnext]
      refine ⟨⟨task', hrow', ?_⟩, trivial⟩
      rw [hdone]
      exact .commit _ _ (.inr rfl)
    · rw [hnext]
      refine ⟨⟨task', hrow', ?_⟩, hon⟩
      rw [hdone]
      exact .commit _ _ (.inl rfl)
  | publishing record payload =>
    simp only [Execution.step, fanOutEvents, List.append_nil, publish]
    cases turn.outside.publishCreatedNotifications payload.orgId
        (BroadcastDelivery.notifications payload) with
    | error message => exact ⟨refines_stay hrow, hon⟩
    | ok u =>
      have hrow' := (untouched_queuePush turn.outside payload task hrow).1
      exact ⟨⟨task, hrow', .leave _ _⟩, trivial⟩
  | failing record message =>
    simp only [Execution.step, fanOutEvents, List.append_nil]
    obtain ⟨task', hrow', hstatus⟩ :=
      fail_row lawful_broadcastDelivery turn.outside message hrow hon
    exact ⟨⟨task', hrow', .giveUp _ task'.status hstatus (hcalm hturn task hmem hid)⟩, trivial⟩
  | succeeded | stopped =>
    simp only [Execution.step, fanOutEvents, List.append_nil]
    exact ⟨refines_stay hrow, trivial⟩

theorem Dispatch.localFor (dispatch : Dispatch) (id : Id) :
    dispatch.service.LocalFor id (KeepsRow id) := by
  cases dispatch with
  | passwordEmail input => exact local_authPasswordDelivery.localFor (isFrame_keepsRow id)
  | pushNotification input => exact local_push.localFor (isFrame_keepsRow id)
  | broadcastFanout payload => exact localFor_broadcastDelivery id

theorem claimForRetry_cases (hrow : ledger.store.tasks.findUnique taskId = some task)
    (now : TimeValue) :
    claimForRetry ledger.store.tasks taskId now = (none, ledger.store.tasks) ∨
      task.status = .FAILED ∧ ∃ record task', claimForRetry ledger.store.tasks taskId now =
          (some record, ledger.store.tasks.modify taskId
            (TaskData.patch { status := some .PROCESSING } now)) ∧
        (ledger.store.tasks.modify taskId
          (TaskData.patch { status := some .PROCESSING } now)).findUnique taskId = some task' ∧
        task'.status = .PROCESSING := by
  have hclaimed := findUnique_modify_self (TaskData.patch { status := some .PROCESSING } now) hrow
  simp only [claimForRetry, hrow]
  split_ifs with hfailed
  · rw [findById_of_findUnique hclaimed]
    exact .inr ⟨hfailed.1, _, _, rfl, hclaimed, rfl⟩
  · exact .inl rfl

theorem createReplacement_cases (record : DeliveryTask)
    (hrow : ledger.store.tasks.findUnique taskId = some task) :
    (∃ error, createReplacement turn record ledger = (.releasing error, ledger)) ∨
      ∃ dispatch replacement store, taskId ≠ replacement.id ∧
        store.tasks.findUnique taskId = some task ∧
        createReplacement turn record ledger =
          (.created dispatch replacement, ⟨store, ledger.events ++ [.replaced]⟩) := by
  unfold createReplacement
  cases retryByKind turn record with
  | error error => exact .inl ⟨error, rfl⟩
  | ok asked =>
    obtain ⟨dispatch, invites⟩ := asked
    simp only
    cases hcreate : create ledger.store.tasks turn.replacementId dispatch.createInput
        turn.outside.now with
    | error message => exact .inl ⟨.internal message, rfl⟩
    | ok created =>
      obtain ⟨replacement, tasks⟩ := created
      obtain ⟨hne, hrow'⟩ := findUnique_create_other hcreate hrow
      refine .inr ⟨dispatch, replacement, { ledger.store with
        tasks := tasks, residentInvites := ledger.store.residentInvites ++ invites }, ?_, hrow', rfl⟩
      rw [(findUnique_create hcreate).1]
      exact hne

theorem Retry.step_refines {retry : Retry}
    (hrow : ledger.store.tasks.findUnique taskId = some task) (hon : retry.On taskId)
    (hturn : turn.databaseError = none)
    (hcalm : (Party.retries retry).Undisturbed taskId turn free ledger) :
    Refines taskId free retry.phase ⟨task.status, ledger.events⟩
        (retry.step taskId turn ledger).1.phase (retry.step taskId turn ledger).2 ∧
      (retry.step taskId turn ledger).1.On taskId := by
  cases retry with
  | waiting =>
    simp only [Retry.step, findById_of_findUnique hrow]
    exact ⟨refines_stay hrow, trivial⟩
  | found =>
    rcases claimForRetry_cases hrow turn.outside.now with
      hrefused | ⟨hfailed, record, task', hclaimed, hrow', hstatus⟩
    · simp only [Retry.step, hrefused]
      exact ⟨refines_leave hrow, trivial⟩
    · have hfree : free := hcalm hturn (by rw [hclaimed]; rfl)
      simp only [Retry.step, hclaimed]
      refine ⟨⟨task', hrow', ?_⟩, trivial⟩
      rw [hstatus]
      exact .claim _ hfree hfailed
  | claiming =>
    simp only [Retry.step, findById_of_findUnique hrow]
    exact ⟨refines_stay hrow, trivial⟩
  | claimed record =>
    simp only [Retry.step]
    rcases createReplacement_cases record hrow with
      ⟨error, hthrown⟩ | ⟨dispatch, replacement, store, hne, hrow', hcreated⟩
    · rw [hthrown]
      exact ⟨⟨task, hrow, .throw _⟩, trivial⟩
    · rw [hcreated]
      exact ⟨⟨task, hrow', .replace _⟩, hne⟩
  | created dispatch replacement =>
    obtain ⟨-, hdispatched⟩ := hcalm
    have hkept : KeepsRow taskId ledger.store
        (dispatch.service.dispatchTask turn.outside replacement ledger.store).2 :=
      frame_dispatchTask (isFrame_keepsRow taskId) (dispatch.localFor taskId) hon
    simp only [Retry.step]
    generalize dispatch.service.dispatchTask turn.outside replacement ledger.store = dispatched
      at hdispatched hkept ⊢
    obtain ⟨outcome, store⟩ := dispatched
    cases outcome with
    | error message => exact absurd hdispatched Bool.false_ne_true
    | ok u => exact ⟨⟨task, hkept task hrow, .stay _ _⟩, trivial⟩
  | dispatched replacement =>
    simp only [Retry.step, markRetried, hrow]
    exact ⟨⟨_, findUnique_modify_self _ hrow, .retire _⟩, trivial⟩
  | releasing error =>
    simp only [Retry.step, releaseRetryClaim, update_of_findUnique hrow]
    exact ⟨⟨_, findUnique_modify_self _ hrow, .release _⟩, trivial⟩
  | refused => exact ⟨refines_leave hrow, trivial⟩
  | retried _ | failed _ | lost => exact ⟨refines_stay hrow, trivial⟩

theorem Party.throws_refines {party : Party} {message : String}
    (hrow : ledger.store.tasks.findUnique taskId = some task) (hon : party.On taskId)
    (hturn : turn.databaseError = some message)
    (hcalm : party.Undisturbed taskId turn free ledger) :
    Refines taskId free party.phase ⟨task.status, ledger.events⟩ (party.throws message).phase
        ledger ∧ (party.throws message).On taskId := by
  cases party with
  | sends sender sending =>
    cases sending with
    | waiting | found | marking _ | failing _ _ => exact ⟨refines_leave hrow, trivial⟩
    | processing record | delivered record => exact ⟨refines_stay hrow, hon⟩
    | stopped => exact ⟨refines_stay hrow, trivial⟩
  | fansOut execution =>
    cases execution with
    | waiting | found | marking _ | failing _ _ | publishing _ _ =>
      exact ⟨refines_leave hrow, trivial⟩
    | processing record | fanningOut record _ => exact ⟨refines_stay hrow, hon⟩
    | succeeded | stopped => exact ⟨refines_stay hrow, trivial⟩
  | retries retry =>
    cases retry with
    | waiting | found | claiming | dispatched _ | releasing _ | refused =>
      exact ⟨refines_leave hrow, trivial⟩
    | claimed record => exact ⟨⟨task, hrow, .throw _⟩, trivial⟩
    | created dispatch replacement =>
      rw [hcalm.1] at hturn
      cases hturn
    | retried _ | failed _ | lost => exact ⟨refines_stay hrow, trivial⟩

theorem Party.crashed_refines {party : Party}
    (hrow : ledger.store.tasks.findUnique taskId = some task) :
    Refines taskId free party.phase ⟨task.status, ledger.events⟩ party.crashed.phase ledger ∧
      party.crashed.On taskId := by
  cases party with
  | sends sender sending => exact ⟨refines_leave hrow, trivial⟩
  | fansOut execution => exact ⟨refines_leave hrow, trivial⟩
  | retries retry => exact ⟨refines_leave hrow, trivial⟩

/-- Every undisturbed step, of whichever party, is a move of the handover. -/
theorem Party.step_refines {party : Party}
    (hrow : ledger.store.tasks.findUnique taskId = some task) (hon : party.On taskId)
    (hcalm : turn.crashes = false → party.Undisturbed taskId turn free ledger) :
    Refines taskId free party.phase ⟨task.status, ledger.events⟩
        (party.step taskId turn ledger).1.phase (party.step taskId turn ledger).2 ∧
      (party.step taskId turn ledger).1.On taskId := by
  unfold Party.step
  by_cases hcrash : turn.crashes = true
  · rw [if_pos hcrash]
    exact Party.crashed_refines hrow
  rw [if_neg hcrash]
  have hcalm := hcalm (eq_false_of_ne_true hcrash)
  cases hturn : turn.databaseError with
  | some message => exact Party.throws_refines hrow hon hturn hcalm
  | none =>
    cases party with
    | sends sender sending => exact Sending.step_refines hrow hon hturn hcalm
    | fansOut execution => exact Execution.step_refines hrow hon hturn hcalm
    | retries retry => exact Retry.step_refines hrow hon hturn hcalm

end Steps

section Runs

variable {π : Type*} [DecidableEq π]

def KeepsFinal (taskId : Id) (before after : Store) : Prop :=
  ∀ task, before.tasks.findUnique taskId = some task → IsFinal task.status →
    ∃ task', after.tasks.findUnique taskId = some task' ∧ task'.status = task.status

/-- In every state of a run one replacement at most, nothing delivered by the task after a
claim, and a final status for good. -/
structure RetriedInOrder (taskId : Id) (role : π → Role) (store : Store)
    (ms : List (π × RetryTurn)) : Prop where
  once : ∀ ns, ns <+: ms → (raced taskId role store ns).shared.events.count .replaced ≤ 1
  undelivered : ∀ ns, ns <+: ms → NothingAfterClaim (raced taskId role store ns).shared.events
  final : ∀ ks ns, ks <+: ns → ns <+: ms →
    KeepsFinal taskId (raced taskId role store ks).shared.store
      (raced taskId role store ns).shared.store

/-- The configuration as the handover sees it. -/
def handedOver (c : Config π Party Ledger) (task : DeliveryTask) : Config π Phase Desk :=
  ⟨⟨task.status, c.shared.events⟩, fun p => (c.locals p).phase⟩

structure Orderly (taskId : Id) (c : Config π Party Ledger) : Prop where
  row : ∃ task, c.shared.store.tasks.findUnique taskId = some task ∧ InOrder (handedOver c task)
  on : ∀ p, (c.locals p).On taskId

variable {taskId : Id} {c : Config π Party Ledger} {m : π × RetryTurn} {role : π → Role}
  {store : Store}

theorem KeepsFinal.refl (taskId : Id) (store : Store) : KeepsFinal taskId store store :=
  fun task hrow _ => ⟨task, hrow, rfl⟩

theorem KeepsFinal.trans {s₁ s₂ s₃ : Store} (h : KeepsFinal taskId s₁ s₂)
    (h' : KeepsFinal taskId s₂ s₃) : KeepsFinal taskId s₁ s₃ := by
  intro task hrow hfinal
  obtain ⟨task₂, hrow₂, hstatus₂⟩ := h task hrow hfinal
  obtain ⟨task₃, hrow₃, hstatus₃⟩ := h' task₂ hrow₂ (hstatus₂ ▸ hfinal)
  exact ⟨task₃, hrow₃, hstatus₃.trans hstatus₂⟩

omit [DecidableEq π] in
theorem orderly_start {task : DeliveryTask} (hrow : store.tasks.findUnique taskId = some task) :
    Orderly taskId (raceStart role store) where
  row := by
    refine ⟨task, hrow, ?_⟩
    have hphase : ∀ p, (role p).start.phase = .idle := by
      intro p
      cases role p with
      | execution kind => cases kind <;> rfl
      | retry => rfl
    have hidle : handedOver (raceStart role store) task = Config.start ⟨task.status, []⟩ .idle := by
      simp only [handedOver, raceStart, Config.start, hphase]
    rw [hidle]
    exact Handover.inOrder_start task.status
  on := by
    intro p
    simp only [raceStart]
    cases role p with
    | execution kind => cases kind <;> exact trivial
    | retry => exact trivial

/-- The step lemma: an undisturbed step keeps the order, and a final status. -/
theorem orderly_next (h : Orderly taskId c) (hcalm : Undisturbed taskId m c) :
    Orderly taskId (Interleaving.next (retryMachine π taskId) m c) ∧
      KeepsFinal taskId c.shared.store
        (Interleaving.next (retryMachine π taskId) m c).shared.store := by
  obtain ⟨⟨task, hrow, horder⟩, hon⟩ := h
  obtain ⟨p, turn⟩ := m
  obtain ⟨⟨task', hrow', hmoves⟩, hon'⟩ :=
    Party.step_refines hrow (hon p) (fun hcrash => hcalm hcrash)
  have hnext : handedOver (Interleaving.next (retryMachine π taskId) (p, turn) c) task' =
      Handover.moved (handedOver c task) p (((c.locals p).step taskId turn c.shared).1.phase)
        ⟨task'.status, ((c.locals p).step taskId turn c.shared).2.events⟩ := by
    have hphases : (fun q => ((Interleaving.next (retryMachine π taskId) (p, turn) c).locals
        q).phase) = Function.update (fun q => (c.locals q).phase) p
          ((c.locals p).step taskId turn c.shared).1.phase :=
      funext fun q => Function.apply_update (fun _ => Party.phase) c.locals p _ q
    exact congrArg (Config.mk _) hphases
  refine ⟨⟨⟨task', hrow', ?_⟩, ?_⟩, ?_⟩
  · rw [hnext]
    exact horder.moves hmoves
  · intro q
    by_cases hq : q = p
    · subst hq
      rw [Interleaving.next_self]
      exact hon'
    · rw [Interleaving.next_other turn c hq]
      exact hon q
  · intro task₀ hrow₀ hfinal
    obtain rfl : task = task₀ := Option.some.inj (hrow.symm.trans hrow₀)
    exact ⟨task', hrow', horder.final hmoves hfinal⟩

/-- A task is retried in order along every run of undisturbed steps. -/
theorem retried_in_order_of_undisturbed (taskId : Id) (role : π → Role) (store : Store)
    {task : DeliveryTask} (hrow : store.tasks.findUnique taskId = some task)
    (ms : List (π × RetryTurn))
    (hms : Run.Along (Interleaving.next (retryMachine π taskId)) (Undisturbed taskId)
      (raceStart role store) ms) :
    RetriedInOrder taskId role store ms := by
  have horderly : ∀ ns, ns <+: ms → Orderly taskId (raced taskId role store ns) := by
    rintro ns ⟨rest, rfl⟩
    exact Run.exec_inv_along (I := Orderly taskId)
      (fun m c h hcalm => (orderly_next h hcalm).1) (orderly_start hrow)
      (Run.along_append.mp hms).1
  refine ⟨fun ns hns => ?_, fun ns hns => ?_, fun ks ns hks hns => ?_⟩
  · obtain ⟨task, -, horder⟩ := (horderly ns hns).row
    exact horder.once
  · obtain ⟨task, -, horder⟩ := (horderly ns hns).row
    exact horder.ordered
  · obtain ⟨rest, rfl⟩ := hks
    obtain ⟨after, rfl⟩ := hns
    obtain ⟨-, hrest⟩ := Run.along_append.mp (Run.along_append.mp hms).1
    have hkeeps := Run.exec_rel_along (I := Orderly taskId)
      (R := fun c c' : Config π Party Ledger => KeepsFinal taskId c.shared.store c'.shared.store)
      (fun c => .refl taskId c.shared.store) (fun h h' => h.trans h')
      (fun m c h hcalm => (orderly_next h hcalm).1) (fun m c h hcalm => (orderly_next h hcalm).2)
      (horderly ks ⟨rest ++ after, by rw [List.append_assoc]⟩) hrest
    have hlater : raced taskId role store (ks ++ rest) =
        Run.exec (Interleaving.next (retryMachine π taskId)) (raced taskId role store ks) rest :=
      Run.exec_append _ _ ks rest
    rw [hlater]
    exact hkeeps

end Runs

section Scene

def failedTask : DeliveryTask := { resetEmailTask with
  status := .FAILED
  attemptCount := 5
  lastAttemptAt := some .epoch
  processingStartedAt := some .epoch
  completedAt := some .epoch
  lastError := some "connect ECONNREFUSED" }

def failedStore : Store := ⟨⟨[failedTask], by decide⟩, [], [], []⟩

/-- Two administrators retry the task, whose job is delivered once more. -/
def administrators : Option Bool → Role
  | none => .execution .AUTH_PASSWORD_EMAIL
  | some _ => .retry

/-- The queue is there again, the mail server is not. -/
def withoutMail (p : Option Bool) : RetryTurn where
  outside := { offline with queue := .accepts }
  crashes := false
  databaseError := none
  findUser := fun id => some ⟨id, "user@example.com", none, none, none, true⟩
  nextToken := "next-token"
  nextTokenHash := "next-hash"
  nextExpiresAt := "1970-01-01T02:00:00.000Z"
  replacementId := if p = some true then "second" else "third"

def retryTurns (ps : List (Option Bool)) : List (Option Bool × RetryTurn) :=
  ps.map fun p => (p, withoutMail p)

theorem failedStore_row : failedStore.tasks.findUnique "task" = some failedTask := by
  decide +kernel

theorem retried_before_redelivery : RetriedInOrder "task" administrators failedStore
    (retryTurns [some true, some false, some true, some true, some false, some true, none, some true,
      some true, none, some false]) :=
  retried_in_order_of_undisturbed "task" administrators failedStore failedStore_row
    (retryTurns [some true, some false, some true, some true, some false, some true, none, some true,
      some true, none, some false])
    (by decide +kernel)

/-- The job fails the task once more while a retry holds it, and so another can claim it. -/
theorem replaced_twice : ¬ ∀ ms : List (Option Bool × RetryTurn),
    RetriedInOrder "task" administrators failedStore ms := by
  intro h
  have honce := (h (retryTurns [some true, some true, none, none, none, none, none, some true,
    some true, some false, some false, some false, some false])).once _ (List.prefix_refl _)
  revert honce
  decide +kernel

end Scene

end Towerdesk.Delivery
