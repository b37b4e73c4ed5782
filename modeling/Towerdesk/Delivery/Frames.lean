import Towerdesk.Delivery.Services

/-!
# What a dispatch leaves alone

A push task that is created, dispatched and processed on the side leaves the row of any
task that was there before, and the notifications.
-/

namespace Towerdesk.Delivery

open IsoDate (TimeValue)

/-- A row that is found before is found after, beside the same notifications. -/
def Untouched (id : Id) (before after : Store) : Prop :=
  ∀ task, before.tasks.findUnique id = some task →
    after.tasks.findUnique id = some task ∧ after.notifications = before.notifications

theorem Untouched.refl (id : Id) (store : Store) : Untouched id store store :=
  fun _ h => ⟨h, rfl⟩

theorem Untouched.trans {id : Id} {s₁ s₂ s₃ : Store} (h : Untouched id s₁ s₂)
    (h' : Untouched id s₂ s₃) : Untouched id s₁ s₃ := by
  intro task htask
  obtain ⟨htask₂, hnotifications⟩ := h task htask
  obtain ⟨htask₃, hnotifications'⟩ := h' task htask₂
  exact ⟨htask₃, hnotifications'.trans hnotifications⟩

section Updates

variable {id other : Id} {store : Store} {tasks tasks' : DeliveryTasks} {now : TimeValue}

theorem untouched_update {data : TaskData} {updated : DeliveryTask} (hne : id ≠ other)
    (h : update store.tasks other data now = .ok (updated, tasks')) :
    Untouched id store { store with tasks := tasks' } := by
  unfold update at h
  split at h
  · cases h
  · obtain ⟨-, rfl⟩ := Prod.mk.inj (Except.ok.inj h)
    exact fun task htask => ⟨findUnique_modify_other _ hne htask, rfl⟩

theorem untouched_markProcessing {found : Option DeliveryTask} (hne : id ≠ other)
    (h : markProcessing store.tasks other now = .ok (found, tasks')) :
    Untouched id store { store with tasks := tasks' } := by
  unfold markProcessing at h
  split at h
  · obtain ⟨-, rfl⟩ := Prod.mk.inj (Except.ok.inj h)
    exact .refl id store
  · split_ifs at h
    · obtain ⟨-, rfl⟩ := Prod.mk.inj (Except.ok.inj h)
      exact .refl id store
    · obtain ⟨⟨updated, tasks''⟩, hupdate, heq⟩ := Outcome.map_eq_ok.mp h
      obtain ⟨-, rfl⟩ := Prod.mk.inj heq
      exact untouched_update hne hupdate

theorem update_id {data : TaskData} {updated : DeliveryTask}
    (h : update tasks other data now = .ok (updated, tasks')) : updated.id = other := by
  unfold update at h
  split at h
  · cases h
  · rename_i task hfound
    obtain ⟨rfl, -⟩ := Prod.mk.inj (Except.ok.inj h)
    exact (Table.findUnique_eq_some.mp hfound).2

theorem markProcessing_id {processing : DeliveryTask}
    (h : markProcessing tasks other now = .ok (some processing, tasks')) :
    processing.id = other := by
  unfold markProcessing at h
  split at h
  · cases (Prod.mk.inj (Except.ok.inj h)).1
  · rename_i existing hexisting
    obtain ⟨task, hfound, rfl⟩ := Option.map_eq_some_iff.mp hexisting
    split_ifs at h
    · obtain ⟨hsame, -⟩ := Prod.mk.inj (Except.ok.inj h)
      obtain rfl := Option.some.inj hsame
      exact (Table.findUnique_eq_some.mp hfound).2
    · obtain ⟨⟨updated, tasks''⟩, hupdate, heq⟩ := Outcome.map_eq_ok.mp h
      obtain ⟨hupdated, -⟩ := Prod.mk.inj heq
      obtain rfl := Option.some.inj hupdated
      exact update_id hupdate

end Updates

section Frames

/-- Relations that hold of what leaves a row and the notifications alone, step by step. -/
structure IsFrame (id : Id) (R : Store → Store → Prop) : Prop where
  of_untouched : ∀ {before after}, Untouched id before after → R before after
  trans : ∀ {s₁ s₂ s₃}, R s₁ s₂ → R s₂ s₃ → R s₁ s₃

theorem isFrame_untouched (id : Id) : IsFrame id (Untouched id) where
  of_untouched h := h
  trans := Untouched.trans

structure DeliveryService.LocalFor (service : DeliveryService) (id : Id)
    (R : Store → Store → Prop) : Prop where
  attempt : ∀ outside processing store, id ≠ processing.id →
    R store (service.attempt outside processing store).2
  exhausted : ∀ outside processing message store,
    R store (service.onExhausted outside processing message store)

structure DeliveryService.Local (service : DeliveryService) : Prop where
  attempt : ∀ outside processing store {id}, id ≠ processing.id →
    Untouched id store (service.attempt outside processing store).2
  exhausted : ∀ outside processing message id store,
    Untouched id store (service.onExhausted outside processing message store)

variable {outside : Outside} {store : Store} {id other : Id} {R : Store → Store → Prop}
  {service : DeliveryService} {allowThrow : Bool}

theorem DeliveryService.Local.localFor (h : service.Local) (hR : IsFrame id R) :
    service.LocalFor id R where
  attempt outside processing store hne := hR.of_untouched (h.attempt outside processing store hne)
  exhausted outside processing message store :=
    hR.of_untouched (h.exhausted outside processing message id store)

theorem untouched_deliverThenMark (delivered : Except String Unit) (hne : id ≠ other) :
    Untouched id store (deliverThenMark delivered outside other store).2 := by
  unfold deliverThenMark
  cases delivered with
  | error message => exact .refl id store
  | ok u =>
    cases hmark : markSucceeded store.tasks other outside.now with
    | error message => exact .refl id store
    | ok marked => exact untouched_update hne hmark

theorem frame_fail (hR : IsFrame id R) (hlocal : service.LocalFor id R)
    {processing : DeliveryTask} {message : String} (hne : id ≠ processing.id) :
    R store (service.fail outside processing message allowThrow store).2 := by
  unfold DeliveryService.fail
  by_cases hlast : processing.maxAttempts ≤ processing.attemptCount
  · simp only [if_pos hlast]
    cases hmark : markFailed store.tasks processing.id message outside.now with
    | error e => exact hR.of_untouched (.refl id store)
    | ok marked =>
      exact hR.trans (hR.of_untouched (untouched_update hne hmark))
        (hlocal.exhausted outside processing message _)
  · simp only [if_neg hlast]
    cases hmark : markRetryScheduled store.tasks processing.id message outside.now with
    | error e => exact hR.of_untouched (.refl id store)
    | ok marked => exact hR.of_untouched (untouched_update hne hmark)

theorem frame_process (hR : IsFrame id R) (hlocal : service.LocalFor id R) (hne : id ≠ other) :
    R store (service.process outside other allowThrow store).2 := by
  have hsame : R store store := hR.of_untouched (.refl id store)
  unfold DeliveryService.process
  cases findById store.tasks other with
  | none => exact hsame
  | some found =>
    simp only
    split_ifs
    · exact hsame
    cases hmark : markProcessing store.tasks other outside.now with
    | error message => exact hsame
    | ok marked =>
      obtain ⟨processing, tasks⟩ := marked
      have hmarked : R store { store with tasks := tasks } :=
        hR.of_untouched (untouched_markProcessing hne hmark)
      cases processing with
      | none => exact hmarked
      | some processing =>
        simp only
        split_ifs
        · exact hmarked
        have hid : id ≠ processing.id := by
          rwa [markProcessing_id hmark]
        have hattempt := hlocal.attempt outside processing { store with tasks := tasks } hid
        generalize service.attempt outside processing { store with tasks := tasks } = attempted
          at hattempt ⊢
        obtain ⟨outcome, store'⟩ := attempted
        cases outcome with
        | ok u => exact hR.trans hmarked hattempt
        | error message =>
          exact hR.trans (hR.trans hmarked hattempt) (frame_fail hR hlocal hid)

theorem local_push : PushNotifications.service.Local where
  attempt := by
    intro outside processing store id hne
    cases hpayload : processing.payload with
    | pushNotification payload =>
      simp only [PushNotifications.service, hpayload]
      exact untouched_deliverThenMark _ hne
    | passwordEmail payload | broadcastFanout payload =>
      simp only [PushNotifications.service, hpayload]
      exact .refl id store
  exhausted := fun _ _ _ id store => .refl id store

theorem untouched_enqueue (outside : Outside) (job : Job) (store : Store) :
    Untouched id store (enqueue outside job store).2 := by
  unfold enqueue
  cases outside.queue <;> exact fun _ h => ⟨h, rfl⟩

theorem frame_dispatchTask (hR : IsFrame id R) (hlocal : service.LocalFor id R)
    {task : DeliveryTask} (hne : id ≠ task.id) :
    R store (service.dispatchTask outside task store).2 := by
  unfold DeliveryService.dispatchTask
  have hqueued : R store (enqueue outside (service.job task) store).2 :=
    hR.of_untouched (untouched_enqueue outside (service.job task) store)
  generalize enqueue outside (service.job task) store = queued at hqueued ⊢
  obtain ⟨answer, store'⟩ := queued
  cases answer with
  | error message => exact hR.trans hqueued (frame_process hR hlocal hne)
  | ok taken =>
    cases taken with
    | true => exact hqueued
    | false => exact hR.trans hqueued (frame_process hR hlocal hne)

theorem untouched_createAndDispatch (hlocal : service.Local) {input : DeliveryTaskCreateInput} :
    Untouched id store (service.createAndDispatch outside other input store).2 := by
  intro task htask
  unfold DeliveryService.createAndDispatch
  cases hcreate : create store.tasks other input outside.now with
  | error message => exact ⟨htask, rfl⟩
  | ok created =>
    obtain ⟨created, tasks⟩ := created
    obtain ⟨hne, hfound⟩ := findUnique_create_other hcreate htask
    have hid : id ≠ created.id := by
      rw [(findUnique_create hcreate).1]
      exact hne
    have hframe := isFrame_untouched id
    have huntouched : Untouched id { store with tasks := tasks }
        (service.dispatchTask outside created { store with tasks := tasks }).2 :=
      frame_dispatchTask hframe (hlocal.localFor hframe) hid
    have hdispatch := huntouched task hfound
    simp only
    generalize service.dispatchTask outside created { store with tasks := tasks } = dispatched
      at hdispatch ⊢
    obtain ⟨outcome, store'⟩ := dispatched
    cases outcome <;> exact hdispatch

theorem untouched_queuePush (outside : Outside) (payload : BroadcastFanoutDeliveryPayload) :
    Untouched id store (BroadcastDelivery.queuePush outside payload store) := by
  unfold BroadcastDelivery.queuePush PushNotifications.sendToUsers
  split_ifs
  · exact .refl id store
  · simp only
    split_ifs
    · exact .refl id store
    · exact untouched_createAndDispatch local_push

end Frames

section Rows

/-- A row that is found before is found after. -/
def KeepsRow (id : Id) (before after : Store) : Prop :=
  ∀ task, before.tasks.findUnique id = some task → after.tasks.findUnique id = some task

variable {outside : Outside} {store : Store} {id other : Id}

theorem isFrame_keepsRow (id : Id) : IsFrame id (KeepsRow id) where
  of_untouched h task htask := (h task htask).1
  trans h h' task htask := h' task (h task htask)

theorem local_authPasswordDelivery : AuthPasswordDelivery.service.Local where
  attempt := by
    intro outside processing store id hne
    cases hpayload : processing.payload with
    | passwordEmail payload =>
      simp only [AuthPasswordDelivery.service, hpayload]
      exact untouched_deliverThenMark _ hne
    | pushNotification payload | broadcastFanout payload =>
      simp only [AuthPasswordDelivery.service, hpayload]
      exact .refl id store
  exhausted := by
    intro outside processing message id store
    simp only [AuthPasswordDelivery.service]
    split
    · split
      · exact .refl id store
      · exact fun task htask => ⟨htask, rfl⟩
    · exact .refl id store

theorem keepsRow_fanOut {payload : BroadcastFanoutDeliveryPayload} (hne : id ≠ other) :
    KeepsRow id store (BroadcastDelivery.fanOut outside other payload store).2 := by
  unfold BroadcastDelivery.fanOut
  split_ifs
  · exact fun _ htask => htask
  · cases outside.commitNotifications (BroadcastDelivery.notifications payload) with
    | error message => exact fun _ htask => htask
    | ok u =>
      cases hmark : markSucceeded store.tasks other outside.now with
      | error message => exact fun _ htask => htask
      | ok marked =>
        obtain ⟨marked, tasks⟩ := marked
        intro task htask
        exact (untouched_update hne hmark task htask).1

theorem localFor_broadcastDelivery (id : Id) :
    BroadcastDelivery.service.LocalFor id (KeepsRow id) where
  attempt := by
    intro outside processing store hne
    cases hpayload : processing.payload with
    | broadcastFanout payload =>
      simp only [BroadcastDelivery.service, hpayload]
      have hfanOut : KeepsRow id store
          (BroadcastDelivery.fanOut outside processing.id payload store).2 := keepsRow_fanOut hne
      generalize BroadcastDelivery.fanOut outside processing.id payload store = fannedOut
        at hfanOut ⊢
      obtain ⟨outcome, store'⟩ := fannedOut
      cases outcome with
      | error message => exact hfanOut
      | ok created =>
        simp only
        split_ifs
        · exact hfanOut
        · cases outside.publishCreatedNotifications payload.orgId created with
          | error message => exact hfanOut
          | ok u =>
            intro task htask
            exact (untouched_queuePush outside payload task (hfanOut task htask)).1
    | passwordEmail payload | pushNotification payload =>
      simp only [BroadcastDelivery.service, hpayload]
      exact fun _ htask => htask
  exhausted := fun _ _ _ _ _ htask => htask

end Rows

end Towerdesk.Delivery
