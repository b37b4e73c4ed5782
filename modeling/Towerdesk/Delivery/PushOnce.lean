import Towerdesk.Delivery.PushSending
import Towerdesk.Lib.Run

/-!
# Messaging a device once

When a call fails the whole task is attempted again, and nothing of what earlier calls did
is read. A device is messaged once as long as no attempt gets through while a device that
was messaged before is still registered. The devices already messaged are then always the
first ones left, so the first call that is answered decides.
-/

namespace Towerdesk.Delivery.PushNotifications

open Notifications (chunk)

def Succeeded (taskId : Id) (w : Push) : Prop :=
  ∃ task, w.store.tasks.findUnique taskId = some task ∧ task.status = .SUCCEEDED

/-- No device of the list is in two calls answered ok, and once the task has succeeded each
is in one. -/
def SentOnce (taskId : Id) (devices : List PushDevice) (w : Push) : Prop :=
  ∀ d ∈ devices, okCalls w d.id ≤ 1 ∧ (Succeeded taskId w → okCalls w d.id = 1)

/-- The task is attempted again, its first call is answered ok, and a device that was
messaged is still among the recipients. -/
def Resends (taskId : Id) (turn : SendTurn) (w : Push) : Prop :=
  ∃ input, pendingPayload w.store.tasks taskId = some input ∧ (turn.answers 0).ok = true ∧
    ∃ d ∈ recipients w input, ∃ ids ∈ w.sent, d.id ∈ ids

section Rows

variable {outside : Outside} {allowThrow : Bool} {store : Store} {taskId : Id} {task : DeliveryTask}
  {input : PushNotificationDeliveryPayload}

theorem pendingPayload_of_open (h : store.tasks.findUnique taskId = some task)
    (hpayload : task.payload = .pushNotification input) (hopen : task.isFinished = false) :
    pendingPayload store.tasks taskId = some input := by
  have hpayload' : (mapRecord task).payload = .pushNotification input := hpayload
  have hopen' : (mapRecord task).isFinished = false := hopen
  simp only [pendingPayload, findById_of_findUnique h, Option.bind_some, hpayload', hopen',
    Bool.false_eq_true, if_false]

theorem pendingPayload_of_finished (h : store.tasks.findUnique taskId = some task)
    (hfinished : task.isFinished = true) : pendingPayload store.tasks taskId = none := by
  have hfinished' : (mapRecord task).isFinished = true := hfinished
  simp only [pendingPayload, findById_of_findUnique h, Option.bind_some, hfinished', if_true]
  split <;> rfl

theorem process_finished (h : store.tasks.findUnique taskId = some task)
    (hfinished : task.isFinished = true) :
    (processDeliveryTask outside taskId allowThrow store).2 = store := by
  have hfinished' : (mapRecord task).isFinished = true := hfinished
  simp only [processDeliveryTask, DeliveryService.process, findById_of_findUnique h, hfinished',
    or_true, if_true]

theorem process_open (outside : Outside) (allowThrow : Bool)
    (h : store.tasks.findUnique taskId = some task)
    (hpayload : task.payload = .pushNotification input) (hopen : task.isFinished = false) :
    ∃ task', (processDeliveryTask outside taskId allowThrow store).2.tasks.findUnique taskId =
        some task' ∧ task'.payload = .pushNotification input ∧
      (outside.deliverToUsersNow taskId input = .ok () → task'.status = .SUCCEEDED) ∧
      (outside.deliverToUsersNow taskId input ≠ .ok () → task'.isFinished = false) := by
  have hid : task.id = taskId := (Table.findUnique_eq_some.mp h).2
  have hskip : ¬ ((mapRecord task).kind ≠ service.kind ∨ (mapRecord task).isFinished = true) := by
    refine not_or.mpr ⟨not_not.mpr ?_, ne_true_of_eq_false hopen⟩
    simp only [DeliveryTask.kind, mapRecord, hpayload, DeliveryTaskPayload.kind, service]
  have hrow := findUnique_modify_self
    ((processingData (mapRecord task) outside.now).patch outside.now) h
  simp only [processDeliveryTask, DeliveryService.process, findById_of_findUnique h, if_neg hskip,
    markProcessing_of_findUnique h hopen]
  generalize hprocessing :
    ((processingData (mapRecord task) outside.now).patch outside.now).apply task = processing
      at hrow ⊢
  have hpayload' : (mapRecord processing).payload = .pushNotification input :=
    hprocessing ▸ hpayload
  have hid' : (mapRecord processing).id = taskId := hprocessing ▸ hid
  have hopen' : ¬ (mapRecord processing).isFinished = true := hprocessing ▸ Bool.false_ne_true
  rw [if_neg hopen']
  simp only [service, hpayload', hid']
  cases hdelivered : outside.deliverToUsersNow taskId input with
  | ok u =>
    simp only [deliverThenMark, markSucceeded, update_of_findUnique hrow]
    exact ⟨_, findUnique_modify_self _ hrow, hpayload', fun _ => rfl, fun hne => absurd rfl hne⟩
  | error message =>
    simp only [deliverThenMark, DeliveryService.fail, hid', markFailed, markRetryScheduled,
      update_of_findUnique hrow]
    by_cases hlast : (mapRecord processing).maxAttempts ≤ (mapRecord processing).attemptCount
    · simp only [if_pos hlast]
      exact ⟨_, findUnique_modify_self _ hrow, hpayload', (fun hok => by cases hok),
        fun _ => rfl⟩
    · simp only [if_neg hlast]
      exact ⟨_, findUnique_modify_self _ hrow, hpayload', (fun hok => by cases hok),
        fun _ => rfl⟩

end Rows

section Attempts

variable {turn : SendTurn} {taskId : Id} {w : Push} {input : PushNotificationDeliveryPayload}
  {devices : List PushDevice}

/-- What is known between the attempts of a task for `devices`: the ones still among the
recipients are those already messaged, then those that are not. -/
structure Underway (taskId : Id) (input : PushNotificationDeliveryPayload)
    (devices : List PushDevice) (w : Push) : Prop where
  noop : w.pushProviderNoop = false
  row : ∃ task, w.store.tasks.findUnique taskId = some task ∧
    task.payload = .pushNotification input ∧ (task.isFinished = true → task.status = .SUCCEEDED) ∧
      (task.status = .SUCCEEDED → ∀ d ∈ devices, d.id ∈ w.sent.flatten)
  remaining : ∀ d ∈ recipients w input, d ∈ devices
  reached : ∀ d ∈ devices, d ∈ recipients w input ∨ d.id ∈ w.sent.flatten
  leading : ∃ front back, recipients w input = front ++ back ∧
    (∀ d ∈ front, d.id ∈ w.sent.flatten) ∧ ∀ d ∈ back, d.id ∉ w.sent.flatten
  distinct : ∀ ids ∈ w.sent, ids.Nodup

theorem Underway.okCalls_eq (h : Underway taskId input devices w) (id : Id) :
    okCalls w id = w.sent.flatten.count id :=
  countP_mem_eq_count h.distinct id

theorem Underway.sentOnce_iff (h : Underway taskId input devices w) :
    SentOnce taskId devices w ↔ ∀ d ∈ devices, w.sent.flatten.count d.id ≤ 1 := by
  unfold SentOnce
  simp only [h.okCalls_eq]
  refine forall_congr' fun d => forall_congr' fun hd => ⟨fun hd => hd.1, fun hle => ⟨hle, ?_⟩⟩
  rintro ⟨task, hrow, hsucceeded⟩
  obtain ⟨task', hrow', -, -, hall⟩ := h.row
  obtain rfl : task' = task := Option.some.inj (hrow'.symm.trans hrow)
  exact Nat.le_antisymm hle (List.count_pos_iff.mpr (hall hsucceeded d hd))

/-- What an attempt does to a task that is not finished. -/
structure Attempted (taskId : Id) (input : PushNotificationDeliveryPayload) (turn : SendTurn)
    (w w' : Push) (delivered : Except String Unit) (oks : List (List PushDevice))
    (rest : List PushDevice) : Prop where
  delivers : Delivers input turn delivered w w' oks rest
  row : ∃ task', w'.store.tasks.findUnique taskId = some task' ∧
    task'.payload = .pushNotification input ∧ (delivered = .ok () → task'.status = .SUCCEEDED) ∧
      (delivered ≠ .ok () → task'.isFinished = false)

theorem attempt_open (turn : SendTurn) (hnoop : w.pushProviderNoop = false) {task : DeliveryTask}
    (hrow : w.store.tasks.findUnique taskId = some task)
    (hpayload : task.payload = .pushNotification input) (hopen : task.isFinished = false) :
    ∃ delivered oks rest,
      Attempted taskId input turn w (attempt turn taskId w) delivered oks rest := by
  obtain ⟨oks, rest, hdelivers⟩ := deliverToUsersNow_delivers turn taskId input hnoop
  have hdeliver : deliver turn taskId w = deliverToUsersNow turn taskId input w := by
    rw [deliver, pendingPayload_of_open hrow hpayload hopen]
  refine ⟨(deliverToUsersNow turn taskId input w).1, oks, rest, ?_, ?_⟩
  · unfold attempt
    rw [hdeliver]
    exact ⟨⟨hdelivers.sends.noop, hdelivers.sends.sent, hdelivers.sends.remaining⟩,
      hdelivers.split, hdelivers.answered, hdelivers.first, hdelivers.all⟩
  · unfold attempt
    rw [hdeliver]
    exact process_open _ _ hrow hpayload hopen

theorem attempt_finished {task : DeliveryTask} (hrow : w.store.tasks.findUnique taskId = some task)
    (hfinished : task.isFinished = true) : attempt turn taskId w = w := by
  unfold attempt deliver
  rw [pendingPayload_of_finished hrow hfinished]
  dsimp only
  rw [process_finished hrow hfinished]

theorem not_mem_of_split {front back : List PushDevice}
    (hnodup : ((front ++ back).map (·.id)).Nodup) {d : PushDevice} (hd : d ∈ back) :
    d.id ∉ front.map (·.id) := by
  rw [List.map_append] at hnodup
  exact fun hmem => (List.nodup_append.mp hnodup).2.2 _ hmem _ (List.mem_map_of_mem hd) rfl

variable {w' : Push} {delivered : Except String Unit} {oks : List (List PushDevice)}
  {rest : List PushDevice}

namespace Attempted

theorem sent (h : Attempted taskId input turn w w' delivered oks rest) :
    w'.sent.flatten = w.sent.flatten ++ oks.flatten.map (·.id) := by
  rw [h.delivers.sends.sent, List.flatten_append, List.map_flatten]

theorem mem_sent (h : Attempted taskId input turn w w' delivered oks rest) {id : Id} :
    id ∈ w'.sent.flatten ↔ id ∈ w.sent.flatten ∨ id ∈ oks.flatten.map (·.id) := by
  rw [h.sent, List.mem_append]

theorem named_nodup (h : Attempted taskId input turn w w' delivered oks rest) :
    (oks.flatten.map (·.id)).Nodup := by
  have hnodup := recipients_ids_nodup w input
  rw [h.delivers.split, List.map_append] at hnodup
  exact hnodup.of_append_left

theorem leading (h : Attempted taskId input turn w w' delivered oks rest)
    (hw : Underway taskId input devices w) :
    ∃ front back, recipients w input = front ++ back ∧
      (∀ d ∈ front, d.id ∈ w'.sent.flatten) ∧ ∀ d ∈ back, d.id ∉ w'.sent.flatten := by
  obtain ⟨front, back, hsplit, hfront, hback⟩ := hw.leading
  have hnodup := recipients_ids_nodup w input
  obtain ⟨more, hnamed, hrest⟩ | ⟨more, hfronts, hbacks⟩ :=
    List.append_eq_append_iff.mp (hsplit.symm.trans h.delivers.split)
  · -- the calls reached beyond the devices already messaged
    refine ⟨oks.flatten, rest, h.delivers.split,
      fun d hd => h.mem_sent.mpr (.inr (List.mem_map_of_mem hd)), fun d hd hsent => ?_⟩
    rcases h.mem_sent.mp hsent with hsent | hsent
    · exact hback d (hrest ▸ List.mem_append_right more hd) hsent
    · rw [h.delivers.split] at hnodup
      exact not_mem_of_split hnodup hd hsent
  · refine ⟨front, back, hsplit, fun d hd => h.mem_sent.mpr (.inl (hfront d hd)),
      fun d hd hsent => ?_⟩
    rcases h.mem_sent.mp hsent with hsent | hsent
    · exact hback d hd hsent
    · rw [hsplit] at hnodup
      refine not_mem_of_split hnodup hd ?_
      rw [hfronts, List.map_append]
      exact List.mem_append_left _ hsent

theorem underway (h : Attempted taskId input turn w w' delivered oks rest)
    (hw : Underway taskId input devices w) : Underway taskId input devices w' := by
  obtain ⟨gone, hgone, hleft⟩ := h.delivers.sends.remaining
  obtain ⟨task', hrow', hpayload', hok, herror⟩ := h.row
  refine ⟨h.delivers.sends.noop.trans hw.noop, ?_, ?_, ?_, ?_, ?_⟩
  · refine ⟨task', hrow', hpayload', fun hfinished => ?_, fun hsucceeded d hd => ?_⟩
    · by_cases hdelivered : delivered = .ok ()
      · exact hok hdelivered
      · exact absurd hfinished (ne_true_of_eq_false (herror hdelivered))
    · have hdelivered : delivered = .ok () := by
        by_contra hne
        have hopen := herror hne
        simp only [DeliveryTask.isFinished, hsucceeded] at hopen
        exact absurd hopen (by decide)
      -- the calls of a delivery that succeeds name everyone left
      rcases hw.reached d hd with hd | hd
      · rw [h.delivers.split, h.delivers.all hdelivered, List.append_nil] at hd
        exact h.mem_sent.mpr (.inr (List.mem_map_of_mem hd))
      · exact h.mem_sent.mpr (.inl hd)
  · intro d hd
    rw [hleft] at hd
    exact hw.remaining d (List.mem_of_mem_filter hd)
  · intro d hd
    rcases hw.reached d hd with hd | hd
    · by_cases hid : d.id ∈ gone
      · exact .inr (h.mem_sent.mpr (.inr (hgone _ hid)))
      · rw [hleft]
        exact .inl (List.mem_filter.mpr ⟨hd, by simpa using hid⟩)
    · exact .inr (h.mem_sent.mpr (.inl hd))
  · obtain ⟨front, back, hsplit, hfront, hback⟩ := h.leading hw
    rw [hleft, hsplit, List.filter_append]
    exact ⟨_, _, rfl, fun d hd => hfront d (List.mem_of_mem_filter hd),
      fun d hd => hback d (List.mem_of_mem_filter hd)⟩
  · intro ids hids
    rw [h.delivers.sends.sent] at hids
    rcases List.mem_append.mp hids with hids | hids
    · exact hw.distinct ids hids
    · obtain ⟨called, hcalled, rfl⟩ := List.mem_map.mp hids
      exact h.named_nodup.sublist ((List.sublist_flatten_of_mem hcalled).map _)

/-- An attempt keeps every device at one call exactly when it does not get through to one
that was messaged before. -/
theorem sentOnce_iff (h : Attempted taskId input turn w w' delivered oks rest)
    (hpending : pendingPayload w.store.tasks taskId = some input)
    (hw : Underway taskId input devices w) (hsent : SentOnce taskId devices w) :
    SentOnce taskId devices w' ↔ ¬ Resends taskId turn w := by
  rw [(h.underway hw).sentOnce_iff]
  have honce := hw.sentOnce_iff.mp hsent
  simp only [h.sent, List.count_append]
  constructor
  · rintro hle ⟨input', hinput', hok, d, hd, ids, hids, hid⟩
    obtain rfl : input' = input := Option.some.inj (hinput'.symm.trans hpending)
    obtain ⟨front, back, hsplit, hfront, hback⟩ := hw.leading
    have hdsent : d.id ∈ w.sent.flatten := List.mem_flatten_of_mem hids hid
    cases front with
    | nil => exact hback d (by simpa [hsplit] using hd) hdsent
    | cons first front =>
      -- the first recipient was messaged before, and is in the first call
      have hfirst : first ∈ oks.flatten := h.delivers.first hok first (by rw [hsplit]; rfl)
      have hmem : first ∈ recipients w input' := by
        rw [hsplit]
        exact List.mem_append_left _ List.mem_cons_self
      have htwice := hle first (hw.remaining first hmem)
      have hbefore := List.count_pos_iff.mpr (hfront first List.mem_cons_self)
      have hagain := List.count_pos_iff.mpr (List.mem_map_of_mem (f := (·.id)) hfirst)
      omega
  · intro hresends d hd
    by_cases hagain : d.id ∈ oks.flatten.map (·.id)
    · obtain ⟨d', hd', hid⟩ := List.mem_map.mp hagain
      have hbefore : d.id ∉ w.sent.flatten := by
        intro hdsent
        obtain ⟨ids, hids, hmem⟩ := List.mem_flatten.mp hdsent
        refine hresends ⟨input, hpending, h.delivers.answered (List.ne_nil_of_mem hd'), d', ?_, ids,
          hids, hid ▸ hmem⟩
        rw [h.delivers.split]
        exact List.mem_append_left _ hd'
      rw [List.count_eq_zero_of_not_mem hbefore, Nat.zero_add]
      exact List.nodup_iff_count_le_one.mp h.named_nodup _
    · rw [List.count_eq_zero_of_not_mem hagain, Nat.add_zero]
      exact honce d hd

end Attempted

end Attempts

section Runs

variable {turn : SendTurn} {taskId : Id} {w : Push} {input : PushNotificationDeliveryPayload}
  {devices : List PushDevice}

theorem underway_attempt (hw : Underway taskId input devices w) :
    Underway taskId input devices (attempt turn taskId w) := by
  obtain ⟨task, hrow, hpayload, -, -⟩ := hw.row
  cases hfinished : task.isFinished with
  | true =>
    rw [attempt_finished hrow hfinished]
    exact hw
  | false =>
    obtain ⟨delivered, oks, rest, hattempted⟩ := attempt_open turn hw.noop hrow hpayload
      hfinished
    exact hattempted.underway hw

theorem sentOnce_attempt_iff (hw : Underway taskId input devices w)
    (hsent : SentOnce taskId devices w) :
    SentOnce taskId devices (attempt turn taskId w) ↔ ¬ Resends taskId turn w := by
  obtain ⟨task, hrow, hpayload, -, -⟩ := hw.row
  cases hfinished : task.isFinished with
  | true =>
    rw [attempt_finished hrow hfinished]
    refine iff_of_true hsent ?_
    rintro ⟨input', hinput', -⟩
    rw [pendingPayload_of_finished hrow hfinished] at hinput'
    cases hinput'
  | false =>
    obtain ⟨delivered, oks, rest, hattempted⟩ := attempt_open turn hw.noop hrow hpayload
      hfinished
    exact hattempted.sentOnce_iff (pendingPayload_of_open hrow hpayload hfinished) hw hsent

/-- A task just created, and no call made yet. -/
structure Created (taskId : Id) (input : PushNotificationDeliveryPayload) (w : Push) : Prop where
  expo : w.pushProviderNoop = false
  row : ∃ now, w.store.tasks.findUnique taskId = some ((createInput input).row taskId now)
  unsent : w.sent = []

theorem Created.underway (h : Created taskId input w) :
    Underway taskId input (recipients w input) w := by
  obtain ⟨now, hrow⟩ := h.row
  refine ⟨h.expo, ⟨_, hrow, rfl, ?_, ?_⟩, fun _ hd => hd, fun _ hd => .inl hd,
    ⟨[], recipients w input, rfl, fun _ hd => absurd hd List.not_mem_nil, ?_⟩, ?_⟩
  · intro hfinished
    cases hfinished
  · intro hsucceeded
    cases hsucceeded
  · rw [h.unsent]
    exact fun _ _ => List.not_mem_nil
  · rw [h.unsent]
    exact fun _ hids => absurd hids List.not_mem_nil

theorem Created.sentOnce (h : Created taskId input w) :
    SentOnce taskId (recipients w input) w := by
  rw [h.underway.sentOnce_iff, h.unsent]
  exact fun _ _ => Nat.zero_le 1

theorem push_sent_once_iff (taskId : Id) (input : PushNotificationDeliveryPayload) (w : Push)
    (h : Created taskId input w) (turns : List SendTurn) :
    (∀ ms, ms <+: turns → SentOnce taskId (recipients w input)
      (Run.exec (fun turn => attempt turn taskId) w ms)) ↔
        Run.Along (fun turn => attempt turn taskId) (fun turn w => ¬ Resends taskId turn w) w
          turns := by
  rw [Run.safe_iff_along (J := Underway taskId input (recipients w input))
    (fun _ _ => underway_attempt) (fun _ _ => sentOnce_attempt_iff) h.underway]
  exact and_iff_right h.sentOnce

end Runs

section Crowds

variable {turn turn' : SendTurn} {taskId : Id} {w : Push} {input : PushNotificationDeliveryPayload}
  {status : ℕ}

/-- With more recipients than a chunk holds, an attempt whose first call is answered and
whose second call fails is followed by one that messages somebody again. -/
theorem resends_of_partial (status : ℕ) (h : Created taskId input w)
    (hmany : 100 < (recipients w input).length)
    (hfirst : turn.answers 0 = .answered none) (hsecond : turn.answers 1 = .failed status)
    (hok : (turn'.answers 0).ok = true) : Resends taskId turn' (attempt turn taskId w) := by
  obtain ⟨now, hrow⟩ := h.row
  obtain ⟨first, others, devices, chunks, hrecipients, hchunks⟩ := chunk_of_lt hmany (by decide)
  have hpending := pendingPayload_of_open hrow rfl rfl
  have hdeliver : deliver turn taskId w =
      (.error ("Expo push send failed with status " ++ toString status), { w with
        devices := w.devices.modifyWhere (·.id ∈ ([] : List Id)) deactivated
        sent := w.sent ++ [(first :: others.take 99).map (·.id)] }) := by
    rw [deliver, hpending]
    dsimp only
    rw [deliverToUsersNow_eq input h.expo, hchunks]
    simp only [sendChunks, sendChunk, hfirst, hsecond, Nat.zero_add]
    rfl
  unfold attempt
  rw [hdeliver]
  obtain ⟨task', hrow', hpayload', -, hopen⟩ := process_open { turn.outside with
    deliverToUsersNow := fun _ _ =>
      .error ("Expo push send failed with status " ++ toString status) }
    turn.allowThrow hrow rfl rfl
  refine ⟨input, pendingPayload_of_open hrow' hpayload' (hopen fun hok => by cases hok), hok, first,
    ?_, _, List.mem_append_right _ (List.mem_singleton.mpr rfl), List.mem_cons_self⟩
  have hleft := recipients_deactivated w [] w.receipts input
  rw [hrecipients] at hleft
  have hmem : first ∈ (first :: others).filter (·.id ∉ ([] : List Id)) :=
    List.mem_filter.mpr ⟨List.mem_cons_self, by simp⟩
  exact hleft ▸ hmem

def crowdDevice (i : ℕ) : PushDevice where
  id := String.ofList (List.replicate (i + 1) 'd')
  userId := "user"
  provider := .EXPO
  platform := .IOS
  token := String.ofList ("ExpoPushToken[".toList ++ List.replicate (i + 1) 'd' ++ [']'])
  isActive := true

theorem crowdDevice_id_injective {i j : ℕ} (h : (crowdDevice i).id = (crowdDevice j).id) :
    i = j := by
  have hlength := congrArg List.length (String.ofList_injective h)
  simpa using hlength

theorem crowdDevice_isExpo (i : ℕ) : isExpoPushToken (crowdDevice i).token = true := by
  simp [isExpoPushToken, crowdDevice]

def crowdInput : PushNotificationDeliveryPayload := ⟨"org", ["user"], "Hello", none, none⟩

def crowd (n : ℕ) : Push where
  pushProviderNoop := false
  store := ⟨⟨[(createInput crowdInput).row "task" .epoch], List.nodup_singleton _⟩, [], [], []⟩
  directory := { Directory.empty with
    users := ⟨[⟨"user", "user@example.com", none, none, some "org", true⟩],
      List.nodup_singleton _⟩ }
  devices := ⟨(List.range n).map crowdDevice, by
    rw [List.map_map]
    exact List.nodup_range.map fun _ _ => crowdDevice_id_injective⟩
  receipts := []
  sent := []

theorem recipients_crowd (n : ℕ) :
    recipients (crowd n) crowdInput = (List.range n).map crowdDevice := by
  unfold recipients expoRecipients listActiveForAudience
  rw [List.filter_filter]
  refine List.filter_eq_self.mpr fun d hd => ?_
  obtain ⟨i, -, rfl⟩ := List.mem_map.mp hd
  rw [crowdDevice_isExpo]
  rfl

theorem crowd_created (n : ℕ) : Created "task" crowdInput (crowd n) :=
  ⟨rfl, ⟨.epoch, rfl⟩, rfl⟩

def crowdTurn (answers : ℕ → ExpoAnswer) : SendTurn where
  outside := {
    now := .epoch
    queue := .disabled
    sendPasswordResetEmail := fun _ => .ok ()
    deliverToUsersNow := fun _ _ => .ok ()
    commitNotifications := fun _ => .ok ()
    publishCreatedNotifications := fun _ _ => .ok ()
    pushProviderNoop := false
    pushTaskId := "push" }
  allowThrow := true
  answers

/-- A first attempt of which no call is answered costs nothing. -/
theorem crowd_messaged_once : SentOnce "task" (recipients (crowd 1) crowdInput)
    (Run.exec (fun turn => attempt turn "task") (crowd 1)
      [crowdTurn fun _ => .failed 500, crowdTurn fun _ => .answered none]) := by
  refine (push_sent_once_iff "task" crowdInput (crowd 1) (crowd_created 1) _).mpr ?_ _
    List.prefix_rfl
  refine ⟨?_, ?_, trivial⟩
  · rintro ⟨input, -, hok, -⟩
    cases hok
  · rintro ⟨input, -, -, d, -, ids, hids, -⟩
    have hunsent : (attempt (crowdTurn fun _ => .failed 500) "task" (crowd 1)).sent = [] := by
      decide +kernel
    rw [hunsent] at hids
    exact absurd hids List.not_mem_nil

/-- A hundred and one devices: the second call fails, and with it the whole task. -/
theorem crowd_messaged_twice :
    ¬ ∀ (taskId : Id) (input : PushNotificationDeliveryPayload) (w : Push) (turns : List SendTurn),
      Created taskId input w → SentOnce taskId (recipients w input)
        (Run.exec (fun turn => attempt turn taskId) w turns) := by
  intro h
  have hcreated := crowd_created 101
  have hpartial := h "task" crowdInput (crowd 101)
    [crowdTurn fun i => if i = 0 then .answered none else .failed 500] hcreated
  have hagain := h "task" crowdInput (crowd 101)
    [crowdTurn fun i => if i = 0 then .answered none else .failed 500,
      crowdTurn fun _ => .answered none] hcreated
  rw [Run.exec_cons, Run.exec_nil] at hpartial
  rw [Run.exec_cons, Run.exec_cons, Run.exec_nil] at hagain
  refine (sentOnce_attempt_iff (underway_attempt hcreated.underway) hpartial).mp hagain ?_
  refine resends_of_partial 500 hcreated ?_ rfl rfl rfl
  rw [recipients_crowd, List.length_map, List.length_range]
  decide

end Crowds

end Towerdesk.Delivery.PushNotifications
