import Towerdesk.Delivery.Stranding
import Towerdesk.Directory
import Towerdesk.Notifications.PushReceipts

/-!
# Sending a push task

The devices of a task's audience are sent to in chunks, each by a call of its own whose
tickets are recorded before the next call; a ticket may say that its device is gone. An
attempt ends with the first call that fails.
-/

namespace Towerdesk.Delivery.PushNotifications

open Notifications (PushProvider PushDeliveryReceiptStatus ReceiptDetails ExpoPushStatus chunk)

inductive PushPlatform
  | IOS
  | ANDROID
  | WEB
  | UNKNOWN
deriving DecidableEq, Repr

structure PushDevice where
  id : Id
  userId : Id
  provider : PushProvider
  platform : PushPlatform
  token : String
  isActive : Bool
deriving DecidableEq, Repr

structure ExpoPushTicket where
  status : ExpoPushStatus
  id : Option String
  message : Option String
  details : Option ReceiptDetails
deriving DecidableEq, Repr

structure PushDeliveryReceiptCreateInput where
  taskId : Id
  provider : PushProvider
  platform : PushPlatform
  userId : Id
  pushDeviceId : Id
  deviceTokenMasked : String
  providerTicketId : Option String
  providerReceiptId : Option String
  status : PushDeliveryReceiptStatus
  errorCode : Option String
  errorMessage : Option String
  details : Option ReceiptDetails
  checkedAt : Option IsoDate.TimeValue
deriving DecidableEq

/-- What becomes of one call: it is not answered, not answered well, answered with a body
that cannot be read, or answered. -/
inductive ExpoAnswer
  | rejected (message : String)
  | failed (status : ℕ)
  | unreadable (message : String)
  | answered (data : Option (List ExpoPushTicket))
deriving DecidableEq

def ExpoAnswer.ok : ExpoAnswer → Bool
  | .rejected _ => false
  | .failed _ => false
  | .unreadable _ => true
  | .answered _ => true

/-- One attempt of the task and what its calls meet, the first call first. -/
structure SendTurn where
  outside : Outside
  allowThrow : Bool
  answers : ℕ → ExpoAnswer

structure Push where
  pushProviderNoop : Bool
  store : Store
  directory : Directory
  devices : Table PushDevice.id
  receipts : List PushDeliveryReceiptCreateInput
  /-- The devices of each call that was answered ok, oldest first. -/
  sent : List (List Id)

section Sending

/-- `/^(Expo|Exponent)PushToken\[[^\]]+\]$/`. -/
def isExpoPushToken (token : String) : Bool :=
  ["ExpoPushToken[", "ExponentPushToken["].any fun start =>
    let name := (token.toList.drop start.toList.length).dropLast
    name ≠ [] ∧ ']' ∉ name ∧ token.toList = start.toList ++ name ++ [']']

def maskToken (token : String) : String :=
  if token.length ≤ 10 then token
  else .ofList (token.toList.take 6) ++ "..." ++ .ofList (token.toList.drop (token.length - 4))

/-- A user of the audience is active and in the organisation, or behind an active owner
of it. -/
def inAudience (directory : Directory) (orgId userId : Id) : Bool :=
  (directory.users.findUnique userId).any fun user =>
    user.isActive ∧ (user.orgId = some orgId ∨
      directory.ownerAccessGrants.rows.any fun g =>
        g.userId = some userId ∧ g.status = .ACTIVE ∧
          (directory.owners.findUnique g.ownerId).any fun owner =>
            owner.orgId = orgId ∧ owner.isActive)

def listActiveForAudience (w : Push) (orgId : Id) (userIds : List Id) : List PushDevice :=
  w.devices.rows.filter fun d =>
    d.userId ∈ userIds ∧ d.isActive ∧ inAudience w.directory orgId d.userId

def receiptRow (taskId : Id) (now : IsoDate.TimeValue) (ticket : ExpoPushTicket)
    (device : PushDevice) : PushDeliveryReceiptCreateInput where
  taskId
  provider := device.provider
  platform := device.platform
  userId := device.userId
  pushDeviceId := device.id
  deviceTokenMasked := maskToken device.token
  providerTicketId := ticket.id
  providerReceiptId := ticket.id
  status := if ticket.status = .ok then .PENDING else .ERROR
  errorCode := if ticket.status = .error then ticket.details.bind (·.error) else none
  errorMessage := if ticket.status = .error then some (ticket.message.getD "unknown") else none
  details := ticket.details
  checkedAt := if ticket.status = .error then some now else none

def createMany (rows receipts : List PushDeliveryReceiptCreateInput) :
    Except String (List PushDeliveryReceiptCreateInput) :=
  if rows = [] then .ok receipts
  else if ((receipts ++ rows).filterMap (·.providerTicketId)).Nodup then .ok (receipts ++ rows)
  else .error "Unique constraint failed on the fields: (providerTicketId)"

def deactivated : Patch PushDevice.id where
  apply d := { d with isActive := false }
  key_apply _ := rfl

def invalidDeviceIds (tickets : List ExpoPushTicket) (devices : List PushDevice) : List Id :=
  ((tickets.zip devices).filter fun (ticket, _) =>
    ticket.status = .error ∧ ticket.details.bind (·.error) = some "DeviceNotRegistered").map
      fun (_, device) => device.id

def handleExpoTickets (taskId : Id) (now : IsoDate.TimeValue) (devices : List PushDevice)
    (tickets : List ExpoPushTicket) (w : Push) : Except String Unit × Push :=
  let receiptRows := (tickets.zip devices).map fun (ticket, device) =>
    receiptRow taskId now ticket device
  match createMany receiptRows w.receipts with
  | .error message => (.error message, w)
  | .ok receipts => (.ok (), { w with
      receipts
      devices := w.devices.modifyWhere (·.id ∈ invalidDeviceIds tickets devices) deactivated })

variable (turn : SendTurn) (taskId : Id)

/-- The call for one chunk and the handling of its answer. -/
def sendChunk (answer : ExpoAnswer) (devices : List PushDevice) (w : Push) :
    Except String Unit × Push :=
  let w' := if answer.ok then { w with sent := w.sent ++ [devices.map (·.id)] } else w
  match answer with
  | .rejected message => (.error message, w')
  | .failed status => (.error ("Expo push send failed with status " ++ toString status), w')
  | .unreadable message => (.error message, w')
  | .answered data => handleExpoTickets taskId turn.outside.now devices (data.getD []) w'

/-- The calls from the `index`th on. -/
def sendChunks : ℕ → List (List PushDevice) → Push → Except String Unit × Push
  | _, [], w => (.ok (), w)
  | index, devices :: chunks, w =>
    match sendChunk turn taskId (turn.answers index) devices w with
    | (.error message, w') => (.error message, w')
    | (.ok (), w') => sendChunks (index + 1) chunks w'

def expoRecipients (devices : List PushDevice) : List PushDevice :=
  devices.filter fun d => d.provider = .EXPO ∧ isExpoPushToken d.token

def sendExpo (devices : List PushDevice) (w : Push) : Except String Unit × Push :=
  let recipients := expoRecipients devices
  if recipients = [] then (.ok (), w)
  else sendChunks turn taskId 0 (chunk 100 recipients) w

def deliverToUsersNow (input : PushNotificationDeliveryPayload) (w : Push) :
    Except String Unit × Push :=
  let devices := listActiveForAudience w input.orgId input.userIds
  if devices = [] then (.ok (), w)
  else if w.pushProviderNoop then (.ok (), w)
  else sendExpo turn taskId devices w

/-- What is delivered when the task is processed: nothing once it is finished. -/
def pendingPayload (tasks : DeliveryTasks) (taskId : Id) : Option PushNotificationDeliveryPayload :=
  (findById tasks taskId).bind fun task =>
    match task.payload with
    | .pushNotification payload => if task.isFinished then none else some payload
    | _ => none

def deliver (w : Push) : Except String Unit × Push :=
  match pendingPayload w.store.tasks taskId with
  | none => (.ok (), w)
  | some payload => deliverToUsersNow turn taskId payload w

/-- One run of `processDeliveryTask`, with the devices and the calls. -/
def attempt (w : Push) : Push :=
  let (delivered, w') := deliver turn taskId w
  { w' with store := (processDeliveryTask
      { turn.outside with deliverToUsersNow := fun _ _ => delivered } taskId turn.allowThrow
        w.store).2 }

/-- The devices a call may name, in the order of the calls. -/
def recipients (w : Push) (input : PushNotificationDeliveryPayload) : List PushDevice :=
  expoRecipients (listActiveForAudience w input.orgId input.userIds)

/-- How many of the calls answered ok named the device. -/
def okCalls (w : Push) (deviceId : Id) : ℕ := w.sent.countP (deviceId ∈ ·)

end Sending

section Chunks

variable {α : Type} {size : ℕ}

theorem chunk_flatten (items : List α) : (chunk size items).flatten = items := by
  fun_induction chunk size items with
  | case1 => rw [List.flatten_nil]
  | case2 item items ih => rw [List.flatten_cons, ih, List.cons_append, List.take_append_drop]

theorem chunk_take_flatten_prefix (size : ℕ) (items : List α) (k : ℕ) :
    ∃ rest, items = ((chunk size items).take k).flatten ++ rest := by
  refine ⟨((chunk size items).drop k).flatten, ?_⟩
  rw [← List.flatten_append, List.take_append_drop, chunk_flatten]

theorem head_mem_chunk_take {item : α} {items : List α} {k : ℕ} (hk : 0 < k) :
    item ∈ ((chunk size (item :: items)).take k).flatten := by
  obtain ⟨k, rfl⟩ := Nat.exists_eq_succ_of_ne_zero hk.ne'
  rw [chunk, List.take_succ_cons, List.flatten_cons]
  exact List.mem_append_left _ List.mem_cons_self

theorem chunk_of_lt {items : List α} (h : size < items.length) (hsize : 0 < size) :
    ∃ item items' devices chunks, items = item :: items' ∧
      chunk size items = (item :: items'.take (size - 1)) :: devices :: chunks := by
  cases items with
  | nil => exact absurd h (Nat.not_lt_zero _)
  | cons item items =>
    have hlonger : size - 1 < items.length := by
      rw [List.length_cons] at h
      omega
    obtain ⟨next, more, hdrop⟩ := List.exists_cons_of_ne_nil (List.drop_eq_nil_iff.not.mpr
      (Nat.not_le_of_lt hlonger))
    refine ⟨item, items, next :: more.take (size - 1), chunk size (more.drop (size - 1)), rfl, ?_⟩
    rw [chunk, hdrop, chunk]

theorem countP_mem_eq_count {β : Type} [DecidableEq β] {ls : List (List β)} (h : ∀ l ∈ ls, l.Nodup)
    (b : β) : ls.countP (b ∈ ·) = ls.flatten.count b := by
  induction ls with
  | nil => rfl
  | cons l ls ih =>
    rw [List.countP_cons, List.flatten_cons, List.count_append,
      ih fun l' hl' => h l' (List.mem_cons_of_mem l hl'), Nat.add_comm]
    by_cases hb : b ∈ l
    · simp [hb, List.count_eq_one_of_mem (h l List.mem_cons_self) hb]
    · simp [hb, List.count_eq_zero_of_not_mem hb]

end Chunks

section Devices

variable {w w' : Push} {input : PushNotificationDeliveryPayload}

theorem filter_map_deactivated (ids : List Id) {p : PushDevice → Bool}
    (hp : ∀ d, p d = true → d.isActive = true) (rows : List PushDevice) :
    (rows.map fun d => if (d.id ∈ ids : Bool) then deactivated.apply d else d).filter p =
      (rows.filter p).filter (·.id ∉ ids) := by
  induction rows with
  | nil => rfl
  | cons d rows ih =>
    have hoff : ¬ p (deactivated.apply d) = true := fun h => Bool.false_ne_true (hp _ h)
    by_cases hd : d.id ∈ ids
    · rw [List.map_cons, if_pos (decide_eq_true hd), List.filter_cons_of_neg hoff, ih]
      by_cases hpd : p d = true
      · rw [List.filter_cons_of_pos hpd, List.filter_cons_of_neg (by simpa using hd)]
      · rw [List.filter_cons_of_neg hpd]
    · rw [List.map_cons, if_neg (by simpa using hd)]
      by_cases hpd : p d = true
      · rw [List.filter_cons_of_pos hpd, List.filter_cons_of_pos hpd,
          List.filter_cons_of_pos (by simpa using hd), ih]
      · rw [List.filter_cons_of_neg hpd, List.filter_cons_of_neg hpd, ih]

theorem recipients_deactivated (w : Push) (ids : List Id)
    (receipts : List PushDeliveryReceiptCreateInput)
    (input : PushNotificationDeliveryPayload) :
    recipients { w with
      receipts
      devices := w.devices.modifyWhere (·.id ∈ ids) deactivated } input =
        (recipients w input).filter (·.id ∉ ids) := by
  have hactive := filter_map_deactivated ids (p := fun d =>
    d.userId ∈ input.userIds ∧ d.isActive ∧ inAudience w.directory input.orgId d.userId)
      (fun d hd => (of_decide_eq_true hd).2.1) w.devices.rows
  unfold recipients expoRecipients listActiveForAudience
  simp only [Table.modifyWhere] at hactive ⊢
  rw [hactive, List.filter_comm]

theorem recipients_ids_nodup (w : Push) (input : PushNotificationDeliveryPayload) :
    ((recipients w input).map (·.id)).Nodup :=
  w.devices.nodup.sublist ((List.filter_sublist.trans List.filter_sublist).map _)

end Devices

section Calls

variable {turn : SendTurn} {taskId : Id} {w w' w'' : Push} {oks oks' : List (List PushDevice)}

/-- The calls for `oks` were answered ok; the devices that are no longer there were named
in them. -/
structure Sends (oks : List (List PushDevice)) (w w' : Push) : Prop where
  noop : w'.pushProviderNoop = w.pushProviderNoop
  sent : w'.sent = w.sent ++ oks.map (·.map (·.id))
  remaining : ∃ gone : List Id, (∀ id ∈ gone, id ∈ oks.flatten.map (·.id)) ∧
    ∀ input, recipients w' input = (recipients w input).filter (·.id ∉ gone)

theorem Sends.none : Sends [] w w where
  noop := rfl
  sent := (List.append_nil _).symm
  remaining := ⟨[], fun _ h => absurd h List.not_mem_nil, fun input => by simp⟩

theorem Sends.trans (h : Sends oks w w') (h' : Sends oks' w' w'') : Sends (oks ++ oks') w w'' where
  noop := h'.noop.trans h.noop
  sent := by rw [h'.sent, h.sent, List.map_append, List.append_assoc]
  remaining := by
    obtain ⟨gone, hgone, hrecipients⟩ := h.remaining
    obtain ⟨gone', hgone', hrecipients'⟩ := h'.remaining
    refine ⟨gone ++ gone', fun id hid => ?_, fun input => ?_⟩
    · rw [List.flatten_append, List.map_append, List.mem_append]
      exact (List.mem_append.mp hid).imp (hgone id) (hgone' id)
    · rw [hrecipients', hrecipients, List.filter_filter]
      refine List.filter_congr fun d _ => ?_
      simp only [List.mem_append, not_or, Bool.decide_and, Bool.and_comm]

theorem mem_invalidDeviceIds {tickets : List ExpoPushTicket} {devices : List PushDevice} {id : Id}
    (h : id ∈ invalidDeviceIds tickets devices) : id ∈ devices.map (·.id) := by
  obtain ⟨⟨ticket, device⟩, hmem, rfl⟩ := List.mem_map.mp h
  exact List.mem_map_of_mem (List.of_mem_zip (List.mem_of_mem_filter hmem)).2

theorem sends_of_logged (devices : List PushDevice) (gone : List Id)
    (hgone : ∀ id ∈ gone, id ∈ devices.map (·.id))
    (hnoop : w'.pushProviderNoop = w.pushProviderNoop)
    (hsent : w'.sent = w.sent ++ [devices.map (·.id)])
    (h : ∀ input, recipients w' input = (recipients w input).filter (·.id ∉ gone)) :
    Sends [devices] w w' where
  noop := hnoop
  sent := hsent
  remaining := ⟨gone, by simpa using hgone, h⟩

theorem sendChunk_sends (turn : SendTurn) (taskId : Id) (answer : ExpoAnswer)
    (devices : List PushDevice) (w : Push) :
    Sends (if answer.ok then [devices] else []) w (sendChunk turn taskId answer devices w).2 ∧
      ((sendChunk turn taskId answer devices w).1 = .ok () → answer.ok = true) := by
  cases answer with
  | rejected message => exact ⟨.none, fun h => by cases h⟩
  | failed status => exact ⟨.none, fun h => by cases h⟩
  | unreadable message =>
    refine ⟨sends_of_logged devices [] (fun _ h => absurd h List.not_mem_nil) rfl rfl ?_,
      fun h => by cases h⟩
    exact fun input => (List.filter_eq_self.mpr fun _ _ => by simp).symm
  | answered data =>
    refine ⟨?_, fun _ => rfl⟩
    simp only [ExpoAnswer.ok, if_true, sendChunk, handleExpoTickets]
    split
    · refine sends_of_logged devices [] (fun _ h => absurd h List.not_mem_nil) rfl rfl ?_
      exact fun input => (List.filter_eq_self.mpr fun _ _ => by simp).symm
    · rename_i receipts hcreated
      exact sends_of_logged devices _ (fun _ => mem_invalidDeviceIds) rfl rfl fun input =>
        recipients_deactivated { w with sent := w.sent ++ [devices.map (·.id)] } _ receipts input

theorem sendChunks_sends (turn : SendTurn) (taskId : Id) (index : ℕ)
    (chunks : List (List PushDevice)) (w : Push) :
    ∃ k, Sends (chunks.take k) w (sendChunks turn taskId index chunks w).2 ∧
      (0 < k → (turn.answers index).ok = true) ∧
        ((turn.answers index).ok = true → chunks ≠ [] → 0 < k) ∧
          ((sendChunks turn taskId index chunks w).1 = .ok () → chunks.take k = chunks) := by
  induction chunks generalizing index w with
  | nil =>
    exact ⟨0, .none, fun h => absurd h (Nat.lt_irrefl 0), fun _ h => absurd rfl h, fun _ => rfl⟩
  | cons devices chunks ih =>
    obtain ⟨hsends, hok⟩ := sendChunk_sends turn taskId (turn.answers index) devices w
    unfold sendChunks
    generalize sendChunk turn taskId (turn.answers index) devices w = called at hsends hok
    obtain ⟨message | _, w'⟩ := called
    · by_cases hanswer : (turn.answers index).ok = true
      · rw [if_pos hanswer] at hsends
        exact ⟨1, hsends, fun _ => hanswer, fun _ _ => Nat.one_pos, fun h => by cases h⟩
      · rw [if_neg hanswer] at hsends
        exact ⟨0, hsends, fun h => absurd h (Nat.lt_irrefl 0), fun h => absurd h hanswer,
          fun h => by cases h⟩
    · have hanswer : (turn.answers index).ok = true := hok rfl
      rw [if_pos hanswer] at hsends
      obtain ⟨k, hrest, -, -, hall⟩ := ih (index + 1) w'
      refine ⟨k + 1, hsends.trans hrest, fun _ => hanswer, fun _ _ => Nat.succ_pos k, fun h => ?_⟩
      rw [List.take_succ_cons, hall h]

theorem chunk_ne_nil {α : Type} {size : ℕ} {items : List α} :
    chunk size items ≠ [] ↔ items ≠ [] := by
  cases items with
  | nil => simp [chunk]
  | cons item items => simp [chunk]

/-- The calls of a delivery name the recipients in their order, up to where it ends. -/
structure Delivers (input : PushNotificationDeliveryPayload) (turn : SendTurn)
    (delivered : Except String Unit) (w w' : Push) (oks : List (List PushDevice))
    (rest : List PushDevice) : Prop where
  sends : Sends oks w w'
  split : recipients w input = oks.flatten ++ rest
  answered : oks.flatten ≠ [] → (turn.answers 0).ok = true
  first : (turn.answers 0).ok = true → ∀ d, (recipients w input).head? = some d → d ∈ oks.flatten
  all : delivered = .ok () → rest = []

theorem deliverToUsersNow_eq (input : PushNotificationDeliveryPayload)
    (h : w.pushProviderNoop = false) : deliverToUsersNow turn taskId input w =
      sendChunks turn taskId 0 (chunk 100 (recipients w input)) w := by
  unfold deliverToUsersNow sendExpo recipients
  dsimp only
  rw [h]
  by_cases hdevices : listActiveForAudience w input.orgId input.userIds = []
  · rw [if_pos hdevices, hdevices]
    simp [expoRecipients, chunk, sendChunks]
  · rw [if_neg hdevices, if_neg Bool.false_ne_true]
    split_ifs with hnone
    · rw [hnone, chunk, sendChunks]
    · rfl

theorem deliverToUsersNow_delivers (turn : SendTurn) (taskId : Id)
    (input : PushNotificationDeliveryPayload)
    (h : w.pushProviderNoop = false) : ∃ oks rest,
      Delivers input turn (deliverToUsersNow turn taskId input w).1 w
        (deliverToUsersNow turn taskId input w).2 oks rest := by
  obtain ⟨k, hsends, hpos, hfirst, hall⟩ := sendChunks_sends turn taskId 0
    (chunk 100 (recipients w input)) w
  obtain ⟨rest, hsplit⟩ := chunk_take_flatten_prefix 100 (recipients w input) k
  rw [deliverToUsersNow_eq input h]
  refine ⟨_, rest, hsends, hsplit, fun hne => hpos (Nat.pos_of_ne_zero fun hk => ?_), ?_, ?_⟩
  · rw [hk, List.take_zero, List.flatten_nil] at hne
    exact hne rfl
  · intro hok d hd
    obtain ⟨ds, hds⟩ := List.head?_eq_some_iff.mp hd
    rw [hds]
    exact head_mem_chunk_take (hfirst hok (chunk_ne_nil.mpr (by simp [hds])))
  · intro hdelivered
    rw [hall hdelivered, chunk_flatten] at hsplit
    exact List.self_eq_append_right.mp hsplit

end Calls

end Towerdesk.Delivery.PushNotifications
