import Towerdesk.Common
import Towerdesk.Lib.Constraint
import Mathlib.Data.List.Sort

/-!
# Push delivery receipts

A push that was handed to the provider is kept as a pending receipt under its ticket. A
poll takes the first pending receipts that are ready, asks the provider for them in
chunks, stamps the ones it asked for and settles the ones that were answered.
-/

namespace Towerdesk.Notifications

inductive PushProvider
  | EXPO
deriving DecidableEq, Repr

inductive PushDeliveryReceiptStatus
  | PENDING
  | DELIVERED
  | ERROR
deriving DecidableEq, Repr

/-- The details of a receipt: its error code and the other entries. -/
structure ReceiptDetails where
  error : Option String
  others : List (String × String)
deriving DecidableEq, Repr

structure PushDeliveryReceipt where
  id : Id
  provider : PushProvider
  pushDeviceId : Option Id
  providerTicketId : Option String
  providerReceiptId : Option String
  status : PushDeliveryReceiptStatus
  errorCode : Option String
  errorMessage : Option String
  details : Option ReceiptDetails
  checkedAt : Option Date
  createdAt : Date
deriving DecidableEq, Repr

structure PushDevice where
  id : Id
  isActive : Bool
deriving DecidableEq, Repr

inductive ReceiptConstraint
  | PushDeliveryReceipt_providerTicketId_key
deriving DecidableEq, Repr

def receiptCheck (t : Table PushDeliveryReceipt.id) : Option ReceiptConstraint :=
  if t.UniqueOn PushDeliveryReceipt.providerTicketId then none
  else some .PushDeliveryReceipt_providerTicketId_key

abbrev ReceiptTable := Constrained PushDeliveryReceipt.id receiptCheck

theorem receiptCheck_eq_none {t : Table PushDeliveryReceipt.id} :
    receiptCheck t = none ↔ t.UniqueOn PushDeliveryReceipt.providerTicketId := by
  unfold receiptCheck
  split_ifs with h <;> simp [h]

/-- What no update of a receipt touches. -/
def PushDeliveryReceipt.origin (r : PushDeliveryReceipt) :
    Id × PushProvider × Option String × Date :=
  (r.id, r.provider, r.providerTicketId, r.createdAt)

structure ReceiptUpdate where
  apply : PushDeliveryReceipt → PushDeliveryReceipt
  origin_apply : ∀ r, (apply r).origin = r.origin

namespace ReceiptUpdate

variable (u : ReceiptUpdate) (r : PushDeliveryReceipt)

theorem id_apply : (u.apply r).id = r.id := congrArg (·.1) (u.origin_apply r)

theorem ticket_apply : (u.apply r).providerTicketId = r.providerTicketId :=
  congrArg (·.2.2.1) (u.origin_apply r)

def patch : Patch PushDeliveryReceipt.id where
  apply := u.apply
  key_apply := u.id_apply

end ReceiptUpdate

def ReceiptTable.updateMany (t : ReceiptTable) (q : PushDeliveryReceipt → Bool)
    (u : ReceiptUpdate) : ReceiptTable where
  table := t.table.modifyWhere q u.patch
  valid := receiptCheck_eq_none.mpr
    ((receiptCheck_eq_none.mp t.valid).modifyWhere_of_le fun r _ _ => .inr (u.ticket_apply r))

structure World where
  receipts : ReceiptTable
  devices : Table PushDevice.id
  /-- The requests for receipts that were answered, oldest first. -/
  lookups : List (List String)

/-- The order in which a query finds rows it was not asked to tell apart. -/
structure Scan where
  arrange : List PushDeliveryReceipt → List PushDeliveryReceipt
  perm : ∀ rows, (arrange rows).Perm rows

inductive ExpoPushStatus
  | ok
  | error
deriving DecidableEq, Repr

structure ExpoPushReceipt where
  status : ExpoPushStatus
  message : Option String
  details : Option ReceiptDetails
deriving DecidableEq, Repr

inductive LookupResponse
  | rejected
  | failed (status : ℕ)
  | answered (data : List (String × ExpoPushReceipt))

structure PollEnv where
  now : Date
  lookupDelayMs : ℤ
  scan : Scan
  getReceipts : List String → LookupResponse

def PollEnv.readyAt (env : PollEnv) : Date := env.now - env.lookupDelayMs

abbrev Poll (α : Type) := EStateM HttpException World α

namespace PushDeliveryReceiptsRepo

def isPending (readyAt : Date) (r : PushDeliveryReceipt) : Bool :=
  r.provider = .EXPO ∧ r.status = .PENDING ∧ r.providerTicketId.isSome ∧ r.createdAt ≤ readyAt

/-- By `checkedAt`, receipts without one last, then by `createdAt`. -/
def before (a b : PushDeliveryReceipt) : Bool :=
  match a.checkedAt, b.checkedAt with
  | none, none => a.createdAt ≤ b.createdAt
  | none, some _ => false
  | some _, none => true
  | some s, some t => s < t ∨ s = t ∧ a.createdAt ≤ b.createdAt

def take : ℕ := 1000

def listPendingExpoReceipts (env : PollEnv) (t : ReceiptTable) : List PushDeliveryReceipt :=
  ((env.scan.arrange (t.table.rows.filter (isPending env.readyAt))).insertionSort
    fun a b => before a b = true).take take

def lookupAttempted (checkedAt : Date) : ReceiptUpdate where
  apply r := { r with checkedAt := some checkedAt }
  origin_apply _ := rfl

def markLookupAttempted (providerTicketIds : List String) (checkedAt : Date)
    (t : ReceiptTable) : ReceiptTable :=
  if providerTicketIds = [] then t
  else t.updateMany (fun r => r.providerTicketId.any (· ∈ providerTicketIds))
    (lookupAttempted checkedAt)

def delivered (providerTicketId : String) (details : Option ReceiptDetails) (checkedAt : Date) :
    ReceiptUpdate where
  apply r := { r with
    providerReceiptId := some providerTicketId
    status := .DELIVERED
    details
    errorCode := none
    errorMessage := none
    checkedAt := some checkedAt }
  origin_apply _ := rfl

def errored (providerTicketId : String) (errorCode errorMessage : Option String)
    (details : Option ReceiptDetails) (checkedAt : Date) : ReceiptUpdate where
  apply r := { r with
    providerReceiptId := some providerTicketId
    status := .ERROR
    errorCode
    errorMessage
    details
    checkedAt := some checkedAt }
  origin_apply _ := rfl

/-- An update by ticket, returning the updated row. -/
def updateByTicket (providerTicketId : String) (u : ReceiptUpdate) : Poll PushDeliveryReceipt :=
  fun w =>
    match w.receipts.table.findFirst (·.providerTicketId = some providerTicketId) with
    | none => .error (.internal "Record not found") w
    | some r => .ok (u.apply r) { w with
        receipts := w.receipts.updateMany (·.providerTicketId = some providerTicketId) u }

end PushDeliveryReceiptsRepo

section PushReceiptMonitorService

open PushDeliveryReceiptsRepo

variable (env : PollEnv)

/-- Settles one answered receipt; returns the device that turned out not to be registered. -/
def settle (entry : String × ExpoPushReceipt) : Poll (Option Id) := do
  let (providerTicketId, receipt) := entry
  match receipt.status with
  | .ok =>
    let _ ← updateByTicket providerTicketId (delivered providerTicketId receipt.details env.now)
    return none
  | .error =>
    let error := receipt.details.bind (·.error)
    let updated ← updateByTicket providerTicketId
      (errored providerTicketId error receipt.message receipt.details env.now)
    return if error = some "DeviceNotRegistered" then truthy updated.pushDeviceId else none

def settleAll : List (String × ExpoPushReceipt) → Poll (List Id)
  | [] => return []
  | entry :: entries => do
    let invalid ← settle env entry
    let invalids ← settleAll entries
    return invalid.toList ++ invalids

def deactivated : Patch PushDevice.id where
  apply d := { d with isActive := false }
  key_apply _ := rfl

def deactivateByIds (ids : List Id) : Poll Unit :=
  modify fun w => { w with devices := w.devices.modifyWhere (·.id ∈ ids) deactivated }

/-- One chunk; returns how many receipts it settled. -/
def lookupChunk (ids : List String) : Poll ℕ :=
  match env.getReceipts ids with
  | .rejected => throw (.internal "fetch failed")
  | .failed _ => return 0
  | .answered data => do
    modify fun w => { w with
      receipts := markLookupAttempted ids env.now w.receipts
      lookups := w.lookups ++ [ids] }
    let invalidDeviceIds ← settleAll env data
    deactivateByIds invalidDeviceIds
    return data.length

def lookupChunks : List (List String) → Poll ℕ
  | [] => return 0
  | ids :: chunks => do
    let settled ← lookupChunk env ids
    let processed ← lookupChunks chunks
    return settled + processed

def chunk {α : Type} (size : ℕ) : List α → List (List α)
  | [] => []
  | item :: items => (item :: items.take (size - 1)) :: chunk size (items.drop (size - 1))
termination_by items => items.length
decreasing_by simp only [List.length_drop, List.length_cons]; omega

theorem chunk_of_length_le {α : Type} {size : ℕ} {items : List α} (hne : items ≠ [])
    (h : items.length ≤ size) : chunk size items = [items] := by
  cases items with
  | nil => exact absurd rfl hne
  | cons item items =>
    have hrest : items.length ≤ size - 1 := Nat.le_sub_of_add_le h
    rw [chunk, List.drop_of_length_le hrest, List.take_of_length_le hrest, chunk]

/-- Receipts with an empty ticket are dropped. -/
def pendingTickets (w : World) : List String :=
  (listPendingExpoReceipts env w.receipts).filterMap fun r => truthy r.providerTicketId

def pollPendingReceipts : Poll ℕ := do
  let w ← get
  lookupChunks env (chunk 1000 (pendingTickets env w))

end PushReceiptMonitorService

end Towerdesk.Notifications
