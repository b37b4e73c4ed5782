import Towerdesk.Leases.Lifecycle
import Towerdesk.Leases.Timeline
import Towerdesk.Lib.Turns
import Mathlib.Data.List.DropRight

/-!
# Access cards and parking stickers

The items of a lease are issued, change their status and are deleted by two services that
differ in their words only; a move-in issues some and a move-out takes back those that are
out. An item only goes forward, and its number is the lease's own.
-/

namespace Towerdesk.Leases.AccessItems

open Script (query atomic throwIf)
open Timeline (LeaseActivitySource)
open Transaction (Ends final)

inductive ItemKind
  | accessCard
  | parkingSticker
deriving DecidableEq, Repr

/-- A row of `LeaseAccessCard` or of `LeaseParkingSticker`. -/
structure Item where
  id : Id
  leaseId : Id
  number : String
  status : AccessItemStatus
  issuedAt : Date
  returnedAt : Option Date
  createdAt : Date
  updatedAt : Date
deriving DecidableEq

inductive ItemConstraint
  | leaseId_number_key
deriving DecidableEq, Repr

def numberKey (i : Item) : Option (Id × String) := some (i.leaseId, i.number)

def itemCheck (t : Table Item.id) : Option ItemConstraint :=
  if t.UniqueOn numberKey then none else some .leaseId_number_key

abbrev Items := Constrained Item.id itemCheck

structure LeaseActivity where
  orgId : Id
  leaseId : Id
  action : Timeline.LeaseActivityAction
  source : LeaseActivitySource
  changedByUserId : Option Id
  payload : List (String × JsonValue)
  createdAt : Date
deriving DecidableEq

/-- The activity in the order it was recorded. -/
structure Db where
  leases : Table Lease.id
  items : ItemKind → Items
  activity : List LeaseActivity

/-- The items of one call are called `itemId 0`, `itemId 1` and so on. -/
structure Env extends Leases.Env where
  itemId : ℕ → Id

abbrev Call := Script Db HttpException

def AccessItemStatus.toText : AccessItemStatus → String
  | .ISSUED => "ISSUED"
  | .RETURNED => "RETURNED"
  | .DEACTIVATED => "DEACTIVATED"

namespace ItemKind

def numbersField : ItemKind → String
  | accessCard => "cardNumbers"
  | parkingSticker => "stickerNumbers"

def numberField : ItemKind → String
  | accessCard => "cardNumber"
  | parkingSticker => "stickerNumber"

def idField : ItemKind → String
  | accessCard => "cardId"
  | parkingSticker => "stickerId"

def duplicateInRequest : ItemKind → String
  | accessCard => "Duplicate card numbers in request"
  | parkingSticker => "Duplicate sticker numbers in request"

def alreadyExists : ItemKind → String
  | accessCard => "Card number already exists for this lease"
  | parkingSticker => "Sticker number already exists for this lease"

def notFound : ItemKind → String
  | accessCard => "Access card not found"
  | parkingSticker => "Parking sticker not found"

def invalidTransition : ItemKind → String
  | accessCard => "Invalid access card status transition"
  | parkingSticker => "Invalid parking sticker status transition"

def duplicateAtMoveIn : ItemKind → String
  | accessCard => "Duplicate access card numbers"
  | parkingSticker => "Duplicate parking sticker numbers"

def existsAtMoveIn : ItemKind → String
  | accessCard => "Access card already exists for lease"
  | parkingSticker => "Parking sticker already exists"

def issued : ItemKind → Timeline.LeaseActivityAction
  | accessCard => .ACCESS_CARD_ISSUED
  | parkingSticker => .PARKING_STICKER_ISSUED

def statusChanged : ItemKind → Timeline.LeaseActivityAction
  | accessCard => .ACCESS_CARD_STATUS_CHANGED
  | parkingSticker => .PARKING_STICKER_STATUS_CHANGED

def deleted : ItemKind → Timeline.LeaseActivityAction
  | accessCard => .ACCESS_CARD_DELETED
  | parkingSticker => .PARKING_STICKER_DELETED

end ItemKind

section Repo

variable (kind : ItemKind) (env : Env) (leaseId : Id)

def Db.setItems (db : Db) (items : Items) : Db :=
  { db with items := Function.update db.items kind items }

def listByLeaseId (db : Db) : List Item :=
  ((db.items kind).table.rows.filter (·.leaseId = leaseId)).insertionSort
    fun a b => b.createdAt ≤ a.createdAt

def findByNumbers (db : Db) (numbers : List String) : List Item :=
  (db.items kind).table.rows.filter fun i => i.leaseId = leaseId ∧ i.number ∈ numbers

def findById (db : Db) (itemId : Id) : Option Item :=
  (db.items kind).table.findFirst fun i => i.id = itemId ∧ i.leaseId = leaseId

/-- The columns that `createMany` leaves out have their defaults. -/
def newItem (index : ℕ) (number : String) : Item where
  id := env.itemId index
  leaseId
  number
  status := .ISSUED
  issuedAt := env.now
  returnedAt := none
  createdAt := env.now
  updatedAt := env.now

def insertAll (items : Items) (rows : List Item) :
    Except (Table.WriteError ItemConstraint) Items :=
  rows.foldlM (fun items row => items.write (.create row)) items

def createMany (numbers : List String) : EStateM HttpException Db Unit := fun db =>
  match insertAll (db.items kind) (numbers.mapIdx (newItem env leaseId)) with
  | .ok items => .ok () (db.setItems kind items)
  | .error _ => .error (.internal "Unique constraint failed") db

def statusPatch (status : AccessItemStatus) (returnedAt : Option Date) : Patch Item.id where
  apply i := { i with status, returnedAt, updatedAt := env.now }
  key_apply _ := rfl

def updateStatusById (itemId : Id) (status : AccessItemStatus) (returnedAt : Option Date) :
    EStateM HttpException Db (Option Item) := fun db =>
  match (db.items kind).write (.update itemId (statusPatch env status returnedAt)) with
  | .ok items => .ok (items.table.findUnique itemId) (db.setItems kind items)
  | .error _ => .error (.internal "Record to update not found") db

theorem uniqueOn_of_check {t : Table Item.id} : itemCheck t = none ↔ t.UniqueOn numberKey := by
  unfold itemCheck
  split_ifs with h
  · exact iff_of_true rfl h
  · exact iff_of_false nofun h

def deleteRow (items : Items) (itemId : Id) : Items where
  table := items.table.filter (·.id ≠ itemId)
  valid := uniqueOn_of_check.mpr ((uniqueOn_of_check.mp items.valid).filter _)

def deleteById (itemId : Id) : EStateM HttpException Db Unit := fun db =>
  if ((db.items kind).table.findUnique itemId).isSome then
    .ok () (db.setItems kind (deleteRow (db.items kind) itemId))
  else .error (.internal "Record to delete does not exist") db

def createActivity (row : LeaseActivity) : Call Unit :=
  atomic fun db => .ok () { db with activity := db.activity ++ [row] }

end Repo

section Service

variable (kind : ItemKind) (env : Env) (user : Option AuthenticatedUser) (leaseId : Id)

def findLeaseOrThrow (orgId : Id) : Call Lease :=
  query fun db => Outcome.orThrow
    (db.leases.findFirst fun l => l.id = leaseId ∧ l.orgId = orgId) (.notFound "Lease not found")

def list : Call (List Item) := do
  let orgId ← Script.done (assertOrgScope user)
  let _ ← findLeaseOrThrow leaseId orgId
  query fun db => .ok (listByLeaseId kind leaseId db)

/-- `Array.from(new Set(...))` of the numbers that are not blank. -/
def uniqueNumbers (numbers : List String) : List String :=
  ((numbers.map trimString).filter (· ≠ "")).eraseDups

def activityRow (orgId : Id) (action : Timeline.LeaseActivityAction)
    (payload : List (String × JsonValue)) : LeaseActivity where
  orgId
  leaseId
  action
  source := .USER
  changedByUserId := user.map (·.sub)
  payload
  createdAt := env.now

def issuedRow (orgId : Id) (numbers : List String) : LeaseActivity :=
  activityRow env user leaseId orgId kind.issued
    [(kind.numbersField, .texts numbers), ("count", .number numbers.length)]

def create (numbers : List String) : Call (List Item) := do
  let orgId ← Script.done (assertOrgScope user)
  let _ ← findLeaseOrThrow leaseId orgId
  let unique := uniqueNumbers numbers
  throwIf (unique.length ≠ numbers.length ∨ unique.length = 0) (.conflict kind.duplicateInRequest)
  let existing ← query fun db => .ok (findByNumbers kind leaseId db unique)
  throwIf (existing.length > 0) (.conflict kind.alreadyExists)
  atomic (createMany kind env leaseId unique)
  createActivity (issuedRow kind env user leaseId orgId unique)
  query fun db => .ok (listByLeaseId kind leaseId db)

def isValidTransition (current next : AccessItemStatus) : Bool :=
  if current = next then true
  else match current with
    | .ISSUED => next = .RETURNED ∨ next = .DEACTIVATED
    | .RETURNED => next = .DEACTIVATED
    | .DEACTIVATED => false

def nextReturnedAt (item : Item) (nextStatus : AccessItemStatus) : Option Date :=
  if nextStatus = .RETURNED then some (item.returnedAt.getD env.now)
  else if nextStatus = .ISSUED then none
  else item.returnedAt

def statusChangedRow (orgId : Id) (item : Item) (nextStatus : AccessItemStatus) : LeaseActivity :=
  activityRow env user leaseId orgId kind.statusChanged
    [(kind.idField, .text item.id), (kind.numberField, .text item.number),
      ("from", .text (AccessItemStatus.toText item.status)),
      ("to", .text (AccessItemStatus.toText nextStatus))]

def updateStatus (itemId : Id) (nextStatus : AccessItemStatus) : Call (Option Item) := do
  let orgId ← Script.done (assertOrgScope user)
  let _ ← findLeaseOrThrow leaseId orgId
  let item ← query fun db =>
    Outcome.orThrow (findById kind leaseId db itemId) (.notFound kind.notFound)
  throwIf (isValidTransition item.status nextStatus = false) (.badRequest kind.invalidTransition)
  let updated ← atomic
    (updateStatusById kind env item.id nextStatus (nextReturnedAt env item nextStatus))
  createActivity (statusChangedRow kind env user leaseId orgId item nextStatus)
  return updated

def deletedRow (orgId : Id) (item : Item) : LeaseActivity :=
  activityRow env user leaseId orgId kind.deleted
    [(kind.idField, .text item.id), (kind.numberField, .text item.number),
      ("status", .text (AccessItemStatus.toText item.status))]

def delete (itemId : Id) : Call Unit := do
  let orgId ← Script.done (assertOrgScope user)
  let _ ← findLeaseOrThrow leaseId orgId
  let item ← query fun db =>
    Outcome.orThrow (findById kind leaseId db itemId) (.notFound kind.notFound)
  atomic (deleteById kind item.id)
  createActivity (deletedRow kind env user leaseId orgId item)

end Service

namespace LeaseAccessCardsService

def list := AccessItems.list .accessCard
def create := AccessItems.create .accessCard
def updateStatus := AccessItems.updateStatus .accessCard
def delete := AccessItems.delete .accessCard

end LeaseAccessCardsService

namespace LeaseParkingStickersService

def list := AccessItems.list .parkingSticker
def create := AccessItems.create .parkingSticker
def updateStatus := AccessItems.updateStatus .parkingSticker
def delete := AccessItems.delete .parkingSticker

end LeaseParkingStickersService

section System

inductive ItemCall
  | create (kind : ItemKind) (user : Option AuthenticatedUser) (leaseId : Id)
      (numbers : List String)
  | updateStatus (kind : ItemKind) (user : Option AuthenticatedUser) (leaseId itemId : Id)
      (nextStatus : AccessItemStatus)
  | delete (kind : ItemKind) (user : Option AuthenticatedUser) (leaseId itemId : Id)
  | moveIn (kind : ItemKind) (lease : Lease) (numbers : List String)
  | moveOut (kind : ItemKind) (leaseId : Id)

/-- The part of a direct move-in's transaction that issues items; the lease comes with it. -/
def issueAtMoveIn (kind : ItemKind) (env : Env) (lease : Lease) (numbers : List String) :
    EStateM HttpException Db Unit := fun db =>
  let unique := normalizeNames env.toEnv numbers
  match db.leases.insert lease with
  | none => .error (.internal "Unique constraint failed") db
  | some leases =>
    if numbers = [] then .ok () { db with leases }
    else if unique.length ≠ numbers.length then .error (.conflict kind.duplicateAtMoveIn) db
    else if findByNumbers kind lease.id db unique ≠ [] then
      .error (.conflict kind.existsAtMoveIn) db
    else match createMany kind env lease.id unique { db with leases } with
      | .ok () db' => .ok () db'
      | .error e _ => .error e db

def returned (now : Date) : Patch Item.id where
  apply i := { i with status := .RETURNED, returnedAt := some now, updatedAt := now }
  key_apply _ := rfl

/-- The statement of a move-out that takes the items back. -/
def returnAtMoveOut (kind : ItemKind) (env : Env) (leaseId : Id) (db : Db) : Db :=
  db.setItems kind
    { table := (db.items kind).table.modifyWhere
        (fun i => i.leaseId = leaseId ∧ i.status = .ISSUED) (returned env.now)
      valid := uniqueOn_of_check.mpr
        ((uniqueOn_of_check.mp (db.items kind).valid).modifyWhere_of_le
          fun _ _ _ => .inr rfl) }

def ItemCall.perform (env : Env) : ItemCall → Db → Db
  | .create kind user leaseId numbers, db =>
    final ((AccessItems.create kind env user leaseId numbers).run db)
  | .updateStatus kind user leaseId itemId nextStatus, db =>
    final ((AccessItems.updateStatus kind env user leaseId itemId nextStatus).run db)
  | .delete kind user leaseId itemId, db =>
    final ((AccessItems.delete kind env user leaseId itemId).run db)
  | .moveIn kind lease numbers, db => final (issueAtMoveIn kind env lease numbers db)
  | .moveOut kind leaseId, db => returnAtMoveOut kind env leaseId db

def next (c : Env × ItemCall) (db : Db) : Db := c.2.perform c.1 db

end System

section Cases

variable {kind : ItemKind} {env : Env} {user : Option AuthenticatedUser} {leaseId itemId : Id}
  {db : Db} {items items' : Items}

theorem insertAll_rows {rows : List Item} (h : insertAll items rows = .ok items') :
    items'.table.rows = items.table.rows ++ rows := by
  induction rows generalizing items with
  | nil =>
    obtain rfl : items = items' := Except.ok.inj h
    exact (List.append_nil _).symm
  | cons row rows ih =>
    rw [insertAll, List.foldlM_cons] at h
    obtain ⟨items₁, hrow, hrows⟩ := Outcome.bind_eq_ok.mp h
    have hinsert := Table.apply_create.mp (Constrained.write_eq_ok.mp hrow)
    rw [ih hrows, Table.insert_eq_some.mp hinsert, List.append_assoc, List.singleton_append]

theorem createMany_cases (numbers : List String) :
    (∃ e, createMany kind env leaseId numbers db = .error e db) ∨
      ∃ items, items.table.rows =
          (db.items kind).table.rows ++ numbers.mapIdx (newItem env leaseId) ∧
        createMany kind env leaseId numbers db = .ok () (db.setItems kind items) := by
  unfold createMany
  cases hinsert : insertAll (db.items kind) (numbers.mapIdx (newItem env leaseId)) with
  | error e => exact .inl ⟨_, rfl⟩
  | ok items => exact .inr ⟨items, insertAll_rows hinsert, rfl⟩

theorem ends_inLease {α : Type} {throws : Db → Prop} {returns : α → Db → Prop} {f : Id → Call α}
    (hthrows : throws db) (h : ∀ orgId, Ends throws returns ((f orgId).run db)) :
    Ends throws returns ((do
      let orgId ← Script.done (assertOrgScope user)
      let _ ← findLeaseOrThrow leaseId orgId
      f orgId : Call α).run db) := by
  cases horg : assertOrgScope user with
  | error e => exact hthrows
  | ok orgId => exact Script.ends_query_bind hthrows fun _ _ => h orgId

/-- What a call that issues items leaves behind. -/
structure Issued (kind : ItemKind) (env : Env) (leaseId : Id) (numbers : List String)
    (db : Db) (items : Items) : Prop where
  free : findByNumbers kind leaseId db numbers = []
  rows : items.table.rows = (db.items kind).table.rows ++ numbers.mapIdx (newItem env leaseId)

theorem create_cases (numbers : List String) :
    (ItemCall.create kind user leaseId numbers).perform env db = db ∨
      ∃ orgId items, Issued kind env leaseId (uniqueNumbers numbers) db items ∧
        (ItemCall.create kind user leaseId numbers).perform env db =
          { db.setItems kind items with
            activity := db.activity ++
              [issuedRow kind env user leaseId orgId (uniqueNumbers numbers)] } := by
  refine Ends.final (P := fun db' => db' = db ∨ ∃ orgId items,
    Issued kind env leaseId (uniqueNumbers numbers) db items ∧ db' = { db.setItems kind items with
      activity := db.activity ++ [issuedRow kind env user leaseId orgId (uniqueNumbers numbers)] }) ?_
  refine ends_inLease (.inl rfl) fun orgId => ?_
  refine Script.ends_throwIf_bind (.inl rfl) fun _ => ?_
  refine Script.ends_query_bind (.inl rfl) fun existing hexisting => ?_
  refine Script.ends_throwIf_bind (.inl rfl) fun hnone => ?_
  obtain rfl := Except.ok.inj hexisting
  have hfree := List.eq_nil_of_length_eq_zero (Nat.eq_zero_of_not_pos hnone)
  obtain ⟨e, hfailed⟩ | ⟨items, hrows, hcreated⟩ :=
    @createMany_cases kind env leaseId db (uniqueNumbers numbers)
  · refine Script.ends_atomic_bind (fun e' db' h => ?_) fun _ db' h => ?_
    · rw [hfailed] at h
      cases h
      exact .inl rfl
    · rw [hfailed] at h
      cases h
  · refine Script.ends_atomic_bind (fun e' db' h => ?_) fun _ db' h => ?_
    · rw [hcreated] at h
      cases h
    · rw [hcreated] at h
      cases h
      exact .inr ⟨orgId, items, ⟨hfree, hrows⟩, rfl⟩

theorem findById_eq_some {item : Item} :
    findById kind leaseId db itemId = some item ↔
      item ∈ db.items kind ∧ item.id = itemId ∧ item.leaseId = leaseId := by
  have hone : ∀ b ∈ (db.items kind).table, ∀ c ∈ (db.items kind).table,
      decide (b.id = itemId ∧ b.leaseId = leaseId) = true →
      decide (c.id = itemId ∧ c.leaseId = leaseId) = true → b = c := by
    intro b hb c hc hbid hcid
    exact Table.eq_of_key_eq hb hc ((of_decide_eq_true hbid).1.trans (of_decide_eq_true hcid).1.symm)
  rw [findById, Table.findFirst_eq_some_iff hone, decide_eq_true_iff]
  rfl

/-- What a change of status leaves behind. -/
structure Changed (kind : ItemKind) (env : Env) (item : Item) (nextStatus : AccessItemStatus)
    (db : Db) (items : Items) : Prop where
  mem : item ∈ db.items kind
  valid : isValidTransition item.status nextStatus = true
  table : items.table = (db.items kind).table.modify item.id
    (statusPatch env nextStatus (nextReturnedAt env item nextStatus))

theorem updateStatus_cases (nextStatus : AccessItemStatus) :
    (ItemCall.updateStatus kind user leaseId itemId nextStatus).perform env db = db ∨
      ∃ orgId item items, item.leaseId = leaseId ∧ Changed kind env item nextStatus db items ∧
        (ItemCall.updateStatus kind user leaseId itemId nextStatus).perform env db =
          { db.setItems kind items with
            activity := db.activity ++
              [statusChangedRow kind env user leaseId orgId item nextStatus] } := by
  refine Ends.final (P := fun db' => db' = db ∨ ∃ orgId item items, item.leaseId = leaseId ∧
    Changed kind env item nextStatus db items ∧ db' = { db.setItems kind items with
      activity := db.activity ++
        [statusChangedRow kind env user leaseId orgId item nextStatus] }) ?_
  refine ends_inLease (.inl rfl) fun orgId => ?_
  refine Script.ends_query_bind (.inl rfl) fun item hfound => ?_
  refine Script.ends_throwIf_bind (.inl rfl) fun hvalid => ?_
  obtain ⟨hmem, -, hlease⟩ := findById_eq_some.mp (Outcome.orThrow_eq_ok.mp hfound)
  cases hwrite : (db.items kind).write (.update item.id
      (statusPatch env nextStatus (nextReturnedAt env item nextStatus))) with
  | error e =>
    refine Script.ends_atomic_bind (fun e' db' h => ?_) fun _ db' h => ?_
    · rw [updateStatusById, hwrite] at h
      cases h
      exact .inl rfl
    · rw [updateStatusById, hwrite] at h
      cases h
  | ok items =>
    have htable := (Table.apply_update.mp (Constrained.write_eq_ok.mp hwrite)).2
    refine Script.ends_atomic_bind (fun e' db' h => ?_) fun _ db' h => ?_
    · rw [updateStatusById, hwrite] at h
      cases h
    · rw [updateStatusById, hwrite] at h
      cases h
      exact .inr ⟨orgId, item, items, hlease,
        ⟨hmem, Bool.not_eq_false _ ▸ hvalid, htable⟩, rfl⟩

theorem delete_cases :
    (ItemCall.delete kind user leaseId itemId).perform env db = db ∨
      ∃ orgId item, item.leaseId = leaseId ∧ item ∈ db.items kind ∧
        (ItemCall.delete kind user leaseId itemId).perform env db =
          { db.setItems kind (deleteRow (db.items kind) item.id) with
            activity := db.activity ++ [deletedRow kind env user leaseId orgId item] } := by
  refine Ends.final (P := fun db' => db' = db ∨ ∃ orgId item, item.leaseId = leaseId ∧
    item ∈ db.items kind ∧ db' = { db.setItems kind (deleteRow (db.items kind) item.id) with
      activity := db.activity ++ [deletedRow kind env user leaseId orgId item] }) ?_
  refine ends_inLease (.inl rfl) fun orgId => ?_
  refine Script.ends_query_bind (.inl rfl) fun item hfound => ?_
  obtain ⟨hmem, -, hlease⟩ := findById_eq_some.mp (Outcome.orThrow_eq_ok.mp hfound)
  have hsome : ((db.items kind).table.findUnique item.id).isSome = true := by
    rw [Table.findUnique_eq_some.mpr ⟨hmem, rfl⟩]
    rfl
  refine Script.ends_atomic_bind (fun e' db' h => ?_) fun _ db' h => ?_
  · rw [deleteById, if_pos hsome] at h
    cases h
  · rw [deleteById, if_pos hsome] at h
    cases h
    exact .inr ⟨orgId, item, hlease, hmem, rfl⟩

theorem moveIn_cases (lease : Lease) (numbers : List String) :
    (ItemCall.moveIn kind lease numbers).perform env db = db ∨
      ∃ leases items, ((numbers = [] ∧ items = db.items kind) ∨
          (normalizeNames env.toEnv numbers ≠ [] ∧
            Issued kind env lease.id (normalizeNames env.toEnv numbers) db items)) ∧
        (ItemCall.moveIn kind lease numbers).perform env db =
          { db.setItems kind items with leases } := by
  change final (issueAtMoveIn kind env lease numbers db) = db ∨ ∃ leases items, (_ ∨ _) ∧
    final (issueAtMoveIn kind env lease numbers db) = _
  unfold issueAtMoveIn
  cases db.leases.insert lease with
  | none => exact .inl rfl
  | some leases =>
    dsimp only
    split_ifs with hempty hduplicate hexisting
    · refine .inr ⟨leases, db.items kind, .inl ⟨hempty, rfl⟩, ?_⟩
      simp only [Db.setItems, Function.update_eq_self]
      rfl
    · exact .inl rfl
    · exact .inl rfl
    · obtain ⟨e, hfailed⟩ | ⟨items, hrows, hcreated⟩ :=
        @createMany_cases kind env lease.id { db with leases } (normalizeNames env.toEnv numbers)
      · rw [hfailed]
        exact .inl rfl
      · rw [hcreated]
        have hsome : normalizeNames env.toEnv numbers ≠ [] := by
          intro hnone
          rw [hnone] at hduplicate
          exact hempty (List.eq_nil_of_length_eq_zero (not_not.mp hduplicate).symm)
        exact .inr ⟨leases, items, .inr ⟨hsome, not_not.mp hexisting, hrows⟩, rfl⟩

end Cases

section Numbers

theorem dropWhile_of_prefix {p : Char → Bool} {text whole : List Char} (h : text <+: whole)
    (hwhole : whole.dropWhile p = whole) : text.dropWhile p = text := by
  obtain ⟨rest, rfl⟩ := h
  cases text with
  | nil => rfl
  | cons c text =>
    rw [List.cons_append, List.dropWhile_cons] at hwhole
    split_ifs at hwhole with hc
    · have hlength := congrArg List.length hwhole
      have hle := (List.dropWhile_suffix p (l := text ++ rest)).length_le
      simp only [List.length_cons] at hlength
      omega
    · rw [List.dropWhile_cons, if_neg hc]

theorem trim_eq (text : List Char) : trim text = (text.dropWhile isSpace).rdropWhile isSpace := rfl

theorem trim_trim (text : List Char) : trim (trim text) = trim text := by
  have hinitial : trim text <+: text.dropWhile isSpace := List.rdropWhile_prefix isSpace _
  have hstart : (trim text).dropWhile isSpace = trim text :=
    dropWhile_of_prefix hinitial (List.dropWhile_idempotent isSpace text)
  rw [trim_eq (trim text), hstart, trim_eq, List.rdropWhile_idempotent]

theorem trimString_trimString (s : String) : trimString (trimString s) = trimString s := by
  simp only [trimString, String.toList_ofList, trim_trim]

/-- A number as the services keep it. -/
def Trimmed (number : String) : Prop := trimString number = number ∧ number ≠ ""

theorem trimmed_of_mem_uniqueNumbers {numbers : List String} {number : String}
    (h : number ∈ uniqueNumbers numbers) : Trimmed number := by
  rw [uniqueNumbers, List.mem_eraseDups, List.mem_filter, List.mem_map, decide_eq_true_iff] at h
  obtain ⟨⟨raw, -, rfl⟩, hne⟩ := h
  exact ⟨trimString_trimString raw, hne⟩

theorem trimmed_of_mem_normalizeNames {env : Leases.Env} {numbers : List String} {number : String}
    (h : number ∈ normalizeNames env numbers) : Trimmed number := by
  have hkept : ∀ (values deduped : List String), (∀ v ∈ values, Trimmed v) →
      (∀ v ∈ deduped, Trimmed v) → ∀ v ∈ values.foldl (fun deduped trimmed =>
        if (deduped.map env.toLowerCase).contains (env.toLowerCase trimmed) then deduped
        else deduped ++ [trimmed]) deduped, Trimmed v := by
    intro values
    induction values with
    | nil => exact fun deduped _ hdeduped => hdeduped
    | cons value values ih =>
      intro deduped hvalues hdeduped
      refine ih _ (fun v hv => hvalues v (List.mem_cons_of_mem value hv)) fun v hv => ?_
      dsimp only at hv
      split_ifs at hv with hseen
      · exact hdeduped v hv
      · rcases List.mem_append.mp hv with hv | hv
        · exact hdeduped v hv
        · rw [List.mem_singleton.mp hv]
          exact hvalues value List.mem_cons_self
  refine hkept _ [] (fun v hv => ?_) (fun v hv => absurd hv List.not_mem_nil) number h
  obtain ⟨hmem, hne⟩ := List.mem_filter.mp hv
  obtain ⟨raw, -, rfl⟩ := List.mem_map.mp hmem
  exact ⟨trimString_trimString raw, of_decide_eq_true hne⟩

end Numbers

section Lifecycle

structure Item.Sound (i : Item) : Prop where
  number : Trimmed i.number
  issued : i.status = .ISSUED → i.returnedAt = none
  returned : i.status = .RETURNED → i.returnedAt ≠ none

def AllSound (db : Db) : Prop := ∀ kind, ∀ i ∈ db.items kind, i.Sound

/-- What may become of an item: its status goes forward and the day it came back on stays,
and once it is deactivated nothing changes but the time of its last update. -/
structure Item.Forward (i i' : Item) : Prop where
  id : i'.id = i.id
  leaseId : i'.leaseId = i.leaseId
  number : i'.number = i.number
  issuedAt : i'.issuedAt = i.issuedAt
  createdAt : i'.createdAt = i.createdAt
  status : isValidTransition i.status i'.status = true
  returnedAt : ∀ d, i.returnedAt = some d → i'.returnedAt = some d
  deactivated : i.status = .DEACTIVATED → i'.returnedAt = i.returnedAt

/-- The activity says that the item was deleted. -/
def Deleted (db : Db) (kind : ItemKind) (i : Item) : Prop :=
  ∃ row ∈ db.activity, row.action = kind.deleted ∧ row.leaseId = i.leaseId ∧
    (kind.idField, .text i.id) ∈ row.payload ∧ (kind.numberField, .text i.number) ∈ row.payload

structure Later (db db' : Db) : Prop where
  activity : db.activity <+: db'.activity
  items : ∀ kind, ∀ i ∈ db.items kind,
    (∃ i' ∈ db'.items kind, i.Forward i') ∨ Deleted db' kind i

variable {kind : ItemKind} {env : Env} {db db' db'' : Db} {items : Items} {i i' i'' : Item}
  {nextStatus : AccessItemStatus}

theorem isValidTransition_trans {a b c : AccessItemStatus} (hab : isValidTransition a b = true)
    (hbc : isValidTransition b c = true) : isValidTransition a c = true := by
  revert hab hbc
  cases a <;> cases b <;> cases c <;> decide

theorem Item.Forward.refl (i : Item) : i.Forward i :=
  ⟨rfl, rfl, rfl, rfl, rfl, by simp [isValidTransition], fun _ h => h, fun _ => rfl⟩

theorem Item.Forward.trans (h : i.Forward i') (h' : i'.Forward i'') : i.Forward i'' where
  id := h'.id.trans h.id
  leaseId := h'.leaseId.trans h.leaseId
  number := h'.number.trans h.number
  issuedAt := h'.issuedAt.trans h.issuedAt
  createdAt := h'.createdAt.trans h.createdAt
  status := isValidTransition_trans h.status h'.status
  returnedAt d hd := h'.returnedAt d (h.returnedAt d hd)
  deactivated hfinal := by
    have hstatus := h.status
    rw [hfinal] at hstatus
    have hstays : i'.status = .DEACTIVATED := by
      revert hstatus
      cases i'.status <;> decide
    exact (h'.deactivated hstays).trans (h.deactivated hfinal)

theorem Deleted.mono (hinitial : db.activity <+: db'.activity) (h : Deleted db kind i) :
    Deleted db' kind i :=
  h.imp fun _ hrow => ⟨hinitial.subset hrow.1, hrow.2⟩

theorem Deleted.of_forward (hforward : i.Forward i') (h : Deleted db kind i') :
    Deleted db kind i := by
  obtain ⟨row, hrow, haction, hlease, hid, hnumber⟩ := h
  rw [hforward.leaseId] at hlease
  rw [hforward.id] at hid
  rw [hforward.number] at hnumber
  exact ⟨row, hrow, haction, hlease, hid, hnumber⟩

theorem Later.refl (db : Db) : Later db db :=
  ⟨List.prefix_rfl, fun _ i hi => .inl ⟨i, hi, .refl i⟩⟩

theorem Later.trans (h : Later db db') (h' : Later db' db'') : Later db db'' := by
  refine ⟨h.activity.trans h'.activity, fun kind i hi => ?_⟩
  rcases h.items kind i hi with ⟨i', hi', hforward⟩ | hdeleted
  · rcases h'.items kind i' hi' with ⟨i'', hi'', hforward'⟩ | hdeleted
    · exact .inl ⟨i'', hi'', hforward.trans hforward'⟩
    · exact .inr (.of_forward hforward hdeleted)
  · exact .inr (hdeleted.mono h'.activity)

theorem items_setItems (kind' : ItemKind) :
    (db.setItems kind items).items kind' = if kind' = kind then items else db.items kind' :=
  Function.update_apply db.items kind items kind'

theorem later_setItems {leases : Table Lease.id} {rows : List LeaseActivity}
    (h : ∀ i ∈ db.items kind, (∃ i' ∈ items, i.Forward i') ∨
      Deleted { db with activity := db.activity ++ rows } kind i) :
    Later db { db.setItems kind items with leases, activity := db.activity ++ rows } := by
  refine ⟨List.prefix_append db.activity rows, fun kind' i hi => ?_⟩
  dsimp only
  rw [items_setItems]
  split_ifs with hkind
  · subst hkind
    exact h i hi
  · exact .inl ⟨i, hi, .refl i⟩

theorem allSound_setItems {leases : Table Lease.id} {activity : List LeaseActivity}
    (hdb : AllSound db) (h : ∀ i ∈ items, i.Sound) :
    AllSound { db.setItems kind items with leases, activity } := by
  intro kind' i hi
  dsimp only at hi
  rw [items_setItems] at hi
  split_ifs at hi with hkind
  · exact h i hi
  · exact hdb kind' i hi

section Issuing

variable {leaseId : Id} {numbers : List String}

theorem mem_issued (hrows : items.table.rows =
    (db.items kind).table.rows ++ numbers.mapIdx (newItem env leaseId)) :
    i ∈ items ↔ i ∈ db.items kind ∨ i ∈ numbers.mapIdx (newItem env leaseId) := by
  rw [Constrained.mem_table, Table.mem_rows, hrows, List.mem_append]
  rfl

theorem sound_issued (hrows : items.table.rows =
    (db.items kind).table.rows ++ numbers.mapIdx (newItem env leaseId)) (hdb : AllSound db)
    (hnumbers : ∀ number ∈ numbers, Trimmed number) : ∀ i ∈ items, i.Sound := by
  intro i hi
  rcases (mem_issued hrows).mp hi with hi | hi
  · exact hdb kind i hi
  · obtain ⟨index, hindex, rfl⟩ := List.mem_mapIdx.mp hi
    exact ⟨hnumbers _ (List.getElem_mem hindex), fun _ => rfl, nofun⟩

theorem Issued.kept (h : Issued kind env leaseId numbers db items) :
    ∀ i ∈ db.items kind, ∃ i' ∈ items, i.Forward i' :=
  fun i hi => ⟨i, (mem_issued h.rows).mpr (.inl hi), .refl i⟩

end Issuing

section Changing

variable {item : Item}

theorem Changed.forward (h : Changed kind env item nextStatus db items) (hitem : item.Sound) :
    item.Forward ((statusPatch env nextStatus (nextReturnedAt env item nextStatus)).apply item) := by
  have hvalid := h.valid
  refine ⟨rfl, rfl, rfl, rfl, rfl, hvalid, fun d hd => ?_, fun hfinal => ?_⟩
  · change nextReturnedAt env item nextStatus = some d
    unfold nextReturnedAt
    split_ifs with hreturned hissued
    · rw [hd, Option.getD_some]
    · -- only an item that is out can be issued, and that one has no day yet
      subst hissued
      have hstatus : item.status = .ISSUED := by
        revert hvalid
        cases item.status <;> decide
      rw [hitem.issued hstatus] at hd
      cases hd
    · exact hd
  · change nextReturnedAt env item nextStatus = item.returnedAt
    rw [hfinal] at hvalid
    have hnext : nextStatus = .DEACTIVATED := by
      revert hvalid
      cases nextStatus <;> decide
    subst hnext
    rfl

/-- The row written to need not be as it was read. -/
theorem sound_status (hi : Trimmed i.number) :
    ((statusPatch env nextStatus (nextReturnedAt env item nextStatus)).apply i).Sound := by
  refine ⟨hi, ?_, ?_⟩
  · rintro (rfl : nextStatus = .ISSUED)
    rfl
  · rintro (rfl : nextStatus = .RETURNED)
    exact Option.some_ne_none _

theorem Changed.mem_iff (h : Changed kind env item nextStatus db items) :
    i ∈ items ↔ i = (statusPatch env nextStatus (nextReturnedAt env item nextStatus)).apply item ∨
      (i ∈ db.items kind ∧ i.id ≠ item.id) := by
  rw [Constrained.mem_table, h.table]
  exact Table.mem_modify_iff h.mem

theorem Changed.sound (h : Changed kind env item nextStatus db items) (hdb : AllSound db) :
    ∀ i ∈ items, i.Sound := by
  intro i hi
  rcases h.mem_iff.mp hi with rfl | ⟨hi, -⟩
  · exact sound_status (hdb kind item h.mem).number
  · exact hdb kind i hi

theorem Changed.kept (h : Changed kind env item nextStatus db items) (hdb : AllSound db) :
    ∀ i ∈ db.items kind, ∃ i' ∈ items, i.Forward i' := by
  intro i hi
  by_cases hid : i.id = item.id
  · rw [Table.eq_of_key_eq hi h.mem hid]
    exact ⟨_, h.mem_iff.mpr (.inl rfl), h.forward (hdb kind item h.mem)⟩
  · exact ⟨i, h.mem_iff.mpr (.inr ⟨hi, hid⟩), .refl i⟩

end Changing

theorem mem_deleteRow {itemId : Id} : i ∈ deleteRow items itemId ↔ i ∈ items ∧ i.id ≠ itemId := by
  change i ∈ items.table.rows.filter (·.id ≠ itemId) ↔ _
  rw [List.mem_filter, decide_eq_true_iff]
  rfl

theorem forward_returned (hissued : i.status = .ISSUED) (hi : i.Sound) :
    i.Forward ((returned env.now).apply i) := by
  refine ⟨rfl, rfl, rfl, rfl, rfl, by rw [hissued]; rfl, fun d hd => ?_, fun hfinal => ?_⟩
  · rw [hi.issued hissued] at hd
    cases hd
  · rw [hissued] at hfinal
    cases hfinal

/-- One call. -/
theorem step_lifecycle (c : Env × ItemCall) (hdb : AllSound db) :
    AllSound (next c db) ∧ Later db (next c db) := by
  obtain ⟨env, call⟩ := c
  have hnothing : AllSound db ∧ Later db db := ⟨hdb, .refl db⟩
  unfold next
  dsimp only
  cases call with
  | create kind user leaseId numbers =>
    obtain hsame | ⟨orgId, items, hissued, hfinal⟩ :=
      @create_cases kind env user leaseId db numbers
    · rwa [hsame]
    · rw [hfinal]
      exact ⟨allSound_setItems hdb
          (sound_issued hissued.rows hdb fun _ => trimmed_of_mem_uniqueNumbers),
        later_setItems fun i hi => .inl (hissued.kept i hi)⟩
  | updateStatus kind user leaseId itemId nextStatus =>
    obtain hsame | ⟨orgId, item, items, -, hchanged, hfinal⟩ :=
      @updateStatus_cases kind env user leaseId itemId db nextStatus
    · rwa [hsame]
    · rw [hfinal]
      exact ⟨allSound_setItems hdb (hchanged.sound hdb),
        later_setItems fun i hi => .inl (hchanged.kept hdb i hi)⟩
  | delete kind user leaseId itemId =>
    obtain hsame | ⟨orgId, item, hlease, hitem, hfinal⟩ :=
      @delete_cases kind env user leaseId itemId db
    · rwa [hsame]
    · rw [hfinal]
      refine ⟨allSound_setItems hdb fun i hi => hdb kind i (mem_deleteRow.mp hi).1,
        later_setItems fun i hi => ?_⟩
      by_cases hid : i.id = item.id
      · obtain rfl := Table.eq_of_key_eq hi hitem hid
        exact .inr ⟨deletedRow kind env user leaseId orgId i, by simp, rfl, hlease.symm,
          List.mem_cons_self, by simp [deletedRow, activityRow]⟩
      · exact .inl ⟨i, mem_deleteRow.mpr ⟨hi, hid⟩, .refl i⟩
  | moveIn kind lease numbers =>
    obtain hsame | ⟨leases, items, hitems, hfinal⟩ :=
      @moveIn_cases kind env db lease numbers
    · rwa [hsame]
    · rw [hfinal]
      have hboth : (∀ i ∈ items, i.Sound) ∧ ∀ i ∈ db.items kind, ∃ i' ∈ items, i.Forward i' := by
        rcases hitems with ⟨-, rfl⟩ | ⟨-, hissued⟩
        · exact ⟨hdb kind, fun i hi => ⟨i, hi, .refl i⟩⟩
        · exact ⟨sound_issued hissued.rows hdb fun _ => trimmed_of_mem_normalizeNames,
            hissued.kept⟩
      have hlater := @later_setItems kind db items leases [] fun i hi => .inl (hboth.2 i hi)
      rw [List.append_nil] at hlater
      exact ⟨allSound_setItems hdb hboth.1, hlater⟩
  | moveOut kind leaseId =>
    have hmem : ∀ {i}, i ∈ (returnAtMoveOut kind env leaseId db).items kind ↔
        (∃ a ∈ db.items kind, (a.leaseId = leaseId ∧ a.status = .ISSUED) ∧
          i = (returned env.now).apply a) ∨
        i ∈ db.items kind ∧ ¬ (i.leaseId = leaseId ∧ i.status = .ISSUED) := by
      intro i
      rw [returnAtMoveOut, items_setItems, if_pos rfl, Constrained.mem_table,
        Table.mem_modifyWhere]
      simp only [decide_eq_true_iff, decide_eq_false_iff_not]
      rfl
    have hothers : ∀ {kind'}, kind' ≠ kind →
        (returnAtMoveOut kind env leaseId db).items kind' = db.items kind' := by
      intro kind' hkind
      rw [returnAtMoveOut, items_setItems, if_neg hkind]
    refine ⟨fun kind' i hi => ?_, List.prefix_rfl, fun kind' i hi => .inl ?_⟩
    · by_cases hkind : kind' = kind
      · subst hkind
        obtain ⟨a, ha, -, rfl⟩ | ⟨hi, -⟩ := hmem.mp hi
        · exact ⟨(hdb _ a ha).number, nofun, fun _ => Option.some_ne_none _⟩
        · exact hdb _ i hi
      · exact hdb kind' i (hothers hkind ▸ hi)
    · by_cases hkind : kind' = kind
      · subst hkind
        by_cases hout : i.leaseId = leaseId ∧ i.status = .ISSUED
        · exact ⟨_, hmem.mpr (.inl ⟨i, hi, hout, rfl⟩), forward_returned hout.2 (hdb _ i hi)⟩
        · exact ⟨i, hmem.mpr (.inr ⟨hi, hout⟩), .refl i⟩
      · exact ⟨i, hothers hkind ▸ hi, .refl i⟩

/-- In every run of calls, one after the other, the items stay as they should be, and each of
them goes forward or is deleted with a word of it in the activity. -/
theorem items_only_go_forward (hdb : AllSound db) (cs : List (Env × ItemCall)) :
    AllSound (Run.exec next db cs) ∧ Later db (Run.exec next db cs) := by
  refine Run.exec_inv (I := fun s => AllSound s ∧ Later db s) (fun c s hs => ?_) cs
    ⟨hdb, .refl db⟩
  obtain ⟨hsound, hlater⟩ := step_lifecycle c hs.1
  exact ⟨hsound, hs.2.trans hlater⟩

def sceneCard : Item := ⟨"card", "lease", "A-17", .ISSUED, 1, none, 1, 1⟩

def sceneItems : ItemKind → Items
  | .accessCard => ⟨⟨[sceneCard], by decide⟩, by decide⟩
  | .parkingSticker => ⟨.empty _, by decide⟩

def sceneDb : Db := ⟨⟨[Timeline.firstLease], by decide⟩, sceneItems, []⟩

def sceneClerk : Option AuthenticatedUser := some ⟨"clerk", some "org"⟩

def sceneEnv (now : Date) : Env where
  access := ⟨.empty _, .empty _, .empty _, .empty _, .empty _⟩
  now
  ids := ⟨"lease2", "occupancy", "user", "request", fun _ => "allocation"⟩
  parseDecimal := fun _ => none
  toLowerCase := id
  itemId := fun index => if index = 0 then "new" else "newer"

def sceneCalls : List (Env × ItemCall) :=
  [(sceneEnv 2, .updateStatus .accessCard sceneClerk "lease" "card" .RETURNED),
    (sceneEnv 3, .create .accessCard sceneClerk "lease" [" A-18 "]),
    (sceneEnv 4, .updateStatus .accessCard sceneClerk "lease" "card" .ISSUED),
    (sceneEnv 5, .delete .accessCard sceneClerk "lease" "new")]

theorem sceneDb_sound : AllSound sceneDb := by
  intro kind i hi
  cases kind with
  | accessCard =>
    obtain rfl := List.mem_singleton.mp hi
    exact ⟨⟨by decide, by decide⟩, fun _ => rfl, nofun⟩
  | parkingSticker => cases hi

theorem items_only_go_forward_scene : AllSound (Run.exec next sceneDb sceneCalls) ∧
    Later sceneDb (Run.exec next sceneDb sceneCalls) :=
  items_only_go_forward sceneDb_sound sceneCalls

end Lifecycle

section Interleaved

variable {env : Env} {db : Db} {kind : ItemKind} {leaseId : Id}

/-- A call as the steps it takes; a move-in and a move-out are transactions of their own. -/
def ItemCall.script (env : Env) : ItemCall → Call Unit
  | .create kind user leaseId numbers => do
    let _ ← AccessItems.create kind env user leaseId numbers
    return ()
  | .updateStatus kind user leaseId itemId nextStatus => do
    let _ ← AccessItems.updateStatus kind env user leaseId itemId nextStatus
    return ()
  | .delete kind user leaseId itemId => AccessItems.delete kind env user leaseId itemId
  | .moveIn kind lease numbers => atomic (issueAtMoveIn kind env lease numbers)
  | .moveOut kind leaseId => atomic fun db => .ok () (returnAtMoveOut kind env leaseId db)

theorem ends_createMany {numbers : List String} (hdb : AllSound db)
    (hnumbers : ∀ number ∈ numbers, Trimmed number) :
    Ends AllSound (fun _ db' => AllSound db') (createMany kind env leaseId numbers db) := by
  obtain ⟨e, hfailed⟩ | ⟨items, hrows, hcreated⟩ :=
    @createMany_cases kind env leaseId db numbers
  · rw [hfailed]
    exact hdb
  · rw [hcreated]
    exact allSound_setItems hdb (sound_issued hrows hdb hnumbers)

theorem ends_updateStatusById {item : Item} {itemId : Id} {nextStatus : AccessItemStatus}
    (hdb : AllSound db) : Ends AllSound (fun _ db' => AllSound db') (updateStatusById kind env itemId
      nextStatus (nextReturnedAt env item nextStatus) db) := by
  unfold updateStatusById
  cases hwrite : (db.items kind).write (.update itemId
      (statusPatch env nextStatus (nextReturnedAt env item nextStatus))) with
  | error e => exact hdb
  | ok items =>
    have htable := (Table.apply_update.mp (Constrained.write_eq_ok.mp hwrite)).2
    refine allSound_setItems hdb fun i hi => ?_
    rw [Constrained.mem_table, htable] at hi
    obtain ⟨a, ha, -, rfl⟩ | ⟨hi, -⟩ := Table.mem_modify.mp hi
    · exact sound_status (hdb kind a ha).number
    · exact hdb kind i hi

theorem ends_deleteById {itemId : Id} (hdb : AllSound db) :
    Ends AllSound (fun _ db' => AllSound db') (deleteById kind itemId db) := by
  unfold deleteById
  split_ifs
  · exact allSound_setItems hdb fun i hi => hdb kind i (mem_deleteRow.mp hi).1
  · exact hdb

theorem ends_issueAtMoveIn {lease : Lease} {numbers : List String} (hdb : AllSound db) :
    Ends AllSound (fun _ db' => AllSound db') (issueAtMoveIn kind env lease numbers db) := by
  refine Transaction.ends_of_final ?_
  obtain hsame | ⟨leases, items, hitems, hfinal⟩ :=
    @moveIn_cases kind env db lease numbers
  · change final (issueAtMoveIn kind env lease numbers db) = db at hsame
    rwa [hsame]
  · change final (issueAtMoveIn kind env lease numbers db) = _ at hfinal
    rw [hfinal]
    refine allSound_setItems hdb ?_
    rcases hitems with ⟨-, rfl⟩ | ⟨-, hissued⟩
    · exact hdb kind
    · exact sound_issued hissued.rows hdb fun _ => trimmed_of_mem_normalizeNames

/-- Each step of a call keeps the items as they should be, whatever the others have done since
the call has read. -/
theorem script_yields (env : Env) (call : ItemCall) :
    (call.script env).Yields AllSound fun _ => True := by
  have hactivity : ∀ row, (createActivity row).Yields AllSound fun _ => True :=
    fun row => Script.yields_atomic fun db hdb => ⟨hdb, trivial⟩
  have hstep : ∀ {α : Type} {w : EStateM HttpException Db α},
      (∀ db, AllSound db → Ends AllSound (fun _ db' => AllSound db') (w db)) →
      (atomic w).Yields AllSound fun _ => True :=
    fun hw => Script.yields_atomic fun db hdb =>
      (hw db hdb).imp (fun _ hs => hs) fun _ _ hs => ⟨hs, trivial⟩
  have hquery : ∀ {α : Type} (f : Db → Result α), (query f).Yields AllSound fun _ => True :=
    fun f => Script.yields_query fun _ _ _ _ => trivial
  cases call with
  | create kind user leaseId numbers =>
    refine Script.yields_bind (Q := fun _ => True) ?_ fun _ _ => Script.yields_pure trivial
    refine Script.yields_bind (Script.yields_done fun _ _ => trivial) fun orgId _ => ?_
    refine Script.yields_bind (hquery _) fun _ _ => Script.yields_throwIf_bind fun _ => ?_
    refine Script.yields_bind (hquery _) fun _ _ => Script.yields_throwIf_bind fun _ => ?_
    refine Script.yields_bind (hstep fun db hdb => ends_createMany hdb fun _ =>
      trimmed_of_mem_uniqueNumbers) fun _ _ => ?_
    exact Script.yields_bind (hactivity _) fun _ _ => hquery _
  | updateStatus kind user leaseId itemId nextStatus =>
    refine Script.yields_bind (Q := fun _ => True) ?_ fun _ _ => Script.yields_pure trivial
    refine Script.yields_bind (Script.yields_done fun _ _ => trivial) fun orgId _ => ?_
    refine Script.yields_bind (hquery _) fun _ _ => Script.yields_bind (hquery _) fun item _ => ?_
    refine Script.yields_throwIf_bind fun _ => ?_
    refine Script.yields_bind (hstep fun db hdb => ends_updateStatusById hdb) fun updated _ => ?_
    exact Script.yields_bind (hactivity _) fun _ _ => Script.yields_pure trivial
  | delete kind user leaseId itemId =>
    refine Script.yields_bind (Script.yields_done fun _ _ => trivial) fun orgId _ => ?_
    refine Script.yields_bind (hquery _) fun _ _ => Script.yields_bind (hquery _) fun item _ => ?_
    exact Script.yields_bind (hstep fun db hdb => ends_deleteById hdb) fun _ _ => hactivity _
  | moveIn kind lease numbers => exact hstep fun db hdb => ends_issueAtMoveIn hdb
  | moveOut kind leaseId =>
    exact hstep fun db hdb => (step_lifecycle (env, .moveOut kind leaseId) hdb).1

/-- However the steps of any number of calls fall between each other. -/
theorem items_sound_in_turns {π : Type} [DecidableEq π] (calls : π → Env × ItemCall)
    (hdb : AllSound db) (ms : List (π × Unit)) :
    AllSound (Script.inTurns (fun p => (calls p).2.script (calls p).1) db ms).shared :=
  (Script.yields_inTurns (fun p => script_yields (calls p).1 (calls p).2) hdb ms).1

/-- Two clerks: one reads the card as issued, the other deactivates it, and the first writes. -/
def sceneClerks (second : Bool) : Env × ItemCall :=
  if second then (sceneEnv 3, .updateStatus .accessCard sceneClerk "lease" "card" .DEACTIVATED)
  else (sceneEnv 2, .updateStatus .accessCard sceneClerk "lease" "card" .RETURNED)

theorem items_sound_in_turns_scene :
    AllSound (Script.inTurns (fun p => (sceneClerks p).2.script (sceneClerks p).1) sceneDb
      [(false, ()), (false, ()), (true, ()), (true, ()), (true, ()), (false, ())]).shared :=
  items_sound_in_turns sceneClerks sceneDb_sound _

end Interleaved

end Towerdesk.Leases.AccessItems
