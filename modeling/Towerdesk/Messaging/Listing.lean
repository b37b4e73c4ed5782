import Towerdesk.Messaging.OwnerContacts
import Towerdesk.Lib.CursorPages
import Towerdesk.Lib.CursorText
import Mathlib.Data.Prod.Lex

/-!
# Listing conversations

A user's conversations by the time they were last touched, in one organisation or in all of
them, page by page. The pages are what a reader is shown: each conversation with the last
message joined in. Following the cursors shows every conversation once.
-/

namespace Towerdesk.Messaging

open IsoDate (TimeValue)

/-- What the listing takes from outside the repository: the order of text in the database, the
reading of malformed UTF-8, and of dates written otherwise than `toISOString` does. -/
structure Runtime (ι : Type*) where
  collate : Id ↪ ι
  replaceMalformed : ByteArray → String
  parseOther : String → Option TimeValue

structure CursorInfo where
  id : Id
  updatedAt : TimeValue
deriving DecidableEq

structure ListOptions where
  cursor : Option String := none
  limit : Option ℤ := none
  type : Option ConversationType := none
  counterpartyGroup : Option ConversationCounterpartyGroup := none

structure ConversationsPage where
  items : List ConversationWithRelations
  nextCursor : Option String

def DEFAULT_LIMIT : ℤ := 20

def MAX_LIMIT : ℤ := 100

section Access

variable (w : World)

def hasElevatedMessagingAuthority (userId orgId : Id) : Bool :=
  ORG_SCOPED_MESSAGING_PERMISSION ∈
      (w.access.getUserScopedAccess userId (some orgId) none false).rolePermissionKeys ||
    !(w.getUserBuildingIdsWithPermission userId orgId ORG_SCOPED_MESSAGING_PERMISSION).isEmpty

def hasOccupancyHistoryByResident (userId orgId : Id) : Bool :=
  (w.occupancies.findFirst fun o => o.residentUserId = userId ∧
    (w.directory.buildings.findUnique o.buildingId).any (·.orgId = orgId)).isSome

def assertOrgConversationAccess (userId orgId : Id) : Result Unit :=
  if hasElevatedMessagingAuthority w userId orgId then pure ()
  else if (w.findActiveOccupancyByResident userId orgId).isSome then pure ()
  else Outcome.throwIf (hasOccupancyHistoryByResident w userId orgId = true)
    (.forbidden "Active occupancy required")

end Access

section Repository

variable {ι : Type*} [LinearOrder ι] (runtime : Runtime ι) (db : Db)

def isParticipant (userId : Id) (c : Conversation) : Bool :=
  db.participants.rows.any fun p => p.conversationId = c.id ∧ p.userId = userId

/-- The conversations of a user, in one organisation or, without one, in all. -/
def conversationsOf (userId : Id) (orgId : Option Id) : List Conversation :=
  db.conversations.rows.filter fun c => orgId.all (c.orgId = ·) ∧ isParticipant db userId c

def beforeCursor (cursor : Option CursorInfo) (c : Conversation) : Bool :=
  match cursor with
  | none => true
  | some cursor => c.updatedAt < cursor.updatedAt ∨
      c.updatedAt = cursor.updatedAt ∧ runtime.collate c.id < runtime.collate cursor.id

/-- `orderBy: [{ updatedAt: 'desc' }, { id: 'desc' }]` is descending in this. -/
def orderKey (updatedAt : TimeValue) (id : Id) : TimeValue ×ₗ ι :=
  toLex (updatedAt, runtime.collate id)

def conversationKey (c : Conversation) : TimeValue ×ₗ ι := orderKey runtime c.updatedAt c.id

def passes (options : ListOptions) (c : Conversation) : Bool :=
  options.type.all (c.type = ·) ∧ options.counterpartyGroup.all (c.counterpartyGroup = ·)

/-- `listConversationsForUser`, and `listConversationsForUserAcrossOrgs` without an
organisation. -/
def findConversations (userId : Id) (orgId : Option Id) (options : ListOptions) (take : ℕ)
    (cursor : Option CursorInfo) : List ConversationWithRelations :=
  ((Keyset.sorted (conversationKey runtime) ((conversationsOf db userId orgId).filter fun c =>
    passes options c && beforeCursor runtime cursor c)).take take).map
      db.conversationWithLastMessageInclude

end Repository

section Service

variable {ι : Type*} [LinearOrder ι] (runtime : Runtime ι) (w : World) (db : Db)

def encodeCursor (c : Conversation) : String := CursorText.encode c.updatedAt c.id

/-- `new Date(text)`. -/
def dateOfText (text : List Char) : Option TimeValue :=
  (IsoDate.parse text).or (runtime.parseOther (.ofList text))

def decodeCursor (cursor : String) : Result CursorInfo :=
  match CursorText.parts runtime.replaceMalformed cursor with
  | [updatedAtRaw, id] =>
    if updatedAtRaw.isEmpty || id.isEmpty then .error (.badRequest "Invalid cursor")
    else match dateOfText runtime updatedAtRaw with
      | none => .error (.badRequest "Invalid cursor")
      | some updatedAt => .ok ⟨.ofList id, updatedAt⟩
  | _ => .error (.badRequest "Invalid cursor")

def ListOptions.pageLimit (options : ListOptions) : ℕ :=
  (min (max (options.limit.getD DEFAULT_LIMIT) 1) MAX_LIMIT).toNat

def pageAt (userId : Id) (orgId : Option Id) (options : ListOptions)
    (cursorInfo : Option CursorInfo) : ConversationsPage :=
  let items := findConversations runtime db userId orgId options (options.pageLimit + 1) cursorInfo
  let hasMore := options.pageLimit < items.length
  let sliced := if hasMore then items.take options.pageLimit else items
  ⟨sliced, if hasMore then sliced.getLast?.map fun c => encodeCursor c.toConversation else none⟩

def readCursor (cursor : Option String) : Result (Option CursorInfo) :=
  match truthy cursor with
  | none => .ok none
  | some cursor => some <$> decodeCursor runtime cursor

def listOwnerConversations (user : AuthenticatedUser) (options : ListOptions) :
    Result ConversationsPage := do
  let cursorInfo ← readCursor runtime options.cursor
  return pageAt runtime db user.sub none options cursorInfo

def listConversations (user : AuthenticatedUser) (orgId : Id) (options : ListOptions) :
    Result ConversationsPage := do
  assertOrgConversationAccess w user.sub orgId
  let cursorInfo ← readCursor runtime options.cursor
  return pageAt runtime db user.sub (some orgId) options cursorInfo

def findConversationByIdForUser (conversationId userId : Id) (orgId : Option Id) :
    Option ConversationWithRelations :=
  ((conversationsOf db userId orgId).find? (·.id = conversationId)).map db.conversationInclude

def getOwnerConversation (user : AuthenticatedUser) (conversationId : Id) :
    Result ConversationWithRelations :=
  Outcome.orThrow (findConversationByIdForUser db conversationId user.sub none)
    (.notFound "Conversation not found")

def getConversation (user : AuthenticatedUser) (orgId conversationId : Id) :
    Result ConversationWithRelations := do
  assertOrgConversationAccess w user.sub orgId
  Outcome.orThrow (findConversationByIdForUser db conversationId user.sub (some orgId))
    (.notFound "Conversation not found")

end Service

section Cursors

variable {ι : Type*} {runtime : Runtime ι} {db : Db} {userId : Id} {orgId : Option Id}

/-- The characters of a version 4 uuid as the database writes it. -/
def isUuidText (id : Id) : Bool :=
  id.toList.length = 36 ∧ id.toList.all "0123456789abcdef-".toList.contains

/-- Conversation ids are the uuids the schema gives them. -/
def Db.UuidKeys (db : Db) : Prop := ∀ c ∈ db.conversations, isUuidText c.id = true

theorem uuid_ne_empty {id : Id} (h : isUuidText id = true) : id ≠ "" := by
  rintro rfl
  exact absurd h (by decide)

theorem bar_not_mem_uuid {id : Id} (h : isUuidText id = true) : '|' ∉ id.toList := by
  intro hbar
  have hall := List.all_eq_true.mp (of_decide_eq_true h).2 '|' hbar
  exact absurd hall (by decide)

theorem decodeCursor_encodeCursor {c : Conversation} (h : isUuidText c.id = true) :
    decodeCursor runtime (encodeCursor c) = .ok ⟨c.id, c.updatedAt⟩ := by
  have hid : c.id.toList.isEmpty = false := by
    simpa using uuid_ne_empty h
  have htime : (IsoDate.toISOString c.updatedAt).isEmpty = false := by
    have hparse := IsoDate.parse_toISOString c.updatedAt
    cases htext : IsoDate.toISOString c.updatedAt with
    | nil =>
      have hnone : IsoDate.parse [] = none := by decide
      rw [htext, hnone] at hparse
      cases hparse
    | cons a l => rfl
  have hdate : dateOfText runtime (IsoDate.toISOString c.updatedAt) = some c.updatedAt := by
    rw [dateOfText, IsoDate.parse_toISOString, Option.some_or]
  rw [decodeCursor, encodeCursor, CursorText.parts_encode (bar_not_mem_uuid h)]
  simp only [hid, htime, Bool.or_self, Bool.false_eq_true, if_false, hdate, String.ofList_toList]

theorem readCursor_encodeCursor {c : Conversation} (h : isUuidText c.id = true) :
    readCursor runtime (some (encodeCursor c)) = .ok (some ⟨c.id, c.updatedAt⟩) := by
  have htruthy : truthy (some (encodeCursor c)) = some (encodeCursor c) :=
    truthy_eq_some.mpr ⟨rfl, CursorText.encode_ne_empty⟩
  rw [readCursor, htruthy]
  simp only [decodeCursor_encodeCursor h]
  rfl

theorem nodup_conversationKey (p : Conversation → Bool) :
    (((conversationsOf db userId orgId).filter p).map (conversationKey runtime)).Nodup := by
  have hids : (((conversationsOf db userId orgId).filter p).map Conversation.id).Nodup :=
    db.conversations.nodup.sublist ((List.filter_sublist.trans List.filter_sublist).map _)
  refine List.Nodup.of_map (fun key => (ofLex key).2) ?_
  have hcollate : (((conversationsOf db userId orgId).filter p).map Conversation.id).map
      runtime.collate = (((conversationsOf db userId orgId).filter p).map
        (conversationKey runtime)).map (fun key => (ofLex key).2) := by
    rw [List.map_map, List.map_map]
    rfl
  rw [← hcollate]
  exact hids.map runtime.collate.injective

end Cursors

section Pages

variable {ι : Type*} [LinearOrder ι] {runtime : Runtime ι} {db : Db} {userId : Id}
  {orgId : Option Id} {options : ListOptions}

/-- The user's conversations that pass the filters, in the order of the listing. -/
def matching (runtime : Runtime ι) (db : Db) (userId : Id) (orgId : Option Id)
    (options : ListOptions) : List Conversation :=
  Keyset.sorted (conversationKey runtime) ((conversationsOf db userId orgId).filter (passes options))

theorem pageLimit_pos (options : ListOptions) : 0 < options.pageLimit := by
  rw [ListOptions.pageLimit, MAX_LIMIT]
  omega

theorem pairwise_matching :
    (matching runtime db userId orgId options).Pairwise fun a b =>
      conversationKey runtime b < conversationKey runtime a :=
  Keyset.pairwise_sorted (nodup_conversationKey _)

theorem mem_matching {c : Conversation} :
    c ∈ matching runtime db userId orgId options ↔
      c ∈ conversationsOf db userId orgId ∧ passes options c = true := by
  rw [matching, Keyset.mem_sorted, List.mem_filter]

theorem mem_conversationsOf {c : Conversation} :
    c ∈ conversationsOf db userId orgId ↔ c ∈ db.conversations ∧
      (∀ id, orgId = some id → c.orgId = id) ∧ isParticipant db userId c = true := by
  rw [conversationsOf, List.mem_filter, decide_eq_true_eq, Table.mem_rows]
  cases orgId with
  | none => simp
  | some id => simp

def cursorKey (runtime : Runtime ι) (cursor : CursorInfo) : TimeValue ×ₗ ι :=
  orderKey runtime cursor.updatedAt cursor.id

theorem findConversations_eq (take : ℕ) (cursor : Option CursorInfo) :
    findConversations runtime db userId orgId options take cursor =
      ((Keyset.below (conversationKey runtime) (matching runtime db userId orgId options)
        (cursor.map (cursorKey runtime))).take take).map db.conversationWithLastMessageInclude := by
  have hbelow : Keyset.sorted (conversationKey runtime) ((conversationsOf db userId orgId).filter
      fun c => passes options c && beforeCursor runtime cursor c) =
      (matching runtime db userId orgId options).filter (beforeCursor runtime cursor) := by
    rw [matching, ← Keyset.sorted_filter (nodup_conversationKey _), List.filter_filter]
    simp only [Bool.and_comm]
  have hfilter : (matching runtime db userId orgId options).filter (beforeCursor runtime cursor) =
      Keyset.below (conversationKey runtime) (matching runtime db userId orgId options)
        (cursor.map (cursorKey runtime)) := by
    cases cursor with
    | none => exact List.filter_true _
    | some cursor =>
      refine List.filter_congr fun c _ => ?_
      simp only [beforeCursor, cursorKey, conversationKey, orderKey, Prod.Lex.toLex_lt_toLex]
  rw [findConversations, hbelow, hfilter]

theorem pageAt_eq (cursor : Option CursorInfo) :
    pageAt runtime db userId orgId options cursor =
      ⟨(Keyset.pageItems (conversationKey runtime) options.pageLimit
          (matching runtime db userId orgId options) (cursor.map (cursorKey runtime))).map
          db.conversationWithLastMessageInclude,
        (Keyset.pageLast (conversationKey runtime) options.pageLimit
          (matching runtime db userId orgId options) (cursor.map (cursorKey runtime))).map
          encodeCursor⟩ := by
  rw [pageAt, findConversations_eq, ← Keyset.window]
  simp only [List.length_map, Keyset.pageLast]
  by_cases hmore : options.pageLimit < (Keyset.window (conversationKey runtime) options.pageLimit
      (matching runtime db userId orgId options) (cursor.map (cursorKey runtime))).length
  · simp only [if_pos hmore, ← List.map_take, List.getLast?_map, Option.map_map,
      Function.comp_def]
    rfl
  · have hitems : Keyset.pageItems (conversationKey runtime) options.pageLimit
        (matching runtime db userId orgId options) (cursor.map (cursorKey runtime)) =
        Keyset.window (conversationKey runtime) options.pageLimit
          (matching runtime db userId orgId options) (cursor.map (cursorKey runtime)) :=
      List.take_of_length_le (Nat.le_of_not_lt hmore)
    simp only [if_neg hmore, hitems, Option.map_none]

end Pages

end Towerdesk.Messaging
