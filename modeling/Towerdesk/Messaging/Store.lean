import Towerdesk.Lib.IsoDate
import Towerdesk.Lib.Keyset
import Towerdesk.Lib.Table
import Towerdesk.Common

/-!
# Conversations

A conversation has its participants, each with the time up to which they have read, and its
messages. The queries join the rows three ways: with every message from the first on, with
the last message only, and with no more than is needed to count.
-/

namespace Towerdesk.Messaging

open IsoDate (TimeValue)

inductive ConversationType
  | MANAGEMENT_INTERNAL | MANAGEMENT_TENANT | MANAGEMENT_OWNER | OWNER_TENANT
deriving DecidableEq, Repr

inductive ConversationCounterpartyGroup
  | STAFF | TENANT | OWNER | MIXED
deriving DecidableEq, Repr

structure Conversation where
  id : Id
  orgId : Id
  buildingId : Option Id
  type : ConversationType
  counterpartyGroup : ConversationCounterpartyGroup
  subject : Option String
  createdAt : TimeValue
  updatedAt : TimeValue
deriving DecidableEq

structure ConversationParticipant where
  conversationId : Id
  userId : Id
  lastReadAt : Option TimeValue
deriving DecidableEq

def ConversationParticipant.key (p : ConversationParticipant) : Id × Id :=
  (p.conversationId, p.userId)

structure Message where
  id : Id
  conversationId : Id
  senderUserId : Id
  content : String
  createdAt : TimeValue
deriving DecidableEq

/-- The columns of an organisation or a building that the answers show. -/
structure NamedRow where
  id : Id
  name : String
deriving DecidableEq

/-- The columns of a user that the answers show. -/
structure UserCard where
  id : Id
  name : Option String
  avatarUrl : Option String
deriving DecidableEq

structure Db where
  orgs : Table NamedRow.id
  buildings : Table NamedRow.id
  users : Table UserCard.id
  conversations : Table Conversation.id
  participants : Table ConversationParticipant.key
  messages : Table Message.id

structure ParticipantWithUser extends ConversationParticipant where
  user : UserCard
deriving DecidableEq

structure MessageWithSender extends Message where
  senderUser : UserCard
deriving DecidableEq

structure ConversationWithRelations extends Conversation where
  org : NamedRow
  building : Option NamedRow
  participants : List ParticipantWithUser
  messages : List MessageWithSender
deriving DecidableEq

section Classification

structure ParticipantRoleBuckets where
  staffUserIds : List Id
  tenantUserIds : List Id
  ownerUserIds : List Id
deriving DecidableEq

structure Classification where
  type : ConversationType
  counterpartyGroup : ConversationCounterpartyGroup
deriving DecidableEq, Repr

def getCounterpartyGroupForConversationType : ConversationType → ConversationCounterpartyGroup
  | .MANAGEMENT_INTERNAL => .STAFF
  | .MANAGEMENT_TENANT => .TENANT
  | .MANAGEMENT_OWNER => .OWNER
  | .OWNER_TENANT => .MIXED

def inferConversationClassification (input : ParticipantRoleBuckets) : Option Classification :=
  let hasStaff := !input.staffUserIds.isEmpty
  let hasTenant := !input.tenantUserIds.isEmpty
  let hasOwner := !input.ownerUserIds.isEmpty
  if hasStaff && !hasTenant && !hasOwner then some ⟨.MANAGEMENT_INTERNAL, .STAFF⟩
  else if hasStaff && hasTenant && !hasOwner then some ⟨.MANAGEMENT_TENANT, .TENANT⟩
  else if hasStaff && hasOwner && !hasTenant then some ⟨.MANAGEMENT_OWNER, .OWNER⟩
  else if !hasStaff && hasTenant && hasOwner then some ⟨.OWNER_TENANT, .MIXED⟩
  else none

theorem inferConversationClassification_group {input : ParticipantRoleBuckets}
    {c : Classification} (h : inferConversationClassification input = some c) :
    c.counterpartyGroup = getCounterpartyGroupForConversationType c.type := by
  unfold inferConversationClassification at h
  dsimp only at h
  split_ifs at h <;> exact Option.some.inj h ▸ rfl

theorem inferConversationClassification_isSome_iff {input : ParticipantRoleBuckets} :
    (inferConversationClassification input).isSome = true ↔
      (input.staffUserIds ≠ [] ∧ (input.tenantUserIds = [] ∨ input.ownerUserIds = [])) ∨
        (input.staffUserIds = [] ∧ input.tenantUserIds ≠ [] ∧ input.ownerUserIds ≠ []) := by
  obtain ⟨staff, tenants, owners⟩ := input
  cases staff <;> cases tenants <;> cases owners <;> simp [inferConversationClassification]

end Classification

namespace Db

variable (db : Db)

/-- A foreign key makes sure that the user is there. -/
def userCard (userId : Id) : UserCard := (db.users.findUnique userId).getD ⟨userId, none, none⟩

def participantRows (conversationId : Id) : List ConversationParticipant :=
  db.participants.rows.filter (·.conversationId = conversationId)

def messageRows (conversationId : Id) : List Message :=
  db.messages.rows.filter (·.conversationId = conversationId)

def includeRelations (messages : List Message) (c : Conversation) : ConversationWithRelations where
  toConversation := c
  org := (db.orgs.findUnique c.orgId).getD ⟨c.orgId, ""⟩
  building := c.buildingId.bind db.buildings.findUnique
  participants := (db.participantRows c.id).map fun p => ⟨p, db.userCard p.userId⟩
  messages := messages.map fun m => ⟨m, db.userCard m.senderUserId⟩

/-- `orderBy: { createdAt: 'asc' }`. -/
def conversationInclude (c : Conversation) : ConversationWithRelations :=
  db.includeRelations
    (Keyset.sorted (fun m => OrderDual.toDual m.createdAt) (db.messageRows c.id)) c

/-- `orderBy: { createdAt: 'desc' }, take: 1`. -/
def conversationWithLastMessageInclude (c : Conversation) : ConversationWithRelations :=
  db.includeRelations ((Keyset.sorted Message.createdAt (db.messageRows c.id)).take 1) c

end Db

section Creation

structure NewConversation extends Classification where
  orgId : Id
  buildingId : Option Id
  subject : Option String
  participantUserIds : List Id
  senderUserId : Id
  content : String

/-- What creating a conversation takes from outside: the clock of the service, that of the
database, and fresh keys. -/
structure Env where
  now : TimeValue
  createdAt : TimeValue
  conversationId : Id
  messageId : Id

def UNIQUE_VIOLATION : HttpException := .internal "Unique constraint failed"

def FOREIGN_KEY_VIOLATION : HttpException := .internal "Foreign key constraint violated"

def setLastReadAt (lastReadAt : TimeValue) : Patch ConversationParticipant.key where
  apply p := { p with lastReadAt := some lastReadAt }
  key_apply _ := rfl

def insertParticipants (participants : Table ConversationParticipant.key) :
    List ConversationParticipant → Option (Table ConversationParticipant.key)
  | [] => some participants
  | p :: rest => (participants.insert p).bind (insertParticipants · rest)

def NewConversation.conversation (input : NewConversation) (env : Env) : Conversation where
  id := env.conversationId
  orgId := input.orgId
  buildingId := input.buildingId
  type := input.type
  counterpartyGroup := input.counterpartyGroup
  subject := input.subject
  createdAt := env.createdAt
  updatedAt := env.createdAt

def NewConversation.participants (input : NewConversation) (env : Env) :
    List ConversationParticipant :=
  input.participantUserIds.map fun userId =>
    ⟨env.conversationId, userId, if userId = input.senderUserId then some env.now else none⟩

def NewConversation.message (input : NewConversation) (env : Env) : Message where
  id := env.messageId
  conversationId := env.conversationId
  senderUserId := input.senderUserId
  content := input.content
  createdAt := env.createdAt

def NewConversation.referencesExist (input : NewConversation) (db : Db) : Bool :=
  (db.orgs.findUnique input.orgId).isSome &&
    input.buildingId.all (fun buildingId => (db.buildings.findUnique buildingId).isSome) &&
    (input.senderUserId :: input.participantUserIds).all fun userId =>
      (db.users.findUnique userId).isSome

/-- The repository's `createConversation`: the rows, and then the sender has read up to their
own message. -/
def createConversationRows (env : Env) (db : Db) (input : NewConversation) :
    Result (Db × ConversationWithRelations) := do
  Outcome.throwIf (input.referencesExist db = false) FOREIGN_KEY_VIOLATION
  let conversations ← Outcome.orThrow (db.conversations.insert (input.conversation env))
    UNIQUE_VIOLATION
  let participants ← Outcome.orThrow (insertParticipants db.participants (input.participants env))
    UNIQUE_VIOLATION
  let messages ← Outcome.orThrow (db.messages.insert (input.message env)) UNIQUE_VIOLATION
  let created : Db := { db with
    conversations, messages
    participants := participants.modify (env.conversationId, input.senderUserId)
      (setLastReadAt env.createdAt) }
  return (created, created.conversationInclude (input.conversation env))

theorem insertParticipants_eq_some {l : List ConversationParticipant} :
    ∀ {t t' : Table ConversationParticipant.key},
      insertParticipants t l = some t' ↔ t'.rows = t.rows ++ l := by
  induction l with
  | nil =>
    intro t t'
    rw [insertParticipants, Option.some.injEq, List.append_nil]
    constructor
    · exact fun h => h ▸ rfl
    · exact fun h => Table.eq_of_rows_eq h.symm
  | cons p rest ih =>
    intro t t'
    rw [insertParticipants, Option.bind_eq_some_iff]
    constructor
    · rintro ⟨t₁, h₁, hrest⟩
      rw [ih.mp hrest, Table.insert_eq_some.mp h₁, List.append_assoc, List.singleton_append]
    · intro hrows
      -- what the longer table holds up to `p` is a table of its own
      have hnodup : ((t.rows ++ [p]).map ConversationParticipant.key).Nodup := by
        refine t'.nodup.sublist (List.Sublist.map _ ?_)
        rw [hrows]
        exact (List.Sublist.refl _).append (List.singleton_sublist.mpr List.mem_cons_self)
      refine ⟨⟨t.rows ++ [p], hnodup⟩, Table.insert_eq_some.mpr rfl, ih.mpr ?_⟩
      rw [hrows, List.append_cons]

theorem exists_insertParticipants {t : Table ConversationParticipant.key}
    {l : List ConversationParticipant} :
    (∃ t', insertParticipants t l = some t') ↔ (l.map ConversationParticipant.key).Nodup ∧
      ∀ p ∈ t, p.key ∉ l.map ConversationParticipant.key := by
  have hnodup : ((t.rows ++ l).map ConversationParticipant.key).Nodup ↔
      (l.map ConversationParticipant.key).Nodup ∧
        ∀ p ∈ t, p.key ∉ l.map ConversationParticipant.key := by
    rw [List.map_append, List.nodup_append']
    constructor
    · rintro ⟨-, hl, hdisjoint⟩
      exact ⟨hl, fun p hp hmem => hdisjoint (List.mem_map_of_mem hp) hmem⟩
    · rintro ⟨hl, hfresh⟩
      refine ⟨t.nodup, hl, fun k hk hmem => ?_⟩
      obtain ⟨p, hp, rfl⟩ := List.mem_map.mp hk
      exact hfresh p hp hmem
  rw [← hnodup]
  constructor
  · rintro ⟨t', h⟩
    exact insertParticipants_eq_some.mp h ▸ t'.nodup
  · intro h
    exact ⟨⟨_, h⟩, insertParticipants_eq_some.mpr rfl⟩

/-- Nothing that the rows refer to is missing, and their keys are free. -/
structure NewConversation.Storable (input : NewConversation) (env : Env) (db : Db) : Prop where
  references : input.referencesExist db = true
  conversation : ∀ c ∈ db.conversations, c.id ≠ env.conversationId
  distinct : input.participantUserIds.Nodup
  participants : ∀ p ∈ db.participants, p.conversationId = env.conversationId →
    p.userId ∉ input.participantUserIds
  message : ∀ m ∈ db.messages, m.id ≠ env.messageId

theorem NewConversation.participants_keys (input : NewConversation) (env : Env) :
    (input.participants env).map ConversationParticipant.key =
      input.participantUserIds.map (Prod.mk env.conversationId) := by
  rw [NewConversation.participants, List.map_map]
  rfl

theorem createConversationRows_ok {env : Env} {db db' : Db} {input : NewConversation}
    {c : ConversationWithRelations} (h : createConversationRows env db input = .ok (db', c)) :
    ∃ participants, insertParticipants db.participants (input.participants env) =
        some participants ∧
      db'.participants = participants.modify (env.conversationId, input.senderUserId)
        (setLastReadAt env.createdAt) := by
  obtain ⟨-, -, h⟩ := Outcome.bind_eq_ok.mp h
  obtain ⟨conversations, -, h⟩ := Outcome.bind_eq_ok.mp h
  obtain ⟨participants, hparticipants, h⟩ := Outcome.bind_eq_ok.mp h
  obtain ⟨messages, -, h⟩ := Outcome.bind_eq_ok.mp h
  obtain ⟨rfl, -⟩ := Prod.mk.inj (Except.ok.inj h)
  exact ⟨participants, Outcome.orThrow_eq_ok.mp hparticipants, rfl⟩

theorem createConversationRows_ok_iff {env : Env} {db : Db} {input : NewConversation} :
    (∃ created, createConversationRows env db input = .ok created) ↔ input.Storable env db := by
  have hkeys : ((input.participants env).map ConversationParticipant.key).Nodup ↔
      input.participantUserIds.Nodup := by
    rw [input.participants_keys]
    exact List.nodup_map_iff (Prod.mk_right_injective _)
  have hfresh : (∀ p ∈ db.participants,
      p.key ∉ (input.participants env).map ConversationParticipant.key) ↔
        ∀ p ∈ db.participants, p.conversationId = env.conversationId →
          p.userId ∉ input.participantUserIds := by
    rw [input.participants_keys]
    simp [ConversationParticipant.key, eq_comm, imp_not_comm]
  constructor
  · rintro ⟨created, h⟩
    obtain ⟨_, hreferences, h⟩ := Outcome.bind_eq_ok.mp h
    obtain ⟨_, hconversation, h⟩ := Outcome.bind_eq_ok.mp h
    obtain ⟨_, hparticipants, h⟩ := Outcome.bind_eq_ok.mp h
    obtain ⟨_, hmessage, -⟩ := Outcome.bind_eq_ok.mp h
    obtain ⟨hdistinct, hparticipants⟩ :=
      exists_insertParticipants.mp ⟨_, Outcome.orThrow_eq_ok.mp hparticipants⟩
    exact {
      references := Bool.eq_true_of_not_eq_false (Outcome.throwIf_eq_ok.mp hreferences)
      conversation := Table.exists_insert.mp ⟨_, Outcome.orThrow_eq_ok.mp hconversation⟩
      distinct := hkeys.mp hdistinct
      participants := hfresh.mp hparticipants
      message := Table.exists_insert.mp ⟨_, Outcome.orThrow_eq_ok.mp hmessage⟩ }
  · intro h
    obtain ⟨conversations, hconversations⟩ :=
      Table.exists_insert.mpr (show ∀ c ∈ db.conversations, c.id ≠ (input.conversation env).id from
        h.conversation)
    obtain ⟨participants, hparticipants⟩ :=
      exists_insertParticipants.mpr ⟨hkeys.mpr h.distinct, hfresh.mpr h.participants⟩
    obtain ⟨messages, hmessages⟩ :=
      Table.exists_insert.mpr (show ∀ m ∈ db.messages, m.id ≠ (input.message env).id from h.message)
    refine Outcome.exists_bind_ok (a := ()) (Outcome.throwIf_eq_ok.mpr (by simp [h.references])) ?_
    refine Outcome.exists_bind_ok (Outcome.orThrow_eq_ok.mpr hconversations) ?_
    refine Outcome.exists_bind_ok (Outcome.orThrow_eq_ok.mpr hparticipants) ?_
    refine Outcome.exists_bind_ok (Outcome.orThrow_eq_ok.mpr hmessages) ?_
    exact ⟨_, rfl⟩

/-- The users of the participant rows that were not there before. -/
def newParticipantIds (db db' : Db) : List Id :=
  (db'.participants.rows.filter fun p => p ∉ db.participants.rows).map (·.userId)

theorem mem_newParticipantIds {env : Env} {db db' : Db} {input : NewConversation}
    {c : ConversationWithRelations} (h : createConversationRows env db input = .ok (db', c))
    (hsender : input.senderUserId ∈ input.participantUserIds) {userId : Id} :
    userId ∈ newParticipantIds db db' ↔ userId ∈ input.participantUserIds := by
  obtain ⟨participants, hinsert, hmodify⟩ := createConversationRows_ok h
  have hrows := insertParticipants_eq_some.mp hinsert
  have hfresh := (exists_insertParticipants.mp ⟨_, hinsert⟩).2
  have hnew : ∀ p ∈ input.participants env, p.userId ∈ input.participantUserIds := by
    intro p hp
    obtain ⟨id, hid, rfl⟩ := List.mem_map.mp hp
    exact hid
  simp only [newParticipantIds, List.mem_map, List.mem_filter, decide_eq_true_eq]
  constructor
  · rintro ⟨p, ⟨hp, hold⟩, rfl⟩
    rcases Table.mem_modify.mp (show p ∈ participants.modify _ _ from hmodify ▸ hp) with
      ⟨a, -, hkey, rfl⟩ | ⟨hp, -⟩
    · have huser : ((setLastReadAt env.createdAt).apply a).userId = input.senderUserId :=
        congrArg Prod.snd hkey
      rw [huser]
      exact hsender
    · rw [Table.mem_rows, hrows, List.mem_append] at hp
      exact hnew p (hp.resolve_left hold)
  · intro hid
    -- the row inserted for the user, with the watermark it was given last
    have hrow : ∃ p ∈ input.participants env, p.userId = userId :=
      ⟨_, List.mem_map_of_mem hid, rfl⟩
    obtain ⟨p, hp, huser⟩ := hrow
    have hmem : p ∈ participants := by
      rw [Table.mem_rows, hrows]
      exact List.mem_append_right _ hp
    have hkey : p.key ∈ (input.participants env).map ConversationParticipant.key :=
      List.mem_map_of_mem hp
    by_cases hk : p.key = (env.conversationId, input.senderUserId)
    · refine ⟨(setLastReadAt env.createdAt).apply p, ⟨?_, fun hold => hfresh _ hold hkey⟩, huser⟩
      rw [hmodify, ← hk]
      exact Table.apply_mem_modify hmem
    · refine ⟨p, ⟨?_, fun hold => hfresh p hold hkey⟩, huser⟩
      rw [hmodify]
      exact Table.mem_modify_of_ne hmem hk

end Creation

end Towerdesk.Messaging
