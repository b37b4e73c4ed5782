import Towerdesk.Messaging.Listing
import Towerdesk.Lib.Watermark

/-!
# Unread counts

The same mapper makes the answer of the list, where a conversation comes with its last
message only, and of the detail, where it comes with all of them; the badge counts for
itself. What the list shows adds up to the badge, and agrees with the detail, exactly when no
conversation has more than one unread message.
-/

namespace Towerdesk.Messaging

open IsoDate (TimeValue)

section Answers

/-- A participant or a sender in an answer. -/
structure UserDto where
  id : Id
  name : String
  avatarUrl : Option String
deriving DecidableEq

structure MessageResponse where
  id : Id
  content : String
  sender : UserDto
  createdAt : TimeValue
deriving DecidableEq

structure ConversationResponse where
  id : Id
  type : ConversationType
  counterpartyGroup : ConversationCounterpartyGroup
  subject : Option String
  buildingId : Option Id
  participants : List UserDto
  unreadCount : ℕ
  lastMessage : Option MessageResponse
  createdAt : TimeValue
  updatedAt : TimeValue
deriving DecidableEq

structure ConversationDetailResponse extends ConversationResponse where
  messages : List MessageResponse
deriving DecidableEq

structure OwnerConversationResponse extends ConversationResponse where
  orgId : Id
  orgName : String
  buildingName : Option String
deriving DecidableEq

structure OwnerConversationDetailResponse extends OwnerConversationResponse where
  messages : List MessageResponse
deriving DecidableEq

def toUserDto (user : UserCard) : UserDto := ⟨user.id, user.name.getD "Unknown", user.avatarUrl⟩

def toMessageResponse (message : MessageWithSender) : MessageResponse :=
  ⟨message.id, message.content, toUserDto message.senderUser, message.createdAt⟩

def toConversationResponse (conversation : ConversationWithRelations) (currentUserId : Id) :
    ConversationResponse where
  id := conversation.id
  type := conversation.type
  counterpartyGroup := conversation.counterpartyGroup
  subject := conversation.subject
  buildingId := conversation.buildingId
  participants := conversation.participants.map fun p => toUserDto p.user
  unreadCount :=
    match (conversation.participants.find? (·.userId = currentUserId)).bind (·.lastReadAt) with
    | some lastReadAt => (conversation.messages.filter fun m => lastReadAt < m.createdAt).length
    | none => conversation.messages.length
  lastMessage := conversation.messages.getLast?.map toMessageResponse
  createdAt := conversation.createdAt
  updatedAt := conversation.updatedAt

def toConversationDetailResponse (conversation : ConversationWithRelations) (currentUserId : Id) :
    ConversationDetailResponse where
  toConversationResponse := toConversationResponse conversation currentUserId
  messages := conversation.messages.map toMessageResponse

def toOwnerConversationResponse (conversation : ConversationWithRelations) (currentUserId : Id) :
    OwnerConversationResponse where
  toConversationResponse := toConversationResponse conversation currentUserId
  orgId := conversation.org.id
  orgName := conversation.org.name
  buildingName := conversation.building.map (·.name)

def toOwnerConversationDetailResponse (conversation : ConversationWithRelations)
    (currentUserId : Id) : OwnerConversationDetailResponse where
  toOwnerConversationResponse := toOwnerConversationResponse conversation currentUserId
  messages := conversation.messages.map toMessageResponse

end Answers

section Counting

variable (db : Db)

/-- The reducer of `countUnreadMessagesFromConversations`. -/
def addUnread (userId : Id) (total : ℕ) (conversation : Conversation) : ℕ :=
  match (db.participantRows conversation.id).find? (·.userId = userId) with
  | none => total
  | some participant =>
    total + match participant.lastReadAt with
      | some lastReadAt =>
        ((db.messageRows conversation.id).filter fun m => lastReadAt < m.createdAt).length
      | none => (db.messageRows conversation.id).length

def countUnreadMessagesFromConversations (conversations : List Conversation) (userId : Id) : ℕ :=
  conversations.foldl (addUnread db userId) 0

def countUnreadMessages (w : World) (user : AuthenticatedUser) (orgId : Id) : Result ℕ := do
  assertOrgConversationAccess w user.sub orgId
  return countUnreadMessagesFromConversations db (conversationsOf db user.sub (some orgId)) user.sub

def countUnreadOwnerMessages (user : AuthenticatedUser) : Result ℕ :=
  .ok (countUnreadMessagesFromConversations db (conversationsOf db user.sub none) user.sub)

def lastReadAtOf (userId : Id) (c : Conversation) : Option TimeValue :=
  ((db.participantRows c.id).find? (·.userId = userId)).bind (·.lastReadAt)

/-- The messages later than the user's watermark, all of them without one. -/
def unreadMessages (userId : Id) (c : Conversation) : List Message :=
  Watermark.unread Message.createdAt (lastReadAtOf db userId c) (db.messageRows c.id)

variable {db} {userId : Id} {orgId : Option Id} {c : Conversation}

theorem unreadCount_includeRelations (messages : List Message) :
    (toConversationResponse (db.includeRelations messages c) userId).unreadCount =
      (Watermark.unread Message.createdAt (lastReadAtOf db userId c) messages).length := by
  have hmark : ((db.includeRelations messages c).participants.find? (·.userId = userId)).bind
      (·.lastReadAt) = lastReadAtOf db userId c := by
    rw [Db.includeRelations, List.find?_map, Option.bind_map]
    rfl
  unfold toConversationResponse
  simp only [hmark]
  cases lastReadAtOf db userId c with
  | none => exact List.length_map _
  | some lastReadAt =>
    rw [Db.includeRelations]
    simp only [Watermark.unread, List.filter_map, List.length_map]
    rfl

theorem unreadCount_detail :
    (toConversationResponse (db.conversationInclude c) userId).unreadCount =
      (unreadMessages db userId c).length := by
  rw [Db.conversationInclude, unreadCount_includeRelations]
  exact (Watermark.unread_perm Keyset.perm_sorted).length_eq

theorem unreadCount_list :
    (toConversationResponse (db.conversationWithLastMessageInclude c) userId).unreadCount =
      min 1 (unreadMessages db userId c).length := by
  rw [Db.conversationWithLastMessageInclude, unreadCount_includeRelations,
    Watermark.length_unread_latest Keyset.pairwise_le_sorted]
  exact congrArg (min 1) (Watermark.unread_perm Keyset.perm_sorted).length_eq

theorem isParticipant_find (h : isParticipant db userId c = true) :
    ∃ p, (db.participantRows c.id).find? (·.userId = userId) = some p := by
  obtain ⟨p, hp, hkey⟩ := List.any_eq_true.mp h
  obtain ⟨hconversation, huser⟩ := of_decide_eq_true hkey
  have hmem : p ∈ db.participantRows c.id := List.mem_filter.mpr ⟨hp, decide_eq_true hconversation⟩
  exact Option.isSome_iff_exists.mp (List.find?_isSome.mpr ⟨p, hmem, decide_eq_true huser⟩)

theorem addUnread_eq (h : isParticipant db userId c = true) (total : ℕ) :
    addUnread db userId total c = total + (unreadMessages db userId c).length := by
  obtain ⟨p, hp⟩ := isParticipant_find h
  have hmark : lastReadAtOf db userId c = p.lastReadAt := by
    rw [lastReadAtOf, hp]
    rfl
  rw [addUnread, hp, unreadMessages, hmark]
  dsimp only
  cases p.lastReadAt <;> rfl

theorem foldl_addUnread {conversations : List Conversation} :
    ∀ total, (∀ c ∈ conversations, isParticipant db userId c = true) →
      conversations.foldl (addUnread db userId) total =
        total + (conversations.map fun c => (unreadMessages db userId c).length).sum := by
  induction conversations with
  | nil => exact fun total _ => rfl
  | cons c l ih =>
    intro total h
    have hrest : ∀ c' ∈ l, isParticipant db userId c' = true :=
      fun c' hc' => h c' (List.mem_cons_of_mem c hc')
    rw [List.foldl_cons, addUnread_eq (h c List.mem_cons_self), ih _ hrest, List.map_cons,
      List.sum_cons, Nat.add_assoc]

theorem countUnread_eq : countUnreadMessagesFromConversations db (conversationsOf db userId orgId)
    userId = ((conversationsOf db userId orgId).map fun c =>
      (unreadMessages db userId c).length).sum := by
  have hparticipant : ∀ c ∈ conversationsOf db userId orgId, isParticipant db userId c = true :=
    fun c hc => (mem_conversationsOf.mp hc).2.2
  rw [countUnreadMessagesFromConversations, foldl_addUnread 0 hparticipant, Nat.zero_add]

end Counting

section Traversal

variable {ι : Type*} [LinearOrder ι] (runtime : Runtime ι) (w : World) (db : Db)
  (user : AuthenticatedUser) (orgId : Id) (options : ListOptions)

namespace MessagingController

def list : CursorPages.Listing ConversationResponse HttpException := fun cursor => do
  let page ← listConversations runtime w db user orgId { options with cursor := cursor }
  return (page.items.map (toConversationResponse · user.sub), page.nextCursor)

def getById (conversationId : Id) : Result ConversationDetailResponse := do
  let conversation ← getConversation w db user orgId conversationId
  return toConversationDetailResponse conversation user.sub

def unreadCount : Result ℕ := countUnreadMessages db w user orgId

end MessagingController

namespace OwnerMessagingController

def list : CursorPages.Listing OwnerConversationResponse HttpException := fun cursor => do
  let page ← listOwnerConversations runtime db user { options with cursor := cursor }
  return (page.items.map (toOwnerConversationResponse · user.sub), page.nextCursor)

def getById (conversationId : Id) : Result OwnerConversationDetailResponse := do
  let conversation ← getOwnerConversation db user conversationId
  return toOwnerConversationDetailResponse conversation user.sub

def unreadCount : Result ℕ := countUnreadOwnerMessages db user

end OwnerMessagingController

/-- What a reader of the whole list sees adds up to the badge, and each conversation's count is
the one its detail shows. -/
def TotalsAgree {β δ : Type} (answer : β → ConversationResponse) (answer' : δ → ConversationResponse)
    (listing : CursorPages.Listing β HttpException) (detail : Id → Result δ) (total : Result ℕ) :
    Prop :=
  ∀ seen count, CursorPages.Walk listing none seen → total = .ok count →
    (seen.map fun item => (answer item).unreadCount).sum = count ∧
      ∀ item ∈ seen, ∃ d, detail (answer item).id = .ok d ∧
        (answer' d).unreadCount = (answer item).unreadCount

variable {runtime w db user orgId options}

theorem findConversationByIdForUser_self {userId : Id} {org : Option Id} {c : Conversation}
    (hc : c ∈ conversationsOf db userId org) :
    findConversationByIdForUser db c.id userId org = some (db.conversationInclude c) := by
  have hfind : (conversationsOf db userId org).find? (·.id = c.id) = some c := by
    have hfound : ((conversationsOf db userId org).find? (·.id = c.id)).isSome = true :=
      List.find?_isSome.mpr ⟨c, hc, decide_eq_true rfl⟩
    obtain ⟨c', hc'⟩ := Option.isSome_iff_exists.mp hfound
    have hmem := (mem_conversationsOf.mp (List.mem_of_find?_eq_some hc')).1
    have hid : c'.id = c.id := by simpa using List.find?_some hc'
    rw [hc', Table.eq_of_key_eq hmem (mem_conversationsOf.mp hc).1 hid]
  rw [findConversationByIdForUser, hfind, Option.map_some]

/-- The totals agree exactly when no conversation has two unread messages. -/
theorem totalsAgree_iff {β δ : Type} {answer : β → ConversationResponse}
    {answer' : δ → ConversationResponse} (view : ConversationWithRelations → β)
    (view' : ConversationWithRelations → δ) {listing : CursorPages.Listing β HttpException}
    {detail : Id → Result δ} {total : Result ℕ} {userId : Id} {org : Option Id}
    {rows : List Conversation} (hrows : rows.Perm (conversationsOf db userId org))
    (hview : ∀ c, answer (view c) = toConversationResponse c userId)
    (hview' : ∀ c, answer' (view' c) = toConversationResponse c userId)
    (hwalk : ∀ seen, CursorPages.Walk listing none seen ↔
      seen = rows.map fun c => view (db.conversationWithLastMessageInclude c))
    (hdetail : ∀ c ∈ conversationsOf db userId org,
      detail c.id = .ok (view' (db.conversationInclude c)))
    (htotal : total = .ok (countUnreadMessagesFromConversations db
      (conversationsOf db userId org) userId)) :
    TotalsAgree answer answer' listing detail total ↔
      ∀ c ∈ conversationsOf db userId org, (unreadMessages db userId c).length ≤ 1 := by
  have hlist : ∀ c, (answer (view (db.conversationWithLastMessageInclude c))).unreadCount =
      min 1 (unreadMessages db userId c).length := by
    intro c
    rw [hview, unreadCount_list]
  have hid : ∀ c, (answer (view (db.conversationWithLastMessageInclude c))).id = c.id := by
    intro c
    rw [hview]
    rfl
  have hsum : ((rows.map fun c => view (db.conversationWithLastMessageInclude c)).map
      fun item => (answer item).unreadCount).sum =
        ((conversationsOf db userId org).map fun c =>
          min 1 (unreadMessages db userId c).length).sum := by
    rw [List.map_map]
    refine (List.Perm.sum_eq (hrows.map _)).trans ?_
    simp only [Function.comp_def, hlist]
  rw [TotalsAgree]
  constructor
  · intro hagree
    obtain ⟨htotals, -⟩ := hagree _ _ ((hwalk _).mpr rfl) htotal
    rw [hsum, countUnread_eq] at htotals
    exact Watermark.sum_min_one_eq_iff.mp htotals
  · intro hone seen count hseen hcount
    obtain rfl := (hwalk seen).mp hseen
    obtain rfl := Except.ok.inj (htotal.symm.trans hcount)
    refine ⟨?_, fun item hitem => ?_⟩
    · rw [hsum, countUnread_eq]
      exact Watermark.sum_min_one_eq_iff.mpr hone
    · obtain ⟨c, hc, rfl⟩ := List.mem_map.mp hitem
      have hmem := hrows.mem_iff.mp hc
      refine ⟨_, (hid c).symm ▸ hdetail c hmem, ?_⟩
      rw [hview', unreadCount_detail, hlist]
      exact (min_eq_right (hone c hmem)).symm

theorem page_eq {β : Type} (f : ConversationWithRelations → β) (userId : Id) (org : Option Id)
    (cursor : Option CursorInfo) :
    ((pageAt runtime db userId org options cursor).items.map f,
      (pageAt runtime db userId org options cursor).nextCursor) =
        CursorPages.page (conversationKey runtime) options.pageLimit
          (matching runtime db userId org options)
          (fun c => f (db.conversationWithLastMessageInclude c)) encodeCursor
          (cursor.map (cursorKey runtime)) := by
  rw [pageAt_eq, CursorPages.page, List.map_map]
  rfl

theorem owner_list_serves (hkeys : db.UuidKeys) :
    CursorPages.Serves (conversationKey runtime) options.pageLimit
      (matching runtime db user.sub none options)
      (OwnerMessagingController.list runtime db user options)
      (fun c => toOwnerConversationResponse (db.conversationWithLastMessageInclude c) user.sub)
      encodeCursor where
  first := congrArg Except.ok (page_eq (toOwnerConversationResponse · user.sub) user.sub none none)
  next := by
    intro c hc
    have hread : readCursor runtime (some (encodeCursor c)) = .ok (some ⟨c.id, c.updatedAt⟩) :=
      readCursor_encodeCursor (hkeys c (mem_conversationsOf.mp (mem_matching.mp hc).1).1)
    rw [OwnerMessagingController.list, listOwnerConversations, hread]
    exact congrArg Except.ok (page_eq (toOwnerConversationResponse · user.sub) user.sub none
      (some ⟨c.id, c.updatedAt⟩))

theorem list_serves (hkeys : db.UuidKeys)
    (haccess : assertOrgConversationAccess w user.sub orgId = .ok ()) :
    CursorPages.Serves (conversationKey runtime) options.pageLimit
      (matching runtime db user.sub (some orgId) options)
      (MessagingController.list runtime w db user orgId options)
      (fun c => toConversationResponse (db.conversationWithLastMessageInclude c) user.sub)
      encodeCursor where
  first := by
    rw [MessagingController.list, listConversations, haccess]
    exact congrArg Except.ok (page_eq (toConversationResponse · user.sub) user.sub (some orgId) none)
  next := by
    intro c hc
    have hread : readCursor runtime (some (encodeCursor c)) = .ok (some ⟨c.id, c.updatedAt⟩) :=
      readCursor_encodeCursor (hkeys c (mem_conversationsOf.mp (mem_matching.mp hc).1).1)
    rw [MessagingController.list, listConversations, haccess, hread]
    exact congrArg Except.ok (page_eq (toConversationResponse · user.sub) user.sub (some orgId)
      (some ⟨c.id, c.updatedAt⟩))

theorem matching_perm {userId : Id} {org : Option Id} {limit : Option ℤ} :
    (matching runtime db userId org { limit := limit }).Perm (conversationsOf db userId org) := by
  have hall : (conversationsOf db userId org).filter (passes { limit := limit }) =
      conversationsOf db userId org := List.filter_eq_self.mpr fun c _ => rfl
  rw [matching, hall]
  exact Keyset.perm_sorted

theorem list_of_access_error {e : HttpException}
    (haccess : assertOrgConversationAccess w user.sub orgId = .error e) :
    MessagingController.list runtime w db user orgId options none = .error e := by
  rw [MessagingController.list, listConversations, haccess]
  rfl

theorem totalsAgree_org_iff (runtime : Runtime ι) (limit : Option ℤ) (hkeys : db.UuidKeys)
    (haccess : assertOrgConversationAccess w user.sub orgId = .ok ()) :
    TotalsAgree id ConversationDetailResponse.toConversationResponse
        (MessagingController.list runtime w db user orgId { limit := limit })
        (MessagingController.getById w db user orgId)
        (MessagingController.unreadCount w db user orgId) ↔
      ∀ c ∈ conversationsOf db user.sub (some orgId),
        (unreadMessages db user.sub c).length ≤ 1 := by
  have hserves : CursorPages.Serves _ _ _
      (MessagingController.list runtime w db user orgId { limit := limit }) _ _ :=
    list_serves hkeys haccess
  have hwalk := hserves.walk_iff (pageLimit_pos _) pairwise_matching
  refine totalsAgree_iff (toConversationResponse · user.sub)
    (toConversationDetailResponse · user.sub) matching_perm (fun c => rfl)
    (fun c => rfl) hwalk (fun c hc => ?_) ?_
  · rw [MessagingController.getById, getConversation, haccess]
    rw [findConversationByIdForUser_self hc]
    rfl
  · rw [MessagingController.unreadCount, countUnreadMessages, haccess]
    rfl

theorem totalsAgree_owner_iff (runtime : Runtime ι) (limit : Option ℤ) (hkeys : db.UuidKeys) :
    TotalsAgree OwnerConversationResponse.toConversationResponse
        (fun detail => detail.toOwnerConversationResponse.toConversationResponse)
        (OwnerMessagingController.list runtime db user { limit := limit })
        (OwnerMessagingController.getById db user) (OwnerMessagingController.unreadCount db user) ↔
      ∀ c ∈ conversationsOf db user.sub none, (unreadMessages db user.sub c).length ≤ 1 := by
  have hserves : CursorPages.Serves _ _ _
      (OwnerMessagingController.list runtime db user { limit := limit }) _ _ :=
    owner_list_serves hkeys
  have hwalk := hserves.walk_iff (pageLimit_pos _) pairwise_matching
  refine totalsAgree_iff (toOwnerConversationResponse · user.sub)
    (toOwnerConversationDetailResponse · user.sub) matching_perm (fun c => rfl)
    (fun c => rfl) hwalk (fun c hc => ?_) rfl
  rw [OwnerMessagingController.getById, getOwnerConversation, findConversationByIdForUser_self hc]
  rfl

/-- The list, the detail and the badge agree exactly when no conversation that the user may see
has more than one unread message. -/
theorem unread_totals_agree_iff (runtime : Runtime ι) (w : World) (db : Db) (hkeys : db.UuidKeys)
    (user : AuthenticatedUser) (orgId : Id) (limit : Option ℤ) :
    (TotalsAgree id ConversationDetailResponse.toConversationResponse
        (MessagingController.list runtime w db user orgId { limit := limit })
        (MessagingController.getById w db user orgId)
        (MessagingController.unreadCount w db user orgId) ↔
      (assertOrgConversationAccess w user.sub orgId = .ok () →
        ∀ c ∈ conversationsOf db user.sub (some orgId),
          (unreadMessages db user.sub c).length ≤ 1)) ∧
    (TotalsAgree OwnerConversationResponse.toConversationResponse
        (fun detail => detail.toOwnerConversationResponse.toConversationResponse)
        (OwnerMessagingController.list runtime db user { limit := limit })
        (OwnerMessagingController.getById db user) (OwnerMessagingController.unreadCount db user) ↔
      ∀ c ∈ conversationsOf db user.sub none, (unreadMessages db user.sub c).length ≤ 1) := by
  refine ⟨?_, totalsAgree_owner_iff runtime limit hkeys⟩
  cases haccess : assertOrgConversationAccess w user.sub orgId with
  | error e =>
    refine iff_of_true ?_ nofun
    intro seen count hseen
    exact absurd hseen (CursorPages.not_walk_of_error (list_of_access_error haccess) seen)
  | ok _ => exact (totalsAgree_org_iff runtime limit hkeys haccess).trans (imp_iff_right rfl).symm

end Traversal

section Chat

def plainRuntime : Runtime String where
  collate := .refl String
  replaceMalformed := fun _ => "\uFFFD"
  parseOther := fun _ => none

def chatId : Id := "7f1c0c4e-3b52-4f0e-9d55-0c9a1b2e3d40"

/-- A time in the first minute. -/
def moment (ms : UInt16) : TimeValue where
  ms := ms.toNat
  inRange := by
    have hlt : ms.toNat < 65536 := ms.toNat_lt
    unfold IsoDate.maxTime
    omega

def greeting : Message := ⟨"greeting", chatId, "manager", "Hello", moment 1000⟩

def reminder : Message := ⟨"reminder", chatId, "manager", "Any news?", moment 2000⟩

/-- A conversation of the manager with the resident, who has read nothing yet. -/
def chat (messages : Table Message.id) : Db where
  orgs := lobbyDb.orgs
  buildings := lobbyDb.buildings
  users := lobbyDb.users
  conversations := ⟨[⟨chatId, "org", none, .MANAGEMENT_TENANT, .TENANT, none, moment 1000,
    moment 2000⟩], List.nodup_singleton _⟩
  participants := ⟨[⟨chatId, "manager", some (moment 2000)⟩, ⟨chatId, "resident", none⟩],
    by decide⟩
  messages := messages

theorem chat_uuidKeys (messages : Table Message.id) : (chat messages).UuidKeys := by
  intro c hc
  rw [List.mem_singleton.mp hc]
  decide +kernel

theorem one_unread_message_agrees :
    TotalsAgree OwnerConversationResponse.toConversationResponse
      (fun detail => detail.toOwnerConversationResponse.toConversationResponse)
      (OwnerMessagingController.list plainRuntime (chat ⟨[greeting], by decide⟩)
        ⟨"resident", some "org"⟩ { limit := none })
      (OwnerMessagingController.getById (chat ⟨[greeting], by decide⟩) ⟨"resident", some "org"⟩)
      (OwnerMessagingController.unreadCount (chat ⟨[greeting], by decide⟩)
        ⟨"resident", some "org"⟩) :=
  (unread_totals_agree_iff plainRuntime lobby (chat ⟨[greeting], by decide⟩) (chat_uuidKeys _)
    ⟨"resident", some "org"⟩ "org" none).2.mpr (by decide +kernel)

/-- The list shows one unread message where the badge counts two. -/
theorem two_unread_messages_disagree : ¬ ∀ (runtime : Runtime String) (w : World) (db : Db)
    (user : AuthenticatedUser) (orgId : Id) (limit : Option ℤ), db.UuidKeys →
    TotalsAgree id ConversationDetailResponse.toConversationResponse
      (MessagingController.list runtime w db user orgId { limit := limit })
      (MessagingController.getById w db user orgId)
      (MessagingController.unreadCount w db user orgId) ∧
    TotalsAgree OwnerConversationResponse.toConversationResponse
      (fun detail => detail.toOwnerConversationResponse.toConversationResponse)
      (OwnerMessagingController.list runtime db user { limit := limit })
      (OwnerMessagingController.getById db user)
      (OwnerMessagingController.unreadCount db user) := by
  intro h
  have hkeys := chat_uuidKeys ⟨[greeting, reminder], by decide⟩
  have hagree := (h plainRuntime lobby (chat ⟨[greeting, reminder], by decide⟩)
    ⟨"resident", some "org"⟩ "org" none hkeys).1
  have haccess : assertOrgConversationAccess lobby "resident" "org" = .ok () := by decide +kernel
  have hone := (totalsAgree_org_iff plainRuntime none hkeys haccess).mp hagree
  exact absurd hone (by decide +kernel)

end Chat

end Towerdesk.Messaging
