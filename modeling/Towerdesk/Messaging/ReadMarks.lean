import Towerdesk.Messaging.Unread
import Towerdesk.Lib.Interleaving

/-!
# Sending and reading at once

The requests that send a message to a conversation or mark it as read take turns between
their statements, while the clock goes on. A sender's watermark is set two statements after
the message is stored, to what the clock shows by then.
-/

namespace Towerdesk.Messaging

open IsoDate (TimeValue)
open Watermark (owed)

section Statements

namespace Db

variable (db : Db)

def isUserParticipant (conversationId userId : Id) : Bool :=
  (db.participants.findUnique (conversationId, userId)).isSome

/-- `message.create`. -/
def insertMessage (message : Message) : Option Db :=
  (db.messages.insert message).map fun messages => { db with messages := messages }

def touch (now : TimeValue) : Patch Conversation.id where
  apply c := { c with updatedAt := now }
  key_apply _ := rfl

/-- `conversation.update`: the row must be there. -/
def touchConversation (conversationId : Id) (now : TimeValue) : Option Db :=
  (db.conversations.findUnique conversationId).map fun _ =>
    { db with conversations := db.conversations.modify conversationId (touch now) }

def markConversationAsRead (conversationId userId : Id) (now : TimeValue) : Db :=
  { db with participants := db.participants.modify (conversationId, userId) (setLastReadAt now) }

end Db

inductive Request
  | sendMessage (userId : Id) (content : String) (messageId : Id)
  | markAsRead (userId : Id)

def Request.userId : Request → Id
  | .sendMessage userId _ _ => userId
  | .markAsRead userId => userId

/-- Where a request is between its statements. -/
inductive Progress
  | waiting
  | participant
  | inserted (message : Message)
  | touched (message : Message)
  | finished
deriving DecidableEq

/-- The database, the clock, and what was stored and marked, newest first, which no statement
reads. -/
structure Shared where
  db : Db
  clock : TimeValue
  log : List (Watermark.Entry Id Message)

def Shared.at (s : Shared) (now : TimeValue) : Shared := { s with clock := now }

/-- The next statement of `sendMessageInternal` or `markConversationAsReadInternal`; one that
throws ends the request. -/
def statement (conversationId : Id) (request : Request) (now : TimeValue) :
    Progress → Shared → Progress × Shared
  | .waiting, s =>
    if s.db.isUserParticipant conversationId request.userId then (.participant, s.at now)
    else (.finished, s.at now)
  | .participant, s =>
    match request with
    | .sendMessage userId content messageId =>
      let message : Message := ⟨messageId, conversationId, userId, content, now⟩
      match s.db.insertMessage message with
      | none => (.finished, s.at now)
      | some db => (.inserted message, ⟨db, now, .posted message :: s.log⟩)
    | .markAsRead userId =>
      (.finished, ⟨s.db.markConversationAsRead conversationId userId now, now,
        .marked userId :: s.log⟩)
  | .inserted message, s =>
    match s.db.touchConversation conversationId now with
    | none => (.finished, s.at now)
    | some db => (.touched message, ⟨db, now, s.log⟩)
  | .touched message, s =>
    (.finished, ⟨s.db.markConversationAsRead conversationId message.senderUserId now, now, s.log⟩)
  | .finished, s => (.finished, s)

/-- A reading that is behind the clock is none. -/
def machine {π : Type*} (conversationId : Id) (request : π → Request) :
    Interleaving.Machine π TimeValue Progress Shared where
  step p now progress s :=
    if now < s.clock then (progress, s) else statement conversationId (request p) now progress s

end Statements

section Turns

variable {conversationId : Id}

/-- All that one turn can do. -/
inductive Turn (conversationId : Id) (now : TimeValue) (request : Request) :
    Progress → Shared → Progress → Shared → Prop
  | stay {progress : Progress} {s : Shared} : Turn conversationId now request progress s progress s
  | start {s : Shared} (h : s.clock ≤ now) :
      Turn conversationId now request .waiting s .participant (s.at now)
  | refused {progress : Progress} {s : Shared} (h : s.clock ≤ now)
      (hprogress : progress = .waiting ∨ progress = .participant) :
      Turn conversationId now request progress s .finished (s.at now)
  | insert {s : Shared} {db : Db} {userId content messageId : Id} (h : s.clock ≤ now)
      (hrequest : request = .sendMessage userId content messageId)
      (hinsert : s.db.insertMessage ⟨messageId, conversationId, userId, content, now⟩ = some db) :
      Turn conversationId now request .participant s
        (.inserted ⟨messageId, conversationId, userId, content, now⟩)
        ⟨db, now, .posted ⟨messageId, conversationId, userId, content, now⟩ :: s.log⟩
  | touch {s : Shared} {db : Db} {message : Message} (h : s.clock ≤ now)
      (htouch : s.db.touchConversation conversationId now = some db) :
      Turn conversationId now request (.inserted message) s (.touched message) ⟨db, now, s.log⟩
  | lost {s : Shared} {message : Message} (h : s.clock ≤ now)
      (htouch : s.db.touchConversation conversationId now = none) :
      Turn conversationId now request (.inserted message) s .finished (s.at now)
  | read {s : Shared} {message : Message} (h : s.clock ≤ now) :
      Turn conversationId now request (.touched message) s .finished
        ⟨s.db.markConversationAsRead conversationId message.senderUserId now, now, s.log⟩
  | mark {s : Shared} {userId : Id} (h : s.clock ≤ now) (hrequest : request = .markAsRead userId) :
      Turn conversationId now request .participant s .finished
        ⟨s.db.markConversationAsRead conversationId userId now, now, .marked userId :: s.log⟩

theorem turn_statement {request : Request} {now : TimeValue} {progress : Progress} {s : Shared}
    (h : s.clock ≤ now) : Turn conversationId now request progress s
      (statement conversationId request now progress s).1
      (statement conversationId request now progress s).2 := by
  cases progress with
  | waiting =>
    rw [statement]
    by_cases hparticipant : s.db.isUserParticipant conversationId request.userId = true
    · rw [if_pos hparticipant]
      exact .start h
    · rw [if_neg hparticipant]
      exact .refused h (.inl rfl)
  | participant =>
    cases request with
    | sendMessage userId content messageId =>
      simp only [statement]
      cases hinsert : s.db.insertMessage ⟨messageId, conversationId, userId, content, now⟩ with
      | none => exact .refused h (.inr rfl)
      | some db => exact .insert h rfl hinsert
    | markAsRead userId => exact .mark h rfl
  | inserted message =>
    simp only [statement]
    cases htouch : s.db.touchConversation conversationId now with
    | none => exact .lost h htouch
    | some db => exact .touch h htouch
  | touched message => exact .read h
  | finished => exact .stay

theorem turn_step {π : Type*} (request : π → Request) (p : π) (now : TimeValue)
    (progress : Progress) (s : Shared) :
    Turn conversationId now (request p) progress s
      ((machine conversationId request).step p now progress s).1
      ((machine conversationId request).step p now progress s).2 := by
  rw [machine]
  by_cases hnow : now < s.clock
  · simp only [if_pos hnow]
    exact .stay
  · simp only [if_neg hnow]
    exact turn_statement (not_lt.mp hnow)

variable {db db' : Db} {now : TimeValue} {userId : Id} {message m : Message}
  {q : ConversationParticipant}

theorem mem_messageRows :
    m ∈ db.messageRows conversationId ↔ m ∈ db.messages ∧ m.conversationId = conversationId := by
  rw [Db.messageRows, List.mem_filter, decide_eq_true_eq, Table.mem_rows]

theorem mem_participantRows :
    q ∈ db.participantRows conversationId ↔
      q ∈ db.participants ∧ q.conversationId = conversationId := by
  rw [Db.participantRows, List.mem_filter, decide_eq_true_eq, Table.mem_rows]

theorem mem_messageRows_insert (h : db.insertMessage message = some db')
    (hconversation : message.conversationId = conversationId) :
    m ∈ db'.messageRows conversationId ↔ m ∈ db.messageRows conversationId ∨ m = message := by
  obtain ⟨messages, hinsert, rfl⟩ := Option.map_eq_some_iff.mp h
  rw [mem_messageRows, mem_messageRows, Table.mem_insert hinsert]
  constructor
  · rintro ⟨hm | rfl, hc⟩
    · exact .inl ⟨hm, hc⟩
    · exact .inr rfl
  · rintro (⟨hm, hc⟩ | rfl)
    · exact ⟨.inl hm, hc⟩
    · exact ⟨.inr rfl, hconversation⟩

theorem insertMessage_participantRows (h : db.insertMessage message = some db') :
    db'.participantRows conversationId = db.participantRows conversationId := by
  obtain ⟨messages, -, rfl⟩ := Option.map_eq_some_iff.mp h
  rfl

theorem touch_rows (h : db.touchConversation conversationId now = some db') :
    db'.messageRows conversationId = db.messageRows conversationId ∧
      db'.participantRows conversationId = db.participantRows conversationId := by
  obtain ⟨_, -, rfl⟩ := Option.map_eq_some_iff.mp h
  exact ⟨rfl, rfl⟩

theorem mem_participantRows_mark
    (h : q ∈ (db.markConversationAsRead conversationId userId now).participantRows conversationId) :
    (q.userId = userId ∧ q.lastReadAt = some now) ∨
      (q.userId ≠ userId ∧ q ∈ db.participantRows conversationId) := by
  obtain ⟨hq, hc⟩ := mem_participantRows.mp h
  rcases Table.mem_modify.mp hq with ⟨q', -, hkey, rfl⟩ | ⟨hq, hkey⟩
  · exact .inl ⟨congrArg Prod.snd hkey, rfl⟩
  · refine .inr ⟨fun huser => hkey ?_, mem_participantRows.mpr ⟨hq, hc⟩⟩
    rw [ConversationParticipant.key, hc, huser]

theorem lastReadAtOf_eq {c : Conversation} (hq : q ∈ db.participantRows c.id) :
    lastReadAtOf db q.userId c = q.lastReadAt := by
  have hfind : (db.participantRows c.id).find? (·.userId = q.userId) = some q := by
    have hfound : ((db.participantRows c.id).find? (·.userId = q.userId)).isSome = true :=
      List.find?_isSome.mpr ⟨q, hq, decide_eq_true rfl⟩
    obtain ⟨q', hq'⟩ := Option.isSome_iff_exists.mp hfound
    have huser : q'.userId = q.userId := by simpa using List.find?_some hq'
    obtain ⟨hmem', hc'⟩ := mem_participantRows.mp (List.mem_of_find?_eq_some hq')
    obtain ⟨hmem, hc⟩ := mem_participantRows.mp hq
    have hkey : q'.key = q.key := by
      rw [ConversationParticipant.key, ConversationParticipant.key, hc', hc, huser]
    rw [hq', Table.eq_of_key_eq hmem' hmem hkey]
  rw [lastReadAtOf, hfind, Option.bind_some]

theorem mem_unreadMessages {c : Conversation} (hq : q ∈ db.participantRows c.id) :
    m ∈ unreadMessages db q.userId c ↔
      m ∈ db.messageRows c.id ∧ ∀ t, q.lastReadAt = some t → t < m.createdAt := by
  rw [unreadMessages, lastReadAtOf_eq hq, Watermark.mem_unread]

end Turns

section Consistency

variable {π : Type*}

/-- A stored message whose sender's watermark is still to be set. -/
def Sending (progress : Progress) (m : Message) : Prop :=
  progress = .inserted m ∨ progress = .touched m

/-- What holds whatever the requests do: nothing is ahead of the clock, and a sender has read
their own messages or has a request on the way to say so. -/
structure Consistent (conversationId : Id) (c : Interleaving.Config π Progress Shared) : Prop where
  conversation : ∃ row ∈ c.shared.db.conversations, row.id = conversationId
  marks : ∀ q ∈ c.shared.db.participantRows conversationId, ∀ t, q.lastReadAt = some t →
    t ≤ c.shared.clock
  times : ∀ m ∈ c.shared.db.messageRows conversationId, m.createdAt ≤ c.shared.clock
  logged : ∀ m, .posted m ∈ c.shared.log → m ∈ c.shared.db.messageRows conversationId
  own : ∀ m ∈ c.shared.db.messageRows conversationId,
    ∀ q ∈ c.shared.db.participantRows conversationId, q.userId = m.senderUserId →
      (∃ t, q.lastReadAt = some t ∧ m.createdAt ≤ t) ∨ ∃ p, Sending (c.locals p) m

variable [DecidableEq π] {conversationId : Id} {c : Interleaving.Config π Progress Shared} {p : π}
  {progress progress' : Progress} {s' : Shared} {now : TimeValue}

theorem exists_sending_update (hp : c.locals p = progress) {m : Message}
    (hkeep : Sending progress m → Sending progress' m) (h : ∃ p, Sending (c.locals p) m) :
    ∃ p', Sending (Function.update c.locals p progress' p') m := by
  obtain ⟨p', hp'⟩ := h
  by_cases heq : p' = p
  · refine ⟨p, ?_⟩
    rw [Function.update_self]
    rw [heq, hp] at hp'
    exact hkeep hp'
  · refine ⟨p', ?_⟩
    rw [Function.update_of_ne heq]
    exact hp'

theorem Consistent.frame (h : Consistent conversationId c) (hp : c.locals p = progress)
    (hclock : c.shared.clock ≤ s'.clock)
    (hconversation : ∃ row ∈ s'.db.conversations, row.id = conversationId)
    (hmessages : s'.db.messageRows conversationId = c.shared.db.messageRows conversationId)
    (hparticipants : s'.db.participantRows conversationId =
      c.shared.db.participantRows conversationId)
    (hlog : s'.log = c.shared.log) (hkeep : ∀ m, Sending progress m → Sending progress' m) :
    Consistent conversationId ⟨s', Function.update c.locals p progress'⟩ where
  conversation := hconversation
  marks := by
    intro q hq t ht
    rw [hparticipants] at hq
    exact (h.marks q hq t ht).trans hclock
  times := by
    intro m hm
    rw [hmessages] at hm
    exact (h.times m hm).trans hclock
  logged := by
    intro m hm
    rw [hlog] at hm
    rw [hmessages]
    exact h.logged m hm
  own := by
    intro m hm q hq huser
    rw [hmessages] at hm
    rw [hparticipants] at hq
    exact (h.own m hm q hq huser).imp_right (exists_sending_update hp (hkeep m))

theorem Consistent.mark (h : Consistent conversationId c) (hp : c.locals p = progress)
    (hclock : c.shared.clock ≤ now) {userId : Id} {log : List (Watermark.Entry Id Message)}
    (hlog : ∀ m, .posted m ∈ log → .posted m ∈ c.shared.log)
    (hsender : ∀ m, Sending progress m → m.senderUserId = userId) :
    Consistent conversationId
      ⟨⟨c.shared.db.markConversationAsRead conversationId userId now, now, log⟩,
        Function.update c.locals p progress'⟩ where
  conversation := h.conversation
  marks := by
    intro q hq t ht
    rcases mem_participantRows_mark hq with ⟨-, hmark⟩ | ⟨-, hq⟩
    · exact (Option.some.inj (hmark.symm.trans ht)).ge
    · exact (h.marks q hq t ht).trans hclock
  times := fun m hm => (h.times m hm).trans hclock
  logged := fun m hm => h.logged m (hlog m hm)
  own := by
    intro m hm q hq huser
    rcases mem_participantRows_mark hq with ⟨-, hmark⟩ | ⟨hother, hq⟩
    · exact .inl ⟨now, hmark, (h.times m hm).trans hclock⟩
    · refine (h.own m hm q hq huser).imp_right fun ⟨p', hp'⟩ => ?_
      have hne : p' ≠ p := by
        rintro rfl
        rw [hp] at hp'
        exact hother (huser.trans (hsender m hp'))
      refine ⟨p', ?_⟩
      show Sending (Function.update c.locals p progress' p') m
      rw [Function.update_of_ne hne]
      exact hp'

theorem Consistent.turn (h : Consistent conversationId c) (hp : c.locals p = progress)
    {request : Request} (hturn : Turn conversationId now request progress c.shared progress' s') :
    Consistent conversationId ⟨s', Function.update c.locals p progress'⟩ := by
  cases hturn with
  | stay => exact h.frame hp le_rfl h.conversation rfl rfl rfl fun m hm => hm
  | start hclock =>
    refine h.frame hp hclock h.conversation rfl rfl rfl fun m hm => ?_
    rcases hm with hm | hm <;> cases hm
  | refused hclock hprogress =>
    refine h.frame hp hclock h.conversation rfl rfl rfl fun m hm => ?_
    rcases hprogress with rfl | rfl <;> rcases hm with hm | hm <;> cases hm
  | touch hclock htouch =>
    have hrows := touch_rows htouch
    obtain ⟨row, -, rfl⟩ := Option.map_eq_some_iff.mp htouch
    refine h.frame hp hclock ?_ hrows.1 hrows.2 rfl fun m hm => ?_
    · obtain ⟨row, hrow, hid⟩ := h.conversation
      refine ⟨_, hid ▸ Table.apply_mem_modify hrow, ?_⟩
      exact hid
    · rcases hm with hm | hm
      · cases hm
        exact .inr rfl
      · cases hm
  | lost hclock htouch =>
    -- the conversation is there
    obtain ⟨row, hrow, hid⟩ := h.conversation
    have hfind := Table.findUnique_eq_some.mpr ⟨hrow, hid⟩
    rw [Db.touchConversation, hfind] at htouch
    cases htouch
  | read hclock =>
    refine h.mark hp hclock (fun m hm => hm) fun m hm => ?_
    rcases hm with hm | hm <;> cases hm
    rfl
  | mark hclock =>
    refine h.mark hp hclock (fun m hm => ?_) fun m hm => ?_
    · rcases List.mem_cons.mp hm with hm | hm
      · cases hm
      · exact hm
    · rcases hm with hm | hm <;> cases hm
  | insert hclock hrequest hinsert =>
    have hrows := fun m => mem_messageRows_insert (m := m) hinsert rfl
    obtain ⟨messages, -, hdb⟩ := Option.map_eq_some_iff.mp hinsert
    constructor
    · rw [← hdb]
      exact h.conversation
    · intro q hq t ht
      rw [insertMessage_participantRows hinsert] at hq
      exact (h.marks q hq t ht).trans hclock
    · intro m hm
      rcases (hrows m).mp hm with hm | rfl
      · exact (h.times m hm).trans hclock
      · exact le_rfl
    · intro m hm
      rcases List.mem_cons.mp hm with hm | hm
      · cases hm
        exact (hrows _).mpr (.inr rfl)
      · exact (hrows m).mpr (.inl (h.logged m hm))
    · intro m hm q hq huser
      rw [insertMessage_participantRows hinsert] at hq
      rcases (hrows m).mp hm with hm | rfl
      · refine (h.own m hm q hq huser).imp_right (exists_sending_update hp fun hsending => ?_)
        rcases hsending with hm | hm <;> cases hm
      · refine .inr ⟨p, ?_⟩
        show Sending (Function.update c.locals p _ p) _
        rw [Function.update_self]
        exact .inl rfl

theorem Consistent.next {request : π → Request} (h : Consistent conversationId c)
    (m : π × TimeValue) :
    Consistent conversationId (Interleaving.next (machine conversationId request) m c) :=
  h.turn rfl (turn_step request m.1 m.2 (c.locals m.1) c.shared)

end Consistency

section Owed

variable {π : Type*} {conversationId : Id} {request : π → Request}

/-- A watermark is set only when nothing has come in since the message it is set for, and no
message is stored in the millisecond of another's watermark. -/
def Careful (conversationId : Id) (request : π → Request) (p : π) (now : TimeValue)
    (progress : Progress) (s : Shared) : Prop :=
  match progress, request p with
  | .participant, .sendMessage userId _ _ =>
    ∀ q ∈ s.db.participantRows conversationId, q.userId ≠ userId → q.lastReadAt ≠ some now
  | .touched message, _ => owed Message.senderUserId message.senderUserId s.log = []
  | _, _ => True

instance decidableCareful (p : π) (now : TimeValue) (progress : Progress) (s : Shared) :
    Decidable (Careful conversationId request p now progress s) := by
  unfold Careful
  split <;> infer_instance

/-- What a participant is owed is later than their watermark. -/
def OwedLater (conversationId : Id) (s : Shared) : Prop :=
  ∀ q ∈ s.db.participantRows conversationId, ∀ m ∈ owed Message.senderUserId q.userId s.log,
    ∀ t, q.lastReadAt = some t → t < m.createdAt

variable {c : Interleaving.Config π Progress Shared} {p : π} {progress progress' : Progress}
  {s' : Shared} {now : TimeValue}

theorem OwedLater.turn (ho : OwedLater conversationId c.shared) (h : Consistent conversationId c)
    (hcareful : Careful conversationId request p now progress c.shared)
    (hturn : Turn conversationId now (request p) progress c.shared progress' s') :
    OwedLater conversationId s' := by
  cases hturn with
  | stay => exact ho
  | start hclock => exact ho
  | refused hclock hprogress => exact ho
  | lost hclock htouch => exact ho
  | touch hclock htouch =>
    intro q hq
    rw [(touch_rows htouch).2] at hq
    exact ho q hq
  | @read s message hclock =>
    have hnone : owed Message.senderUserId message.senderUserId c.shared.log = [] := hcareful
    intro q hq m hm
    rcases mem_participantRows_mark hq with ⟨huser, -⟩ | ⟨-, hq⟩
    · have hm' : m ∈ owed Message.senderUserId q.userId c.shared.log := hm
      rw [huser, hnone] at hm'
      cases hm'
    · exact ho q hq m hm
  | @mark s userId hclock hrequest =>
    intro q hq m hm
    rcases mem_participantRows_mark hq with ⟨huser, -⟩ | ⟨hother, hq⟩
    · rw [huser, Watermark.owed_marked_self] at hm
      cases hm
    · rw [Watermark.owed_marked_other (Ne.symm hother)] at hm
      exact ho q hq m hm
  | @insert s db userId content messageId hclock hrequest hinsert =>
    intro q hq m hm t ht
    rw [insertMessage_participantRows hinsert] at hq
    dsimp only at hm
    by_cases huser : Message.senderUserId ⟨messageId, conversationId, userId, content, now⟩ = q.userId
    · rw [Watermark.owed_posted_self huser] at hm
      cases hm
    · rw [Watermark.owed_posted_other huser] at hm
      rcases List.mem_cons.mp hm with rfl | hm
      · -- the watermark is not ahead of the clock, and not at this very millisecond
        have hne : q.lastReadAt ≠ some now := by
          simp only [Careful, hrequest] at hcareful
          exact hcareful q hq (Ne.symm huser)
        refine lt_of_le_of_ne ((h.marks q hq t ht).trans hclock) ?_
        rintro rfl
        exact hne ht
      · exact ho q hq m hm t ht

end Owed

section Runs

variable {π : Type*}

/-- Nobody has a request under way. -/
def Quiet (c : Interleaving.Config π Progress Shared) : Prop :=
  ∀ p, c.locals p = .waiting ∨ c.locals p = .finished

/-- No participant's own message counts as unread. -/
def OwnMessagesRead (conversationId : Id) (s : Shared) : Prop :=
  ∀ row ∈ s.db.conversations, row.id = conversationId →
    ∀ q ∈ s.db.participantRows row.id, ∀ m ∈ unreadMessages s.db q.userId row,
      m.senderUserId ≠ q.userId

/-- What others posted since a participant last posted or marked counts as unread. -/
def OwedMessagesUnread (conversationId : Id) (s : Shared) : Prop :=
  ∀ row ∈ s.db.conversations, row.id = conversationId →
    ∀ q ∈ s.db.participantRows row.id, ∀ m ∈ owed Message.senderUserId q.userId s.log,
      m ∈ unreadMessages s.db q.userId row

instance decidableOwedMessagesUnread (conversationId : Id) (s : Shared) :
    Decidable (OwedMessagesUnread conversationId s) :=
  inferInstanceAs (Decidable (∀ row ∈ s.db.conversations, row.id = conversationId →
    ∀ q ∈ s.db.participantRows row.id, ∀ m ∈ owed Message.senderUserId q.userId s.log,
      m ∈ unreadMessages s.db q.userId row))

/-- A conversation as it was created: the first message, which its sender has read. -/
structure Opened (conversationId : Id) (s : Shared) (first : Message) : Prop where
  conversation : ∃ row ∈ s.db.conversations, row.id = conversationId
  messages : s.db.messageRows conversationId = [first]
  participants : ∀ q ∈ s.db.participantRows conversationId,
    q.lastReadAt = if q.userId = first.senderUserId then some first.createdAt else none
  log : s.log = [.posted first]
  clock : first.createdAt ≤ s.clock

variable {conversationId : Id} {request : π → Request} {s : Shared} {first : Message}

theorem Opened.consistent (h : Opened conversationId s first) :
    Consistent conversationId (.start s .waiting : Interleaving.Config π Progress Shared) where
  conversation := h.conversation
  marks := by
    intro q hq t ht
    rw [h.participants q hq] at ht
    split_ifs at ht
    exact Option.some.inj ht ▸ h.clock
  times := by
    intro m hm
    rw [Interleaving.Config.start, h.messages] at hm
    rw [List.mem_singleton.mp hm]
    exact h.clock
  logged := by
    intro m hm
    rw [Interleaving.Config.start, h.log] at hm
    rw [Interleaving.Config.start, h.messages]
    cases List.mem_singleton.mp hm
    exact List.mem_singleton_self _
  own := by
    intro m hm q hq huser
    rw [Interleaving.Config.start, h.messages] at hm
    cases List.mem_singleton.mp hm
    exact .inl ⟨_, (h.participants q hq).trans (if_pos huser), le_rfl⟩

theorem Opened.owedLater (h : Opened conversationId s first) : OwedLater conversationId s := by
  intro q hq m hm t ht
  rw [h.log] at hm
  by_cases huser : first.senderUserId = q.userId
  · rw [Watermark.owed_posted_self huser] at hm
    cases hm
  · rw [h.participants q hq, if_neg (Ne.symm huser)] at ht
    cases ht

theorem Consistent.ownMessagesRead {c : Interleaving.Config π Progress Shared}
    (h : Consistent conversationId c) (hquiet : Quiet c) :
    OwnMessagesRead conversationId c.shared := by
  rintro row - rfl q hq m hm huser
  obtain ⟨hm, hlater⟩ := (mem_unreadMessages hq).mp hm
  rcases h.own m hm q hq huser.symm with ⟨t, ht, hle⟩ | ⟨p, hp⟩
  · exact absurd (hlater t ht) (not_lt.mpr hle)
  · rcases hquiet p with hp' | hp' <;> rcases hp with hp | hp <;> rw [hp'] at hp <;> cases hp

theorem OwedLater.owedMessagesUnread {c : Interleaving.Config π Progress Shared}
    (ho : OwedLater conversationId c.shared) (h : Consistent conversationId c) :
    OwedMessagesUnread conversationId c.shared := by
  rintro row - rfl q hq m hm
  exact (mem_unreadMessages hq).mpr
    ⟨h.logged m (Watermark.posted_of_mem_owed hm), ho q hq m hm⟩

/-- When all is quiet no one has messages of their own unread, and in a careful run no message of
another's is lost. -/
theorem watermarks_lose_nothing [DecidableEq π] (conversationId : Id) (request : π → Request)
    (s : Shared) (first : Message) (hopened : Opened conversationId s first) (ms : List (π × TimeValue))
    (hquiet : Quiet (Run.exec (Interleaving.next (machine conversationId request))
      (.start s .waiting) ms)) :
    OwnMessagesRead conversationId (Run.exec (Interleaving.next (machine conversationId request))
      (.start s .waiting) ms).shared ∧
    (Run.Along (Interleaving.next (machine conversationId request))
        (Interleaving.AtStep (Careful conversationId request)) (.start s .waiting) ms →
      OwedMessagesUnread conversationId (Run.exec
        (Interleaving.next (machine conversationId request)) (.start s .waiting) ms).shared) := by
  have hconsistent : Consistent conversationId (Run.exec
      (Interleaving.next (machine conversationId request)) (.start s .waiting) ms) :=
    Run.exec_inv (I := Consistent conversationId) (fun m c h => h.next m) ms hopened.consistent
  refine ⟨hconsistent.ownMessagesRead hquiet, fun hcareful => ?_⟩
  have howed := Run.exec_inv_along
    (I := fun c => Consistent conversationId c ∧ OwedLater conversationId c.shared)
    (fun m c h hm => ⟨h.1.next m,
      h.2.turn h.1 hm (turn_step request m.1 m.2 (c.locals m.1) c.shared)⟩)
    ⟨hopened.consistent, hopened.owedLater⟩ hcareful
  exact howed.2.owedMessagesUnread howed.1

theorem opened_of_created {env : Env} {db db' : Db} {input : NewConversation}
    {c : ConversationWithRelations} (h : createConversationRows env db input = .ok (db', c))
    (hmessages : ∀ m ∈ db.messages, m.conversationId ≠ env.conversationId)
    (hparticipants : ∀ q ∈ db.participants, q.conversationId ≠ env.conversationId)
    {now : TimeValue} (hnow : env.createdAt ≤ now) :
    Opened env.conversationId ⟨db', now, [.posted (input.message env)]⟩ (input.message env) := by
  obtain ⟨_, -, h⟩ := Outcome.bind_eq_ok.mp h
  obtain ⟨conversations, hconversations, h⟩ := Outcome.bind_eq_ok.mp h
  obtain ⟨participants, hinsert, h⟩ := Outcome.bind_eq_ok.mp h
  obtain ⟨messages, hmessage, h⟩ := Outcome.bind_eq_ok.mp h
  obtain ⟨rfl, -⟩ := Prod.mk.inj (Except.ok.inj h)
  have hrows := insertParticipants_eq_some.mp (Outcome.orThrow_eq_ok.mp hinsert)
  constructor
  · refine ⟨input.conversation env, ?_, rfl⟩
    exact (Table.mem_insert (Outcome.orThrow_eq_ok.mp hconversations)).mpr (.inr rfl)
  · have hold : db.messages.rows.filter (·.conversationId = env.conversationId) = [] := by
      refine List.filter_eq_nil_iff.mpr fun m hm => ?_
      simpa using hmessages m hm
    have hnew : messages.rows = db.messages.rows ++ [input.message env] :=
      Table.insert_eq_some.mp (Outcome.orThrow_eq_ok.mp hmessage)
    rw [Db.messageRows, hnew, List.filter_append, hold, List.nil_append]
    exact List.filter_eq_self.mpr fun m hm => by rw [List.mem_singleton.mp hm]; exact decide_eq_true rfl
  · intro q hq
    obtain ⟨hq, hc⟩ := mem_participantRows.mp hq
    have hfresh : ∀ a ∈ participants, a.conversationId = env.conversationId →
        a ∈ input.participants env := by
      intro a ha hac
      rw [Table.mem_rows, hrows, List.mem_append] at ha
      exact ha.resolve_left fun hold => hparticipants a hold hac
    rcases Table.mem_modify.mp hq with ⟨a, ha, hkey, rfl⟩ | ⟨hq, hkey⟩
    · have huser : a.userId = input.senderUserId := congrArg Prod.snd hkey
      exact (if_pos huser).symm
    · obtain ⟨userId, -, rfl⟩ := List.mem_map.mp (hfresh q hq hc)
      have hother : userId ≠ input.senderUserId := by
        rintro rfl
        exact hkey rfl
      exact (if_neg hother).trans (if_neg hother).symm
  · rfl
  · exact hnow

end Runs

section Crossing

/-- The manager's second message, and the resident's answer. -/
def crossing : Bool → Request
  | false => .sendMessage "manager" "Any news?" "reminder"
  | true => .sendMessage "resident" "Yes." "answer"

def visiting : Bool → Request
  | false => .sendMessage "manager" "Any news?" "reminder"
  | true => .markAsRead "resident"

def openedChat : Shared where
  db := { chat ⟨[greeting], by decide⟩ with
    participants := ⟨[⟨chatId, "manager", some (moment 1000)⟩, ⟨chatId, "resident", none⟩],
      by decide⟩ }
  clock := moment 1000
  log := [.posted greeting]

theorem openedChat_opened : Opened chatId openedChat greeting where
  conversation := ⟨_, List.mem_singleton_self _, rfl⟩
  messages := rfl
  participants := by decide +kernel
  log := rfl
  clock := le_rfl

/-- The answer is stored while the manager's watermark is still to be set. -/
def crossed : List (Bool × TimeValue) :=
  [(false, moment 2000), (false, moment 2001), (true, moment 2002),
    (true, moment 2003), (false, moment 2004), (false, moment 2005),
    (true, moment 2006), (true, moment 2007)]

/-- The resident reads first, and then the manager writes. -/
def visited : List (Bool × TimeValue) :=
  [(true, moment 2000), (true, moment 2001), (false, moment 2002),
    (false, moment 2003), (false, moment 2004), (false, moment 2005)]

def afterTurns (request : Bool → Request) (ms : List (Bool × TimeValue)) :
    Interleaving.Config Bool Progress Shared :=
  Run.exec (Interleaving.next (machine chatId request)) (.start openedChat .waiting) ms

theorem reminder_counts_as_unread :
    OwnMessagesRead chatId (afterTurns visiting visited).shared ∧
      OwedMessagesUnread chatId (afterTurns visiting visited).shared := by
  have hboth := watermarks_lose_nothing chatId visiting openedChat greeting openedChat_opened visited
    (by unfold Quiet; decide +kernel)
  exact ⟨hboth.1, hboth.2 (by decide +kernel)⟩

/-- The answer came after the manager's message and counts as read. -/
theorem answer_counts_as_read : ¬ ∀ (request : Bool → Request) (s : Shared) (first : Message)
    (ms : List (Bool × TimeValue)), Opened chatId s first →
    Quiet (Run.exec (Interleaving.next (machine chatId request)) (.start s .waiting) ms) →
      OwnMessagesRead chatId (Run.exec (Interleaving.next (machine chatId request))
        (.start s .waiting) ms).shared ∧
      OwedMessagesUnread chatId (Run.exec (Interleaving.next (machine chatId request))
        (.start s .waiting) ms).shared := by
  intro h
  have hboth := h crossing openedChat greeting crossed openedChat_opened
    (by unfold Quiet; decide +kernel)
  exact absurd hboth.2 (by decide +kernel)

end Crossing

end Towerdesk.Messaging
