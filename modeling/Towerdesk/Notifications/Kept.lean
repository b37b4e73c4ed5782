import Towerdesk.Notifications.Mirror

/-!
# Notifications are kept

Any number of calls write notifications at the same time, and their queries, statements and
publications fall between each other as they may. No notification goes away or changes what it
says, its first reading stays as it is, and what else happens to it is asked for by a call of its
own recipient. A new notification is one that a call creates, and what is published in a room
belongs to the user and the organisation of the room.
-/

namespace Towerdesk.Notifications.Realtime

open IsoDate (TimeValue)
open Script (query atomic)
open Transaction (final)

section Accounts

/-- What of a notification is there from the beginning. -/
def asNew (n : Notification) : Notification := { n with readAt := none, dismissedAt := none }

structure Follows (n n' : Notification) : Prop where
  asNew : asNew n' = asNew n
  readAt : ∀ t, n.readAt = some t → n'.readAt = some t

structure Evolves (w w' : World) : Prop where
  notifications : ∀ n ∈ w.notifications, ∃ n' ∈ w'.notifications, Follows n n'
  published : w.published <+: w'.published

/-- The notifications that a call may read, dismiss or take back. -/
def NotificationCall.Concerns (n : Notification) : NotificationCall → Prop
  | .createForUsers _ => False
  | .markRead notificationId userId orgId
  | .dismiss notificationId userId orgId
  | .undismiss notificationId userId orgId =>
    n.id = notificationId ∧ n.recipientUserId = userId ∧ n.orgId = orgId
  | .markAllRead userId orgId => n.recipientUserId = userId ∧ n.orgId = orgId
  | .markReadAcrossOrgs notificationId userId orgIds
  | .dismissAcrossOrgs notificationId userId orgIds
  | .undismissAcrossOrgs notificationId userId orgIds =>
    n.id = notificationId ∧ n.recipientUserId = userId ∧ n.orgId ∈ orgIds
  | .markAllReadAcrossOrgs userId orgIds => n.recipientUserId = userId ∧ n.orgId ∈ orgIds

def Creates (l : Env × NotificationCall) (n : Notification) : Prop :=
  ∃ input index, l.2 = .createForUsers input ∧ n.recipientUserId ∈ input.userIds ∧
    n.recipientUserId ≠ "" ∧ asNew n = notificationRow l.1 input index n.recipientUserId

def ReadsAll (userId orgId : Id) : NotificationCall → Prop
  | .markAllRead userId' orgId' => userId' = userId ∧ orgId' = orgId
  | .markAllReadAcrossOrgs userId' orgIds => userId' = userId ∧ orgId ∈ orgIds
  | _ => False

def roomOf (n : Notification) : String := roomForUser n.orgId n.recipientUserId

/-- What a call publishes when these are the notifications. -/
inductive Announces (l : Env × NotificationCall) (t : NotificationTable) : Published → Prop
  | new (n : Notification) (hn : n ∈ t) (hnew : Creates l n) :
    Announces l t ⟨roomOf n, .new (toNotificationResponse (asNew n))⟩
  | read (n : Notification) (hn : n ∈ t) (hown : l.2.Concerns n) :
    Announces l t ⟨roomOf n, .read n.id l.1.now⟩
  | dismiss (n : Notification) (hn : n ∈ t) (hown : l.2.Concerns n) :
    Announces l t ⟨roomOf n, .dismiss n.id l.1.now⟩
  | undismiss (n : Notification) (hn : n ∈ t) (hown : l.2.Concerns n) :
    Announces l t ⟨roomOf n, .undismiss n.id⟩
  | read_all (userId orgId : Id) (hall : ReadsAll userId orgId l.2) :
    Announces l t ⟨roomForUser orgId userId, .read_all l.1.now⟩

/-- The notifications have come from one world to the other by nothing but the given calls. -/
structure Accounted (calls : Set (Env × NotificationCall)) (w w' : World) : Prop where
  evolves : Evolves w w'
  altered : ∀ n ∈ w.notifications, n ∉ w'.notifications → ∃ l ∈ calls, l.2.Concerns n
  created : ∀ n' ∈ w'.notifications,
    (∃ n ∈ w.notifications, n.id = n'.id) ∨ ∃ l ∈ calls, Creates l n'
  announced : ∀ e ∈ w'.published,
    e ∈ w.published ∨ ∃ l ∈ calls, Announces l w'.notifications e

end Accounts

section Following

variable {calls calls' : Set (Env × NotificationCall)} {l : Env × NotificationCall}
  {n n' n'' : Notification} {t t' : NotificationTable} {e : Published} {w w' w'' : World}

theorem Follows.refl (n : Notification) : Follows n n := ⟨rfl, fun _ h => h⟩

theorem Follows.trans (h : Follows n n') (h' : Follows n' n'') : Follows n n'' :=
  ⟨h'.asNew.trans h.asNew, fun t ht => h'.readAt t (h.readAt t ht)⟩

theorem Follows.same {α : Type} (h : Follows n n') (f : Notification → α) :
    f (Realtime.asNew n') = f (Realtime.asNew n) := congrArg f h.asNew

theorem Follows.id (h : Follows n n') : n'.id = n.id := h.same Notification.id

theorem Follows.recipientUserId (h : Follows n n') : n'.recipientUserId = n.recipientUserId :=
  h.same fun n => n.recipientUserId

theorem Follows.orgId (h : Follows n n') : n'.orgId = n.orgId := h.same fun n => n.orgId

theorem Follows.room (h : Follows n n') : roomOf n' = roomOf n := by
  rw [roomOf, roomOf, h.orgId, h.recipientUserId]

theorem Follows.concerns {c : NotificationCall} (h : Follows n n') (hc : c.Concerns n) :
    c.Concerns n' := by
  cases c <;> simp only [NotificationCall.Concerns, h.id, h.recipientUserId, h.orgId] at hc ⊢ <;>
    exact hc

theorem Follows.creates (h : Follows n n') (hl : Creates l n) : Creates l n' := by
  obtain ⟨input, index, hcall, huser, hnamed, hrow⟩ := hl
  refine ⟨input, index, hcall, ?_, ?_, ?_⟩
  · rwa [h.recipientUserId]
  · rwa [h.recipientUserId]
  · rw [h.asNew, h.recipientUserId, hrow]

theorem Evolves.refl (w : World) : Evolves w w :=
  ⟨fun n hn => ⟨n, hn, .refl n⟩, List.prefix_rfl⟩

theorem Evolves.trans (h : Evolves w w') (h' : Evolves w' w'') : Evolves w w'' := by
  refine ⟨fun n hn => ?_, h.published.trans h'.published⟩
  obtain ⟨n', hn', hfollows⟩ := h.notifications n hn
  obtain ⟨n'', hn'', hfollows'⟩ := h'.notifications n' hn'
  exact ⟨n'', hn'', hfollows.trans hfollows'⟩

/-- The row of an identifier is the one that follows the row it had before. -/
theorem Evolves.follows (h : Evolves w w') (hn : n ∈ w.notifications) (hn' : n' ∈ w'.notifications)
    (hid : n'.id = n.id) : Follows n n' := by
  obtain ⟨m, hm, hfollows⟩ := h.notifications n hn
  have hsame : n' = m := Table.eq_of_key_eq hn' hm (hid.trans hfollows.id.symm)
  rwa [hsame]

theorem Announces.evolves (h : Evolves w w') (he : Announces l w.notifications e) :
    Announces l w'.notifications e := by
  have hlater : ∀ n ∈ w.notifications, ∃ n' ∈ w'.notifications, n'.id = n.id ∧
      roomOf n' = roomOf n ∧ asNew n' = asNew n ∧ Follows n n' := fun n hn => by
    obtain ⟨n', hn', hfollows⟩ := h.notifications n hn
    exact ⟨n', hn', hfollows.id, hfollows.room, hfollows.asNew, hfollows⟩
  cases he with
  | new n hn hnew =>
    obtain ⟨n', hn', -, hroom, hasNew, hfollows⟩ := hlater n hn
    rw [← hroom, ← hasNew]
    exact .new n' hn' (hfollows.creates hnew)
  | read n hn hown =>
    obtain ⟨n', hn', hid, hroom, -, hfollows⟩ := hlater n hn
    rw [← hroom, ← hid]
    exact .read n' hn' (hfollows.concerns hown)
  | dismiss n hn hown =>
    obtain ⟨n', hn', hid, hroom, -, hfollows⟩ := hlater n hn
    rw [← hroom, ← hid]
    exact .dismiss n' hn' (hfollows.concerns hown)
  | undismiss n hn hown =>
    obtain ⟨n', hn', hid, hroom, -, hfollows⟩ := hlater n hn
    rw [← hroom, ← hid]
    exact .undismiss n' hn' (hfollows.concerns hown)
  | read_all userId orgId hall => exact .read_all userId orgId hall

theorem Accounted.refl (w : World) : Accounted calls w w where
  evolves := .refl w
  altered _ hn hgone := absurd hn hgone
  created n' hn' := .inl ⟨n', hn', rfl⟩
  announced _ he := .inl he

theorem Accounted.mono (hcalls : calls ⊆ calls') (h : Accounted calls w w') :
    Accounted calls' w w' where
  evolves := h.evolves
  altered n hn hgone := (h.altered n hn hgone).imp fun _ hl => ⟨hcalls hl.1, hl.2⟩
  created n' hn' := (h.created n' hn').imp_right fun hmade =>
    hmade.imp fun _ hl => ⟨hcalls hl.1, hl.2⟩
  announced e he := (h.announced e he).imp_right fun hsaid =>
    hsaid.imp fun _ hl => ⟨hcalls hl.1, hl.2⟩

theorem Accounted.trans (h : Accounted calls w w') (h' : Accounted calls w' w'') :
    Accounted calls w w'' where
  evolves := h.evolves.trans h'.evolves
  altered n hn hgone := by
    by_cases hn' : n ∈ w'.notifications
    · exact h'.altered n hn' hgone
    · exact h.altered n hn hn'
  created n'' hn'' := by
    rcases h'.created n'' hn'' with ⟨n', hn', hid⟩ | hmade
    · have hfollows := h'.evolves.follows hn' hn'' hid.symm
      rcases h.created n' hn' with ⟨n, hn, hid'⟩ | ⟨l, hl, hmade⟩
      · exact .inl ⟨n, hn, hid'.trans hid⟩
      · exact .inr ⟨l, hl, hfollows.creates hmade⟩
    · exact .inr hmade
  announced e he := by
    rcases h'.announced e he with hold | hsaid
    · refine (h.announced e hold).imp_right fun hsaid => ?_
      exact hsaid.imp fun l hl => ⟨hl.1, hl.2.evolves h'.evolves⟩
    · exact .inr hsaid

end Following

section Steps

variable {l : Env × NotificationCall} {n : Notification} {w : World} {e : Published}
  {q : Notification → Bool} {p : Patch Notification.id} {userId orgId notificationId : Id}

abbrev AccountedBy (l : Env × NotificationCall) (w : World) (effect : World → World) : Prop :=
  Accounted {l} w (effect w)

theorem follows_asRead (now : TimeValue) (h : n.readAt = none) :
    Follows n ((asRead now).apply n) := by
  refine ⟨rfl, fun t ht => ?_⟩
  rw [h] at ht
  cases ht

theorem follows_asDismissed (dismissedAt : Option TimeValue) :
    Follows n ((asDismissed dismissedAt).apply n) := ⟨rfl, fun _ h => h⟩

theorem accounted_updateMany
    (h : ∀ n, q n = true → l.2.Concerns n ∧ Follows n (p.apply n)) :
    AccountedBy l w fun w => final (updateMany q p w) where
  evolves := by
    refine ⟨fun n hn => ?_, List.prefix_rfl⟩
    cases hq : q n with
    | true => exact ⟨p.apply n, Table.mem_modifyWhere.mpr (.inl ⟨n, hn, hq, rfl⟩), (h n hq).2⟩
    | false => exact ⟨n, Table.mem_modifyWhere.mpr (.inr ⟨hn, hq⟩), .refl n⟩
  altered n hn hgone := by
    cases hq : q n with
    | true => exact ⟨l, rfl, (h n hq).1⟩
    | false => exact absurd (Table.mem_modifyWhere.mpr (.inr ⟨hn, hq⟩)) hgone
  created n' hn' := by
    rcases Table.mem_modifyWhere.mp hn' with ⟨n, hn, hq, rfl⟩ | ⟨hn, -⟩
    · exact .inl ⟨n, hn, (p.key_apply n).symm⟩
    · exact .inl ⟨n', hn, rfl⟩
  announced _ he := .inl he

theorem accounted_publish {event : RealtimeEvent}
    (h : Announces l w.notifications ⟨roomForUser orgId userId, event⟩) :
    Accounted {l} w (publish w orgId userId event) := by
  unfold publish
  split_ifs
  · refine ⟨⟨fun n hn => ⟨n, hn, .refl n⟩, List.prefix_append _ _⟩, fun n hn hgone => ?_,
      fun n hn => .inl ⟨n, hn, rfl⟩, fun e he => ?_⟩
    · exact absurd hn hgone
    · rcases List.mem_append.mp he with hold | hnew
      · exact .inl hold
      · obtain rfl := List.mem_singleton.mp hnew
        exact .inr ⟨l, rfl, h⟩
  · exact .refl w

theorem accounted_createRow (hnew : Creates l n) :
    AccountedBy l w fun w => final (createRow n w) := by
  change Accounted {l} w (final (createRow n w))
  unfold createRow
  split_ifs
  · cases hinsert : w.notifications.insert n with
    | none => exact .refl w
    | some t =>
      have hmem : ∀ m, m ∈ t ↔ m ∈ w.notifications ∨ m = n := fun m => Table.mem_insert hinsert
      refine ⟨⟨fun m hm => ⟨m, (hmem m).mpr (.inl hm), .refl m⟩, List.prefix_rfl⟩,
        fun m hm hgone => absurd ((hmem m).mpr (.inl hm)) hgone, fun m hm => ?_,
        fun e he => .inl he⟩
      rcases (hmem m).mp hm with hold | rfl
      · exact .inl ⟨m, hold, rfl⟩
      · exact .inr ⟨l, rfl, hnew⟩
  · exact .refl w

/-- What a call on one notification promises the others, and what it relies on. -/
abbrev Keeps (l : Env × NotificationCall) {α : Type} (c : Call α) (w : World) : Prop :=
  c.Upholds Evolves (AccountedBy l) (fun _ _ => True) w

theorem keeps_done {α : Type} (r : Except HttpException α) : Keeps l (.done r) w :=
  Script.upholds_done fun _ _ => trivial

theorem keeps_updateThen {α : Type} {f : ℕ → Call α}
    (h : ∀ n, q n = true → l.2.Concerns n ∧ Follows n (p.apply n))
    (hf : ∀ count w', Evolves w w' → Keeps l (f count) w') :
    Keeps l (atomic (updateMany q p) >>= f) w := by
  refine Script.upholds_atomic_bind (fun _ _ => accounted_updateMany h)
    fun w' w'' count hw' hrun => ?_
  obtain ⟨-, rfl⟩ : w'.notifications.rows.countP q = count ∧
      ({ w' with notifications := w'.notifications.modifyWhere q p } : World) = w'' := by
    cases hrun
    exact ⟨rfl, rfl⟩
  exact hf count _ (hw'.trans (accounted_updateMany h).evolves)

theorem keeps_publishToUser {event : RealtimeEvent}
    (h : Announces l w.notifications ⟨roomForUser orgId userId, event⟩) :
    Keeps l (publishToUser orgId userId event) w :=
  Script.upholds_atomic fun _ hw' => accounted_publish (h.evolves hw')

/-- A call that looks one notification up, then updates and announces it. -/
theorem keeps_found {event : RealtimeEvent} (changes : Notification → Prop) [DecidablePred changes]
    (hconcerns : ∀ n, isOne notificationId userId orgId n = true → l.2.Concerns n)
    (hq : ∀ n, q n = true → isOne notificationId userId orgId n = true ∧ Follows n (p.apply n))
    (hevent : ∀ t n, n ∈ t → l.2.Concerns n → n.id = notificationId →
      Announces l t ⟨roomOf n, event⟩) :
    Keeps l (query (fun w => Outcome.orThrow (findByIdForUser w notificationId userId orgId)
      notificationNotFound) >>= fun existing =>
        if changes existing then
          atomic (updateMany q p) >>= fun _ => publishToUser orgId userId event
        else pure ()) w := by
  refine Script.upholds_query_bind (fun _ => .refl _) fun w' existing _ hfound => ?_
  obtain ⟨hn, hid, huser, horg⟩ := findByIdForUser_eq_some (Outcome.orThrow_eq_ok.mp hfound)
  have hown : l.2.Concerns existing :=
    hconcerns existing (decide_eq_true ⟨hid, huser, horg⟩)
  split_ifs
  · refine keeps_updateThen (fun n hn => ⟨hconcerns n (hq n hn).1, (hq n hn).2⟩) fun _ w'' hw => ?_
    have hannounces := (hevent _ existing hn hown hid).evolves hw
    rw [roomOf, huser, horg] at hannounces
    exact keeps_publishToUser hannounces
  · exact keeps_done _

end Steps

section Calls

variable {l : Env × NotificationCall} {w : World} {userId orgId notificationId : Id}
  {orgIds : List Id}

theorem markRead_keeps
    (h : ∀ n, isOne notificationId userId orgId n = true → l.2.Concerns n) :
    Keeps l (markRead l.1 notificationId userId orgId) w := by
  refine keeps_found _ h (fun n hn => ?_) fun t n hn hown hid => hid ▸ .read n hn hown
  obtain ⟨hone, hread, -⟩ := of_decide_eq_true hn
  exact ⟨hone, follows_asRead l.1.now hread⟩

theorem dismiss_keeps
    (h : ∀ n, isOne notificationId userId orgId n = true → l.2.Concerns n) :
    Keeps l (dismiss l.1 notificationId userId orgId) w := by
  refine keeps_found _ h (fun n hn => ?_) fun t n hn hown hid => hid ▸ .dismiss n hn hown
  exact ⟨(of_decide_eq_true hn).1, follows_asDismissed _⟩

theorem undismiss_keeps
    (h : ∀ n, isOne notificationId userId orgId n = true → l.2.Concerns n) :
    Keeps l (undismiss notificationId userId orgId) w := by
  refine keeps_found _ h (fun n hn => ?_) fun t n hn hown hid => hid ▸ .undismiss n hn hown
  exact ⟨(of_decide_eq_true hn).1, follows_asDismissed _⟩

theorem inAccessibleOrg_keeps {call : Id → Call Unit}
    (h : ∀ orgId ∈ orgIds, ∀ w, Keeps l (call orgId) w) :
    Keeps l (inAccessibleOrg notificationId userId orgIds call) w := by
  refine Script.upholds_query_bind (fun _ => .refl _) fun w' existing _ hfound => ?_
  have hsome := Outcome.orThrow_eq_ok.mp hfound
  unfold findByIdForUserAcrossOrgs at hsome
  split_ifs at hsome
  obtain ⟨-, hexisting⟩ := Table.findFirst_some hsome
  exact h existing.orgId (of_decide_eq_true hexisting).2.2 w'

theorem markAllRead_keeps (hcall : l.2 = .markAllRead userId orgId) :
    Keeps l (markAllRead l.1 userId orgId) w := by
  refine keeps_updateThen (fun n hn => ?_) fun count w' _ => ?_
  · obtain ⟨huser, horg, hread, -⟩ := of_decide_eq_true hn
    rw [hcall]
    exact ⟨⟨huser, horg⟩, follows_asRead l.1.now hread⟩
  · split_ifs
    · refine keeps_publishToUser (.read_all userId orgId ?_)
      rw [hcall]
      exact ⟨rfl, rfl⟩
    · exact keeps_done _

theorem evolves_of_accounted (l : Env × NotificationCall) (w : World) (effect : World → World)
    (h : AccountedBy l w effect) : Evolves w (effect w) := h.evolves

theorem markAllReadAcrossOrgs_keeps (hcall : l.2 = .markAllReadAcrossOrgs userId orgIds) :
    Keeps l (markAllReadAcrossOrgs l.1 userId orgIds) w := by
  unfold markAllReadAcrossOrgs
  split_ifs
  · exact keeps_done _
  · refine keeps_updateThen (fun n hn => ?_) fun count w' _ => ?_
    · obtain ⟨huser, horg, hread, -⟩ := of_decide_eq_true hn
      rw [hcall]
      exact ⟨⟨huser, horg⟩, follows_asRead l.1.now hread⟩
    · split_ifs
      · refine Script.upholds_bind (Script.upholds_collect (P := fun _ => True)
          (Q := fun _ _ => True) (evolves_of_accounted l) (fun _ _ h _ => h)
          (fun _ _ _ h _ => h) (fun orgId horg w'' _ => ?_) trivial) fun _ _ _ => keeps_done _
        refine keeps_publishToUser (.read_all userId orgId ?_)
        rw [hcall]
        exact ⟨rfl, horg⟩
      · exact keeps_done _

/-- A row that the call has created is there, read or dismissed by others as it may be. -/
def Stands (l : Env × NotificationCall) (n : Notification) (w : World) : Prop :=
  Creates l n ∧ asNew n = n ∧ ∃ n' ∈ w.notifications, Follows n n'

theorem Stands.evolves {n : Notification} {w' : World} (h : Stands l n w) (hw : Evolves w w') :
    Stands l n w' := by
  obtain ⟨hcreates, hnew, n', hn', hfollows⟩ := h
  obtain ⟨n'', hn'', hfollows'⟩ := hw.notifications n' hn'
  exact ⟨hcreates, hnew, n'', hn'', hfollows.trans hfollows'⟩

theorem createOne_upholds {n : Notification} (hcreates : Creates l n) (hnew : asNew n = n) :
    (createOne n).Upholds Evolves (AccountedBy l) (fun created w => Stands l created w) w := by
  refine Script.upholds_atomic_returns (fun _ _ => accounted_createRow hcreates)
    fun w' w'' created _ hrun => ?_
  unfold createRow at hrun
  split_ifs at hrun
  cases hinsert : w'.notifications.insert n with
  | none =>
    rw [hinsert] at hrun
    cases hrun
  | some t =>
    rw [hinsert] at hrun
    cases hrun
    exact ⟨hcreates, hnew, n, (Table.mem_insert hinsert).mpr (.inr rfl), .refl n⟩

theorem creates_notificationRow {input : CreateForUsersInput} {n : Notification}
    (hcall : l.2 = .createForUsers input)
    (hn : n ∈ (uniqueUserIds input.userIds).mapIdx (notificationRow l.1 input)) :
    Creates l n ∧ asNew n = n := by
  obtain ⟨index, hindex, rfl⟩ := List.mem_mapIdx.mp hn
  have huser := List.getElem_mem hindex
  obtain ⟨huserId, hnamed⟩ := List.mem_filter.mp huser
  exact ⟨⟨input, index, hcall, List.mem_eraseDups.mp huserId, of_decide_eq_true hnamed, rfl⟩, rfl⟩

theorem orgId_of_creates {input : CreateForUsersInput} {n : Notification}
    (hcall : l.2 = .createForUsers input) (h : Creates l n) : n.orgId = input.orgId := by
  obtain ⟨input', index, hcall', -, -, hrow⟩ := h
  rw [hcall] at hcall'
  cases hcall'
  exact congrArg (fun n : Notification => n.orgId) hrow

theorem createForUsers_keeps {input : CreateForUsersInput} (hcall : l.2 = .createForUsers input) :
    Keeps l (createForUsers l.1 input) w := by
  unfold createForUsers
  split_ifs
  · exact keeps_done _
  · refine Script.upholds_bind (Script.upholds_collect (P := fun _ => True)
      (Q := fun created w => Stands l created w) (evolves_of_accounted l) (fun _ _ h _ => h)
      (fun _ _ _ h hw => h.evolves hw) (fun n hn w' _ => ?_) trivial) fun created w' hcreated => ?_
    · obtain ⟨hcreates, hnew⟩ := creates_notificationRow hcall hn
      exact createOne_upholds hcreates hnew
    · refine Script.upholds_bind (Script.upholds_collect
        (P := fun w => ∀ n ∈ created, Stands l n w) (Q := fun _ _ => True)
        (evolves_of_accounted l) (fun _ _ h hw n hn => (h n hn).evolves hw) (fun _ _ _ h _ => h)
        (fun n hn w'' hstands => ?_) hcreated) fun _ _ _ => keeps_done _
      obtain ⟨hcreates, hnew, n', hn', hfollows⟩ := hstands n hn
      have hannounces := Announces.new n' hn' (hfollows.creates hcreates)
      rw [hfollows.room, hfollows.asNew, hnew, roomOf] at hannounces
      rw [← orgId_of_creates hcall hcreates]
      exact keeps_publishToUser hannounces

theorem script_keeps (l : Env × NotificationCall) (w : World) : Keeps l (l.2.script l.1) w := by
  obtain ⟨env, call⟩ := l
  have hisOne : ∀ {notificationId userId orgId : Id} {n : Notification},
      isOne notificationId userId orgId n = true →
        n.id = notificationId ∧ n.recipientUserId = userId ∧ n.orgId = orgId :=
    fun hn => of_decide_eq_true hn
  have hacross : ∀ {notificationId userId orgId : Id} {orgIds : List Id} {n : Notification},
      orgId ∈ orgIds → isOne notificationId userId orgId n = true →
        n.id = notificationId ∧ n.recipientUserId = userId ∧ n.orgId ∈ orgIds := fun horg hn => by
    obtain ⟨hid, huser, rfl⟩ := hisOne hn
    exact ⟨hid, huser, horg⟩
  cases call with
  | createForUsers input =>
    exact Script.upholds_bind (createForUsers_keeps rfl) fun _ _ _ => keeps_done _
  | markRead notificationId userId orgId => exact markRead_keeps fun n hn => hisOne hn
  | markAllRead userId orgId => exact markAllRead_keeps rfl
  | dismiss notificationId userId orgId => exact dismiss_keeps fun n hn => hisOne hn
  | undismiss notificationId userId orgId => exact undismiss_keeps fun n hn => hisOne hn
  | markReadAcrossOrgs notificationId userId orgIds =>
    exact inAccessibleOrg_keeps fun orgId horg w => markRead_keeps fun n hn => hacross horg hn
  | markAllReadAcrossOrgs userId orgIds => exact markAllReadAcrossOrgs_keeps rfl
  | dismissAcrossOrgs notificationId userId orgIds =>
    exact inAccessibleOrg_keeps fun orgId horg w => dismiss_keeps fun n hn => hacross horg hn
  | undismissAcrossOrgs notificationId userId orgIds =>
    exact inAccessibleOrg_keeps fun orgId horg w => undismiss_keeps fun n hn => hacross horg hn

end Calls

/-- However the steps of any number of calls fall between each other, what becomes of the
notifications and what is published is accounted for by the calls. -/
theorem notifications_accounted_in_turns {π : Type} [DecidableEq π]
    (calls : π → Env × NotificationCall) (w : World) (ms : List (π × Unit)) :
    Accounted (Set.range calls) w
      (Script.inTurns (fun p => (calls p).2.script (calls p).1) w ms).shared := by
  refine (Script.upheld_exec (R := fun _ => Evolves) (G := fun p => AccountedBy (calls p))
    (I := Accounted (Set.range calls) w) (fun _ => .refl) (fun _ => .trans)
    (fun p _ s effect _ h => evolves_of_accounted (calls p) s effect h)
    (fun p s effect heffect hs => ?_) (fun p => script_keeps (calls p) w) (.refl w) ms).2
  exact hs.trans (heffect.mono (Set.singleton_subset_iff.mpr ⟨p, rfl⟩))

end Towerdesk.Notifications.Realtime
