import Towerdesk.Notifications.Realtime

/-!
# What a connected client knows

A client joins the rooms of its user and hears what is published there. It applies every event
to the notifications it has, and so keeps what it would be shown by the next listing, with one
exception: that all is read is told without saying where.
-/

namespace Towerdesk.Notifications.Realtime

open IsoDate (TimeValue)
open Transaction (final)

/-- Who is connected, with the organisations whose rooms were joined. -/
structure Client where
  userId : Id
  orgIds : List Id
deriving DecidableEq

def NotificationResponse.isUnread (r : NotificationResponse) : Bool :=
  r.readAt = none ∧ r.dismissedAt = none

def NotificationResponse.asRead (r : NotificationResponse) (readAt : TimeValue) :
    NotificationResponse :=
  { r with readAt := some readAt }

/-- A change of the one notification with this identifier. -/
def changeOne (id : Id) (change : NotificationResponse → NotificationResponse)
    (m : List NotificationResponse) : List NotificationResponse :=
  m.map fun r => if r.id = id then change r else r

def RealtimeEvent.apply : RealtimeEvent → List NotificationResponse → List NotificationResponse
  | .new r, m => m ++ [r]
  | .read id readAt, m => changeOne id (·.asRead readAt) m
  | .read_all readAt, m => m.map fun r => if r.isUnread then r.asRead readAt else r
  | .dismiss id dismissedAt, m =>
    changeOne id (fun r => { r with dismissedAt := some dismissedAt }) m
  | .undismiss id, m => changeOne id (fun r => { r with dismissedAt := none }) m

namespace Client

variable (c : Client)

def rooms : List String := c.orgIds.map (roomForUser · c.userId)

def owns (n : Notification) : Bool := n.recipientUserId = c.userId ∧ n.orgId ∈ c.orgIds

def listing (t : NotificationTable) : List NotificationResponse :=
  (t.rows.filter c.owns).map toNotificationResponse

def follow (m : List NotificationResponse) (published : List Published) :
    List NotificationResponse :=
  (published.filter (·.room ∈ c.rooms)).foldl (fun m p => p.event.apply m) m

/-- What the client has made of all it has heard is what it would be shown. -/
def InStep (start : List NotificationResponse) (since : ℕ) (w : World) : Prop :=
  c.follow start (w.published.drop since) = c.listing w.notifications

/-- The identifiers that the schema gives have no colon. -/
def Plain : Prop := ':' ∉ c.userId.toList ∧ ∀ orgId ∈ c.orgIds, ':' ∉ orgId.toList

instance : Decidable c.Plain := inferInstanceAs (Decidable (_ ∧ ∀ orgId ∈ c.orgIds, _))

end Client

section Rooms

variable {c : Client} {orgId orgId' userId userId' : Id}

theorem roomForUser_inj (horg : ':' ∉ orgId'.toList) (huser : ':' ∉ userId'.toList) :
    roomForUser orgId userId = roomForUser orgId' userId' ↔ orgId = orgId' ∧ userId = userId' := by
  constructor
  · intro h
    have hlist := congrArg String.toList h
    simp only [roomForUser, String.toList_append] at hlist
    have hcount := congrArg (List.count ':') hlist
    simp only [List.count_append, List.count_eq_zero_of_not_mem horg,
      List.count_eq_zero_of_not_mem huser] at hcount
    have horg' : ':' ∉ orgId.toList := List.count_eq_zero.mp (by omega)
    -- what comes before the first colon after the prefix is the organisation
    have hbefore : ∀ o u : Id, ':' ∉ o.toList →
        (o.toList ++ (":user:".toList ++ u.toList)).takeWhile (· ≠ ':') = o.toList := by
      intro o u ho
      have hplain : ∀ ch ∈ o.toList, decide (ch ≠ ':') = true := by
        intro ch hch
        refine decide_eq_true ?_
        rintro rfl
        exact ho hch
      rw [List.takeWhile_append_of_pos hplain]
      simp
    simp only [List.append_assoc] at hlist
    have hrest := List.append_cancel_left hlist
    have horgs := congrArg (List.takeWhile (· ≠ ':')) hrest
    rw [hbefore _ _ horg', hbefore _ _ horg] at horgs
    rw [horgs] at hrest
    exact ⟨String.toList_injective horgs, String.toList_injective
      (List.append_cancel_left (List.append_cancel_left hrest))⟩
  · rintro ⟨rfl, rfl⟩
    rfl

theorem mem_rooms (hc : c.Plain) :
    roomForUser orgId userId ∈ c.rooms ↔ userId = c.userId ∧ orgId ∈ c.orgIds := by
  rw [Client.rooms, List.mem_map]
  constructor
  · rintro ⟨orgId', horg', hroom⟩
    obtain ⟨rfl, rfl⟩ := (roomForUser_inj (hc.2 orgId' horg') hc.1).mp hroom.symm
    exact ⟨rfl, horg'⟩
  · rintro ⟨rfl, horg⟩
    exact ⟨orgId, horg, rfl⟩

end Rooms

section Following

variable {c : Client} {w w' : World} {start m : List NotificationResponse} {since : ℕ}
  {ps qs : List Published}

theorem follow_append : c.follow m (ps ++ qs) = c.follow (c.follow m ps) qs := by
  rw [Client.follow, List.filter_append, List.foldl_append]
  rfl

theorem follow_of_unheard (h : ∀ p ∈ ps, p.room ∉ c.rooms) : c.follow m ps = m := by
  have hnone : ps.filter (·.room ∈ c.rooms) = [] :=
    List.filter_eq_nil_iff.mpr fun p hp => by simp [h p hp]
  rw [Client.follow, hnone, List.foldl_nil]

theorem follow_of_heard (h : ∀ p ∈ ps, p.room ∈ c.rooms) :
    c.follow m ps = ps.foldl (fun m p => p.event.apply m) m := by
  have hall : ps.filter (·.room ∈ c.rooms) = ps :=
    List.filter_eq_self.mpr fun p hp => decide_eq_true (h p hp)
  rw [Client.follow, hall]

/-- Where the client stands after a step depends on what the step has published only. -/
theorem inStep_iff (hsince : since ≤ w.published.length) (h : c.InStep start since w)
    (hpublished : w'.published = w.published ++ ps) :
    c.InStep start since w' ↔
      c.follow (c.listing w.notifications) ps = c.listing w'.notifications := by
  rw [Client.InStep, hpublished, List.drop_append_of_le_length hsince, follow_append, h]

end Following

section Listings

variable {c : Client} {w : World} {t : NotificationTable} {n : Notification}
  {p : Patch Notification.id}

/-- Changing rows by `g` changes the listing by what that is for a response. -/
theorem map_listing {g : Notification → Notification}
    (change : NotificationResponse → NotificationResponse) (rows : List Notification) (howns : ∀ a, c.owns (g a) = c.owns a)
    (hchange : ∀ a ∈ rows, c.owns a = true →
      toNotificationResponse (g a) = change (toNotificationResponse a)) :
    ((rows.map g).filter c.owns).map toNotificationResponse =
      ((rows.filter c.owns).map toNotificationResponse).map change := by
  have hsame : c.owns ∘ g = c.owns := funext howns
  rw [List.filter_map, hsame, List.map_map, List.map_map]
  refine List.map_congr_left fun a ha => ?_
  obtain ⟨hmem, hown⟩ := List.mem_filter.mp ha
  exact hchange a hmem hown

theorem listing_modify (change : NotificationResponse → NotificationResponse)
    (howns : ∀ a, c.owns (p.apply a) = c.owns a)
    (hchange : ∀ a, toNotificationResponse (p.apply a) = change (toNotificationResponse a)) :
    c.listing (t.modify n.id p) = changeOne n.id change (c.listing t) := by
  refine map_listing _ t.rows (fun a => ?_) fun a _ _ => ?_
  · split_ifs
    · exact howns a
    · rfl
  · by_cases hid : a.id = n.id
    · rw [if_pos hid, hchange]
      exact (if_pos hid).symm
    · rw [if_neg hid]
      exact (if_neg hid).symm

theorem changeOne_of_not_owns {change : NotificationResponse → NotificationResponse}
    (hn : n ∈ w.notifications) (hown : c.owns n = false) :
    changeOne n.id change (c.listing w.notifications) = c.listing w.notifications := by
  refine (List.map_congr_left fun r hr => if_neg fun hid => ?_).trans (List.map_id _)
  obtain ⟨a, ha, rfl⟩ := List.mem_map.mp hr
  obtain ⟨hmem, howned⟩ := List.mem_filter.mp ha
  obtain rfl := Table.eq_of_key_eq (t := w.notifications) hmem hn hid
  rw [hown] at howned
  cases howned

/-- The event of a touched notification is the change of its row. -/
theorem Touch.apply_eq {env : Env} {event : RealtimeEvent} (h : Touch env n p event)
    (t : NotificationTable) :
    event.apply (c.listing t) = c.listing (t.modify n.id p) := by
  cases h with
  | read hunread =>
    exact (listing_modify (c := c) (·.asRead env.now) (fun _ => rfl) fun _ => rfl).symm
  | dismiss hshown =>
    exact (listing_modify (c := c) (fun r => { r with dismissedAt := some env.now })
      (fun _ => rfl) fun _ => rfl).symm
  | undismiss hdismissed =>
    exact (listing_modify (c := c) (fun r => { r with dismissedAt := none })
      (fun _ => rfl) fun _ => rfl).symm

theorem Touch.id_eq {env : Env} {event : RealtimeEvent} (h : Touch env n p event) :
    ∃ change, ∀ m, event.apply m = changeOne n.id change m := by
  cases h with
  | read hunread => exact ⟨_, fun _ => rfl⟩
  | dismiss hshown => exact ⟨_, fun _ => rfl⟩
  | undismiss hdismissed => exact ⟨_, fun _ => rfl⟩

theorem owns_iff : c.owns n = true ↔ n.recipientUserId = c.userId ∧ n.orgId ∈ c.orgIds :=
  decide_eq_true_iff

theorem follow_touched {env : Env} {event : RealtimeEvent} (hc : c.Plain)
    (hn : n ∈ w.notifications) (h : Touch env n p event) :
    c.follow (c.listing w.notifications) [⟨roomForUser n.orgId n.recipientUserId, event⟩] =
      c.listing (w.notifications.modify n.id p) := by
  rw [← h.apply_eq]
  by_cases hown : c.owns n = true
  · have hheard := (mem_rooms hc).mpr (owns_iff.mp hown)
    exact follow_of_heard (by simpa using hheard)
  · have hunheard : roomForUser n.orgId n.recipientUserId ∉ c.rooms :=
      fun hmem => hown (owns_iff.mpr ((mem_rooms hc).mp hmem))
    obtain ⟨change, hchange⟩ := h.id_eq
    rw [follow_of_unheard (by simpa using hunheard), hchange,
      changeOne_of_not_owns hn (Bool.eq_false_iff.mpr hown)]

end Listings

section ReadAll

variable {c : Client} {w : World} {env : Env} {userId : Id} {orgIds : List Id}
  {m : List NotificationResponse}

/-- A read-all of the client's user that some room of the client hears of leaves nothing unread
in the others. -/
def Covers (c : Client) (w : World) (userId : Id) (orgIds : List Id) : Prop :=
  userId = c.userId → (∃ orgId ∈ orgIds, orgId ∈ c.orgIds) →
    (∃ n ∈ w.notifications, unreadOf userId orgIds n = true) →
      ∀ n ∈ w.notifications, c.owns n = true → isUnread n = true → n.orgId ∈ orgIds

def allReadEvents (userId : Id) (orgIds : List Id) (now : TimeValue) : List Published :=
  orgIds.map fun orgId => ⟨roomForUser orgId userId, .read_all now⟩

theorem apply_read_all_twice (now : TimeValue) :
    (RealtimeEvent.read_all now).apply ((RealtimeEvent.read_all now).apply m) =
      (RealtimeEvent.read_all now).apply m := by
  simp only [RealtimeEvent.apply, List.map_map]
  refine List.map_congr_left fun r _ => ?_
  rw [Function.comp_apply]
  by_cases hunread : r.isUnread = true
  · have hread : (r.asRead now).isUnread = false := by
      simp [NotificationResponse.isUnread, NotificationResponse.asRead]
    rw [if_pos hunread, if_neg (Bool.eq_false_iff.mp hread)]
  · rw [if_neg hunread, if_neg hunread]

/-- However often it is heard, all is read once. -/
theorem foldl_read_all {ps : List Published} {now : TimeValue} (hne : ps ≠ [])
    (h : ∀ p ∈ ps, p.event = .read_all now) :
    ps.foldl (fun m p => p.event.apply m) m = (RealtimeEvent.read_all now).apply m := by
  induction ps generalizing m with
  | nil => exact absurd rfl hne
  | cons p ps ih =>
    rw [List.foldl_cons, h p List.mem_cons_self]
    by_cases hrest : ps = []
    · rw [hrest, List.foldl_nil]
    · rw [ih hrest fun q hq => h q (List.mem_cons_of_mem p hq), apply_read_all_twice]

theorem follow_allReadEvents (hc : c.Plain) (now : TimeValue) :
    c.follow m (allReadEvents userId orgIds now) =
      if userId = c.userId ∧ ∃ orgId ∈ orgIds, orgId ∈ c.orgIds then
        (RealtimeEvent.read_all now).apply m
      else m := by
  have hheard : ∀ p, p ∈ (allReadEvents userId orgIds now).filter (·.room ∈ c.rooms) ↔
      ∃ orgId ∈ orgIds, (userId = c.userId ∧ orgId ∈ c.orgIds) ∧
        p = ⟨roomForUser orgId userId, .read_all now⟩ := by
    intro p
    rw [List.mem_filter, allReadEvents, List.mem_map, decide_eq_true_iff]
    constructor
    · rintro ⟨⟨orgId, horg, rfl⟩, hroom⟩
      exact ⟨orgId, horg, (mem_rooms hc).mp hroom, rfl⟩
    · rintro ⟨orgId, horg, hmine, rfl⟩
      exact ⟨⟨orgId, horg, rfl⟩, (mem_rooms hc).mpr hmine⟩
  split_ifs with hmine
  · obtain ⟨huser, orgId, horg, hin⟩ := hmine
    refine foldl_read_all ?_ fun p hp => ?_
    · exact List.ne_nil_of_mem ((hheard _).mpr ⟨orgId, horg, ⟨huser, hin⟩, rfl⟩)
    · obtain ⟨-, -, -, rfl⟩ := (hheard p).mp hp
      rfl
  · have hnone : (allReadEvents userId orgIds now).filter (·.room ∈ c.rooms) = [] := by
      refine List.eq_nil_iff_forall_not_mem.mpr fun p hp => ?_
      obtain ⟨orgId, horg, ⟨huser, hin⟩, -⟩ := (hheard p).mp hp
      exact hmine ⟨huser, orgId, horg, hin⟩
    rw [Client.follow, hnone, List.foldl_nil]

/-- The rows that a read-all changes, for one of the client's own. -/
theorem unreadOf_owned {n : Notification} (hown : c.owns n = true) :
    unreadOf userId orgIds n = true ↔
      c.userId = userId ∧ n.orgId ∈ orgIds ∧ isUnread n = true := by
  obtain ⟨huser, -⟩ := owns_iff.mp hown
  simp only [unreadOf, isUnread, decide_eq_true_iff, huser]

theorem owns_asRead (now : TimeValue) (n : Notification) :
    c.owns ((asRead now).apply n) = c.owns n := rfl

/-- Applying `read_all` and changing the rows agree exactly where each unread notification of
the client is in the organisations. -/
theorem read_all_eq_iff {now : TimeValue} (huser : userId = c.userId) :
    (RealtimeEvent.read_all now).apply (c.listing w.notifications) =
        c.listing (w.notifications.modifyWhere (unreadOf userId orgIds) (asRead now)) ↔
      ∀ n ∈ w.notifications, c.owns n = true → isUnread n = true → n.orgId ∈ orgIds := by
  have hleft : (RealtimeEvent.read_all now).apply (c.listing w.notifications) =
      (w.notifications.rows.filter c.owns).map fun n => toNotificationResponse
        (if isUnread n = true then (asRead now).apply n else n) := by
    simp only [RealtimeEvent.apply, Client.listing, List.map_map]
    refine List.map_congr_left fun n _ => ?_
    by_cases hunread : isUnread n = true
    · rw [if_pos hunread]
      exact if_pos hunread
    · rw [if_neg hunread]
      exact if_neg hunread
  have hright : c.listing (w.notifications.modifyWhere (unreadOf userId orgIds) (asRead now)) =
      (w.notifications.rows.filter c.owns).map fun n => toNotificationResponse
        (if unreadOf userId orgIds n = true then (asRead now).apply n else n) := by
    have hsame : (c.owns ∘ fun n => if unreadOf userId orgIds n = true then (asRead now).apply n
        else n) = c.owns := by
      funext n
      rw [Function.comp_apply]
      split_ifs
      · exact owns_asRead now n
      · rfl
    rw [Client.listing, Table.modifyWhere, List.filter_map, hsame, List.map_map]
    rfl
  rw [hleft, hright, List.map_inj_left]
  simp only [List.mem_filter, and_imp]
  refine forall₃_congr fun n hn hown => ?_
  by_cases hunread : isUnread n = true
  · rw [if_pos hunread]
    by_cases horg : n.orgId ∈ orgIds
    · rw [if_pos ((unreadOf_owned hown).mpr ⟨huser.symm, horg, hunread⟩)]
      exact iff_of_true rfl fun _ => horg
    · rw [if_neg fun h => horg ((unreadOf_owned hown).mp h).2.1]
      refine iff_of_false (fun heq => ?_) fun h => horg (h hunread)
      have hreadAt := congrArg NotificationResponse.readAt heq
      change some now = n.readAt at hreadAt
      rw [(of_decide_eq_true hunread).1] at hreadAt
      cases hreadAt
  · rw [if_neg hunread, if_neg fun h => hunread ((unreadOf_owned hown).mp h).2.2]
    exact iff_of_true rfl fun h => absurd h hunread

theorem follow_allRead_iff (hc : c.Plain)
    (hsome : w.notifications.rows.countP (unreadOf userId orgIds) ≠ 0) :
    c.follow (c.listing w.notifications) (allReadEvents userId orgIds env.now) =
        c.listing (allRead env w userId orgIds).notifications ↔ Covers c w userId orgIds := by
  obtain ⟨n, hn, hunread⟩ := List.countP_pos_iff.mp (Nat.pos_of_ne_zero hsome)
  rw [follow_allReadEvents hc]
  by_cases hmine : userId = c.userId ∧ ∃ orgId ∈ orgIds, orgId ∈ c.orgIds
  · rw [if_pos hmine]
    refine (read_all_eq_iff hmine.1).trans ⟨fun h _ _ _ => h, fun h => ?_⟩
    exact h hmine.1 hmine.2 ⟨n, hn, hunread⟩
  · rw [if_neg hmine]
    refine iff_of_true ?_ fun huser horgs => absurd ⟨huser, horgs⟩ hmine
    -- no notification of the client is one of these
    have hkept : ∀ a, c.owns a = true → unreadOf userId orgIds a ≠ true := by
      intro a hown hread
      obtain ⟨huser, horg, -⟩ := (unreadOf_owned hown).mp hread
      exact hmine ⟨huser.symm, a.orgId, horg, (owns_iff.mp hown).2⟩
    refine ((map_listing id w.notifications.rows (fun a => ?_) fun a _ hown => ?_).trans
      (List.map_id _)).symm
    · split_ifs
      · exact owns_asRead env.now a
      · rfl
    · rw [if_neg (hkept a hown)]
      rfl

end ReadAll

section Runs

variable {c : Client} {w : World} {start : List NotificationResponse} {since : ℕ}

/-- A call that tells the client all it needs: a read-all leaves nothing of the client's unread
elsewhere, and a creation that fails halfway has not yet reached the client. -/
def Tells (c : Client) (l : Env × NotificationCall) (w : World) : Prop :=
  match l.2 with
  | .markAllRead userId orgId => Covers c w userId [orgId]
  | .markAllReadAcrossOrgs userId orgIds => Covers c w userId orgIds
  | .createForUsers input => ∀ e w', (createForUsers l.1 input).run w = .error e w' →
      c.listing w'.notifications = c.listing w.notifications
  | _ => True

/-- What a run keeps besides: the server is set, and nothing published is taken back. -/
structure Ready (since : ℕ) (w : World) : Prop where
  serving : w.serving = true
  since : since ≤ w.published.length

/-- A step that publishes `ps`. -/
structure Publishes (w w' : World) (ps : List Published) : Prop where
  serving : w'.serving = w.serving
  published : w'.published = w.published ++ ps

theorem Publishes.ready {w' : World} {ps : List Published} (h : Publishes w w' ps)
    (hw : Ready since w) : Ready since w' := by
  refine ⟨h.serving.trans hw.serving, ?_⟩
  rw [h.published, List.length_append]
  exact hw.since.trans (Nat.le_add_right _ _)

theorem Publishes.of_nothing (w : World) : Publishes w w [] :=
  ⟨rfl, (List.append_nil _).symm⟩

theorem inStep_touches {env : Env} {w' : World} (hc : c.Plain) (hw : Ready since w)
    (hstep : c.InStep start since w) (h : TouchesOne env w w') :
    Ready since w' ∧ c.InStep start since w' := by
  rcases h with rfl | ⟨n, hn, p, event, htouch, rfl⟩
  · exact ⟨hw, hstep⟩
  · have hpublishes : Publishes w (touched w n p event)
        [⟨roomForUser n.orgId n.recipientUserId, event⟩] := by
      constructor <;> simp [touched, publish, hw.serving]
    have htable : (touched w n p event).notifications = w.notifications.modify n.id p := by
      simp [touched, publish, hw.serving]
    refine ⟨hpublishes.ready hw, (inStep_iff hw.since hstep hpublishes.published).mpr ?_⟩
    rw [htable]
    exact follow_touched hc hn htouch

theorem inStep_readAll {env : Env} {userId : Id} {orgIds : List Id} {w' : World} (hc : c.Plain)
    (hw : Ready since w) (hstep : c.InStep start since w)
    (h : w' = if w.notifications.rows.countP (unreadOf userId orgIds) = 0 then w
      else allRead env w userId orgIds) :
    Ready since w' ∧ (c.InStep start since w' ↔ Covers c w userId orgIds) := by
  split_ifs at h with hnone
  · subst h
    refine ⟨hw, iff_of_true hstep ?_⟩
    rintro - - ⟨n, hn, hunread⟩
    exact absurd hunread (List.countP_eq_zero.mp hnone n hn)
  · subst h
    have hpublishes : Publishes w (allRead env w userId orgIds)
        (allReadEvents userId orgIds env.now) := ⟨rfl, rfl⟩
    refine ⟨hpublishes.ready hw, ?_⟩
    rw [inStep_iff hw.since hstep hpublishes.published]
    exact follow_allRead_iff hc hnone

theorem follow_newEvents {orgId : Id} {rows : List Notification} {m : List NotificationResponse}
    (hc : c.Plain) (hrows : ∀ n ∈ rows, n.orgId = orgId) :
    c.follow m (newEvents orgId rows) =
      m ++ (rows.filter c.owns).map toNotificationResponse := by
  induction rows generalizing m with
  | nil => exact (List.append_nil m).symm
  | cons n rows ih =>
    have hrest := fun m => @ih m fun a ha => hrows a (List.mem_cons_of_mem n ha)
    have horg := hrows n List.mem_cons_self
    have hsplit : newEvents orgId (n :: rows) =
        [⟨roomForUser orgId n.recipientUserId, .new (toNotificationResponse n)⟩] ++
          newEvents orgId rows := rfl
    rw [hsplit, follow_append]
    by_cases hown : c.owns n = true
    · have hheard : roomForUser orgId n.recipientUserId ∈ c.rooms :=
        horg ▸ (mem_rooms hc).mpr (owns_iff.mp hown)
      have hnew : c.follow m
          [⟨roomForUser orgId n.recipientUserId, .new (toNotificationResponse n)⟩] =
          m ++ [toNotificationResponse n] := follow_of_heard (by simpa using hheard)
      rw [hnew, hrest, List.filter_cons_of_pos hown, List.map_cons, List.append_assoc,
        List.singleton_append]
    · have hunheard : roomForUser orgId n.recipientUserId ∉ c.rooms := by
        rw [← horg]
        exact fun hmem => hown (owns_iff.mpr ((mem_rooms hc).mp hmem))
      have hold : c.follow m
          [⟨roomForUser orgId n.recipientUserId, .new (toNotificationResponse n)⟩] = m :=
        follow_of_unheard (by simpa using hunheard)
      rw [hold, hrest, List.filter_cons_of_neg hown]

/-- One call. -/
theorem inStep_next (hc : c.Plain) (l : Env × NotificationCall) (hw : Ready since w)
    (hstep : c.InStep start since w) :
    Ready since (next l w) ∧ (c.InStep start since (next l w) ↔ Tells c l w) := by
  obtain ⟨env, call⟩ := l
  have hone : ∀ {w'}, TouchesOne env w w' →
      Ready since w' ∧ (c.InStep start since w' ↔ True) := fun h =>
    (inStep_touches hc hw hstep h).imp id fun h => iff_of_true h trivial
  cases call with
  | createForUsers input =>
    obtain ⟨e, w', hrun, hpublished, hserving⟩ | ⟨rs, w', hrun, hserving, rows, horg, hrows,
      hpublished⟩ := @createForUsers_cases env w input hw.serving
    · have hnext : next (env, .createForUsers input) w = w' :=
        congrArg final (Script.run_bind_of_run_error hrun)
      have hpublishes : Publishes w w' [] :=
        ⟨hserving.trans hw.serving.symm, hpublished.trans (List.append_nil _).symm⟩
      rw [hnext]
      refine ⟨hpublishes.ready hw, ?_⟩
      rw [inStep_iff hw.since hstep hpublishes.published, follow_of_unheard fun p hp =>
        absurd hp List.not_mem_nil]
      constructor
      · intro heq e' w'' hrun'
        rw [hrun] at hrun'
        cases hrun'
        exact heq.symm
      · exact fun h => (h e w' hrun).symm
    · have hnext : next (env, .createForUsers input) w = w' :=
        congrArg final (Script.run_bind_of_run_ok hrun)
      have hpublishes : Publishes w w' (newEvents input.orgId rows) :=
        ⟨hserving.trans hw.serving.symm, hpublished⟩
      rw [hnext]
      refine ⟨hpublishes.ready hw, iff_of_true ?_ fun e w'' hrun' => ?_⟩
      · rw [inStep_iff hw.since hstep hpublishes.published, follow_newEvents hc horg,
          Client.listing, Client.listing, hrows, List.filter_append, List.map_append]
      · rw [hrun] at hrun'
        cases hrun'
  | markRead notificationId userId orgId => exact hone markRead_touches
  | markAllRead userId orgId =>
    exact inStep_readAll hc hw hstep (run_markAllRead userId orgId hw.serving)
  | dismiss notificationId userId orgId => exact hone dismiss_touches
  | undismiss notificationId userId orgId => exact hone undismiss_touches
  | markReadAcrossOrgs notificationId userId orgIds =>
    exact hone (inAccessibleOrg_touches fun _ => markRead_touches)
  | markAllReadAcrossOrgs userId orgIds =>
    exact inStep_readAll hc hw hstep (run_markAllReadAcrossOrgs userId orgIds hw.serving)
  | dismissAcrossOrgs notificationId userId orgIds =>
    exact hone (inAccessibleOrg_touches fun _ => dismiss_touches)
  | undismissAcrossOrgs notificationId userId orgIds =>
    exact hone (inAccessibleOrg_touches fun _ => undismiss_touches)

theorem ready_next (hc : c.Plain) (l : Env × NotificationCall) (hw : Ready since w) :
    Ready since (next l w) := by
  -- a client that starts right here
  have hnow : c.InStep (c.listing w.notifications) w.published.length w := by
    rw [Client.InStep, List.drop_length]
    rfl
  have hlater := (inStep_next hc l ⟨hw.serving, le_rfl⟩ hnow).1
  exact ⟨hlater.serving, hw.since.trans hlater.since⟩

/-- Then the unread ones it has are as many as the badge says. -/
theorem InStep.badge (h : c.InStep start since w) :
    (c.follow start (w.published.drop since)).countP (·.isUnread) =
      (Inbox.orgs c.orgIds).countUnread w.notifications c.userId := by
  rw [h, Client.listing, List.countP_map, List.countP_filter, List.countP_eq_length_filter]
  change _ = NotificationsRepo.countUnreadAcrossOrgs w.notifications c.userId c.orgIds
  rw [NotificationsRepo.countUnreadAcrossOrgs]
  split_ifs with hempty
  · obtain hnone := List.eq_nil_of_length_eq_zero hempty
    refine List.length_eq_zero_iff.mpr (List.filter_eq_nil_iff.mpr fun n _ => ?_)
    simp [Client.owns, hnone]
  · refine congrArg List.length (List.filter_congr fun n _ => Bool.eq_iff_iff.mpr ?_)
    change (decide (n.readAt = none ∧ n.dismissedAt = none) && decide _) = true ↔ _
    simp only [Bool.and_eq_true, decide_eq_true_iff]
    tauto

def sceneWorld : World := ⟨true, ["ann", "ben"], ["org", "org2"], .empty _, []⟩

def sceneClient : Client := ⟨"ann", ["org", "org2"]⟩

def sceneEnv (id : Id) : Env := ⟨.epoch, fun _ => (id, .epoch)⟩

def sceneCalls : List (Env × NotificationCall) :=
  [(sceneEnv "n1", .createForUsers ⟨"org", ["ann"], .BROADCAST, "Water", none, []⟩),
    (sceneEnv "n2", .createForUsers ⟨"org2", ["ann"], .BROADCAST, "Lift", none, []⟩),
    (sceneEnv "n3", .dismiss "n2" "ann" "org2"),
    (sceneEnv "n3", .markAllRead "ann" "org"),
    (sceneEnv "n3", .undismiss "n2" "ann" "org2")]

end Runs

end Towerdesk.Notifications.Realtime
