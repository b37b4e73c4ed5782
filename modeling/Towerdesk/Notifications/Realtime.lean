import Towerdesk.Lib.Turns
import Towerdesk.Lib.Constraint
import Towerdesk.Notifications.Feed

/-!
# Writing notifications

Notifications are created for users, read, dismissed and taken back, in one organisation or
across several, and every change is published to the room of its user in that organisation.
Each call of the repository and each publication is a step of its own.
-/

namespace Towerdesk.Notifications.Realtime

open IsoDate (TimeValue)
open Script (query atomic)
open Delivery (NotificationType NotificationInput JsonObject)
open Transaction (Ends final)

structure NotificationResponse where
  id : Id
  orgId : Id
  type : NotificationType
  title : String
  body : Option String
  data : JsonObject
  readAt : Option TimeValue
  dismissedAt : Option TimeValue
  createdAt : TimeValue
deriving DecidableEq

def toNotificationResponse (n : Notification) : NotificationResponse where
  id := n.id
  orgId := n.orgId
  type := n.type
  title := n.title
  body := n.body
  data := n.data
  readAt := n.readAt
  dismissedAt := n.dismissedAt
  createdAt := n.createdAt

inductive RealtimeEvent
  | new (notification : NotificationResponse)
  | read (id : Id) (readAt : TimeValue)
  | read_all (readAt : TimeValue)
  | dismiss (id : Id) (dismissedAt : TimeValue)
  | undismiss (id : Id)
deriving DecidableEq

structure Published where
  room : String
  event : RealtimeEvent
deriving DecidableEq

/-- What the calls see. A notification refers to an existing user and organisation; nothing is
published before the server is set. -/
structure World where
  serving : Bool
  users : List Id
  orgs : List Id
  notifications : NotificationTable
  published : List Published

/-- The rows of one call have the identifiers and times `row 0`, `row 1` and so on. -/
structure Env where
  now : TimeValue
  row : ℕ → Id × TimeValue

abbrev Call := Script World HttpException

structure CreateForUsersInput where
  orgId : Id
  userIds : List Id
  type : NotificationType
  title : String
  body : Option String := none
  data : JsonObject
deriving DecidableEq

section Repo

def roomForUser (orgId userId : Id) : String := "org:" ++ orgId ++ ":user:" ++ userId

def publish (w : World) (orgId userId : Id) (event : RealtimeEvent) : World :=
  if w.serving then { w with published := w.published ++ [⟨roomForUser orgId userId, event⟩] }
  else w

def publishToUser (orgId userId : Id) (event : RealtimeEvent) : Call Unit :=
  atomic fun w => .ok () (publish w orgId userId event)

def createRow (n : Notification) : EStateM HttpException World Notification := fun w =>
  if n.recipientUserId ∈ w.users ∧ n.orgId ∈ w.orgs then
    match w.notifications.insert n with
    | some notifications => .ok n { w with notifications }
    | none => .error (.internal "Unique constraint failed") w
  else .error (.internal "Foreign key constraint violated") w

def createOne (n : Notification) : Call Notification := atomic (createRow n)

def findByIdForUser (w : World) (notificationId userId orgId : Id) : Option Notification :=
  w.notifications.findFirst fun n =>
    n.id = notificationId ∧ n.recipientUserId = userId ∧ n.orgId = orgId

def findByIdForUserAcrossOrgs (w : World) (notificationId userId : Id) (orgIds : List Id) :
    Option Notification :=
  if orgIds.length = 0 then none
  else w.notifications.findFirst fun n =>
    n.id = notificationId ∧ n.recipientUserId = userId ∧ n.orgId ∈ orgIds

def updateMany (q : Notification → Bool) (p : Patch Notification.id) :
    EStateM HttpException World ℕ := fun w =>
  .ok (w.notifications.rows.countP q)
    { w with notifications := w.notifications.modifyWhere q p }

def asRead (readAt : TimeValue) : Patch Notification.id where
  apply n := { n with readAt := some readAt }
  key_apply _ := rfl

def asDismissed (dismissedAt : Option TimeValue) : Patch Notification.id where
  apply n := { n with dismissedAt }
  key_apply _ := rfl

def isUnread (n : Notification) : Bool := n.readAt = none ∧ n.dismissedAt = none

def isOne (notificationId userId orgId : Id) (n : Notification) : Bool :=
  n.id = notificationId ∧ n.recipientUserId = userId ∧ n.orgId = orgId

end Repo

section Service

variable (env : Env)

def notificationRow (input : CreateForUsersInput) (index : ℕ) (userId : Id) : Notification where
  orgId := input.orgId
  recipientUserId := userId
  type := input.type
  title := input.title
  body := input.body
  data := input.data
  id := (env.row index).1
  createdAt := (env.row index).2

def uniqueUserIds (userIds : List Id) : List Id := userIds.eraseDups.filter (· ≠ "")

def publishCreatedNotifications (orgId : Id) (created : List Notification) : Call (List Unit) :=
  Script.collect (fun n =>
    publishToUser orgId n.recipientUserId (.new (toNotificationResponse n))) created

/-- The push that follows writes no notification and publishes nothing. -/
def createForUsers (input : CreateForUsersInput) : Call (List NotificationResponse) :=
  if (uniqueUserIds input.userIds).length = 0 then return []
  else do
    let created ← Script.collect createOne
      ((uniqueUserIds input.userIds).mapIdx (notificationRow env input))
    let _ ← publishCreatedNotifications input.orgId created
    return created.map toNotificationResponse

def notificationNotFound : HttpException := .notFound "Notification not found"

def markRead (notificationId userId orgId : Id) : Call Unit := do
  let existing ← query fun w =>
    Outcome.orThrow (findByIdForUser w notificationId userId orgId) notificationNotFound
  if existing.readAt = none ∧ existing.dismissedAt = none then do
    let _ ← atomic (updateMany
      (fun n => isOne notificationId userId orgId n ∧ n.readAt = none ∧ n.dismissedAt = none)
      (asRead env.now))
    publishToUser orgId userId (.read notificationId env.now)
  else return ()

def markAllRead (userId orgId : Id) : Call Unit := do
  let updated ← atomic (updateMany
    (fun n => n.recipientUserId = userId ∧ n.orgId = orgId ∧ n.readAt = none ∧ n.dismissedAt = none)
    (asRead env.now))
  if updated > 0 then publishToUser orgId userId (.read_all env.now) else return ()

def dismiss (notificationId userId orgId : Id) : Call Unit := do
  let existing ← query fun w =>
    Outcome.orThrow (findByIdForUser w notificationId userId orgId) notificationNotFound
  if existing.dismissedAt = none then do
    let _ ← atomic (updateMany
      (fun n => isOne notificationId userId orgId n ∧ n.dismissedAt = none)
      (asDismissed (some env.now)))
    publishToUser orgId userId (.dismiss notificationId env.now)
  else return ()

def undismiss (notificationId userId orgId : Id) : Call Unit := do
  let existing ← query fun w =>
    Outcome.orThrow (findByIdForUser w notificationId userId orgId) notificationNotFound
  if existing.dismissedAt ≠ none then do
    let _ ← atomic (updateMany
      (fun n => isOne notificationId userId orgId n ∧ n.dismissedAt ≠ none)
      (asDismissed none))
    publishToUser orgId userId (.undismiss notificationId)
  else return ()

/-- What the calls across organisations start with. -/
def inAccessibleOrg (notificationId userId : Id) (orgIds : List Id) (call : Id → Call Unit) :
    Call Unit := do
  let existing ← query fun w =>
    Outcome.orThrow (findByIdForUserAcrossOrgs w notificationId userId orgIds) notificationNotFound
  call existing.orgId

def markReadAcrossOrgs (notificationId userId : Id) (orgIds : List Id) : Call Unit :=
  inAccessibleOrg notificationId userId orgIds (markRead env notificationId userId)

def dismissAcrossOrgs (notificationId userId : Id) (orgIds : List Id) : Call Unit :=
  inAccessibleOrg notificationId userId orgIds (dismiss env notificationId userId)

def undismissAcrossOrgs (notificationId userId : Id) (orgIds : List Id) : Call Unit :=
  inAccessibleOrg notificationId userId orgIds (undismiss notificationId userId)

def markAllReadAcrossOrgs (userId : Id) (orgIds : List Id) : Call Unit :=
  if orgIds.length = 0 then return ()
  else do
    let updated ← atomic (updateMany (fun n =>
      n.recipientUserId = userId ∧ n.orgId ∈ orgIds ∧ n.readAt = none ∧ n.dismissedAt = none)
      (asRead env.now))
    if updated > 0 then do
      let _ ← Script.collect
        (fun orgId => publishToUser orgId userId (.read_all env.now)) orgIds
      return ()
    else return ()

end Service

inductive NotificationCall
  | createForUsers (input : CreateForUsersInput)
  | markRead (notificationId userId orgId : Id)
  | markAllRead (userId orgId : Id)
  | dismiss (notificationId userId orgId : Id)
  | undismiss (notificationId userId orgId : Id)
  | markReadAcrossOrgs (notificationId userId : Id) (orgIds : List Id)
  | markAllReadAcrossOrgs (userId : Id) (orgIds : List Id)
  | dismissAcrossOrgs (notificationId userId : Id) (orgIds : List Id)
  | undismissAcrossOrgs (notificationId userId : Id) (orgIds : List Id)
deriving DecidableEq

def NotificationCall.script (env : Env) : NotificationCall → Call Unit
  | .createForUsers input => do
    let _ ← Realtime.createForUsers env input
    return ()
  | .markRead notificationId userId orgId => Realtime.markRead env notificationId userId orgId
  | .markAllRead userId orgId => Realtime.markAllRead env userId orgId
  | .dismiss notificationId userId orgId => Realtime.dismiss env notificationId userId orgId
  | .undismiss notificationId userId orgId => Realtime.undismiss notificationId userId orgId
  | .markReadAcrossOrgs notificationId userId orgIds =>
    Realtime.markReadAcrossOrgs env notificationId userId orgIds
  | .markAllReadAcrossOrgs userId orgIds => Realtime.markAllReadAcrossOrgs env userId orgIds
  | .dismissAcrossOrgs notificationId userId orgIds =>
    Realtime.dismissAcrossOrgs env notificationId userId orgIds
  | .undismissAcrossOrgs notificationId userId orgIds =>
    Realtime.undismissAcrossOrgs notificationId userId orgIds

def next (c : Env × NotificationCall) (w : World) : World := final ((c.2.script c.1).run w)

section Single

variable {env : Env} {w : World} {n : Notification} {notificationId userId orgId : Id}
  {orgIds : List Id}

theorem findByIdForUser_eq_some (h : findByIdForUser w notificationId userId orgId = some n) :
    n ∈ w.notifications ∧ n.id = notificationId ∧ n.recipientUserId = userId ∧ n.orgId = orgId := by
  obtain ⟨hn, hid⟩ := Table.findFirst_some h
  exact ⟨hn, of_decide_eq_true hid⟩

/-- What one of the calls does to the notification it is about, and what it publishes. -/
inductive Touch (env : Env) (n : Notification) : Patch Notification.id → RealtimeEvent → Prop
  | read (h : isUnread n = true) : Touch env n (asRead env.now) (.read n.id env.now)
  | dismiss (h : n.dismissedAt = none) :
    Touch env n (asDismissed (some env.now)) (.dismiss n.id env.now)
  | undismiss (h : n.dismissedAt ≠ none) : Touch env n (asDismissed none) (.undismiss n.id)

def touched (w : World) (n : Notification) (p : Patch Notification.id) (event : RealtimeEvent) :
    World :=
  publish { w with notifications := w.notifications.modify n.id p } n.orgId n.recipientUserId event

/-- Nothing happens, or one notification is touched. -/
def TouchesOne (env : Env) (w w' : World) : Prop :=
  w' = w ∨ ∃ n ∈ w.notifications, ∃ p event, Touch env n p event ∧ w' = touched w n p event

theorem modifyWhere_isOne {q : Notification → Bool} {p : Patch Notification.id}
    (hn : n ∈ w.notifications) (hself : q n = true)
    (hone : ∀ a, q a = true → a.id = n.id) :
    w.notifications.modifyWhere q p = w.notifications.modify n.id p := by
  refine Table.modifyWhere_eq_modify fun a ha => ⟨hone a, fun hid => ?_⟩
  rw [Table.eq_of_key_eq ha hn hid]
  exact hself

theorem markRead_touches : TouchesOne env w (final ((markRead env notificationId userId orgId).run w)) := by
  refine Ends.final (P := TouchesOne env w) ?_
  refine Script.ends_query_bind (.inl rfl) fun n hfound => ?_
  obtain ⟨hn, rfl, rfl, rfl⟩ := findByIdForUser_eq_some (Outcome.orThrow_eq_ok.mp hfound)
  split_ifs with hunread
  · refine .inr ⟨n, hn, _, _, .read (decide_eq_true hunread), ?_⟩
    have hone := modifyWhere_isOne (q := fun a => isOne n.id n.recipientUserId n.orgId a ∧
      a.readAt = none ∧ a.dismissedAt = none) (p := asRead env.now) hn (by simp [isOne, hunread])
      fun a ha => by simp [isOne] at ha; exact ha.1.1
    rw [touched, ← hone]
    rfl
  · exact .inl rfl

theorem dismiss_touches : TouchesOne env w (final ((dismiss env notificationId userId orgId).run w)) := by
  refine Ends.final (P := TouchesOne env w) ?_
  refine Script.ends_query_bind (.inl rfl) fun n hfound => ?_
  obtain ⟨hn, rfl, rfl, rfl⟩ := findByIdForUser_eq_some (Outcome.orThrow_eq_ok.mp hfound)
  split_ifs with hshown
  · refine .inr ⟨n, hn, _, _, .dismiss hshown, ?_⟩
    have hone := modifyWhere_isOne (q := fun a => isOne n.id n.recipientUserId n.orgId a ∧
      a.dismissedAt = none) (p := asDismissed (some env.now)) hn (by simp [isOne, hshown])
      fun a ha => by simp [isOne] at ha; exact ha.1.1
    rw [touched, ← hone]
    rfl
  · exact .inl rfl

theorem undismiss_touches :
    TouchesOne env w (final ((undismiss notificationId userId orgId).run w)) := by
  refine Ends.final (P := TouchesOne env w) ?_
  refine Script.ends_query_bind (.inl rfl) fun n hfound => ?_
  obtain ⟨hn, rfl, rfl, rfl⟩ := findByIdForUser_eq_some (Outcome.orThrow_eq_ok.mp hfound)
  split_ifs with hdismissed
  · refine .inr ⟨n, hn, _, _, .undismiss hdismissed, ?_⟩
    have hone := modifyWhere_isOne (q := fun a => isOne n.id n.recipientUserId n.orgId a ∧
      a.dismissedAt ≠ none) (p := asDismissed none) hn (by simp [isOne, hdismissed])
      fun a ha => by simp [isOne] at ha; exact ha.1.1
    rw [touched, ← hone]
    rfl
  · exact .inl rfl

theorem inAccessibleOrg_touches {call : Id → Call Unit}
    (h : ∀ orgId, TouchesOne env w (final ((call orgId).run w))) :
    TouchesOne env w (final ((inAccessibleOrg notificationId userId orgIds call).run w)) := by
  refine Ends.final (P := TouchesOne env w) ?_
  exact Script.ends_query_bind (.inl rfl) fun n _ => Transaction.ends_of_final (h n.orgId)

end Single

section Many

variable {env : Env} {w : World}

/-- The creation of rows one after the other stops at the first that is refused. -/
theorem run_createRows (rows : List Notification) (w : World) :
    (∃ e w', (Script.collect createOne rows).run w = .error e w' ∧
      w'.published = w.published ∧ w'.serving = w.serving) ∨
    ∃ w', (Script.collect createOne rows).run w = .ok rows w' ∧
      w'.published = w.published ∧ w'.serving = w.serving ∧
      w'.notifications.rows = w.notifications.rows ++ rows := by
  induction rows generalizing w with
  | nil => exact .inr ⟨w, rfl, rfl, rfl, (List.append_nil _).symm⟩
  | cons n rows ih =>
    have hstep : (∃ e, (createOne n).run w = .error e w) ∨
        ∃ t, w.notifications.insert n = some t ∧
          (createOne n).run w = .ok n { w with notifications := t } := by
      rw [createOne, Script.run_atomic]
      unfold createRow
      split_ifs
      · cases w.notifications.insert n with
        | none => exact .inl ⟨_, rfl⟩
        | some t => exact .inr ⟨t, rfl, rfl⟩
      · exact .inl ⟨_, rfl⟩
    obtain ⟨e, hfailed⟩ | ⟨t, hinsert, hcreated⟩ := hstep
    · exact .inl ⟨e, w, Script.run_collect_cons_error hfailed, rfl, rfl⟩
    · rw [Script.run_collect_cons_ok hcreated]
      obtain ⟨e, w', hrun, hkept⟩ | ⟨w', hrun, hpublished, hserving, hrows⟩ :=
        ih { w with notifications := t }
      · exact .inl ⟨e, w', Script.run_bind_of_run_error hrun, hkept⟩
      · refine .inr ⟨w', Script.run_bind_of_run_ok hrun, hpublished, hserving, ?_⟩
        rw [hrows, Table.insert_eq_some.mp hinsert, List.append_assoc, List.singleton_append]

def newEvents (orgId : Id) (created : List Notification) : List Published :=
  created.map fun n => ⟨roomForUser orgId n.recipientUserId, .new (toNotificationResponse n)⟩

theorem run_publishEach {α : Type} {call : α → Call Unit} (published : α → Published)
    (hcall : ∀ a w, w.serving = true →
      (call a).run w = .ok () { w with published := w.published ++ [published a] })
    (as : List α) (hserving : w.serving = true) :
    ∃ us, (Script.collect call as).run w =
      .ok us { w with published := w.published ++ as.map published } := by
  induction as generalizing w with
  | nil => exact ⟨[], by simp only [List.map_nil, List.append_nil]; rfl⟩
  | cons a as ih =>
    obtain ⟨us, hrun⟩ := @ih { w with published := w.published ++ [published a] } hserving
    refine ⟨() :: us, ?_⟩
    rw [Script.run_collect_cons_ok (hcall a w hserving), Script.run_bind_of_run_ok hrun]
    simp only [List.append_assoc, List.singleton_append, List.map_cons]
    rfl

theorem run_publishToUser (orgId userId : Id) (event : RealtimeEvent) (w : World)
    (hserving : w.serving = true) : (publishToUser orgId userId event).run w =
      .ok () { w with published := w.published ++ [⟨roomForUser orgId userId, event⟩] } := by
  refine (Script.run_atomic _ w).trans ?_
  rw [publish, if_pos hserving]

/-- Either all rows are there and announced, or the call has thrown and announced none. -/
theorem createForUsers_cases (input : CreateForUsersInput) (hserving : w.serving = true) :
    (∃ e w', (createForUsers env input).run w = .error e w' ∧ w'.published = w.published ∧
      w'.serving = true) ∨
    ∃ rs w', (createForUsers env input).run w = .ok rs w' ∧ w'.serving = true ∧
      ∃ rows, (∀ n ∈ rows, n.orgId = input.orgId) ∧
        w'.notifications.rows = w.notifications.rows ++ rows ∧
        w'.published = w.published ++ newEvents input.orgId rows := by
  unfold createForUsers
  split_ifs with hnobody
  · refine .inr ⟨[], w, rfl, hserving, [], fun n hn => absurd hn List.not_mem_nil, ?_, ?_⟩
    · exact (List.append_nil w.notifications.rows).symm
    · exact (List.append_nil w.published).symm
  · generalize hnew : (uniqueUserIds input.userIds).mapIdx (notificationRow env input) = rows
    obtain ⟨e, w', hrun, hpublished, hkept⟩ | ⟨w', hrun, hpublished, hkept, hrows⟩ :=
      run_createRows rows w
    · exact .inl ⟨e, w', Script.run_bind_of_run_error hrun, hpublished, hkept.trans hserving⟩
    · obtain ⟨us, hannounced⟩ := run_publishEach (w := w')
        (fun n : Notification =>
          ⟨roomForUser input.orgId n.recipientUserId, .new (toNotificationResponse n)⟩)
        (fun _ => run_publishToUser _ _ _) rows (hkept.trans hserving)
      refine .inr ⟨rows.map toNotificationResponse,
        { w' with published := w'.published ++ newEvents input.orgId rows }, ?_,
        hkept.trans hserving, rows, fun n hn => ?_, hrows, ?_⟩
      · rw [Script.run_bind_of_run_ok hrun]
        exact Script.run_bind_of_run_ok hannounced
      · rw [← hnew] at hn
        obtain ⟨index, -, rfl⟩ := List.mem_mapIdx.mp hn
        rfl
      · rw [← hpublished]

/-- The notifications that a read-all of the user in the organisations is about. -/
def unreadOf (userId : Id) (orgIds : List Id) (n : Notification) : Bool :=
  n.recipientUserId = userId ∧ n.orgId ∈ orgIds ∧ n.readAt = none ∧ n.dismissedAt = none

def allRead (env : Env) (w : World) (userId : Id) (orgIds : List Id) : World :=
  { w with
    notifications := w.notifications.modifyWhere (unreadOf userId orgIds) (asRead env.now)
    published := w.published ++
      orgIds.map fun orgId => ⟨roomForUser orgId userId, .read_all env.now⟩ }

theorem unreadOf_none {userId : Id} {orgIds : List Id}
    (hnone : w.notifications.rows.countP (unreadOf userId orgIds) = 0) :
    w.notifications.modifyWhere (unreadOf userId orgIds) (asRead env.now) = w.notifications :=
  Table.modifyWhere_eq_self fun n hn =>
    Bool.eq_false_iff.mpr (List.countP_eq_zero.mp hnone n hn)

theorem run_updateMany (q : Notification → Bool) (p : Patch Notification.id) (w : World) :
    (atomic (updateMany q p)).run w = .ok (w.notifications.rows.countP q)
      { w with notifications := w.notifications.modifyWhere q p } :=
  Script.run_atomic _ w

theorem run_markAllRead (userId orgId : Id) (hserving : w.serving = true) :
    final ((markAllRead env userId orgId).run w) =
      if w.notifications.rows.countP (unreadOf userId [orgId]) = 0 then w
      else allRead env w userId [orgId] := by
  have hquery : (fun n : Notification => decide (n.recipientUserId = userId ∧ n.orgId = orgId ∧
      n.readAt = none ∧ n.dismissedAt = none)) = unreadOf userId [orgId] := by
    funext n
    simp only [unreadOf, List.mem_singleton]
  rw [markAllRead, hquery, Script.run_bind_of_run_ok (run_updateMany _ _ w)]
  by_cases hnone : w.notifications.rows.countP (unreadOf userId [orgId]) = 0
  · rw [if_neg (by rw [hnone]; exact lt_irrefl 0), if_pos hnone, unreadOf_none hnone]
    rfl
  · rw [if_pos (Nat.pos_of_ne_zero hnone), if_neg hnone]
    have hpublish := run_publishToUser orgId userId (.read_all env.now) { w with
      notifications := w.notifications.modifyWhere (unreadOf userId [orgId]) (asRead env.now) }
      hserving
    exact congrArg final hpublish

theorem run_markAllReadAcrossOrgs (userId : Id) (orgIds : List Id) (hserving : w.serving = true) :
    final ((markAllReadAcrossOrgs env userId orgIds).run w) =
      if w.notifications.rows.countP (unreadOf userId orgIds) = 0 then w
      else allRead env w userId orgIds := by
  unfold markAllReadAcrossOrgs
  by_cases hempty : orgIds.length = 0
  · obtain rfl := List.eq_nil_of_length_eq_zero hempty
    have hnone : w.notifications.rows.countP (unreadOf userId []) = 0 :=
      List.countP_eq_zero.mpr fun n _ => by simp [unreadOf]
    rw [if_pos hempty, if_pos hnone]
    rfl
  · rw [if_neg hempty]
    change final ((atomic (updateMany (unreadOf userId orgIds) (asRead env.now)) >>= _).run w) = _
    rw [Script.run_bind_of_run_ok (run_updateMany _ _ w)]
    by_cases hnone : w.notifications.rows.countP (unreadOf userId orgIds) = 0
    · rw [if_neg (by rw [hnone]; exact lt_irrefl 0), if_pos hnone, unreadOf_none hnone]
      rfl
    · obtain ⟨us, hrun⟩ := run_publishEach
        (w := { w with notifications :=
          w.notifications.modifyWhere (unreadOf userId orgIds) (asRead env.now) })
        (fun orgId => ⟨roomForUser orgId userId, .read_all env.now⟩)
        (fun _ => run_publishToUser _ _ _) orgIds hserving
      rw [if_pos (Nat.pos_of_ne_zero hnone), if_neg hnone, Script.run_bind_of_run_ok hrun]
      rfl

end Many

end Towerdesk.Notifications.Realtime
