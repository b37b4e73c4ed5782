import Towerdesk.Delivery.Services
import Towerdesk.Lib.LivePages
import Towerdesk.Lib.TimeFeed

/-!
# Listing notifications

The notifications of a user, in one organisation or in several, newest first and page by page,
and the count of the unread ones. While a reader turns the pages notifications are read,
dismissed and removed, and newer ones come in.
-/

namespace Towerdesk.Notifications

open IsoDate (TimeValue)
open Delivery (NotificationType)
open TimeFeed (CursorInfo)

structure Notification extends Delivery.NotificationInput where
  id : Id
  readAt : Option TimeValue := none
  dismissedAt : Option TimeValue := none
  createdAt : TimeValue
deriving DecidableEq

abbrev NotificationTable := Table Notification.id

abbrev Runtime := TimeFeed.Runtime

def columns : TimeFeed.Columns Notification := ⟨Notification.createdAt, Notification.id⟩

structure ListOptions where
  unreadOnly : Option Bool := none
  includeDismissed : Option Bool := none
  cursor : Option String := none
  type : Option NotificationType := none
  limit : Option ℤ := none

def DEFAULT_LIMIT : ℤ := 20

def MAX_LIMIT : ℤ := 100

def ListOptions.pageLimit (options : ListOptions) : ℕ :=
  TimeFeed.pageLimit DEFAULT_LIMIT MAX_LIMIT options.limit

namespace NotificationsRepo

variable {ι : Type*} [LinearOrder ι] (runtime : Runtime ι) (t : NotificationTable)

def passes (options : ListOptions) (n : Notification) : Bool :=
  (options.unreadOnly = some true → n.readAt = none) ∧
    (options.includeDismissed ≠ some true → n.dismissedAt = none) ∧
    options.type.all (n.type = ·)

def listForUser (userId orgId : Id) (options : ListOptions) (take : ℕ)
    (cursor : Option CursorInfo) : List Notification :=
  TimeFeed.findMany runtime columns t.rows
    (fun n => n.orgId = orgId ∧ n.recipientUserId = userId ∧ passes options n) take cursor

def listForUserAcrossOrgs (userId : Id) (orgIds : List Id) (options : ListOptions) (take : ℕ)
    (cursor : Option CursorInfo) : List Notification :=
  if orgIds.length = 0 then []
  else TimeFeed.findMany runtime columns t.rows
    (fun n => n.orgId ∈ orgIds ∧ n.recipientUserId = userId ∧ passes options n) take cursor

def countUnread (userId orgId : Id) : ℕ :=
  (t.rows.filter fun n => n.recipientUserId = userId ∧ n.orgId = orgId ∧ n.readAt = none ∧
    n.dismissedAt = none).length

def countUnreadAcrossOrgs (userId : Id) (orgIds : List Id) : ℕ :=
  if orgIds.length = 0 then 0
  else (t.rows.filter fun n => n.recipientUserId = userId ∧ n.orgId ∈ orgIds ∧ n.readAt = none ∧
    n.dismissedAt = none).length

end NotificationsRepo

section Service

variable {ι : Type*} [LinearOrder ι] (runtime : Runtime ι) (t : NotificationTable)

def encodeCursor (n : Notification) : String := TimeFeed.encodeCursor columns n

def decodeCursor (cursor : String) : Result CursorInfo :=
  Outcome.orThrow (TimeFeed.decodeCursor runtime cursor) (.badRequest "Invalid cursor")

def readCursor (cursor : Option String) : Result (Option CursorInfo) :=
  match truthy cursor with
  | none => .ok none
  | some cursor => some <$> decodeCursor runtime cursor

def listForUser (userId orgId : Id) (options : ListOptions) :
    Result (List Notification × Option String) := do
  let cursorInfo ← readCursor runtime options.cursor
  let items := NotificationsRepo.listForUser runtime t userId orgId options
    (options.pageLimit + 1) cursorInfo
  return TimeFeed.cut columns options.pageLimit items

def listForUserAcrossOrgs (userId : Id) (orgIds : List Id) (options : ListOptions) :
    Result (List Notification × Option String) := do
  let cursorInfo ← readCursor runtime options.cursor
  let items := NotificationsRepo.listForUserAcrossOrgs runtime t userId orgIds options
    (options.pageLimit + 1) cursorInfo
  return TimeFeed.cut columns options.pageLimit items

/-- The two listings: of one organisation and of several. -/
inductive Inbox
  | org (orgId : Id)
  | orgs (orgIds : List Id)

def Inbox.orgIds : Inbox → List Id
  | .org orgId => [orgId]
  | .orgs orgIds => orgIds

def Inbox.list (inbox : Inbox) (userId : Id) (options : ListOptions) :
    Result (List Notification × Option String) :=
  match inbox with
  | .org orgId => listForUser runtime t userId orgId options
  | .orgs orgIds => listForUserAcrossOrgs runtime t userId orgIds options

def Inbox.countUnread (inbox : Inbox) (userId : Id) : ℕ :=
  match inbox with
  | .org orgId => NotificationsRepo.countUnread t userId orgId
  | .orgs orgIds => NotificationsRepo.countUnreadAcrossOrgs t userId orgIds

/-- What a reader turns: the pages of the cursors that it is given. -/
def Inbox.listing (inbox : Inbox) (userId : Id) (options : ListOptions) :
    CursorPages.Listing Notification HttpException :=
  fun cursor => inbox.list runtime t userId { options with cursor := cursor }

end Service

def Inbox.wants (inbox : Inbox) (userId : Id) (options : ListOptions) (n : Notification) : Bool :=
  n.orgId ∈ inbox.orgIds ∧ n.recipientUserId = userId ∧ NotificationsRepo.passes options n

/-- The ids that the schema gives are neither empty nor do they have a bar. -/
def UsableIds (t : NotificationTable) : Prop := ∀ n ∈ t, n.id ≠ "" ∧ '|' ∉ n.id.toList

/-- The table at the time of each page. A notification keeps the time it was created at, and
one that comes in is newer than all that were there for the first page. -/
structure Traffic where
  table : ℕ → NotificationTable
  usableIds : ∀ m, UsableIds (table m)
  created : ∀ m m', ∀ n ∈ table m, ∀ n' ∈ table m', n.id = n'.id → n.createdAt = n'.createdAt
  newer : ∀ m, ∀ n ∈ table m,
    (∃ n₀ ∈ table 0, n₀.id = n.id) ∨ ∀ n₀ ∈ table 0, n₀.createdAt < n.createdAt

theorem readCursor_encodeCursor {ι : Type*} {runtime : Runtime ι} {n : Notification}
    (hid : n.id ≠ "") (hbar : '|' ∉ n.id.toList) :
    readCursor runtime (some (encodeCursor n)) = .ok (some ⟨n.createdAt, n.id⟩) := by
  have htruthy : truthy (some (encodeCursor n)) = some (encodeCursor n) :=
    truthy_eq_some.mpr ⟨rfl, CursorText.encode_ne_empty⟩
  have hdecode : TimeFeed.decodeCursor runtime (encodeCursor n) = some ⟨n.createdAt, n.id⟩ :=
    TimeFeed.decodeCursor_encode runtime hid hbar
  rw [readCursor, htruthy]
  simp only [decodeCursor, hdecode]
  rfl

theorem Traffic.rowKey_eq {ι : Type*} {runtime : Runtime ι} (traffic : Traffic) {m m' : ℕ}
    {n n' : Notification} (hn : n ∈ traffic.table m)
    (hn' : n' ∈ traffic.table m') (hid : n.id = n'.id) :
    TimeFeed.rowKey runtime columns n = TimeFeed.rowKey runtime columns n' :=
  TimeFeed.rowKey_inj.mpr ⟨traffic.created m m' n hn n' hn' hid, hid⟩

section Pages

variable {ι : Type*} [LinearOrder ι] {runtime : Runtime ι} {t : NotificationTable} {inbox : Inbox}
  {userId : Id} {options : ListOptions}

def rowsOf (runtime : Runtime ι) (t : NotificationTable) (inbox : Inbox) (userId : Id)
    (options : ListOptions) : List Notification :=
  TimeFeed.matching runtime columns t.rows (inbox.wants userId options)

theorem list_eq : inbox.list runtime t userId options = (do
    let cursorInfo ← readCursor runtime options.cursor
    return CursorPages.page (TimeFeed.rowKey runtime columns) options.pageLimit
      (rowsOf runtime t inbox userId options) id encodeCursor
      (cursorInfo.map (TimeFeed.cursorKey runtime))) := by
  have hpage : ∀ cursor, TimeFeed.cut columns options.pageLimit (TimeFeed.findMany runtime columns
      t.rows (inbox.wants userId options) (options.pageLimit + 1) cursor) =
      CursorPages.page (TimeFeed.rowKey runtime columns) options.pageLimit
        (rowsOf runtime t inbox userId options) id encodeCursor
        (cursor.map (TimeFeed.cursorKey runtime)) := fun cursor => TimeFeed.cut_findMany t.nodup cursor
  simp only [← hpage]
  cases inbox with
  | org orgId =>
    have hwants : Inbox.wants (.org orgId) userId options = fun n => decide (n.orgId = orgId ∧
        n.recipientUserId = userId ∧ NotificationsRepo.passes options n = true) := by
      funext n
      simp only [Inbox.wants, Inbox.orgIds, List.mem_singleton]
    rw [hwants]
    rfl
  | orgs orgIds =>
    have hitems : ∀ take cursor, NotificationsRepo.listForUserAcrossOrgs runtime t userId orgIds
        options take cursor = TimeFeed.findMany runtime columns t.rows
          (Inbox.wants (.orgs orgIds) userId options) take cursor := by
      intro take cursor
      rw [NotificationsRepo.listForUserAcrossOrgs]
      split_ifs with hempty
      · -- without organisations nothing is wanted
        obtain rfl := List.eq_nil_of_length_eq_zero hempty
        have hnone : t.rows.filter (fun n => Inbox.wants (.orgs []) userId options n &&
            TimeFeed.beforeCursor runtime columns cursor n) = [] :=
          List.filter_eq_nil_iff.mpr fun n _ => by simp [Inbox.wants, Inbox.orgIds]
        rw [TimeFeed.findMany, hnone]
        simp [Keyset.sorted]
      · rfl
    simp only [Inbox.list, listForUserAcrossOrgs, hitems]

theorem serves {tables : ℕ → NotificationTable} (husable : ∀ m, UsableIds (tables m)) :
    LivePages.Serves (TimeFeed.rowKey runtime columns) options.pageLimit
      (fun m => rowsOf runtime (tables m) inbox userId options)
      (fun m => inbox.listing runtime (tables m) userId options) encodeCursor where
  first m := by
    rw [Inbox.listing, list_eq]
    rfl
  next m m' n hn := by
    have hmem : n ∈ tables m := (TimeFeed.mem_matching.mp hn).1
    obtain ⟨hid, hbar⟩ := husable m n hmem
    rw [Inbox.listing, list_eq]
    dsimp only
    rw [readCursor_encodeCursor hid hbar]
    rfl

theorem pairwise_rowsOf : (rowsOf runtime t inbox userId options).Pairwise fun a b =>
    TimeFeed.rowKey runtime columns b < TimeFeed.rowKey runtime columns a :=
  TimeFeed.pairwise_matching t.nodup

theorem mem_rowsOf {n : Notification} : n ∈ rowsOf runtime t inbox userId options ↔
    n ∈ t ∧ inbox.wants userId options n = true :=
  TimeFeed.mem_matching

/-- Every page finds the notification among those that are wanted. -/
def Stays (traffic : Traffic) (inbox : Inbox) (userId : Id) (options : ListOptions) (pages : ℕ)
    (id : Id) : Prop :=
  ∀ m < pages, ∃ n ∈ traffic.table m, n.id = id ∧ inbox.wants userId options n = true

end Pages

section Turning

variable {ι : Type*} [LinearOrder ι] {runtime : Runtime ι} {traffic : Traffic} {inbox : Inbox}
  {userId : Id} {options : ListOptions} {pages : List (List Notification)}

theorem Traffic.exists_of_lt {m : ℕ} {n n₀ : Notification} (hn : n ∈ traffic.table m)
    (hn₀ : n₀ ∈ traffic.table 0)
    (hlt : TimeFeed.rowKey runtime columns n < TimeFeed.rowKey runtime columns n₀) :
    ∃ n' ∈ traffic.table 0, n'.id = n.id := by
  refine (traffic.newer m n hn).resolve_right fun hnewer => ?_
  have hlater : n₀.createdAt < n.createdAt := hnewer n₀ hn₀
  obtain hearlier | ⟨hsame, -⟩ := Prod.Lex.toLex_lt_toLex.mp hlt
  · exact lt_asymm hearlier hlater
  · exact hlater.ne' hsame

/-- What the reader is shown of a table that changes. -/
abbrev Turns (runtime : Runtime ι) (traffic : Traffic) (inbox : Inbox) (userId : Id)
    (options : ListOptions) (pages : List (List Notification)) : Prop :=
  LivePages.Walk (fun m => inbox.listing runtime (traffic.table m) userId options) 0 none pages

theorem turns_iff : Turns runtime traffic inbox userId options pages ↔
    LivePages.Visits (TimeFeed.rowKey runtime columns) options.pageLimit
      (fun m => rowsOf runtime (traffic.table m) inbox userId options) 0 none pages :=
  (serves traffic.usableIds).walk_iff

theorem exists_turns (runtime : Runtime ι) (traffic : Traffic) (inbox : Inbox) (userId : Id)
    (options : ListOptions) : ∃ pages, Turns runtime traffic inbox userId options pages := by
  let stock := ((traffic.table 0).rows.map (TimeFeed.rowKey runtime columns)).toFinset
  simp only [turns_iff]
  refine LivePages.exists_visits stock fun m a ha b hb hlt => ?_
  have ha' : a ∈ traffic.table m := (mem_rowsOf.mp ha).1
  obtain ⟨n, hn, hid⟩ := traffic.exists_of_lt ha' (mem_rowsOf.mp hb).1 hlt
  exact List.mem_toFinset.mpr (List.mem_map.mpr ⟨n, hn, traffic.rowKey_eq hn ha' hid⟩)

theorem pairwise_of_turns (h : Turns runtime traffic inbox userId options pages) :
    pages.flatten.Pairwise fun a b =>
      TimeFeed.rowKey runtime columns b < TimeFeed.rowKey runtime columns a :=
  (turns_iff.mp h).pairwise fun _ => pairwise_rowsOf

theorem mem_of_turns (h : Turns runtime traffic inbox userId options pages) :
    ∀ n ∈ pages.flatten, ∃ m, n ∈ traffic.table m ∧ inbox.wants userId options n = true :=
  fun n hn => ((turns_iff.mp h).mem n hn).imp fun _ => mem_rowsOf.mp

theorem nodup_ids_of_turns (h : Turns runtime traffic inbox userId options pages) :
    (pages.flatten.map Notification.id).Nodup := by
  refine List.pairwise_map.mpr ((pairwise_of_turns h).imp_of_mem fun {a b} ha hb hlt hid => ?_)
  obtain ⟨_, ha', -⟩ := mem_of_turns h a ha
  obtain ⟨_, hb', -⟩ := mem_of_turns h b hb
  exact hlt.ne (traffic.rowKey_eq hb' ha' hid.symm)

theorem mem_ids_of_turns (h : Turns runtime traffic inbox userId options pages) {id : Id}
    (hstays : Stays traffic inbox userId options pages.length id) :
    id ∈ pages.flatten.map Notification.id := by
  have hvisits := turns_iff.mp h
  obtain ⟨n, hn, rfl, -⟩ := hstays 0 hvisits.length_pos
  have hrows : ∀ m < pages.length, ∃ a ∈ rowsOf runtime (traffic.table (0 + m)) inbox userId options,
      TimeFeed.rowKey runtime columns a = TimeFeed.rowKey runtime columns n := by
    intro m hm
    obtain ⟨a, ha, hid, hwanted⟩ := hstays m hm
    rw [Nat.zero_add]
    exact ⟨a, mem_rowsOf.mpr ⟨ha, hwanted⟩, traffic.rowKey_eq ha hn hid⟩
  obtain ⟨a, ha, hkey⟩ := hvisits.complete (TimeFeed.pageLimit_pos (by decide))
    (fun _ => pairwise_rowsOf) hrows fun _ hc => by cases hc
  exact List.mem_map.mpr ⟨a, ha, (TimeFeed.rowKey_inj.mp hkey).2⟩

end Turning

section Counting

variable {ι : Type*} [LinearOrder ι] {runtime : Runtime ι} {t : NotificationTable}
  {options : ListOptions}

theorem listing_walk_iff (husable : UsableIds t) (inbox : Inbox) (userId : Id)
    (seen : List Notification) :
    CursorPages.Walk (inbox.listing runtime t userId options) none seen ↔
      seen = rowsOf runtime t inbox userId options := by
  have hserves : LivePages.Serves (TimeFeed.rowKey runtime columns) options.pageLimit
      (fun _ => rowsOf runtime t inbox userId options)
      (fun _ => inbox.listing runtime t userId options) encodeCursor := serves fun _ => husable
  rw [(hserves.constant 0).walk_iff (TimeFeed.pageLimit_pos (by decide)) pairwise_rowsOf, List.map_id]

theorem length_rowsOf_unread (inbox : Inbox) (userId : Id) (hunread : options.unreadOnly = some true)
    (hdismissed : options.includeDismissed ≠ some true) (htype : options.type = none) :
    (rowsOf runtime t inbox userId options).length = inbox.countUnread t userId := by
  have hlength : (rowsOf runtime t inbox userId options).length =
      (t.rows.filter (inbox.wants userId options)).length := Keyset.perm_sorted.length_eq
  have hpasses : ∀ n, NotificationsRepo.passes options n = true ↔
      n.readAt = none ∧ n.dismissedAt = none := by
    intro n
    simp [NotificationsRepo.passes, hunread, hdismissed, htype]
  rw [hlength]
  cases inbox with
  | org orgId =>
    refine congrArg List.length (List.filter_congr fun n _ => decide_eq_decide.mpr ?_)
    rw [hpasses, Inbox.orgIds, List.mem_singleton]
    tauto
  | orgs orgIds =>
    rw [Inbox.countUnread, NotificationsRepo.countUnreadAcrossOrgs]
    split_ifs with hempty
    · obtain rfl := List.eq_nil_of_length_eq_zero hempty
      refine List.length_eq_zero_iff.mpr (List.filter_eq_nil_iff.mpr fun n _ => ?_)
      simp [Inbox.wants, Inbox.orgIds]
    · refine congrArg List.length (List.filter_congr fun n _ => decide_eq_decide.mpr ?_)
      rw [hpasses, Inbox.orgIds]
      tauto

end Counting

end Towerdesk.Notifications
