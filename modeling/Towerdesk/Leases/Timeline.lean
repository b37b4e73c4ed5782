import Towerdesk.Leases.Store
import Towerdesk.Directory
import Towerdesk.Lib.CursorText
import Towerdesk.Lib.JsonText
import Towerdesk.Lib.SortOrder
import Mathlib.Data.Prod.Lex

/-!
# The timeline of a lease

The history and the activity of a lease are merged in memory, sorted by time and by the text
of source and identifier, cut to a window of dates and paged by a cursor of all three. Read to
the end in either direction it has every item once.
-/

namespace Towerdesk.Leases.Timeline

open IsoDate (TimeValue)

inductive LeaseActivityAction
  | MOVE_IN
  | MOVE_OUT
  | MOVE_IN_REQUEST_CREATED
  | MOVE_IN_REQUEST_APPROVED
  | MOVE_IN_REQUEST_REJECTED
  | MOVE_OUT_REQUEST_CREATED
  | MOVE_OUT_REQUEST_APPROVED
  | MOVE_OUT_REQUEST_REJECTED
  | CONTRACT_ACTIVATED
  | CONTRACT_CANCELLED
  | DOCUMENT_ADDED
  | DOCUMENT_DELETED
  | ACCESS_CARD_ISSUED
  | ACCESS_CARD_STATUS_CHANGED
  | ACCESS_CARD_DELETED
  | PARKING_STICKER_ISSUED
  | PARKING_STICKER_STATUS_CHANGED
  | PARKING_STICKER_DELETED
  | OCCUPANTS_REPLACED
  | PARKING_ALLOCATED
  | PARKING_ALLOCATION_ENDED
  | VEHICLE_ADDED
  | VEHICLE_UPDATED
  | VEHICLE_DELETED
deriving DecidableEq, Repr

inductive LeaseActivitySource
  | USER
  | SYSTEM
deriving DecidableEq, Repr

inductive LeaseTimelineEventSource
  | HISTORY
  | ACTIVITY
deriving DecidableEq, Repr

inductive LeaseTimelineSource
  | ALL
  | HISTORY
  | ACTIVITY
deriving DecidableEq, Repr

structure LeaseHistoryRow where
  id : Id
  orgId : Id
  leaseId : Id
  action : LeaseHistoryAction
  changedByUserId : Option Id := none
  changes : List LeaseHistoryFieldChange
  createdAt : TimeValue
deriving DecidableEq

structure LeaseActivityRow where
  id : Id
  orgId : Id
  leaseId : Id
  action : LeaseActivityAction
  source : LeaseActivitySource
  changedByUserId : Option Id := none
  payload : List (String × JsonValue)
  createdAt : TimeValue
deriving DecidableEq

structure Db where
  leases : Table Lease.id
  users : Table User.id
  leaseHistory : Table LeaseHistoryRow.id
  leaseActivity : Table LeaseActivityRow.id

structure LeaseActor where
  id : Id
  name : Option String
  email : String
deriving DecidableEq

inductive TimelineAction
  | history (action : LeaseHistoryAction)
  | activity (action : LeaseActivityAction)
deriving DecidableEq

inductive TimelinePayload
  | changes (changes : List LeaseHistoryFieldChange)
  | payload (payload : List (String × JsonValue))
deriving DecidableEq

structure LeaseTimelineItem where
  id : Id
  source : LeaseTimelineEventSource
  action : TimelineAction
  activitySource : Option LeaseActivitySource
  createdAt : TimeValue
  changedByUserId : Option Id
  changedByUser : Option LeaseActor
  payload : TimelinePayload
deriving DecidableEq

structure ListLeaseTimelineQueryDto where
  source : Option LeaseTimelineSource := none
  historyAction : Option LeaseHistoryAction := none
  activityAction : Option LeaseActivityAction := none
  order : Option SortOrder := none
  date_from : Option String := none
  date_to : Option String := none
  cursor : Option String := none
  limit : Option ℤ := none

/-- What the cursor keeps of an item. -/
structure TimelineKey where
  id : Id
  source : LeaseTimelineEventSource
  createdAt : TimeValue

structure TimelineCursorPayload where
  id : Option String
  s : Option String
  v : Option String

namespace LeaseTimelineEventSource

def text : LeaseTimelineEventSource → String
  | .HISTORY => "HISTORY"
  | .ACTIVITY => "ACTIVITY"

def toLowerCase : LeaseTimelineEventSource → String
  | .HISTORY => "history"
  | .ACTIVITY => "activity"

def ofText (s : String) : Option LeaseTimelineEventSource :=
  if s = "HISTORY" then some .HISTORY else if s = "ACTIVITY" then some .ACTIVITY else none

/-- The order of the two sources among items of one time. -/
def rank : LeaseTimelineEventSource → ℕ
  | .ACTIVITY => 0
  | .HISTORY => 1

theorem ofText_text (source : LeaseTimelineEventSource) : ofText source.text = some source := by
  cases source <;> rfl

theorem truthy_text (source : LeaseTimelineEventSource) :
    truthy (some source.text) = some source.text := by
  cases source <;> rfl

end LeaseTimelineEventSource

/-- The text that items of one time are compared by. -/
def comparedText (source : LeaseTimelineEventSource) (id : Id) : String := source.text ++ ":" ++ id

def hexDigits : List Char := "0123456789abcdef".toList

/-- The ids of both tables are version 4 uuids as the database writes them. -/
def isUuid (id : Id) : Bool :=
  (id.toList.splitOn '-').map List.length = [8, 4, 4, 4, 12] ∧
    id.toList.all fun c => c = '-' ∨ c ∈ hexDigits

/-- What the timeline takes from outside the repository: the order of ids in the database, the
reading of malformed UTF-8 and of JSON and dates written otherwise, and the collation of the
runtime's locale. That tells different texts of uuids apart and puts A before H. -/
structure Runtime (ι : Type*) [LinearOrder ι] where
  databaseOrder : Id → ι
  replaceMalformed : ByteArray → String
  parseOtherJson : String → Option TimelineCursorPayload
  parseOtherDate : String → Option TimeValue
  sortKey : String → ι
  apart : ∀ source source' id id', isUuid id = true → isUuid id' = true →
    sortKey (comparedText source id) = sortKey (comparedText source' id') →
      source = source' ∧ id = id'
  activityFirst : ∀ id id', isUuid id = true → isUuid id' = true →
    sortKey (comparedText .ACTIVITY id) < sortKey (comparedText .HISTORY id')

section Runtime

variable {ι : Type*} [LinearOrder ι] (runtime : Runtime ι)

/-- `JSON.parse`. -/
def Runtime.parseJson (text : String) : Option TimelineCursorPayload :=
  match JsonText.parse ["id", "s", "v"] text with
  | some [id, s, v] => some ⟨some id, some s, some v⟩
  | _ => runtime.parseOtherJson text

/-- `new Date(text)`; `none` is the invalid date. -/
def Runtime.newDate (text : String) : Option TimeValue :=
  (IsoDate.parse text.toList).or (runtime.parseOtherDate text)

/-- `left.localeCompare(right)`. -/
def Runtime.localeCompare (left right : String) : ℤ :=
  if runtime.sortKey left < runtime.sortKey right then -1
  else if runtime.sortKey right < runtime.sortKey left then 1 else 0

end Runtime

section Service

variable {ι : Type*} [LinearOrder ι] (runtime : Runtime ι) (db : Db)

def actorOf (userId : Option Id) : Option LeaseActor :=
  (userId.bind db.users.findUnique).map fun u => ⟨u.id, u.name, u.email⟩

def LeaseHistoryRepo.listByLeaseId (orgId leaseId : Id) (action : Option LeaseHistoryAction)
    (order : SortOrder) : List LeaseHistoryRow :=
  order.sort (fun row => toLex (row.createdAt, runtime.databaseOrder row.id))
    (db.leaseHistory.rows.filter fun row =>
      row.orgId = orgId ∧ row.leaseId = leaseId ∧ action.all (row.action = ·))

def LeaseActivityRepo.listByLeaseId (orgId leaseId : Id) (action : Option LeaseActivityAction)
    (order : SortOrder) : List LeaseActivityRow :=
  order.sort (fun row => toLex (row.createdAt, runtime.databaseOrder row.id))
    (db.leaseActivity.rows.filter fun row =>
      row.orgId = orgId ∧ row.leaseId = leaseId ∧ action.all (row.action = ·))

def compareTimelineKeyAsc (a b : TimelineKey) : ℤ :=
  let createdAtDiff := a.createdAt.ms - b.createdAt.ms
  if createdAtDiff ≠ 0 then createdAtDiff
  else runtime.localeCompare (comparedText a.source a.id) (comparedText b.source b.id)

def encodeLeaseTimelineCursor (item : TimelineKey) : String :=
  CursorText.ofText (JsonText.stringify [("id", item.id), ("s", item.source.text),
    ("v", .ofList (IsoDate.toISOString item.createdAt))])

def decodeLeaseTimelineCursor (cursor : String) : Result TimelineKey := do
  let decoded := CursorText.decodedText runtime.replaceMalformed cursor
  let payload ← Outcome.orThrow (runtime.parseJson decoded) (.badRequest "Invalid cursor")
  let id ← Outcome.orThrow (truthy payload.id) (.badRequest "Invalid cursor")
  let s ← Outcome.orThrow (truthy payload.s) (.badRequest "Invalid cursor")
  let v ← Outcome.orThrow (truthy payload.v) (.badRequest "Invalid cursor")
  let source ← Outcome.orThrow (LeaseTimelineEventSource.ofText s) (.badRequest "Invalid cursor")
  let createdAt ← Outcome.orThrow (runtime.newDate v) (.badRequest "Invalid cursor")
  return ⟨id, source, createdAt⟩

def readCursor (cursor : Option String) : Result (Option TimelineKey) :=
  match truthy cursor with
  | none => .ok none
  | some cursor => some <$> decodeLeaseTimelineCursor runtime cursor

def LeaseTimelineItem.key (item : LeaseTimelineItem) : TimelineKey :=
  ⟨item.id, item.source, item.createdAt⟩

def ofHistory (item : LeaseHistoryRow) : LeaseTimelineItem where
  id := item.id
  source := .HISTORY
  action := .history item.action
  activitySource := none
  createdAt := item.createdAt
  changedByUserId := item.changedByUserId
  changedByUser := actorOf db item.changedByUserId
  payload := .changes item.changes

def ofActivity (item : LeaseActivityRow) : LeaseTimelineItem where
  id := item.id
  source := .ACTIVITY
  action := .activity item.action
  activitySource := some item.source
  createdAt := item.createdAt
  changedByUserId := item.changedByUserId
  changedByUser := actorOf db item.changedByUserId
  payload := .payload item.payload

/-- A bound that is an invalid date is compared with nothing. -/
def earlier (a b : Option TimeValue) : Bool :=
  match a, b with
  | some a, some b => a < b
  | _, _ => false

/-- The bounds of a query: there is none, or one that may be an invalid date. -/
structure DateWindow where
  dateFrom : Option (Option TimeValue)
  dateTo : Option (Option TimeValue)

def ListLeaseTimelineQueryDto.window (query : ListLeaseTimelineQueryDto) : DateWindow where
  dateFrom := (truthy query.date_from).map runtime.newDate
  dateTo := (truthy query.date_to).map runtime.newDate

def DateWindow.isReversed (window : DateWindow) : Bool :=
  window.dateFrom.any fun dateFrom => window.dateTo.any fun dateTo => earlier dateTo dateFrom

def DateWindow.has (window : DateWindow) (item : LeaseTimelineItem) : Bool :=
  window.dateFrom.all (fun dateFrom => !earlier (some item.createdAt) dateFrom) &&
    window.dateTo.all fun dateTo => !earlier dateTo (some item.createdAt)

/-- The direction of a comparison: `order === 'asc' ? compared : -compared`. -/
def directed (order : SortOrder) (compared : ℤ) : ℤ :=
  match order with
  | .asc => compared
  | .desc => -compared

def isBehind (order : SortOrder) (cursor : TimelineKey) (item : LeaseTimelineItem) : Bool :=
  match order with
  | .asc => 0 < compareTimelineKeyAsc runtime item.key cursor
  | .desc => compareTimelineKeyAsc runtime item.key cursor < 0

structure LeaseTimelineItemDto where
  id : String
  source : LeaseTimelineEventSource
  action : TimelineAction
  activitySource : Option LeaseActivitySource
  createdAt : TimeValue
  changedByUserId : Option Id
  changedByUser : Option LeaseActor
  payload : TimelinePayload
deriving DecidableEq

def toItemDto (item : LeaseTimelineItem) : LeaseTimelineItemDto where
  id := item.source.toLowerCase ++ ":" ++ item.id
  source := item.source
  action := item.action
  activitySource := item.activitySource
  createdAt := item.createdAt
  changedByUserId := item.changedByUserId
  changedByUser := item.changedByUser
  payload := item.payload

def ListLeaseTimelineQueryDto.pageLimit (query : ListLeaseTimelineQueryDto) : ℕ :=
  (min (max (query.limit.getD 20) 1) 100).toNat

def ListLeaseTimelineQueryDto.direction (query : ListLeaseTimelineQueryDto) : SortOrder :=
  query.order.getD .desc

def findLease (orgId leaseId : Id) : Option Lease :=
  db.leases.findFirst fun lease => lease.id = leaseId ∧ lease.orgId = orgId

/-- The items of both tables, before they are sorted. -/
def mergedItems (orgId leaseId : Id) (query : ListLeaseTimelineQueryDto) :
    List LeaseTimelineItem :=
  let source := query.source.getD .ALL
  let historyItems := if source = .ACTIVITY then [] else
    LeaseHistoryRepo.listByLeaseId runtime db orgId leaseId query.historyAction query.direction
  let activityItems := if source = .HISTORY then [] else
    LeaseActivityRepo.listByLeaseId runtime db orgId leaseId query.activityAction query.direction
  historyItems.map (ofHistory db) ++ activityItems.map (ofActivity db)

def getLeaseTimeline (user : Option AuthenticatedUser) (leaseId : Id)
    (query : ListLeaseTimelineQueryDto) : Result (List LeaseTimelineItemDto × Option String) := do
  let orgId ← assertOrgScope user
  let _ ← Outcome.orThrow (findLease db orgId leaseId) (.notFound "Lease not found")
  Outcome.throwIf ((query.window runtime).isReversed = true)
    (.badRequest "date_to must be on or after date_from")
  let cursor ← readCursor runtime query.cursor
  let sorted := SortOrder.sortBy (fun a b =>
      directed query.direction (compareTimelineKeyAsc runtime a.key b.key))
    (mergedItems runtime db orgId leaseId query)
  let inWindow := sorted.filter (query.window runtime).has
  let timelineItems := match cursor with
    | none => inWindow
    | some cursor => inWindow.filter (isBehind runtime query.direction cursor)
  let hasMore := query.pageLimit < timelineItems.length
  let sliced := if hasMore then timelineItems.take query.pageLimit else timelineItems
  return (sliced.map toItemDto, if hasMore then
    sliced.getLast?.map fun item => encodeLeaseTimelineCursor item.key else none)

/-- The pages of the timeline. -/
def timeline (user : Option AuthenticatedUser) (leaseId : Id) (query : ListLeaseTimelineQueryDto) :
    CursorPages.Listing LeaseTimelineItemDto HttpException :=
  fun cursor => getLeaseTimeline runtime db user leaseId { query with cursor := cursor }

end Service

section Comparing

variable {ι : Type*} [LinearOrder ι] {runtime : Runtime ι}

/-- What the comparing function compares. -/
def comparedKey (runtime : Runtime ι) (k : TimelineKey) : TimeValue ×ₗ ι :=
  toLex (k.createdAt, runtime.sortKey (comparedText k.source k.id))

theorem localeCompare_neg {left right : String} :
    runtime.localeCompare left right < 0 ↔ runtime.sortKey left < runtime.sortKey right := by
  rw [Runtime.localeCompare]
  split_ifs with hlt hgt <;> simp [hlt]

theorem localeCompare_pos {left right : String} :
    0 < runtime.localeCompare left right ↔ runtime.sortKey right < runtime.sortKey left := by
  rw [Runtime.localeCompare]
  split_ifs with hlt hgt
  · simp [hlt.le]
  · simp [hgt]
  · simp [hgt]

theorem compare_neg {a b : TimelineKey} :
    compareTimelineKeyAsc runtime a b < 0 ↔ comparedKey runtime a < comparedKey runtime b := by
  have htime : a.createdAt < b.createdAt ↔ a.createdAt.ms < b.createdAt.ms := Iff.rfl
  have hsame : a.createdAt = b.createdAt ↔ a.createdAt.ms = b.createdAt.ms :=
    TimeValue.ms_injective.eq_iff.symm
  rw [comparedKey, comparedKey, Prod.Lex.toLex_lt_toLex, compareTimelineKeyAsc, htime, hsame]
  dsimp only
  split_ifs with hdiff
  · omega
  · have hms : a.createdAt.ms = b.createdAt.ms := by omega
    simp [localeCompare_neg, hms]

theorem compare_pos {a b : TimelineKey} :
    0 < compareTimelineKeyAsc runtime a b ↔ comparedKey runtime b < comparedKey runtime a := by
  have htime : b.createdAt < a.createdAt ↔ b.createdAt.ms < a.createdAt.ms := Iff.rfl
  have hsame : b.createdAt = a.createdAt ↔ b.createdAt.ms = a.createdAt.ms :=
    TimeValue.ms_injective.eq_iff.symm
  rw [comparedKey, comparedKey, Prod.Lex.toLex_lt_toLex, compareTimelineKeyAsc, htime, hsame]
  dsimp only
  split_ifs with hdiff
  · omega
  · have hms : a.createdAt.ms = b.createdAt.ms := by omega
    simp [localeCompare_pos, hms]

/-- The key of the listing, whose descending order is the order that is asked for. -/
def listKey (runtime : Runtime ι) (order : SortOrder) (item : LeaseTimelineItem) :
    order.Key (TimeValue ×ₗ ι) :=
  order.key (comparedKey runtime item.key)

theorem directed_nonpos {order : SortOrder} {a b : LeaseTimelineItem} :
    directed order (compareTimelineKeyAsc runtime a.key b.key) ≤ 0 ↔
      listKey runtime order b ≤ listKey runtime order a := by
  rw [listKey, listKey, SortOrder.key_le]
  cases order with
  | asc => exact not_lt.symm.trans (not_congr compare_pos)
  | desc =>
    rw [directed, Int.neg_nonpos_iff]
    exact not_lt.symm.trans (not_congr compare_neg)

theorem isBehind_iff {order : SortOrder} {cursor : TimelineKey} {item : LeaseTimelineItem} :
    isBehind runtime order cursor item = true ↔
      listKey runtime order item < order.key (comparedKey runtime cursor) := by
  rw [listKey, SortOrder.key_lt]
  cases order with
  | asc => exact decide_eq_true_iff.trans compare_pos
  | desc => exact decide_eq_true_iff.trans compare_neg

/-- Where an item stands: its time, then its source, then its id in the collation. -/
def place (runtime : Runtime ι) (item : LeaseTimelineItem) : TimeValue ×ₗ ℕ ×ₗ ι :=
  toLex (item.createdAt, toLex (item.source.rank, runtime.sortKey (comparedText item.source item.id)))

theorem place_lt {a b : LeaseTimelineItem} (ha : isUuid a.id = true) (hb : isUuid b.id = true)
    (h : comparedKey runtime a.key < comparedKey runtime b.key) :
    place runtime a < place runtime b := by
  obtain htime | ⟨htime, htext⟩ := Prod.Lex.toLex_lt_toLex.mp h
  · exact Prod.Lex.toLex_lt_toLex.mpr (.inl htime)
  · refine Prod.Lex.toLex_lt_toLex.mpr (.inr ⟨htime, Prod.Lex.toLex_lt_toLex.mpr ?_⟩)
    dsimp only [LeaseTimelineItem.key] at htext
    dsimp only
    cases hsource : a.source <;> cases hsource' : b.source <;> rw [hsource, hsource'] at htext
    · exact .inr ⟨rfl, htext⟩
    · exact absurd htext (runtime.activityFirst _ _ hb ha).not_gt
    · exact .inl Nat.zero_lt_one
    · exact .inr ⟨rfl, htext⟩

end Comparing

section Cursors

variable {ι : Type*} [LinearOrder ι] {runtime : Runtime ι} {k : TimelineKey}

theorem toISOString_ne_empty (time : TimeValue) : String.ofList (IsoDate.toISOString time) ≠ "" := by
  intro hempty
  have hparse := IsoDate.parse_toISOString time
  have hnil : IsoDate.toISOString time = [] := by simpa using congrArg String.toList hempty
  have hnone : IsoDate.parse [] = none := by decide
  rw [hnil, hnone] at hparse
  cases hparse

theorem encode_ne_empty : encodeLeaseTimelineCursor k ≠ "" := by
  refine CursorText.ofText_ne_empty fun hempty => ?_
  have hlist := congrArg String.toList hempty
  rw [JsonText.stringify, String.toList_ofList] at hlist
  cases hlist

theorem readCursor_encode (hid : k.id ≠ "") :
    readCursor runtime (some (encodeLeaseTimelineCursor k)) = .ok (some k) := by
  have hcursor : truthy (some (encodeLeaseTimelineCursor k)) =
      some (encodeLeaseTimelineCursor k) := truthy_eq_some.mpr ⟨rfl, encode_ne_empty⟩
  have htext : CursorText.decodedText runtime.replaceMalformed (encodeLeaseTimelineCursor k) =
      JsonText.stringify [("id", k.id), ("s", k.source.text),
        ("v", .ofList (IsoDate.toISOString k.createdAt))] := CursorText.decodedText_ofText _
  have hparse := JsonText.parse_stringify [("id", k.id), ("s", k.source.text),
    ("v", .ofList (IsoDate.toISOString k.createdAt))]
  simp only [List.map_cons, List.map_nil] at hparse
  have hpayload : runtime.parseJson (JsonText.stringify [("id", k.id), ("s", k.source.text),
      ("v", .ofList (IsoDate.toISOString k.createdAt))]) =
      some ⟨some k.id, some k.source.text, some (.ofList (IsoDate.toISOString k.createdAt))⟩ := by
    rw [Runtime.parseJson, hparse]
  have hid' : truthy (some k.id) = some k.id := truthy_eq_some.mpr ⟨rfl, hid⟩
  have htime : truthy (some (String.ofList (IsoDate.toISOString k.createdAt))) =
      some (.ofList (IsoDate.toISOString k.createdAt)) :=
    truthy_eq_some.mpr ⟨rfl, toISOString_ne_empty _⟩
  have hdate : runtime.newDate (.ofList (IsoDate.toISOString k.createdAt)) = some k.createdAt := by
    rw [Runtime.newDate, String.toList_ofList, IsoDate.parse_toISOString, Option.some_or]
  have hdecode : decodeLeaseTimelineCursor runtime (encodeLeaseTimelineCursor k) = .ok k := by
    rw [decodeLeaseTimelineCursor, htext, hpayload]
    simp only [Outcome.orThrow, hid', htime, LeaseTimelineEventSource.truthy_text,
      LeaseTimelineEventSource.ofText_text, hdate, bind, Except.bind, pure, Except.pure]
  rw [readCursor, hcursor]
  exact congrArg (some <$> ·) hdecode

end Cursors

section Items

variable {ι : Type*} [LinearOrder ι] {runtime : Runtime ι} {db : Db} {orgId leaseId : Id}
  {query : ListLeaseTimelineQueryDto} {item : LeaseTimelineItem}

/-- The ids of both tables are the uuids the schema gives them. -/
structure Db.UuidIds (db : Db) : Prop where
  history : ∀ row ∈ db.leaseHistory, isUuid row.id = true
  activity : ∀ row ∈ db.leaseActivity, isUuid row.id = true

/-- The history that the query asks for. -/
def historyOf (db : Db) (orgId leaseId : Id) (query : ListLeaseTimelineQueryDto) :
    List LeaseHistoryRow :=
  if query.source = some .ACTIVITY then []
  else db.leaseHistory.rows.filter fun row =>
    row.orgId = orgId ∧ row.leaseId = leaseId ∧ query.historyAction.all (row.action = ·)

def activityOf (db : Db) (orgId leaseId : Id) (query : ListLeaseTimelineQueryDto) :
    List LeaseActivityRow :=
  if query.source = some .HISTORY then []
  else db.leaseActivity.rows.filter fun row =>
    row.orgId = orgId ∧ row.leaseId = leaseId ∧ query.activityAction.all (row.action = ·)

/-- The items that match the query: of both tables, within the window of dates. -/
def matching (runtime : Runtime ι) (db : Db) (orgId leaseId : Id)
    (query : ListLeaseTimelineQueryDto) : List LeaseTimelineItem :=
  ((historyOf db orgId leaseId query).map (ofHistory db) ++
    (activityOf db orgId leaseId query).map (ofActivity db)).filter (query.window runtime).has

theorem source_getD {source : Option LeaseTimelineSource} {s : LeaseTimelineSource} (h : s ≠ .ALL) :
    source.getD .ALL = s ↔ source = some s := by
  cases source with
  | none => simpa using h.symm
  | some _ => simp

theorem mergedItems_perm : (mergedItems runtime db orgId leaseId query).Perm
    ((historyOf db orgId leaseId query).map (ofHistory db) ++
      (activityOf db orgId leaseId query).map (ofActivity db)) := by
  have hhistory : query.source.getD .ALL = .ACTIVITY ↔ query.source = some .ACTIVITY :=
    source_getD nofun
  have hactivity : query.source.getD .ALL = .HISTORY ↔ query.source = some .HISTORY :=
    source_getD nofun
  simp only [mergedItems, hhistory, hactivity, historyOf, activityOf]
  refine List.Perm.append (List.Perm.map _ ?_) (List.Perm.map _ ?_)
  · split_ifs
    · exact .refl _
    · exact Keyset.perm_sorted
  · split_ifs
    · exact .refl _
    · exact Keyset.perm_sorted

theorem nodup_historyOf : ((historyOf db orgId leaseId query).map LeaseHistoryRow.id).Nodup := by
  rw [historyOf]
  split_ifs
  · exact List.nodup_nil
  · exact db.leaseHistory.nodup.sublist (List.filter_sublist.map _)

theorem nodup_activityOf : ((activityOf db orgId leaseId query).map LeaseActivityRow.id).Nodup := by
  rw [activityOf]
  split_ifs
  · exact List.nodup_nil
  · exact db.leaseActivity.nodup.sublist (List.filter_sublist.map _)

theorem mem_historyOf {row : LeaseHistoryRow} (h : row ∈ historyOf db orgId leaseId query) :
    row ∈ db.leaseHistory := by
  unfold historyOf at h
  split_ifs at h
  · cases h
  · exact (List.mem_filter.mp h).1

theorem mem_activityOf {row : LeaseActivityRow} (h : row ∈ activityOf db orgId leaseId query) :
    row ∈ db.leaseActivity := by
  unfold activityOf at h
  split_ifs at h
  · cases h
  · exact (List.mem_filter.mp h).1

theorem isUuid_of_mem (hids : db.UuidIds)
    (h : item ∈ mergedItems runtime db orgId leaseId query) : isUuid item.id = true := by
  obtain hhistory | hactivity := List.mem_append.mp (mergedItems_perm.mem_iff.mp h)
  · obtain ⟨row, hrow, rfl⟩ := List.mem_map.mp hhistory
    exact hids.history row (mem_historyOf hrow)
  · obtain ⟨row, hrow, rfl⟩ := List.mem_map.mp hactivity
    exact hids.activity row (mem_activityOf hrow)

/-- Ids may be equal across the two tables: the source tells their items apart. -/
theorem nodup_sources : ((mergedItems runtime db orgId leaseId query).map
    fun item => (item.source, item.id)).Nodup := by
  refine (mergedItems_perm.map _).nodup_iff.mpr ?_
  rw [List.map_append, List.map_map, List.map_map]
  refine List.nodup_append.mpr ⟨?_, ?_, ?_⟩
  · refine List.Nodup.of_map Prod.snd ?_
    rw [List.map_map]
    exact nodup_historyOf
  · refine List.Nodup.of_map Prod.snd ?_
    rw [List.map_map]
    exact nodup_activityOf
  · intro a ha b hb hab
    obtain ⟨row, -, rfl⟩ := List.mem_map.mp ha
    obtain ⟨row', -, rfl⟩ := List.mem_map.mp hb
    cases congrArg Prod.fst hab

theorem nodup_comparedKey (hids : db.UuidIds) : ((mergedItems runtime db orgId leaseId query).map
    fun item => comparedKey runtime item.key).Nodup := by
  have hnodup : (mergedItems runtime db orgId leaseId query).Nodup := nodup_sources.of_map
  refine (List.nodup_map_iff_inj_on hnodup).mpr fun a ha b hb hab => ?_
  have htext := congrArg (fun key => (ofLex key).2) hab
  obtain ⟨hsource, hid⟩ :=
    runtime.apart _ _ _ _ (isUuid_of_mem hids ha) (isUuid_of_mem hids hb) htext
  exact List.inj_on_of_nodup_map nodup_sources ha hb (Prod.ext hsource hid)

end Items

section Pages

variable {ι : Type*} [LinearOrder ι] {runtime : Runtime ι} {db : Db} {orgId leaseId : Id}
  {query : ListLeaseTimelineQueryDto} {user : Option AuthenticatedUser} {lease : Lease}

/-- The items of the query in the order that it asks for. -/
def itemsOf (runtime : Runtime ι) (db : Db) (orgId leaseId : Id)
    (query : ListLeaseTimelineQueryDto) : List LeaseTimelineItem :=
  (Keyset.sorted (listKey runtime query.direction)
    (mergedItems runtime db orgId leaseId query)).filter (query.window runtime).has

theorem itemsOf_perm :
    (itemsOf runtime db orgId leaseId query).Perm (matching runtime db orgId leaseId query) :=
  (Keyset.perm_sorted.trans mergedItems_perm).filter _

theorem pairwise_itemsOf (hids : db.UuidIds) : (itemsOf runtime db orgId leaseId query).Pairwise
    fun a b => listKey runtime query.direction b < listKey runtime query.direction a :=
  (Keyset.pairwise_sorted (SortOrder.nodup_key (nodup_comparedKey hids))).filter _

theorem pairwise_place (hids : db.UuidIds) : (itemsOf runtime db orgId leaseId query).Pairwise
    fun a b => query.direction.Behind (place runtime b) (place runtime a) := by
  have hmem : ∀ item ∈ itemsOf runtime db orgId leaseId query, isUuid item.id = true :=
    fun item hitem => isUuid_of_mem hids (Keyset.mem_sorted.mp (List.mem_filter.mp hitem).1)
  refine (pairwise_itemsOf hids).imp_of_mem fun {a b} ha hb hlt => ?_
  have hbehind := SortOrder.key_lt.mp hlt
  generalize query.direction = order at hbehind ⊢
  cases order with
  | asc => exact place_lt (hmem a ha) (hmem b hb) hbehind
  | desc => exact place_lt (hmem b hb) (hmem a ha) hbehind

theorem getLeaseTimeline_eq (hscope : assertOrgScope user = .ok orgId)
    (hlease : findLease db orgId leaseId = some lease)
    (hwindow : (query.window runtime).isReversed = false) :
    getLeaseTimeline runtime db user leaseId query = (do
      let cursorInfo ← readCursor runtime query.cursor
      return CursorPages.page (listKey runtime query.direction) query.pageLimit
        (itemsOf runtime db orgId leaseId query) toItemDto
        (fun item => encodeLeaseTimelineCursor item.key)
        (cursorInfo.map fun k => query.direction.key (comparedKey runtime k))) := by
  have hsorted : SortOrder.sortBy (fun a b =>
        directed query.direction (compareTimelineKeyAsc runtime a.key b.key))
      (mergedItems runtime db orgId leaseId query) =
      Keyset.sorted (listKey runtime query.direction)
        (mergedItems runtime db orgId leaseId query) :=
    SortOrder.sortBy_eq _ fun _ _ => directed_nonpos
  have hcut : ∀ cursorInfo : Option TimelineKey, (match cursorInfo with
      | none => itemsOf runtime db orgId leaseId query
      | some k => (itemsOf runtime db orgId leaseId query).filter
          (isBehind runtime query.direction k)) =
      Keyset.below (listKey runtime query.direction) (itemsOf runtime db orgId leaseId query)
        (cursorInfo.map fun k => query.direction.key (comparedKey runtime k)) := by
    intro cursorInfo
    cases cursorInfo with
    | none => rfl
    | some k =>
      refine List.filter_congr fun item _ => ?_
      exact Bool.eq_iff_iff.mpr (isBehind_iff.trans decide_eq_true_iff.symm)
  have hpage := fun cursorInfo => CursorPages.page_of_below (listKey runtime query.direction)
    query.pageLimit (itemsOf runtime db orgId leaseId query) toItemDto
    (fun item => encodeLeaseTimelineCursor item.key) _ (hcut cursorInfo)
  have hordered : Outcome.throwIf ((query.window runtime).isReversed = true)
      (HttpException.badRequest "date_to must be on or after date_from") = .ok () :=
    Outcome.throwIf_eq_ok.mpr (by simp [hwindow])
  simp only [← hpage]
  rw [getLeaseTimeline, hscope]
  change (Outcome.orThrow (findLease db orgId leaseId) _ >>= fun _ => _) = _
  rw [hlease]
  change (Outcome.throwIf _ _ >>= fun _ => _) = _
  rw [hordered, hsorted]
  rfl

theorem timeline_eq (hscope : assertOrgScope user = .ok orgId)
    (hlease : findLease db orgId leaseId = some lease)
    (hwindow : (query.window runtime).isReversed = false) (cursor : Option String) :
    timeline runtime db user leaseId query cursor = (do
      let cursorInfo ← readCursor runtime cursor
      return CursorPages.page (listKey runtime query.direction) query.pageLimit
        (itemsOf runtime db orgId leaseId query) toItemDto
        (fun item => encodeLeaseTimelineCursor item.key)
        (cursorInfo.map fun k => query.direction.key (comparedKey runtime k))) :=
  @getLeaseTimeline_eq ι _ runtime db orgId leaseId { query with cursor := cursor } user lease
    hscope hlease hwindow

theorem not_isUuid_empty : isUuid "" = false := by
  decide

theorem serves (hids : db.UuidIds) (hscope : assertOrgScope user = .ok orgId)
    (hlease : findLease db orgId leaseId = some lease)
    (hwindow : (query.window runtime).isReversed = false) :
    CursorPages.Serves (listKey runtime query.direction) query.pageLimit
      (itemsOf runtime db orgId leaseId query) (timeline runtime db user leaseId query) toItemDto
      (fun item => encodeLeaseTimelineCursor item.key) where
  first := by
    rw [timeline_eq hscope hlease hwindow]
    rfl
  next item hitem := by
    have hid : item.id ≠ "" := by
      intro hempty
      have huuid := isUuid_of_mem hids (Keyset.mem_sorted.mp (List.mem_filter.mp hitem).1)
      rw [hempty, not_isUuid_empty] at huuid
      cases huuid
    have hread : readCursor runtime (some (encodeLeaseTimelineCursor item.key)) =
        .ok (some item.key) := readCursor_encode hid
    rw [timeline_eq hscope hlease hwindow, hread]
    rfl

/-- Read to its end the timeline has every item of the query once, in the order of time, source
and id, in the direction that is asked for. -/
theorem lease_timeline_lossless {ι : Type*} [LinearOrder ι] (runtime : Runtime ι) {db : Db}
    (hids : db.UuidIds) {user : Option AuthenticatedUser} {orgId leaseId : Id} {lease : Lease}
    {query : ListLeaseTimelineQueryDto} (hscope : assertOrgScope user = .ok orgId)
    (hlease : findLease db orgId leaseId = some lease)
    (hwindow : (query.window runtime).isReversed = false) :
    ∃ items : List LeaseTimelineItem, items.Perm (matching runtime db orgId leaseId query) ∧
      (items.Pairwise fun a b => query.direction.Behind (place runtime b) (place runtime a)) ∧
      ∀ seen, CursorPages.Walk (timeline runtime db user leaseId query) none seen ↔
        seen = items.map toItemDto := by
  have hlimit : 0 < query.pageLimit := by
    rw [ListLeaseTimelineQueryDto.pageLimit]
    omega
  exact ⟨itemsOf runtime db orgId leaseId query, itemsOf_perm, pairwise_place hids,
    (serves hids hscope hlease hwindow).walk_iff hlimit (pairwise_itemsOf hids)⟩

end Pages

section FirstDay

theorem toList_comparedText (source : LeaseTimelineEventSource) (id : Id) :
    (comparedText source id).toList = source.text.toList ++ ':' :: id.toList := by
  simp [comparedText]

/-- A locale that compares by code points. -/
def plainRuntime : Runtime String where
  databaseOrder := id
  replaceMalformed := fun _ => "\uFFFD"
  parseOtherJson := fun _ => none
  parseOtherDate := fun _ => none
  sortKey := id
  apart := by
    intro source source' i i' _ _ h
    have htext := congrArg String.toList h
    simp only [id_eq, toList_comparedText] at htext
    cases source <;> cases source'
    · exact ⟨rfl, String.toList_injective (List.cons.inj (List.append_cancel_left htext)).2⟩
    · cases htext
    · cases htext
    · exact ⟨rfl, String.toList_injective (List.cons.inj (List.append_cancel_left htext)).2⟩
  activityFirst := by
    intro i i' _ _
    rw [id_eq, id_eq, String.lt_iff_toList_lt, toList_comparedText, toList_comparedText]
    exact List.cons_lt_cons_iff.mpr (.inl (by decide))

def firstLease : Lease where
  toContractSnapshot := .blank
  toMoveOutSettlement := .blank
  leaseStartDate := 0
  leaseEndDate := 1000
  tenancyRegistrationExpiry := none
  noticeGivenDate := none
  annualRent := 60000
  paymentFrequency := .ANNUAL
  numberOfCheques := none
  securityDepositAmount := 3000
  internetTvProvider := none
  serviceChargesPaidBy := none
  vatApplicable := none
  notes := none
  firstPaymentReceived := none
  firstPaymentAmount := none
  depositReceived := none
  depositReceivedAmount := none
  id := "lease"
  orgId := "org"
  buildingId := "tower"
  unitId := "1A"
  occupancyId := none
  residentUserId := none
  status := .DRAFT
  createdAt := 0
  updatedAt := 0

/-- One id in both tables, at one time. -/
def firstDay : Db where
  leases := ⟨[firstLease], List.nodup_singleton _⟩
  users := .empty _
  leaseHistory := ⟨[⟨"7f1c0c4e-3b52-4f0e-9d55-0c9a1b2e3d40", "org", "lease", .CREATED, none, [],
    .epoch⟩], List.nodup_singleton _⟩
  leaseActivity := ⟨[⟨"7f1c0c4e-3b52-4f0e-9d55-0c9a1b2e3d40", "org", "lease", .MOVE_IN, .USER, none,
    [], .epoch⟩], List.nodup_singleton _⟩

theorem firstDay_uuidIds : firstDay.UuidIds where
  history row hrow := by
    rw [List.mem_singleton.mp hrow]
    decide +kernel
  activity row hrow := by
    rw [List.mem_singleton.mp hrow]
    decide +kernel

theorem findLease_firstDay : findLease firstDay "org" "lease" = some firstLease := by
  decide

theorem lease_timeline_of_first_day : ∃ items : List LeaseTimelineItem,
    items.Perm (matching plainRuntime firstDay "org" "lease" { limit := some 1 }) ∧
    (items.Pairwise fun a b => SortOrder.desc.Behind (place plainRuntime b) (place plainRuntime a)) ∧
    ∀ seen, CursorPages.Walk (timeline plainRuntime firstDay (some ⟨"manager", some "org"⟩) "lease"
      { limit := some 1 }) none seen ↔ seen = items.map toItemDto :=
  lease_timeline_lossless plainRuntime firstDay_uuidIds rfl findLease_firstDay (by decide)

end FirstDay

end Towerdesk.Leases.Timeline
