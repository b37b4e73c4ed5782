import Towerdesk.Residents.ResidentList
import Towerdesk.Lib.NullableKeyset
import Mathlib.Data.Sum.Order

/-!
# Paging through occupancies

The resident directory of a building and its list of occupancies, sorted by one of four fields
and narrowed by a status and a text. Both page by the same cursor, which writes the empty text
for the name of a resident who has none. Sorted by name, pages may then lose occupancies or
repeat them.
-/

namespace Towerdesk.Residents.Occupancies

open IsoDate (TimeValue)
open Leases (ResidentProfile)

structure OccupancyRow where
  id : Id
  buildingId : Id
  unitId : Id
  residentUserId : Id
  status : OccupancyStatus
  startAt : TimeValue
  endAt : Option TimeValue := none
  createdAt : TimeValue
  updatedAt : TimeValue
deriving DecidableEq

structure Db where
  buildings : Table Building.id
  units : Table UnitRow.id
  users : Table ProfileUser.id
  residentProfiles : Table ResidentProfile.userId
  occupancies : Table OccupancyRow.id
  leases : Table Lease.id

/-- An occupancy with its unit and its resident. -/
structure Row extends OccupancyRow where
  unit : UnitRow
  residentUser : ProfileUser
deriving DecidableEq

inductive OccupancySortField
  | createdAt
  | startAt
  | residentName
  | unitLabel
deriving DecidableEq, Repr

inductive StatusFilter
  | status (status : OccupancyStatus)
  | ALL
deriving DecidableEq, Repr

inductive CursorValue
  | text (s : String)
  | date (d : TimeValue)
deriving DecidableEq

structure CursorInfo where
  id : Id
  value : CursorValue

structure CursorPayload where
  v : Option String
  id : Option String

/-- What the lists take from outside the repository: the order of text in the database, where
the empty text is first, and its test for a substring that ignores case, the reading of
malformed UTF-8, and of JSON and dates written otherwise than the cursors are. -/
structure Runtime (ι : Type*) [LinearOrder ι] where
  collate : String ↪ ι
  emptyFirst : ∀ s, collate "" ≤ collate s
  containsInsensitive : String → String → Bool
  replaceMalformed : ByteArray → String
  parseOtherJson : String → Option CursorPayload
  parseOtherDate : String → Option TimeValue

section Query

variable {ι : Type*} [LinearOrder ι] (runtime : Runtime ι) (db : Db)

/-- The occupancies of a building, each with the rows its foreign keys lead to. -/
def rowsOfBuilding (buildingId : Id) : List Row :=
  (db.occupancies.rows.filter (·.buildingId = buildingId)).filterMap fun o => do
    let unit ← db.units.findUnique o.unitId
    let residentUser ← db.users.findUnique o.residentUserId
    return ⟨o, unit, residentUser⟩

def passesStatus (status : StatusFilter) (r : Row) : Bool :=
  match status with
  | .ALL => true
  | .status status => r.status = status

def passesSearch (q : Option String) (r : Row) : Bool :=
  match truthy (q.map trimString) with
  | none => true
  | some q => r.residentUser.name.any (runtime.containsInsensitive · q) ||
      runtime.containsInsensitive r.residentUser.email q ||
      runtime.containsInsensitive r.unit.label q

def sortValue (field : OccupancySortField) (r : Row) : Option CursorValue :=
  match field with
  | .createdAt => some (.date r.createdAt)
  | .startAt => some (.date r.startAt)
  | .residentName => r.residentUser.name.map .text
  | .unitLabel => some (.text r.unit.label)

def valueKey (value : CursorValue) : ι ⊕ₗ TimeValue :=
  match value with
  | .text s => toLex (.inl (runtime.collate s))
  | .date d => toLex (.inr d)

def sortKey (field : OccupancySortField) (r : Row) : Option (ι ⊕ₗ TimeValue) :=
  (sortValue field r).map (valueKey runtime)

def idKey (r : Row) : ι := runtime.collate r.id

/-- `findMany` by a sort field, from behind a cursor where there is one. -/
def findOccupancies (buildingId : Id) (p : Row → Bool) (field : OccupancySortField)
    (order : SortOrder) (cursor : Option CursorInfo) (take : Option ℕ) : List Row :=
  let behind (r : Row) : Bool := cursor.all fun c =>
    NullableKeyset.passes (sortKey runtime field) (idKey runtime) order
      (valueKey runtime c.value, runtime.collate c.id) r
  let rows := order.sort (NullableKeyset.rowKey (sortKey runtime field) (idKey runtime))
    ((rowsOfBuilding db buildingId).filter fun r => p r && behind r)
  match take with
  | none => rows
  | some take => rows.take take

end Query

section Cursor

variable {ι : Type*} [LinearOrder ι] (runtime : Runtime ι)

/-- `JSON.parse`. -/
def Runtime.parseJson (text : String) : Option CursorPayload :=
  match JsonText.parse ["v", "id"] text with
  | some [v, id] => some ⟨some v, some id⟩
  | _ => runtime.parseOtherJson text

/-- `new Date(text)`. -/
def Runtime.newDate (text : String) : Option TimeValue :=
  (IsoDate.parse text.toList).or (runtime.parseOtherDate text)

def cursorText (field : OccupancySortField) (r : Row) : String :=
  match field with
  | .residentName => r.residentUser.name.getD ""
  | .unitLabel => r.unit.label
  | .startAt => .ofList (IsoDate.toISOString r.startAt)
  | .createdAt => .ofList (IsoDate.toISOString r.createdAt)

def encodeSortCursor (field : OccupancySortField) (r : Row) : String :=
  CursorText.ofText (JsonText.stringify [("v", cursorText field r), ("id", r.id)])

def decodeSortCursor (cursor : String) (field : OccupancySortField) : Result CursorInfo := do
  let decoded := CursorText.decodedText runtime.replaceMalformed cursor
  let payload ← Outcome.orThrow (runtime.parseJson decoded) (.badRequest "Invalid cursor")
  let id ← Outcome.orThrow (truthy payload.id) (.badRequest "Invalid cursor")
  let v ← Outcome.orThrow payload.v (.badRequest "Invalid cursor")
  match field with
  | .createdAt | .startAt => do
    let date ← Outcome.orThrow (runtime.newDate v) (.badRequest "Invalid cursor")
    return ⟨id, .date date⟩
  | .residentName | .unitLabel => return ⟨id, .text v⟩

end Cursor

def readCursor (decode : String → OccupancySortField → Result CursorInfo)
    (cursor : Option String) (field : OccupancySortField) : Result (Option CursorInfo) :=
  match truthy cursor with
  | none => .ok none
  | some cursor => some <$> decode cursor field

def findByIdForOrg (db : Db) (orgId buildingId : Id) : Option Building :=
  db.buildings.findFirst fun b => b.id = buildingId ∧ b.orgId = orgId

namespace ResidentsService

structure ResidentDirectoryQueryDto where
  cursor : Option String := none
  limit : Option ℤ := none
  q : Option String := none
  status : Option StatusFilter := none
  sort : Option OccupancySortField := none
  order : Option SortOrder := none
  includeProfile : Option String := none

structure ResidentDirectoryLease where
  leaseId : Id
  status : LeaseStatus
  leaseStartDate : Date
  leaseEndDate : Date
  annualRent : ℚ
deriving DecidableEq

structure ResidentDirectoryRow where
  occupancyId : Id
  residentUserId : Id
  residentName : Option String
  residentEmail : String
  residentPhone : Option String
  residentAvatarUrl : Option String
  unitId : Id
  unitLabel : String
  status : OccupancyStatus
  startAt : TimeValue
  endAt : Option TimeValue
  profile : Option (Option ResidentProfile)
  lease : Option ResidentDirectoryLease
  latestContractId : Option Id
  canAddContract : Bool
  canViewContract : Bool
  canRequestMoveIn : Bool
  canRequestMoveOut : Bool
  canExecuteMoveOut : Bool

variable {ι : Type*} [LinearOrder ι] (runtime : Runtime ι) (db : Db)

def ResidentDirectoryQueryDto.pageLimit (query : ResidentDirectoryQueryDto) : ℕ :=
  (min (max (query.limit.getD 50) 1) 100).toNat

def ResidentDirectoryQueryDto.sortField (query : ResidentDirectoryQueryDto) : OccupancySortField :=
  query.sort.getD .createdAt

def ResidentDirectoryQueryDto.sortOrder (query : ResidentDirectoryQueryDto) : SortOrder :=
  query.order.getD .desc

def ResidentDirectoryQueryDto.passes (query : ResidentDirectoryQueryDto) (r : Row) : Bool :=
  passesStatus (query.status.getD .ALL) r && passesSearch runtime query.q r

def latestContracts (orgId : Id) (residentIds : List Id) : List Lease :=
  if residentIds.length = 0 then []
  else Keyset.sorted (fun l => (toLex (l.leaseStartDate, runtime.collate l.id) : Date ×ₗ ι))
    (db.leases.rows.filter fun l => l.orgId = orgId ∧ l.residentUserId.any (· ∈ residentIds))

structure LatestContract where
  id : Id
  status : LeaseStatus

/-- The first contract that the map is given for a resident is the one it keeps. -/
def latestContractByResident (contracts : List Lease) (residentUserId : Id) :
    Option LatestContract :=
  (contracts.find? fun c => truthy c.residentUserId = some residentUserId).map fun c =>
    ⟨c.id, c.status⟩

def encodeDirectoryCursor (item : Row) (field : OccupancySortField) : String :=
  encodeSortCursor field item

def decodeDirectoryCursor (cursor : String) (field : OccupancySortField) : Result CursorInfo :=
  decodeSortCursor runtime cursor field

def toDirectoryRow (includeProfile : Bool) (contracts : List Lease) (item : Row) :
    ResidentDirectoryRow :=
  let lease := (db.leases.findFirst (·.occupancyId = some item.id)).filter (·.status = .ACTIVE)
  let latestContract := (latestContractByResident contracts item.residentUserId).or
    (lease.map fun l => ⟨l.id, l.status⟩)
  let canRequestMoveOut := decide (item.status = .ACTIVE) && lease.isSome &&
    decide (latestContract.map (·.status) = some .ACTIVE)
  { occupancyId := item.id
    residentUserId := item.residentUserId
    residentName := item.residentUser.name
    residentEmail := item.residentUser.email
    residentPhone := item.residentUser.phone
    residentAvatarUrl := item.residentUser.avatarUrl
    unitId := item.unitId
    unitLabel := item.unit.label
    status := item.status
    startAt := item.startAt
    endAt := item.endAt
    profile := if includeProfile then some (db.residentProfiles.findUnique item.residentUserId)
      else none
    lease := lease.map fun l => ⟨l.id, l.status, l.leaseStartDate, l.leaseEndDate, l.annualRent⟩
    latestContractId := latestContract.map (·.id)
    canAddContract := true
    canViewContract := (truthy (latestContract.map (·.id))).isSome
    canRequestMoveIn := false
    canRequestMoveOut
    canExecuteMoveOut := canRequestMoveOut }

def listResidentDirectory (user : Option AuthenticatedUser) (buildingId : Id)
    (query : ResidentDirectoryQueryDto) : Result (List ResidentDirectoryRow × Option String) := do
  let orgId ← assertOrgScope user
  let _ ← Outcome.orThrow (findByIdForOrg db orgId buildingId) (.notFound "Building not found")
  let cursorInfo ← readCursor (decodeDirectoryCursor runtime) query.cursor query.sortField
  let items := findOccupancies runtime db buildingId (query.passes runtime) query.sortField
    query.sortOrder cursorInfo (some (query.pageLimit + 1))
  let hasMore := query.pageLimit < items.length
  let sliced := if hasMore then items.take query.pageLimit else items
  let contracts := latestContracts runtime db orgId (sliced.map (·.residentUserId)).eraseDups
  return (sliced.map (toDirectoryRow db (query.includeProfile = some "true") contracts),
    if hasMore then sliced.getLast?.map (encodeDirectoryCursor · query.sortField) else none)

/-- The pages of the directory. -/
def directory (user : Option AuthenticatedUser) (buildingId : Id)
    (query : ResidentDirectoryQueryDto) : CursorPages.Listing ResidentDirectoryRow HttpException :=
  fun cursor => listResidentDirectory runtime db user buildingId { query with cursor := cursor }

end ResidentsService

namespace OccupanciesService

/-- The query as validated: a limit is between 1 and 100. -/
structure ListOccupanciesQueryDto where
  status : Option StatusFilter := none
  cursor : Option String := none
  limit : Option ℕ := none
  q : Option String := none
  sort : Option OccupancySortField := none
  order : Option SortOrder := none
  includeProfile : Option String := none
  limitInRange : ∀ n ∈ limit, 1 ≤ n ∧ n ≤ 100

structure OccupancyItem extends Row where
  residentProfile : Option (Option ResidentProfile)

variable {ι : Type*} [LinearOrder ι] (runtime : Runtime ι) (db : Db)

def ListOccupanciesQueryDto.sortField (query : ListOccupanciesQueryDto) : OccupancySortField :=
  query.sort.getD .createdAt

def ListOccupanciesQueryDto.sortOrder (query : ListOccupanciesQueryDto) : SortOrder :=
  query.order.getD .desc

def ListOccupanciesQueryDto.passes (query : ListOccupanciesQueryDto) (r : Row) : Bool :=
  passesStatus (query.status.getD (.status .ACTIVE)) r && passesSearch runtime query.q r

def encodeCursor (item : Row) (field : OccupancySortField) : String := encodeSortCursor field item

def decodeCursor (cursor : String) (field : OccupancySortField) : Result CursorInfo :=
  decodeSortCursor runtime cursor field

def withProfile (includeProfile : Bool) (r : Row) : OccupancyItem where
  toRow := r
  residentProfile := if includeProfile then some (db.residentProfiles.findUnique r.residentUserId)
    else none

def list (user : Option AuthenticatedUser) (buildingId : Id) (query : ListOccupanciesQueryDto) :
    Result (List OccupancyItem × Option String) := do
  let orgId ← assertOrgScope user
  let _ ← Outcome.orThrow (findByIdForOrg db orgId buildingId) (.notFound "Building not found")
  let limit := (query.limit.or ((truthy query.cursor).map fun _ => 50)).filter (· ≠ 0)
  let cursorInfo ← readCursor (decodeCursor runtime) query.cursor query.sortField
  let items := findOccupancies runtime db buildingId (query.passes runtime) query.sortField
    query.sortOrder cursorInfo (limit.map (· + 1))
  let view := withProfile db (query.includeProfile = some "true")
  match limit with
  | none => return (items.map view, none)
  | some limit =>
    let hasMore := limit < items.length
    let sliced := if hasMore then items.take limit else items
    return (sliced.map view,
      if hasMore then sliced.getLast?.map (encodeCursor · query.sortField) else none)

/-- The pages of the list. -/
def pages (user : Option AuthenticatedUser) (buildingId : Id) (query : ListOccupanciesQueryDto) :
    CursorPages.Listing OccupancyItem HttpException :=
  fun cursor => list runtime db user buildingId { query with cursor := cursor }

end OccupanciesService

section Rows

variable {ι : Type*} [LinearOrder ι] {runtime : Runtime ι} {db : Db} {buildingId : Id}
  {field : OccupancySortField} {order : SortOrder} {p : Row → Bool} {r : Row}

theorem nodup_ids : ((rowsOfBuilding db buildingId).map (·.id)).Nodup := by
  have hof : ((db.occupancies.rows.filter (·.buildingId = buildingId)).map (·.id)).Nodup :=
    db.occupancies.nodup.sublist (List.filter_sublist.map _)
  refine Table.nodup_filterMap hof fun o r hr => ?_
  obtain ⟨unit, -, hr⟩ := Option.bind_eq_some_iff.mp hr
  obtain ⟨residentUser, -, hr⟩ := Option.bind_eq_some_iff.mp hr
  rw [← Option.some.inj hr]

theorem nodup_rowKey {value : Row → Option (ι ⊕ₗ TimeValue)} {rows : List Row}
    (hids : (rows.map (·.id)).Nodup) :
    (rows.map (NullableKeyset.rowKey value (idKey runtime))).Nodup := by
  refine List.Nodup.of_map (fun key => (ofLex key).2) ?_
  have hcollate : (rows.map (·.id)).map runtime.collate =
      (rows.map (NullableKeyset.rowKey value (idKey runtime))).map (fun key => (ofLex key).2) := by
    rw [List.map_map, List.map_map]
    rfl
  rw [← hcollate]
  exact hids.map runtime.collate.injective

/-- The rows that match, in the order of the list. -/
def sortedRows (runtime : Runtime ι) (db : Db) (buildingId : Id) (p : Row → Bool)
    (field : OccupancySortField) (order : SortOrder) : List Row :=
  order.sort (NullableKeyset.rowKey (sortKey runtime field) (idKey runtime))
    ((rowsOfBuilding db buildingId).filter p)

theorem sortedRows_perm : (sortedRows runtime db buildingId p field order).Perm
    ((rowsOfBuilding db buildingId).filter p) :=
  Keyset.perm_sorted

theorem nodup_sortedRows : ((sortedRows runtime db buildingId p field order).map (·.id)).Nodup :=
  (sortedRows_perm.map _).nodup_iff.mpr (nodup_ids.sublist (List.filter_sublist.map _))

theorem pairwise_sortedRows : (sortedRows runtime db buildingId p field order).Pairwise fun a b =>
    order.key (NullableKeyset.rowKey (sortKey runtime field) (idKey runtime) b) <
      order.key (NullableKeyset.rowKey (sortKey runtime field) (idKey runtime) a) :=
  Keyset.pairwise_sorted (SortOrder.nodup_key
    (nodup_rowKey (nodup_ids.sublist (List.filter_sublist.map _))))

def cursorPair (runtime : Runtime ι) (c : CursorInfo) : (ι ⊕ₗ TimeValue) × ι :=
  (valueKey runtime c.value, runtime.collate c.id)

theorem findOccupancies_eq (cursor : Option CursorInfo) :
    findOccupancies runtime db buildingId p field order cursor none =
      NullableKeyset.after (sortKey runtime field) (idKey runtime) order
        (cursor.map (cursorPair runtime)) (sortedRows runtime db buildingId p field order) := by
  have hkeys : (((rowsOfBuilding db buildingId).filter p).map fun r =>
      order.key (NullableKeyset.rowKey (sortKey runtime field) (idKey runtime) r)).Nodup :=
    SortOrder.nodup_key (nodup_rowKey (nodup_ids.sublist (List.filter_sublist.map _)))
  have hsplit : ∀ q : Row → Bool, order.sort
      (NullableKeyset.rowKey (sortKey runtime field) (idKey runtime))
      ((rowsOfBuilding db buildingId).filter fun r => p r && q r) =
      (sortedRows runtime db buildingId p field order).filter q := by
    intro q
    rw [sortedRows, SortOrder.sort, SortOrder.sort, ← Keyset.sorted_filter hkeys,
      List.filter_filter]
    simp only [Bool.and_comm]
  rw [findOccupancies]
  dsimp only
  rw [hsplit]
  cases cursor with
  | none => exact List.filter_true _
  | some c => rfl

theorem findOccupancies_take (cursor : Option CursorInfo) (take : ℕ) :
    findOccupancies runtime db buildingId p field order cursor (some take) =
      (findOccupancies runtime db buildingId p field order cursor none).take take := rfl

/-- What the cursor of a row is read back as. -/
def cursorInfoOf (field : OccupancySortField) (r : Row) : CursorInfo where
  id := r.id
  value := (sortValue field r).getD (.text "")

/-- The empty text in the order of the database. -/
def emptyKey (runtime : Runtime ι) : ι ⊕ₗ TimeValue := valueKey runtime (.text "")

theorem cursorPair_cursorInfoOf : cursorPair runtime (cursorInfoOf field r) =
    NullableKeyset.cursorOf (sortKey runtime field) (idKey runtime) (emptyKey runtime) r := by
  rw [cursorPair, NullableKeyset.cursorOf, cursorInfoOf, sortKey]
  cases sortValue field r <;> rfl

theorem emptyKey_le {v : ι ⊕ₗ TimeValue} (h : sortKey runtime field r = some v) :
    emptyKey runtime ≤ v := by
  obtain ⟨value, -, rfl⟩ := Option.map_eq_some_iff.mp h
  cases value with
  | text s => exact Sum.Lex.inl_le_inl_iff.mpr (runtime.emptyFirst s)
  | date d => exact Sum.Lex.inl_le_inr _ _

end Rows

section Cursors

variable {ι : Type*} [LinearOrder ι] {runtime : Runtime ι} {field : OccupancySortField} {r : Row}

theorem encodeSortCursor_ne_empty : encodeSortCursor field r ≠ "" := by
  refine CursorText.ofText_ne_empty fun hempty => ?_
  have hlist := congrArg String.toList hempty
  rw [JsonText.stringify, String.toList_ofList] at hlist
  cases hlist

theorem newDate_toISOString (time : TimeValue) :
    runtime.newDate (.ofList (IsoDate.toISOString time)) = some time := by
  rw [Runtime.newDate, String.toList_ofList, IsoDate.parse_toISOString, Option.some_or]

theorem decodeSortCursor_encode (hid : r.id ≠ "") :
    decodeSortCursor runtime (encodeSortCursor field r) field = .ok (cursorInfoOf field r) := by
  have htext : CursorText.decodedText runtime.replaceMalformed (encodeSortCursor field r) =
      JsonText.stringify [("v", cursorText field r), ("id", r.id)] :=
    CursorText.decodedText_ofText _
  have hparse := JsonText.parse_stringify [("v", cursorText field r), ("id", r.id)]
  simp only [List.map_cons, List.map_nil] at hparse
  have hpayload : runtime.parseJson (JsonText.stringify [("v", cursorText field r), ("id", r.id)]) =
      some ⟨some (cursorText field r), some r.id⟩ := by
    rw [Runtime.parseJson, hparse]
  have hid' : truthy (some r.id) = some r.id := truthy_eq_some.mpr ⟨rfl, hid⟩
  rw [decodeSortCursor, htext, hpayload]
  cases field with
  | createdAt =>
    simp only [Outcome.orThrow, hid', cursorText, newDate_toISOString, bind, Except.bind, pure,
      Except.pure]
    rfl
  | startAt =>
    simp only [Outcome.orThrow, hid', cursorText, newDate_toISOString, bind, Except.bind, pure,
      Except.pure]
    rfl
  | residentName =>
    simp only [Outcome.orThrow, hid', cursorText, bind, Except.bind, pure, Except.pure,
      cursorInfoOf, sortValue]
    cases r.residentUser.name <;> rfl
  | unitLabel =>
    simp only [Outcome.orThrow, hid', cursorText, bind, Except.bind, pure, Except.pure]
    rfl

theorem readCursor_encode (hid : r.id ≠ "") :
    readCursor (decodeSortCursor runtime) (some (encodeSortCursor field r)) field =
      .ok (some (cursorInfoOf field r)) := by
  have hcursor : truthy (some (encodeSortCursor field r)) = some (encodeSortCursor field r) :=
    truthy_eq_some.mpr ⟨rfl, encodeSortCursor_ne_empty⟩
  rw [readCursor, hcursor]
  exact congrArg (some <$> ·) (decodeSortCursor_encode hid)

end Cursors

/-- The ids that the schema gives are not empty. -/
def UsableIds (db : Db) : Prop := ∀ o ∈ db.occupancies, o.id ≠ ""

/-- The pages lose and repeat nothing: the field is not the name, or there is one page, or
every resident has a name, or the nameless come first and leave room on the first page. -/
def PagesWhole {ι : Type*} [LinearOrder ι] (runtime : Runtime ι) (field : OccupancySortField)
    (order : SortOrder) (limit : ℕ) (rows : List Row) : Prop :=
  field ≠ .residentName ∨ rows.length ≤ limit ∨ (∀ r ∈ rows, r.residentUser.name ≠ none) ∨
    order = .desc ∧ ((rows.filter fun r => r.residentUser.name.isNone).length < limit ∨
      (rows.filter fun r => r.residentUser.name.isNone).length = limit ∧
        ∀ r ∈ rows, r.residentUser.name ≠ none → r.residentUser.name = some "" ∧
          ∀ r' ∈ rows, r'.residentUser.name = none →
            runtime.collate r.id < runtime.collate r'.id)

section Pages

variable {ι : Type*} [LinearOrder ι] {runtime : Runtime ι} {db : Db} {buildingId orgId : Id}
  {field : OccupancySortField} {order : SortOrder} {limit : ℕ} {p : Row → Bool} {rows : List Row}

theorem mem_sortedRows {r : Row} (h : r ∈ sortedRows runtime db buildingId p field order) :
    ∃ o ∈ db.occupancies, o.id = r.id := by
  have hmem := (List.mem_filter.mp (sortedRows_perm.mem_iff.mp h)).1
  obtain ⟨o, ho, hrow⟩ := List.mem_filterMap.mp hmem
  obtain ⟨unit, -, hrow⟩ := Option.bind_eq_some_iff.mp hrow
  obtain ⟨resident, -, hrow⟩ := Option.bind_eq_some_iff.mp hrow
  refine ⟨o, (List.mem_filter.mp ho).1, ?_⟩
  rw [← Option.some.inj hrow]

theorem sortKey_residentName {r : Row} : sortKey runtime .residentName r =
    r.residentUser.name.map fun name => valueKey runtime (.text name) := by
  rw [sortKey, sortValue, Option.map_map]
  rfl

theorem sortKey_eq_empty {r : Row} : sortKey runtime .residentName r = some (emptyKey runtime) ↔
    r.residentUser.name = some "" := by
  rw [sortKey_residentName]
  cases r.residentUser.name with
  | none => simp
  | some name =>
    rw [Option.map_some, Option.some.injEq, Option.some.injEq, emptyKey]
    refine ⟨fun h => ?_, fun h => h ▸ rfl⟩
    exact runtime.collate.injective (Sum.inl.inj (toLex.injective h))

theorem sortKey_ne_none {r : Row} (h : field ≠ .residentName) : sortKey runtime field r ≠ none := by
  cases field with
  | residentName => exact absurd rfl h
  | createdAt | startAt | unitLabel => exact Option.some_ne_none _

theorem whole_iff (hperm : rows.Perm ((rowsOfBuilding db buildingId).filter p)) :
    NullableKeyset.Whole (sortKey runtime field) (idKey runtime) (emptyKey runtime) order limit
        rows ↔
      PagesWhole runtime field order limit ((rowsOfBuilding db buildingId).filter p) := by
  by_cases hfield : field = .residentName
  · subst hfield
    have hnone : ∀ r : Row, sortKey runtime .residentName r = none ↔ r.residentUser.name = none :=
      fun r => by rw [sortKey_residentName, Option.map_eq_none_iff]
    have habsent : (NullableKeyset.absent (sortKey runtime .residentName) rows).length =
        (((rowsOfBuilding db buildingId).filter p).filter fun r =>
          r.residentUser.name.isNone).length := by
      have hsame : (fun r : Row => (sortKey runtime .residentName r).isNone) =
          fun r => r.residentUser.name.isNone := by
        funext r
        rw [sortKey_residentName, Option.isNone_map]
      rw [NullableKeyset.absent, hsame]
      exact (hperm.filter _).length_eq
    rw [NullableKeyset.Whole, NullableKeyset.StartsWhole, PagesWhole,
      or_iff_right (not_not.mpr rfl), habsent, hperm.length_eq]
    simp only [ne_eq, hnone, sortKey_eq_empty, hperm.mem_iff, idKey]
  · refine iff_of_true (.inr (.inl fun r _ => sortKey_ne_none hfield)) (.inl hfield)

theorem whole_sortedRows_iff : NullableKeyset.Whole (sortKey runtime field) (idKey runtime)
    (emptyKey runtime) order limit (sortedRows runtime db buildingId p field order) ↔
      PagesWhole runtime field order limit ((rowsOfBuilding db buildingId).filter p) :=
  whole_iff sortedRows_perm

/-- A listing of the matching occupancies loses nothing exactly when its pages are whole. -/
theorem lossless_iff_pagesWhole {β : Type*} {listing : CursorPages.Listing β HttpException}
    {view : Row → β} {ident : β → Id}
    (hserves : NullableKeyset.Serves (sortKey runtime field) (idKey runtime) (emptyKey runtime)
      order limit (sortedRows runtime db buildingId p field order) listing view
      (encodeSortCursor field))
    (hlimit : 0 < limit) (hident : ∀ r, ident (view r) = r.id) :
    CursorPages.Lossless listing ident (((rowsOfBuilding db buildingId).filter p).map (·.id)) ↔
      PagesWhole runtime field order limit ((rowsOfBuilding db buildingId).filter p) := by
  have hids : (sortedRows runtime db buildingId p field order).map (fun r => ident (view r)) =
      (sortedRows runtime db buildingId p field order).map (·.id) := by simp only [hident]
  have hnodup : ((sortedRows runtime db buildingId p field order).map
      fun r => ident (view r)).Nodup := by
    rw [hids]
    exact nodup_sortedRows
  have hsame : (((rowsOfBuilding db buildingId).filter p).map (·.id)).Perm
      ((sortedRows runtime db buildingId p field order).map fun r => ident (view r)) := by
    rw [hids]
    exact (sortedRows_perm.map _).symm
  rw [CursorPages.lossless_congr hsame, ← whole_sortedRows_iff]
  exact hserves.lossless_iff hlimit (fun _ _ _ => emptyKey_le) pairwise_sortedRows hnodup

end Pages

namespace ResidentsService

variable {ι : Type*} [LinearOrder ι] {runtime : Runtime ι} {db : Db} {buildingId orgId : Id}
  {user : Option AuthenticatedUser} {building : Building} {query : ResidentDirectoryQueryDto}

theorem latestContract_eq {residentIds : List Id} {id : Id} (h : id ∈ residentIds) :
    latestContractByResident (latestContracts runtime db orgId residentIds) id =
      latestContractByResident (latestContracts runtime db orgId [id]) id := by
  have hkeys : (db.leases.rows.map fun l =>
      (toLex (l.leaseStartDate, runtime.collate l.id) : Date ×ₗ ι)).Nodup := by
    refine List.Nodup.of_map (fun key => (ofLex key).2) ?_
    rw [List.map_map]
    have hids := db.leases.nodup.map runtime.collate.injective
    rwa [List.map_map] at hids
  have hfind : ∀ ids : List Id, id ∈ ids →
      (latestContracts runtime db orgId ids).find? (fun c => truthy c.residentUserId = some id) =
        (Keyset.sorted (fun l => (toLex (l.leaseStartDate, runtime.collate l.id) : Date ×ₗ ι))
          (db.leases.rows.filter fun l => l.orgId = orgId ∧
            truthy l.residentUserId = some id)).head? := by
    intro ids hmem
    have hne : ids.length ≠ 0 := (List.length_pos_of_mem hmem).ne'
    rw [latestContracts, if_neg hne, ← List.head?_filter, ← Keyset.sorted_filter
      (hkeys.sublist (List.filter_sublist.map _)), List.filter_filter]
    refine congrArg (fun l => (Keyset.sorted _ l).head?) (List.filter_congr fun l _ => ?_)
    have htruthy : truthy l.residentUserId = some id → l.residentUserId.any (· ∈ ids) = true := by
      intro hid
      rw [(truthy_eq_some.mp hid).1]
      simpa using hmem
    by_cases hid : truthy l.residentUserId = some id
    · simp [hid, htruthy hid]
    · simp [hid]
  rw [latestContractByResident, latestContractByResident, hfind _ h,
    hfind _ (List.mem_singleton_self id)]

/-- What the directory shows of an occupancy, whatever page it is on. -/
def view (runtime : Runtime ι) (db : Db) (orgId : Id) (query : ResidentDirectoryQueryDto)
    (item : Row) : ResidentDirectoryRow :=
  toDirectoryRow db (query.includeProfile = some "true")
    (latestContracts runtime db orgId [item.residentUserId]) item

theorem map_toDirectoryRow (items : List Row) :
    items.map (toDirectoryRow db (query.includeProfile = some "true")
      (latestContracts runtime db orgId (items.map (·.residentUserId)).eraseDups)) =
      items.map (view runtime db orgId query) := by
  refine List.map_congr_left fun item hitem => ?_
  have hmem : item.residentUserId ∈ (items.map (·.residentUserId)).eraseDups := by
    rw [List.mem_eraseDups]
    exact List.mem_map_of_mem hitem
  simp only [view, toDirectoryRow, latestContract_eq hmem]

theorem listResidentDirectory_eq (hscope : assertOrgScope user = .ok orgId)
    (hbuilding : findByIdForOrg db orgId buildingId = some building) :
    listResidentDirectory runtime db user buildingId query = (do
      let cursorInfo ← readCursor (decodeDirectoryCursor runtime) query.cursor query.sortField
      return NullableKeyset.page (sortKey runtime query.sortField) (idKey runtime) query.sortOrder
        query.pageLimit (sortedRows runtime db buildingId (query.passes runtime) query.sortField
          query.sortOrder) (view runtime db orgId query) (encodeSortCursor query.sortField)
        (cursorInfo.map (cursorPair runtime))) := by
  rw [listResidentDirectory, hscope]
  change (Outcome.orThrow (findByIdForOrg db orgId buildingId) _ >>= fun _ => _) = _
  rw [hbuilding]
  simp only [findOccupancies_take, findOccupancies_eq, map_toDirectoryRow]
  rfl

theorem directory_eq (hscope : assertOrgScope user = .ok orgId)
    (hbuilding : findByIdForOrg db orgId buildingId = some building) (cursor : Option String) :
    directory runtime db user buildingId query cursor = (do
      let cursorInfo ← readCursor (decodeDirectoryCursor runtime) cursor query.sortField
      return NullableKeyset.page (sortKey runtime query.sortField) (idKey runtime) query.sortOrder
        query.pageLimit (sortedRows runtime db buildingId (query.passes runtime) query.sortField
          query.sortOrder) (view runtime db orgId query) (encodeSortCursor query.sortField)
        (cursorInfo.map (cursorPair runtime))) :=
  @listResidentDirectory_eq ι _ runtime db buildingId orgId user building
    { query with cursor := cursor } hscope hbuilding

theorem serves (husable : UsableIds db) (hscope : assertOrgScope user = .ok orgId)
    (hbuilding : findByIdForOrg db orgId buildingId = some building) :
    NullableKeyset.Serves (sortKey runtime query.sortField) (idKey runtime) (emptyKey runtime)
      query.sortOrder query.pageLimit (sortedRows runtime db buildingId (query.passes runtime)
        query.sortField query.sortOrder) (directory runtime db user buildingId query)
      (view runtime db orgId query) (encodeSortCursor query.sortField) where
  first := by
    rw [directory_eq hscope hbuilding]
    rfl
  next r hr := by
    obtain ⟨o, ho, hid⟩ := mem_sortedRows hr
    have hread : readCursor (decodeDirectoryCursor runtime)
        (some (encodeSortCursor query.sortField r)) query.sortField =
        .ok (some (cursorInfoOf query.sortField r)) := readCursor_encode (hid ▸ husable o ho)
    rw [directory_eq hscope hbuilding, hread, ← cursorPair_cursorInfoOf]
    rfl

theorem directory_lossless_iff (husable : UsableIds db) (hscope : assertOrgScope user = .ok orgId)
    (hbuilding : findByIdForOrg db orgId buildingId = some building) :
    CursorPages.Lossless (directory runtime db user buildingId query) (·.occupancyId)
        (((rowsOfBuilding db buildingId).filter (query.passes runtime)).map (·.id)) ↔
      PagesWhole runtime query.sortField query.sortOrder query.pageLimit
        ((rowsOfBuilding db buildingId).filter (query.passes runtime)) := by
  have hlimit : 0 < query.pageLimit := by
    rw [ResidentDirectoryQueryDto.pageLimit]
    omega
  exact lossless_iff_pagesWhole (serves husable hscope hbuilding) hlimit fun _ => rfl

end ResidentsService

namespace OccupanciesService

variable {ι : Type*} [LinearOrder ι] {runtime : Runtime ι} {db : Db} {buildingId orgId : Id}
  {user : Option AuthenticatedUser} {building : Building} {query : ListOccupanciesQueryDto}
  {limit : ℕ}

theorem list_eq (hscope : assertOrgScope user = .ok orgId)
    (hbuilding : findByIdForOrg db orgId buildingId = some building)
    (hlimit : query.limit = some limit) :
    list runtime db user buildingId query = (do
      let cursorInfo ← readCursor (decodeCursor runtime) query.cursor query.sortField
      return NullableKeyset.page (sortKey runtime query.sortField) (idKey runtime) query.sortOrder
        limit (sortedRows runtime db buildingId (query.passes runtime) query.sortField
          query.sortOrder) (withProfile db (query.includeProfile = some "true"))
        (encodeSortCursor query.sortField) (cursorInfo.map (cursorPair runtime))) := by
  have hpositive : limit ≠ 0 := Nat.ne_of_gt (query.limitInRange limit hlimit).1
  have hasked : (query.limit.or ((truthy query.cursor).map fun _ => 50)).filter (· ≠ 0) =
      some limit := by
    rw [hlimit, Option.some_or, Option.filter_some, if_pos (by simpa using hpositive)]
  rw [list, hscope]
  change (Outcome.orThrow (findByIdForOrg db orgId buildingId) _ >>= fun _ => _) = _
  rw [hbuilding]
  simp only [hasked, Option.map_some, findOccupancies_take, findOccupancies_eq]
  rfl

theorem pages_eq (hscope : assertOrgScope user = .ok orgId)
    (hbuilding : findByIdForOrg db orgId buildingId = some building)
    (hlimit : query.limit = some limit) (cursor : Option String) :
    pages runtime db user buildingId query cursor = (do
      let cursorInfo ← readCursor (decodeCursor runtime) cursor query.sortField
      return NullableKeyset.page (sortKey runtime query.sortField) (idKey runtime) query.sortOrder
        limit (sortedRows runtime db buildingId (query.passes runtime) query.sortField
          query.sortOrder) (withProfile db (query.includeProfile = some "true"))
        (encodeSortCursor query.sortField) (cursorInfo.map (cursorPair runtime))) :=
  @list_eq ι _ runtime db buildingId orgId user building { query with cursor := cursor } limit
    hscope hbuilding hlimit

theorem serves (husable : UsableIds db) (hscope : assertOrgScope user = .ok orgId)
    (hbuilding : findByIdForOrg db orgId buildingId = some building)
    (hlimit : query.limit = some limit) :
    NullableKeyset.Serves (sortKey runtime query.sortField) (idKey runtime) (emptyKey runtime)
      query.sortOrder limit (sortedRows runtime db buildingId (query.passes runtime)
        query.sortField query.sortOrder) (pages runtime db user buildingId query)
      (withProfile db (query.includeProfile = some "true"))
      (encodeSortCursor query.sortField) where
  first := by
    rw [pages_eq hscope hbuilding hlimit]
    rfl
  next r hr := by
    obtain ⟨o, ho, hid⟩ := mem_sortedRows hr
    have hread : readCursor (decodeCursor runtime)
        (some (encodeSortCursor query.sortField r)) query.sortField =
        .ok (some (cursorInfoOf query.sortField r)) := readCursor_encode (hid ▸ husable o ho)
    rw [pages_eq hscope hbuilding hlimit, hread, ← cursorPair_cursorInfoOf]
    rfl

theorem list_eq_of_no_limit (hscope : assertOrgScope user = .ok orgId)
    (hbuilding : findByIdForOrg db orgId buildingId = some building) (hlimit : query.limit = none)
    (hcursor : query.cursor = none) :
    list runtime db user buildingId query =
      .ok ((sortedRows runtime db buildingId (query.passes runtime) query.sortField
        query.sortOrder).map (withProfile db (query.includeProfile = some "true")), none) := by
  have hasked : (query.limit.or ((truthy query.cursor).map fun _ => 50)).filter (· ≠ 0) =
      none := by
    rw [hlimit, hcursor]
    rfl
  rw [list, hscope]
  change (Outcome.orThrow (findByIdForOrg db orgId buildingId) _ >>= fun _ => _) = _
  rw [hbuilding]
  simp only [hasked, Option.map_none, findOccupancies_eq]
  rw [hcursor]
  rfl

theorem lossless_of_no_limit (hscope : assertOrgScope user = .ok orgId)
    (hbuilding : findByIdForOrg db orgId buildingId = some building) (hlimit : query.limit = none) :
    CursorPages.Lossless (pages runtime db user buildingId query) (·.id)
      (((rowsOfBuilding db buildingId).filter (query.passes runtime)).map (·.id)) := by
  have hfirst : pages runtime db user buildingId query none =
      .ok ((sortedRows runtime db buildingId (query.passes runtime) query.sortField
        query.sortOrder).map (withProfile db (query.includeProfile = some "true")), none) :=
    @list_eq_of_no_limit ι _ runtime db buildingId orgId user building
      { query with cursor := none } hscope hbuilding hlimit rfl
  refine ⟨_, .last hfirst, ?_⟩
  rw [List.map_map]
  exact sortedRows_perm.map _

theorem list_lossless_iff (husable : UsableIds db) (hscope : assertOrgScope user = .ok orgId)
    (hbuilding : findByIdForOrg db orgId buildingId = some building) :
    CursorPages.Lossless (pages runtime db user buildingId query) (·.id)
        (((rowsOfBuilding db buildingId).filter (query.passes runtime)).map (·.id)) ↔
      ∀ limit, query.limit = some limit → PagesWhole runtime query.sortField query.sortOrder limit
        ((rowsOfBuilding db buildingId).filter (query.passes runtime)) := by
  cases hlimit : query.limit with
  | none => exact iff_of_true (lossless_of_no_limit hscope hbuilding hlimit) fun _ h => by cases h
  | some limit =>
    have hpositive : 0 < limit := (query.limitInRange limit hlimit).1
    rw [lossless_iff_pagesWhole (serves husable hscope hbuilding hlimit) hpositive fun _ => rfl]
    exact ⟨fun h n hn => Option.some.inj hn ▸ h, fun h => h limit rfl⟩

end OccupanciesService

/-- Both lists of a building page without loss exactly when their pages are whole. -/
theorem occupancy_pages_lossless_iff {ι : Type*} [LinearOrder ι] (runtime : Runtime ι) {db : Db}
    (husable : UsableIds db) {user : Option AuthenticatedUser} {orgId buildingId : Id}
    {building : Building} (hscope : assertOrgScope user = .ok orgId)
    (hbuilding : findByIdForOrg db orgId buildingId = some building) :
    (∀ query : ResidentsService.ResidentDirectoryQueryDto,
      CursorPages.Lossless (ResidentsService.directory runtime db user buildingId query)
          (·.occupancyId)
          (((rowsOfBuilding db buildingId).filter (query.passes runtime)).map (·.id)) ↔
        PagesWhole runtime query.sortField query.sortOrder query.pageLimit
          ((rowsOfBuilding db buildingId).filter (query.passes runtime))) ∧
    ∀ query : OccupanciesService.ListOccupanciesQueryDto,
      CursorPages.Lossless (OccupanciesService.pages runtime db user buildingId query) (·.id)
          (((rowsOfBuilding db buildingId).filter (query.passes runtime)).map (·.id)) ↔
        ∀ limit, query.limit = some limit →
          PagesWhole runtime query.sortField query.sortOrder limit
            ((rowsOfBuilding db buildingId).filter (query.passes runtime)) :=
  ⟨fun _ => ResidentsService.directory_lossless_iff husable hscope hbuilding,
    fun _ => OccupanciesService.list_lossless_iff husable hscope hbuilding⟩

section Lobby

/-- A locale that compares by code points. -/
def plainRuntime : Runtime String where
  collate := Function.Embedding.refl String
  emptyFirst := fun s => by
    rw [← not_lt, String.lt_iff_toList_lt]
    exact List.not_lt_nil _
  containsInsensitive := fun text part => decide (text = part)
  replaceMalformed := fun _ => "\uFFFD"
  parseOtherJson := fun _ => none
  parseOtherDate := fun _ => none

theorem nodup_lobbyBuildings :
    (([⟨"tower", "org", "Tower", "Dubai"⟩] : List Building).map Building.id).Nodup :=
  List.nodup_singleton _

theorem nodup_lobbyUnits : (([⟨"1A", "tower", "1A", none, none⟩,
    ⟨"1B", "tower", "1B", none, none⟩] : List UnitRow).map UnitRow.id).Nodup := by decide

/-- Two neighbours, the second without a name. -/
def lobby : Db where
  buildings := ⟨[⟨"tower", "org", "Tower", "Dubai"⟩], nodup_lobbyBuildings⟩
  units := ⟨[⟨"1A", "tower", "1A", none, none⟩, ⟨"1B", "tower", "1B", none, none⟩],
    nodup_lobbyUnits⟩
  users := ⟨[⟨"ann", "ann@tower.com", some "Ann", none, none⟩,
    ⟨"bo", "bo@tower.com", none, none, none⟩], by decide⟩
  residentProfiles := .empty _
  occupancies := ⟨[⟨"o1", "tower", "1A", "ann", .ACTIVE, .epoch, none, .epoch, .epoch⟩,
    ⟨"o2", "tower", "1B", "bo", .ACTIVE, .epoch, none, .epoch, .epoch⟩], by decide⟩
  leases := .empty _

def byName : ResidentsService.ResidentDirectoryQueryDto where
  limit := some 1
  sort := some .residentName
  order := some .asc

theorem usableIds_lobby : UsableIds lobby := by
  intro o ho
  obtain rfl | ho := List.mem_cons.mp ho
  · decide
  · rw [List.mem_singleton.mp ho]
    decide

theorem findByIdForOrg_lobby :
    findByIdForOrg lobby "org" "tower" = some ⟨"tower", "org", "Tower", "Dubai"⟩ := by decide

theorem lobby_pages_iff :
    (∀ query : ResidentsService.ResidentDirectoryQueryDto,
      CursorPages.Lossless (ResidentsService.directory plainRuntime lobby
          (some ⟨"manager", some "org"⟩) "tower" query) (·.occupancyId)
          (((rowsOfBuilding lobby "tower").filter (query.passes plainRuntime)).map (·.id)) ↔
        PagesWhole plainRuntime query.sortField query.sortOrder query.pageLimit
          ((rowsOfBuilding lobby "tower").filter (query.passes plainRuntime))) ∧
    ∀ query : OccupanciesService.ListOccupanciesQueryDto,
      CursorPages.Lossless (OccupanciesService.pages plainRuntime lobby
          (some ⟨"manager", some "org"⟩) "tower" query) (·.id)
          (((rowsOfBuilding lobby "tower").filter (query.passes plainRuntime)).map (·.id)) ↔
        ∀ limit, query.limit = some limit →
          PagesWhole plainRuntime query.sortField query.sortOrder limit
            ((rowsOfBuilding lobby "tower").filter (query.passes plainRuntime)) :=
  occupancy_pages_lossless_iff plainRuntime usableIds_lobby rfl findByIdForOrg_lobby

theorem not_pagesWhole_lobby : ¬ PagesWhole plainRuntime byName.sortField byName.sortOrder
    byName.pageLimit ((rowsOfBuilding lobby "tower").filter (byName.passes plainRuntime)) := by
  have hlong : ¬ ((rowsOfBuilding lobby "tower").filter (byName.passes plainRuntime)).length ≤
      byName.pageLimit := by decide
  have hnameless : ¬ ∀ r ∈ (rowsOfBuilding lobby "tower").filter (byName.passes plainRuntime),
      r.residentUser.name ≠ none := by decide
  rintro (hfield | hshort | hnamed | ⟨horder, -⟩)
  · exact hfield rfl
  · exact hlong hshort
  · exact hnameless hnamed
  · cases horder

/-- The nameless neighbour is on the second page, which the database leaves empty. -/
theorem nameless_neighbour_unlisted :
    ¬ CursorPages.Lossless (ResidentsService.directory plainRuntime lobby
      (some ⟨"manager", some "org"⟩) "tower" byName) (·.occupancyId)
      (((rowsOfBuilding lobby "tower").filter (byName.passes plainRuntime)).map (·.id)) := by
  rw [ResidentsService.directory_lossless_iff usableIds_lobby rfl findByIdForOrg_lobby]
  exact not_pagesWhole_lobby

end Lobby

end Towerdesk.Residents.Occupancies
