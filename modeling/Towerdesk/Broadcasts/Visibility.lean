import Towerdesk.Messaging.Authority
import Towerdesk.Lib.TimeFeed

/-!
# Who sees a broadcast

A broadcast names the buildings it went to. The listing restricts its query to the buildings
whose broadcasts the user may read, and the detail of one broadcast is refused where none of
its buildings is among them. A user who may read in no building at all restricts nothing.
-/

namespace Towerdesk.Broadcasts

open IsoDate (TimeValue)
open TimeFeed (CursorInfo)

structure Broadcast where
  id : Id
  orgId : Id
  senderUserId : Id
  title : String
  body : Option String := none
  buildingIds : List Id
  recipientCount : ℤ := 0
  metadata : Option String := none
  createdAt : TimeValue
deriving DecidableEq

abbrev BroadcastTable := Table Broadcast.id

structure SenderUser where
  id : Id
  name : Option String
  email : String
deriving DecidableEq

structure BroadcastWithSender extends Broadcast where
  senderUser : Option SenderUser
deriving DecidableEq

abbrev Runtime := TimeFeed.Runtime

structure ListOptions where
  buildingId : Option Id := none
  cursor : Option String := none
  limit : Option ℤ := none

def DEFAULT_LIMIT : ℤ := 20

def MAX_LIMIT : ℤ := 100

def ListOptions.pageLimit (options : ListOptions) : ℕ :=
  TimeFeed.pageLimit DEFAULT_LIMIT MAX_LIMIT options.limit

def rowColumns : TimeFeed.Columns Broadcast := ⟨Broadcast.createdAt, Broadcast.id⟩

def columns : TimeFeed.Columns BroadcastWithSender := ⟨(·.createdAt), (·.id)⟩

namespace BroadcastsRepo

variable {ι : Type*} [LinearOrder ι] (runtime : Runtime ι) (w : World) (t : BroadcastTable)

def withSender (b : Broadcast) : BroadcastWithSender where
  toBroadcast := b
  senderUser := (w.directory.users.findUnique b.senderUserId).map fun u => ⟨u.id, u.name, u.email⟩

def findById (id orgId : Id) : Option BroadcastWithSender :=
  (t.findFirst fun b => b.id = id ∧ b.orgId = orgId).map (withSender w)

/-- `has` of one building and `hasSome` of several; an empty list of buildings asks for nothing. -/
def reaches (buildingId : Option Id) (buildingIds : Option (List Id)) (b : Broadcast) : Bool :=
  (truthy buildingId).all (· ∈ b.buildingIds) &&
    match buildingIds with
    | none => true
    | some ids => if 0 < ids.length then b.buildingIds.any (· ∈ ids) else true

def list (orgId : Id) (buildingId : Option Id) (buildingIds : Option (List Id)) (take : ℕ)
    (cursor : Option CursorInfo) : List BroadcastWithSender :=
  (TimeFeed.findMany runtime rowColumns t.rows
    (fun b => b.orgId = orgId ∧ reaches buildingId buildingIds b) take cursor).map (withSender w)

end BroadcastsRepo

section Service

variable {ι : Type*} [LinearOrder ι] (runtime : Runtime ι) (w : World) (t : BroadcastTable)

def encodeCursor (b : BroadcastWithSender) : String := TimeFeed.encodeCursor columns b

def decodeCursor (cursor : String) : Result CursorInfo :=
  Outcome.orThrow (TimeFeed.decodeCursor runtime cursor) (.badRequest "Invalid cursor")

def readCursor (cursor : Option String) : Result (Option CursorInfo) :=
  match truthy cursor with
  | none => .ok none
  | some cursor => some <$> decodeCursor runtime cursor

def resolveReadableBuildingIds (userId orgId : Id) : Option (List Id) :=
  if "broadcasts.read" ∈ w.access.getUserEffectivePermissions userId (some orgId) none then none
  else some (w.getUserBuildingIdsWithPermission userId orgId "broadcasts.read")

structure BuildingFilter where
  singleBuildingId : Option Id
  buildingIds : Option (List Id)

def resolveListBuildingFilter (orgId : Id) (requestedBuildingId : Option Id)
    (readableBuildingIds : Option (List Id)) : Result BuildingFilter :=
  match truthy requestedBuildingId with
  | none => return ⟨none, readableBuildingIds⟩
  | some requested => do
    let _ ← w.directory.assertBuildingInOrg requested orgId
    Outcome.throwIf (readableBuildingIds.any (requested ∉ ·))
      (.forbidden s!"You do not have permission to read broadcasts for building {requested}")
    return ⟨some requested, none⟩

def assertReadableByUser (userId orgId : Id) (broadcastBuildingIds : List Id) : Result Unit :=
  match resolveReadableBuildingIds w userId orgId with
  | none => pure ()
  | some readable => Outcome.throwIf (broadcastBuildingIds.any (· ∈ readable) = false)
      (.notFound "Broadcast not found")

def getBroadcast (user : AuthenticatedUser) (orgId broadcastId : Id) :
    Result BroadcastWithSender := do
  let broadcast ← Outcome.orThrow (BroadcastsRepo.findById w t broadcastId orgId)
    (.notFound "Broadcast not found")
  assertReadableByUser w user.sub orgId broadcast.buildingIds
  return broadcast

def listBroadcasts (user : AuthenticatedUser) (orgId : Id) (options : ListOptions) :
    Result (List BroadcastWithSender × Option String) := do
  let cursorInfo ← readCursor runtime options.cursor
  let readableBuildingIds := resolveReadableBuildingIds w user.sub orgId
  let buildingFilter ← resolveListBuildingFilter w orgId options.buildingId readableBuildingIds
  let items := BroadcastsRepo.list runtime w t orgId buildingFilter.singleBuildingId
    buildingFilter.buildingIds (options.pageLimit + 1) cursorInfo
  return TimeFeed.cut columns options.pageLimit items

/-- The pages of the listing without a building filter. -/
def listing (user : AuthenticatedUser) (orgId : Id) (limit : Option ℤ) :
    CursorPages.Listing BroadcastWithSender HttpException :=
  fun cursor => listBroadcasts runtime w t user orgId { cursor := cursor, limit := limit }

end Service

/-- The ids that the schema gives are neither empty nor do they have a bar. -/
def UsableIds (t : BroadcastTable) : Prop := ∀ b ∈ t, b.id ≠ "" ∧ '|' ∉ b.id.toList

theorem readCursor_encodeCursor {ι : Type*} {runtime : Runtime ι} {b : Broadcast} (hid : b.id ≠ "")
    (hbar : '|' ∉ b.id.toList) :
    readCursor runtime (some (TimeFeed.encodeCursor rowColumns b)) =
      .ok (some ⟨b.createdAt, b.id⟩) := by
  have htruthy : truthy (some (TimeFeed.encodeCursor rowColumns b)) =
      some (TimeFeed.encodeCursor rowColumns b) :=
    truthy_eq_some.mpr ⟨rfl, CursorText.encode_ne_empty⟩
  have hdecode : TimeFeed.decodeCursor runtime (TimeFeed.encodeCursor rowColumns b) =
      some ⟨b.createdAt, b.id⟩ := TimeFeed.decodeCursor_encode runtime hid hbar
  rw [readCursor, htruthy]
  simp only [decodeCursor, hdecode]
  rfl

section Pages

variable {ι : Type*} [LinearOrder ι] {runtime : Runtime ι} {w : World} {t : BroadcastTable}
  {user : AuthenticatedUser} {orgId : Id} {limit : Option ℤ}

/-- What the query of the listing asks of a broadcast. -/
def listed (w : World) (user : AuthenticatedUser) (orgId : Id) (b : Broadcast) : Bool :=
  b.orgId = orgId ∧
    BroadcastsRepo.reaches none (resolveReadableBuildingIds w user.sub orgId) b

def rowsOf (runtime : Runtime ι) (w : World) (t : BroadcastTable) (user : AuthenticatedUser)
    (orgId : Id) : List Broadcast :=
  TimeFeed.matching runtime rowColumns t.rows (listed w user orgId)

theorem listing_eq (cursor : Option String) : listing runtime w t user orgId limit cursor = (do
    let cursorInfo ← readCursor runtime cursor
    return CursorPages.page (TimeFeed.rowKey runtime rowColumns)
      (TimeFeed.pageLimit DEFAULT_LIMIT MAX_LIMIT limit) (rowsOf runtime w t user orgId)
      (BroadcastsRepo.withSender w) (TimeFeed.encodeCursor rowColumns)
      (cursorInfo.map (TimeFeed.cursorKey runtime))) := by
  have hpage : ∀ cursorInfo, TimeFeed.cut columns (TimeFeed.pageLimit DEFAULT_LIMIT MAX_LIMIT limit)
      (BroadcastsRepo.list runtime w t orgId none (resolveReadableBuildingIds w user.sub orgId)
        (TimeFeed.pageLimit DEFAULT_LIMIT MAX_LIMIT limit + 1) cursorInfo) =
      CursorPages.page (TimeFeed.rowKey runtime rowColumns)
        (TimeFeed.pageLimit DEFAULT_LIMIT MAX_LIMIT limit) (rowsOf runtime w t user orgId)
        (BroadcastsRepo.withSender w) (TimeFeed.encodeCursor rowColumns)
        (cursorInfo.map (TimeFeed.cursorKey runtime)) := by
    intro cursorInfo
    rw [BroadcastsRepo.list, TimeFeed.cut_map rowColumns columns _ (fun _ => rfl) fun _ => rfl,
      TimeFeed.cut_findMany t.nodup]
    simp only [CursorPages.page, List.map_id]
    rfl
  simp only [← hpage]
  rfl

theorem serves (husable : UsableIds t) :
    CursorPages.Serves (TimeFeed.rowKey runtime rowColumns)
      (TimeFeed.pageLimit DEFAULT_LIMIT MAX_LIMIT limit) (rowsOf runtime w t user orgId)
      (listing runtime w t user orgId limit) (BroadcastsRepo.withSender w)
      (TimeFeed.encodeCursor rowColumns) where
  first := by
    rw [listing_eq]
    rfl
  next b hb := by
    obtain ⟨hid, hbar⟩ := husable b (TimeFeed.mem_matching.mp hb).1
    rw [listing_eq, readCursor_encodeCursor hid hbar]
    rfl

theorem listing_walk_iff (husable : UsableIds t) (seen : List BroadcastWithSender) :
    CursorPages.Walk (listing runtime w t user orgId limit) none seen ↔
      seen = (rowsOf runtime w t user orgId).map (BroadcastsRepo.withSender w) :=
  (serves husable).walk_iff (TimeFeed.pageLimit_pos (by decide)) (TimeFeed.pairwise_matching t.nodup)
    seen

end Pages

section Readers

variable {w : World} {t : BroadcastTable} {user : AuthenticatedUser} {orgId : Id} {b : Broadcast}

/-- The user reads the broadcasts of the whole organisation, or of some building of it. -/
def ReadsSomewhere (w : World) (user : AuthenticatedUser) (orgId : Id) : Prop :=
  "broadcasts.read" ∈ w.access.getUserEffectivePermissions user.sub (some orgId) none ∨
    w.getUserBuildingIdsWithPermission user.sub orgId "broadcasts.read" ≠ []

instance : Decidable (ReadsSomewhere w user orgId) :=
  inferInstanceAs (Decidable (_ ∨ _))

theorem readsSomewhere_iff :
    ReadsSomewhere w user orgId ↔ resolveReadableBuildingIds w user.sub orgId ≠ some [] := by
  rw [ReadsSomewhere, resolveReadableBuildingIds]
  split_ifs with hwide
  · exact iff_of_true (.inl hwide) nofun
  · simp [hwide]

theorem assertReadableByUser_ok {buildingIds : List Id} {u : Unit} :
    assertReadableByUser w user.sub orgId buildingIds = .ok u ↔
      ∀ readable, resolveReadableBuildingIds w user.sub orgId = some readable →
        buildingIds.any (· ∈ readable) = true := by
  rw [assertReadableByUser]
  cases resolveReadableBuildingIds w user.sub orgId with
  | none => exact iff_of_true rfl nofun
  | some readable => simp [Outcome.throwIf_eq_ok]

theorem getBroadcast_ok (hb : b ∈ t) (horg : b.orgId = orgId) :
    (∃ found, getBroadcast w t user orgId b.id = .ok found) ↔
      ∀ readable, resolveReadableBuildingIds w user.sub orgId = some readable →
        b.buildingIds.any (· ∈ readable) = true := by
  have hfirst : t.findFirst (fun b' => b'.id = b.id ∧ b'.orgId = orgId) = some b :=
    Table.findFirst_eq_some hb (by simp [horg]) fun b' hb' => (of_decide_eq_true hb').1
  have hfound : BroadcastsRepo.findById w t b.id orgId = some (BroadcastsRepo.withSender w b) := by
    rw [BroadcastsRepo.findById, hfirst, Option.map_some]
  rw [← assertReadableByUser_ok (u := ())]
  constructor
  · rintro ⟨found, h⟩
    obtain ⟨b', hb', h⟩ := Outcome.bind_eq_ok.mp h
    obtain rfl := Option.some.inj (hfound.symm.trans (Outcome.orThrow_eq_ok.mp hb'))
    obtain ⟨u, hread, -⟩ := Outcome.bind_eq_ok.mp h
    exact hread
  · intro hread
    exact ⟨_, Outcome.bind_eq_ok.mpr ⟨_, Outcome.orThrow_eq_ok.mpr hfound,
      Outcome.bind_eq_ok.mpr ⟨(), hread, rfl⟩⟩⟩

theorem listed_iff (horg : b.orgId = orgId) : listed w user orgId b = true ↔
    ∀ readable, resolveReadableBuildingIds w user.sub orgId = some readable → readable ≠ [] →
      b.buildingIds.any (· ∈ readable) = true := by
  rw [listed, decide_eq_true_eq, and_iff_right horg]
  cases resolveReadableBuildingIds w user.sub orgId with
  | none => exact iff_of_true rfl nofun
  | some readable =>
    cases readable with
    | nil => exact iff_of_true rfl fun readable h hne => absurd (Option.some.inj h).symm hne
    | cons id ids => simp [BroadcastsRepo.reaches, truthy]

end Readers

section Claims

variable {ι : Type*} [LinearOrder ι]

/-- The whole listing shows the broadcast exactly when its detail is given out. -/
def SameVisibility (runtime : Runtime ι) (w : World) (t : BroadcastTable)
    (user : AuthenticatedUser) (orgId : Id) (limit : Option ℤ) (b : Broadcast) : Prop :=
  ∃ seen, (∀ seen', CursorPages.Walk (listing runtime w t user orgId limit) none seen' ↔
      seen' = seen) ∧
    ((∃ item ∈ seen, item.id = b.id) ↔ ∃ found, getBroadcast w t user orgId b.id = .ok found)

theorem mem_rowsOf_iff (runtime : Runtime ι) {w : World} {t : BroadcastTable}
    {user : AuthenticatedUser} {orgId : Id} {b : Broadcast} (hb : b ∈ t) :
    (∃ item ∈ (rowsOf runtime w t user orgId).map (BroadcastsRepo.withSender w), item.id = b.id) ↔
      listed w user orgId b = true := by
  constructor
  · rintro ⟨item, hitem, hid⟩
    obtain ⟨b', hb', rfl⟩ := List.mem_map.mp hitem
    obtain ⟨hmem, hlisted⟩ := TimeFeed.mem_matching.mp hb'
    rwa [← t.eq_of_key_eq hmem hb hid]
  · intro hlisted
    exact ⟨_, List.mem_map.mpr ⟨b, TimeFeed.mem_matching.mpr ⟨hb, hlisted⟩, rfl⟩, rfl⟩

/-- The listing and the detail agree about every broadcast of the organisation exactly for those
who read in it somewhere. -/
theorem broadcast_visibility_iff (runtime : Runtime ι) (w : World) {t : BroadcastTable}
    (husable : UsableIds t) (user : AuthenticatedUser) (orgId : Id) (limit : Option ℤ)
    {b : Broadcast} (hb : b ∈ t) (horg : b.orgId = orgId) :
    SameVisibility runtime w t user orgId limit b ↔ ReadsSomewhere w user orgId := by
  have hsame : SameVisibility runtime w t user orgId limit b ↔ (listed w user orgId b = true ↔
      ∃ found, getBroadcast w t user orgId b.id = .ok found) := by
    rw [← mem_rowsOf_iff runtime hb]
    constructor
    · rintro ⟨seen, hwalk, hagree⟩
      rwa [(listing_walk_iff husable _).mp ((hwalk seen).mpr rfl)] at hagree
    · exact fun hagree => ⟨_, listing_walk_iff husable, hagree⟩
  rw [hsame, listed_iff horg, getBroadcast_ok hb horg, readsSomewhere_iff]
  constructor
  · intro hagree hnone
    -- nothing is asked of what is listed, and nothing can be read
    have hall := hagree.mp fun readable hreadable hne =>
      absurd (Option.some.inj (hreadable.symm.trans hnone)) hne
    simpa using hall [] hnone
  · intro hsome
    refine ⟨fun h readable hreadable => h readable hreadable ?_, fun h readable hr _ => h readable hr⟩
    rintro rfl
    exact hsome hreadable

/-- A table with one broadcast to the tower. -/
def towerNews : Broadcast where
  id := "news"
  orgId := "org"
  senderUserId := "manager"
  title := "Water shut-off"
  buildingIds := ["tower"]
  createdAt := .epoch

def newsTable : BroadcastTable := ⟨[towerNews], List.nodup_singleton _⟩

theorem usableIds_newsTable : UsableIds newsTable := by
  intro b hb
  rw [List.mem_singleton.mp hb]
  decide

def newsRuntime : Runtime String where
  collate := .refl String
  replaceMalformed := fun _ => "\uFFFD"
  parseOther := fun _ => none

/-- A user with a role in the tower that reads broadcasts. -/
def towerReader : World where
  access :=
    { permissions := ⟨[⟨"read", "broadcasts.read"⟩], List.nodup_singleton _⟩
      roleTemplates := ⟨[⟨"staff", some "org", "building_staff", true, .BUILDING⟩],
        List.nodup_singleton _⟩
      rolePermissions := ⟨[⟨"staff", "read"⟩], List.nodup_singleton _⟩
      userAccessAssignments := ⟨[⟨"assigned", "anna", "staff", .BUILDING, some "tower"⟩],
        List.nodup_singleton _⟩
      userPermissions := .empty _ }
  directory := .empty
  occupancies := .empty _
  leases := .empty _

theorem tower_reader_sees_news :
    SameVisibility newsRuntime towerReader newsTable ⟨"anna", some "org"⟩ "org" none towerNews :=
  (broadcast_visibility_iff newsRuntime towerReader usableIds_newsTable ⟨"anna", some "org"⟩ "org"
    none List.mem_cons_self rfl).mpr (by decide)

/-- A user without a role is shown the news and refused its detail. -/
theorem reader_of_nothing_shown_news : ¬ ∀ (runtime : Runtime String) (w : World)
    (t : BroadcastTable), UsableIds t → ∀ (user : AuthenticatedUser) (orgId : Id)
      (limit : Option ℤ), ∀ b ∈ t, b.orgId = orgId →
        SameVisibility runtime w t user orgId limit b := by
  intro h
  obtain ⟨seen, hwalk, hagree⟩ := h newsRuntime .empty newsTable usableIds_newsTable
    ⟨"bob", some "org"⟩ "org" none towerNews List.mem_cons_self rfl
  rw [(listing_walk_iff usableIds_newsTable _).mp ((hwalk seen).mpr rfl),
    mem_rowsOf_iff newsRuntime List.mem_cons_self] at hagree
  obtain ⟨found, hfound⟩ := hagree.mp (by decide)
  have hrefused : getBroadcast .empty newsTable ⟨"bob", some "org"⟩ "org" towerNews.id =
      .error (.notFound "Broadcast not found") := by decide
  cases hrefused.symm.trans hfound

end Claims

end Towerdesk.Broadcasts
