import Towerdesk.Leases.Store
import Towerdesk.Lib.CursorPages
import Towerdesk.Lib.CursorText
import Towerdesk.Lib.JsonText
import Towerdesk.Residents.InviteList

/-!
# The list of residents

The residents of an organisation, newest first and page by page, narrowed by a status and by
a text. The conditions of the query are written into one object under their names, each in
its turn.
-/

namespace Towerdesk.Residents

open IsoDate (TimeValue)
open Leases (ResidentProfile)

structure OrgUser extends User where
  avatarUrl : Option String
  mustChangePassword : Bool
  createdAt : TimeValue
  updatedAt : TimeValue
deriving DecidableEq

def OrgUser.key (u : OrgUser) : Id := u.id

structure ListDb where
  users : Table OrgUser.key
  ids : ∀ u ∈ users, u.id ≠ ""
  residentProfiles : Table ResidentProfile.userId
  occupancies : Table Occupancy.id
  residentInvites : Table Auth.ResidentInvite.tokenHash
  buildings : Table Building.id
  units : Table UnitRow.id

structure OrgResidentCursorPayload where
  createdAt : Option String
  id : Option String

structure OrgResidentCursor where
  id : Id
  createdAt : TimeValue

/-- What the list takes from outside the repository: the order of text in the database and its
test for a substring that ignores case, the reading of malformed UTF-8, and of JSON and dates
written otherwise than the cursors are. -/
structure ListRuntime (ι : Type*) where
  collate : Id ↪ ι
  containsInsensitive : String → String → Bool
  replaceMalformed : ByteArray → String
  parseOtherJson : String → Option OrgResidentCursorPayload
  parseOtherDate : String → Option TimeValue

inductive ResidentListStatus
  | ALL | WITH_OCCUPANCY | WITHOUT_OCCUPANCY | NEW | FORMER
deriving DecidableEq, Repr

inductive ResidentStatusCategory
  | ACTIVE | NEW | FORMER
deriving DecidableEq, Repr

structure ListOrgResidentsQueryDto where
  cursor : Option String := none
  limit : Option ℤ := none
  q : Option String := none
  status : Option ResidentListStatus := none
  includeProfile : Option String := none

structure ProfileUser where
  id : Id
  email : String
  name : Option String
  phone : Option String
  avatarUrl : Option String
deriving DecidableEq

structure LastOccupancy where
  buildingName : String
  unitLabel : String
  endAt : Option Date
deriving DecidableEq

structure OrgResidentListRow where
  user : OrgUser
  hasActiveOccupancy : Bool
  residentStatus : ResidentStatusCategory
  residentProfile : Option (ResidentProfile × ProfileUser)
  lastOccupancy : Option LastOccupancy
deriving DecidableEq

structure OrgResidentsPage where
  items : List OrgResidentListRow
  nextCursor : Option String

section Cursor

variable {ι : Type*} (runtime : ListRuntime ι)

/-- `JSON.parse`. -/
def ListRuntime.parseJson (text : String) : Option OrgResidentCursorPayload :=
  match JsonText.parse ["createdAt", "id"] text with
  | some [createdAt, id] => some ⟨some createdAt, some id⟩
  | _ => runtime.parseOtherJson text

/-- `new Date(text)`. -/
def ListRuntime.parseDate (text : String) : Option TimeValue :=
  (IsoDate.parse text.toList).or (runtime.parseOtherDate text)

def decodeOrgResidentCursor (cursor : String) : Result OrgResidentCursor := do
  let decoded := CursorText.decodedText runtime.replaceMalformed cursor
  let payload ← Outcome.orThrow (runtime.parseJson decoded) (.badRequest "Invalid cursor")
  let id ← Outcome.orThrow (truthy payload.id) (.badRequest "Invalid cursor")
  let createdAt ← Outcome.orThrow (truthy payload.createdAt) (.badRequest "Invalid cursor")
  let createdAt ← Outcome.orThrow (runtime.parseDate createdAt) (.badRequest "Invalid cursor")
  return ⟨id, createdAt⟩

def encodeOrgResidentCursor (item : OrgUser) : String :=
  let text := JsonText.stringify
    [("createdAt", .ofList (IsoDate.toISOString item.createdAt)), ("id", item.id)]
  .ofList (Base64.encode text.toUTF8.data.toList)

def readOrgResidentCursor (cursor : Option String) : Result (Option OrgResidentCursor) :=
  match truthy cursor with
  | none => .ok none
  | some cursor => some <$> decodeOrgResidentCursor runtime cursor

end Cursor

section Conditions

variable {ι : Type*} [LinearOrder ι] (runtime : ListRuntime ι) (db : ListDb)

abbrev Condition := OrgUser → Bool

def occupanciesOf (u : OrgUser) : List Occupancy :=
  db.occupancies.rows.filter (·.residentUserId = u.id)

def hasProfile : Condition := fun u => (db.residentProfiles.findUnique u.id).isSome

def someOccupancy (p : Occupancy → Bool) : Condition := fun u => (occupanciesOf db u).any p

def noOccupancy (p : Occupancy → Bool) : Condition := fun u => !(occupanciesOf db u).any p

def isActive (o : Occupancy) : Bool := o.status = .ACTIVE

def wasInvited : Condition := fun u => db.residentInvites.rows.any (·.userId = u.id)

def nameContains (q : String) : Condition := fun u =>
  u.name.any (runtime.containsInsensitive · q)

def emailContains (q : String) : Condition := fun u => runtime.containsInsensitive u.email q

def beforeOrgResident (cursor : OrgResidentCursor) : Condition := fun u =>
  u.createdAt < cursor.createdAt ∨
    u.createdAt = cursor.createdAt ∧ runtime.collate u.id < runtime.collate cursor.id

/-- The keys of the `where` object. -/
structure Where where
  orgId : Id
  OR : List Condition
  residentOccupancies : Option Condition := none
  AND : Option (List Condition) := none

def Where.matches (w : Where) : Condition := fun u =>
  u.orgId = some w.orgId ∧ w.OR.any (· u) ∧ w.residentOccupancies.all (· u) ∧
    w.AND.all fun conditions => conditions.all (· u)

def residentsWhere (orgId : Id) : Where where
  orgId
  OR := [hasProfile db, someOccupancy db fun _ => true, wasInvited db]

/-- The text replaces what stood under `OR`. -/
def setSearch (q : Option String) (w : Where) : Where :=
  match q with
  | none => w
  | some q => { w with OR := [nameContains runtime q, emailContains runtime q] }

def setStatus (status : ResidentListStatus) (w : Where) : Where :=
  match status with
  | .ALL => w
  | .WITH_OCCUPANCY => { w with residentOccupancies := some (someOccupancy db isActive) }
  | .WITHOUT_OCCUPANCY => { w with residentOccupancies := some (noOccupancy db isActive) }
  | .NEW => { w with residentOccupancies := some (noOccupancy db fun _ => true) }
  | .FORMER => { w with
      AND := some [someOccupancy db fun _ => true, noOccupancy db isActive] }

def addCursor (cursor : Option OrgResidentCursor) (w : Where) : Where :=
  match cursor with
  | none => w
  | some cursor => { w with AND := some (w.AND.getD [] ++ [beforeOrgResident runtime cursor]) }

/-- `query.q?.trim()`, where it is not empty. -/
def ListOrgResidentsQueryDto.search (query : ListOrgResidentsQueryDto) : Option String :=
  truthy (query.q.map trimString)

def listWhere (orgId : Id) (query : ListOrgResidentsQueryDto)
    (cursor : Option OrgResidentCursor) : Where :=
  addCursor runtime cursor
    (setStatus db (query.status.getD .ALL)
      (setSearch runtime query.search (residentsWhere db orgId)))

end Conditions

section Service

variable {ι : Type*} [LinearOrder ι] (runtime : ListRuntime ι) (db : ListDb)

/-- `orderBy: [{ createdAt: 'desc' }, { id: 'desc' }]` is descending in this. -/
def orgUserKey (u : OrgUser) : TimeValue ×ₗ ι := toLex (u.createdAt, runtime.collate u.id)

def findOrgUsers (w : Where) (take : ℕ) : List OrgUser :=
  (Keyset.sorted (orgUserKey runtime) (db.users.rows.filter w.matches)).take take

/-- `orderBy: { endAt: 'desc' }`: an occupancy without an end comes first. -/
def endsLater (a b : Occupancy) : Bool :=
  match a.endAt, b.endAt with
  | none, _ => true
  | some _, none => false
  | some s, some t => t ≤ s

def residentStatusOf (occupancies : List Occupancy) : ResidentStatusCategory :=
  if occupancies.any isActive then .ACTIVE
  else if occupancies.length = 0 then .NEW
  else .FORMER

def lastOccupancyOf (occupancies : List Occupancy) : Option LastOccupancy :=
  if residentStatusOf occupancies = .FORMER then
    (occupancies.find? (·.status = .ENDED)).map fun lastEnded => {
      buildingName := ((db.buildings.findUnique lastEnded.buildingId).map (·.name)).getD ""
      unitLabel := ((db.units.findUnique lastEnded.unitId).map (·.label)).getD ""
      endAt := lastEnded.endAt }
  else none

def attachUserToProfile (u : OrgUser) (profile : ResidentProfile) :
    ResidentProfile × ProfileUser :=
  (profile, ⟨u.id, u.email, u.name, u.phone, u.avatarUrl⟩)

def toOrgResidentRow (includeProfile : Bool) (u : OrgUser) : OrgResidentListRow :=
  let occupancies := (occupanciesOf db u).insertionSort fun a b => endsLater a b = true
  { user := u
    hasActiveOccupancy := occupancies.any isActive
    residentStatus := residentStatusOf occupancies
    residentProfile := if includeProfile then
      (db.residentProfiles.findUnique u.id).map (attachUserToProfile u) else none
    lastOccupancy := lastOccupancyOf db occupancies }

def ListOrgResidentsQueryDto.pageLimit (query : ListOrgResidentsQueryDto) : ℕ :=
  (min (max (query.limit.getD 50) 1) 100).toNat

def listResidentsInOrg (user : Option AuthenticatedUser) (query : ListOrgResidentsQueryDto) :
    Result OrgResidentsPage := do
  let orgId ← assertOrgScope user
  let cursor ← readOrgResidentCursor runtime query.cursor
  let users := findOrgUsers runtime db (listWhere runtime db orgId query cursor)
    (query.pageLimit + 1)
  let hasMore := query.pageLimit < users.length
  let sliced := if hasMore then users.take query.pageLimit else users
  return {
    items := sliced.map (toOrgResidentRow db (query.includeProfile = some "true"))
    nextCursor := if hasMore then sliced.getLast?.map encodeOrgResidentCursor else none }

end Service

end Towerdesk.Residents
