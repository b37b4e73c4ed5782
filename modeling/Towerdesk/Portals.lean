import Towerdesk.Tenancy
import Towerdesk.Directory
import Towerdesk.AccessControl
import Mathlib.Data.List.Sort

/-!
# The portals

What a caller is allowed to reach before a request is even looked at: managers and
staff through a building, provider members through their memberships and grants,
owners through the units they own, residents through their active occupancy.
-/

namespace Towerdesk

structure World where
  access : AccessTables
  directory : Directory
  occupancies : Table Occupancy.id
  leases : Table Lease.id

structure BuildingAccessContext where
  hasAnyBuildingAccess : Bool
  isBuildingStaffOnly : Bool
deriving DecidableEq, Repr

structure ProviderAccessContext where
  providerIds : List Id
  adminProviderIds : List Id
deriving DecidableEq, Repr

/-- A row of the accessible unit scope of an owner's user. -/
structure PortfolioUnitRow where
  orgId : Id
  ownerId : Id
  unitId : Id
  buildingId : Id
  unitLabel : String
deriving DecidableEq, Repr

def REQUEST_ASSIGN_PERMISSION : String := "requests.assign"

def REQUEST_OWNER_APPROVAL_OVERRIDE_PERMISSION : String := "requests.owner_approval_override"

def REQUEST_HANDLING_PERMISSIONS : List String :=
  ["requests.read", "requests.comment", "requests.update_status"]

namespace World

def empty : World := ⟨.empty, .empty, .empty _, .empty _⟩

variable (w : World)

section Management

def getBuildingAccessContext (userId orgId buildingId : Id) : BuildingAccessContext :=
  let assignments := w.access.getUserScopedAssignments userId (some orgId) (some buildingId)
  let effective := w.access.getUserEffectivePermissions userId (some orgId) (some buildingId)
  let hasAnyBuildingAccess := assignments.any (·.scopeType = .BUILDING)
  { hasAnyBuildingAccess
    isBuildingStaffOnly := hasAnyBuildingAccess && !(REQUEST_ASSIGN_PERMISSION ∈ effective) }

def hasGlobalPermission (userId orgId : Id) (permission : String) : Bool :=
  permission ∈ w.access.getUserEffectivePermissions userId (some orgId) none

def assertOverridePermission (userId orgId buildingId : Id) : Result Unit :=
  Outcome.throwIf (REQUEST_OWNER_APPROVAL_OVERRIDE_PERMISSION ∉
      w.access.getUserEffectivePermissions userId (some orgId) (some buildingId))
    (.forbidden "Forbidden")

/-- The building-scoped assignments of a user at a building, each with the
permission keys of its role template. -/
def findBuildingScopedAssignmentsForUser (buildingId userId orgId : Id) : List (List String) :=
  (w.access.userAccessAssignments.rows.filter fun a =>
      a.userId = userId ∧ a.scopeType = .BUILDING ∧ a.scopeId = some buildingId ∧
        (w.access.roleTemplates.findUnique a.roleTemplateId).any fun r =>
          r.orgId = some orgId ∧ r.scopeType = .BUILDING).map
    fun a => w.access.permissionKeysOfRole a.roleTemplateId

def assignmentHasPermissions (rolePermissionKeys permissionKeys : List String) : Bool :=
  permissionKeys.all rolePermissionKeys.contains

end Management

section Providers

def findActiveMembershipsForUser (userId : Id) : List ServiceProviderUser :=
  w.directory.serviceProviderUsers.rows.filter fun m =>
    m.userId = userId ∧ m.isActive ∧
      (w.directory.users.findUnique m.userId).any (·.isActive) ∧
      (w.directory.serviceProviders.findUnique m.serviceProviderId).any (·.isActive)

/-- `toAccessibleMembership` keeps the membership: a member who was ever granted
access needs one of the grants to be active. -/
def isAccessibleMembership (userId : Id) (m : ServiceProviderUser) : Bool :=
  let grants := w.directory.serviceProviderAccessGrants.rows.filter fun g =>
    g.serviceProviderId = m.serviceProviderId ∧ g.userId = some userId
  let hasActiveGrant := grants.any (·.status = .ACTIVE)
  let requiresGrant := !grants.isEmpty
  !(requiresGrant && !hasActiveGrant)

def listAccessibleMemberships (userId : Id) : List ServiceProviderUser :=
  (w.findActiveMembershipsForUser userId).filter (w.isAccessibleMembership userId)

def getAccessibleProviderContext (userId : Id) : Result ProviderAccessContext := do
  let memberships := w.listAccessibleMemberships userId
  Outcome.throwIf (memberships = []) (.forbidden "Forbidden")
  return {
    providerIds := memberships.map (·.serviceProviderId)
    adminProviderIds := (memberships.filter (·.role = .ADMIN)).map (·.serviceProviderId) }

def findServiceProviderBuildingLink (providerId buildingId : Id) : Option ServiceProviderBuilding :=
  w.directory.serviceProviderBuildings.findUnique (providerId, buildingId)

def findServiceProviderUserMembership (providerId userId : Id) :
    Option (ServiceProviderUser × Option User) :=
  (w.directory.serviceProviderUsers.findUnique (providerId, userId)).map fun m =>
    (m, w.directory.users.findUnique m.userId)

end Providers

section Owners

def activeOwnerIds (userId : Id) : List Id :=
  (w.directory.ownerAccessGrants.rows.filter fun g =>
      g.userId = some userId ∧ g.status = .ACTIVE ∧
        (w.directory.owners.findUnique g.ownerId).any (·.isActive)).map (·.ownerId)

def ownershipUnitRows (userId : Id) : List PortfolioUnitRow :=
  (w.directory.unitOwnerships.rows.filter fun o =>
      o.endDate = none ∧ o.ownerId ∈ w.activeOwnerIds userId).filterMap fun o =>
    (w.directory.units.findUnique o.unitId).map fun u =>
      ⟨o.orgId, o.ownerId, u.id, u.buildingId, u.label⟩

/-- Units reached through `Unit.ownerId`, only where no ownership row is open. -/
def fallbackUnitRows (userId : Id) : List PortfolioUnitRow :=
  (w.directory.units.rows.filter fun u =>
      ¬ w.directory.unitOwnerships.rows.any fun o => o.unitId = u.id ∧ o.endDate = none).filterMap
    fun u => do
      let ownerId ← truthy u.ownerId
      guard (ownerId ∈ w.activeOwnerIds userId)
      let building ← w.directory.buildings.findUnique u.buildingId
      return ⟨building.orgId, ownerId, u.id, u.buildingId, u.label⟩

/-- `loadAccessibleUnitScope(userId).map`: a later row of a unit replaces an earlier one. -/
def accessibleUnit (userId unitId : Id) : Option PortfolioUnitRow :=
  (w.ownershipUnitRows userId ++ w.fallbackUnitRows userId).reverse.find? (·.unitId = unitId)

end Owners

section Residents

/-- `orderBy: [{ startAt: 'desc' }, { createdAt: 'desc' }, { id: 'desc' }]`. -/
def occupancyBefore (a b : Occupancy) : Bool :=
  b.startAt < a.startAt ∨ (a.startAt = b.startAt ∧
    (b.createdAt < a.createdAt ∨ (a.createdAt = b.createdAt ∧ b.id ≤ a.id)))

def findAssignedActiveOccupancy (userId orgId : Id) : Option Occupancy :=
  ((w.occupancies.rows.filter fun o =>
      o.residentUserId = userId ∧ o.status = .ACTIVE ∧
        (w.directory.buildings.findUnique o.buildingId).any (·.orgId = orgId)).insertionSort
    fun a b => occupancyBefore a b).head?

def requireActiveResidentOccupancy (userId orgId : Id) : Result Occupancy :=
  Outcome.orThrow (w.findAssignedActiveOccupancy userId orgId)
    (.forbidden "Active occupancy required")

/-- `occupancy.lease`. -/
def leaseOfOccupancy (occupancyId : Id) : Option Lease :=
  w.leases.findFirst (·.occupancyId = some occupancyId)

end Residents

end World

end Towerdesk
