import Towerdesk.AccessControl
import Towerdesk.Tenancy
import Towerdesk.Leases.Store
import Towerdesk.Maintenance.Request
import Towerdesk.Parking.Slots

/-!
# The permissions guard

The guard in front of a route asks for the caller's effective permissions in the
building the request is about. Which building that is, the resolver decides from the
path, the query and the body, in that order, and only then from the entity the path
names.
-/

namespace Towerdesk.Access

inductive JsonValue
  | null
  | boolean (b : Bool)
  | number (q : ℚ)
  | string (s : String)
  | array (items : List JsonValue)
  | object (fields : List (String × JsonValue))

namespace JsonValue

/-- Reading a property: only an object has one of ours. -/
def get (v : JsonValue) (name : String) : Option JsonValue :=
  match v with
  | .object fields => fields.lookup name
  | _ => none

def asString : JsonValue → Option String
  | .string s => some s
  | _ => none

/-- An array with one element, which is a string. -/
def asSingleton : JsonValue → Option String
  | .array [.string s] => some s
  | _ => none

end JsonValue

structure Request where
  user : Option AuthenticatedUser
  effectivePermissions : Option (Finset String)
  params : List (String × String)
  query : Option JsonValue
  body : Option JsonValue
  baseUrl : String
  route : String
  originalUrl : String

structure Vehicle where
  id : Id
  orgId : Id
  occupancyId : Id
  plateNumber : String
  label : Option String
deriving DecidableEq, Repr

structure Conversation where
  id : Id
  orgId : Id
  buildingId : Option Id
deriving DecidableEq, Repr

/-- The tables a path's entity is looked up in. -/
structure EntityTables where
  directory : Directory
  parkingSlots : Parking.SlotTable
  parkingAllocations : Table Leases.ParkingAllocation.id
  vehicles : Table Vehicle.id
  occupancies : Table Occupancy.id
  leases : Table Lease.id
  moveInRequests : Table Leases.MoveRequest.id
  moveOutRequests : Table Leases.MoveRequest.id
  maintenanceRequests : Table Maintenance.MaintenanceRequest.id
  conversations : Table Conversation.id

namespace Request

variable (request : Request)

def param (name : String) : Option String := request.params.lookup name

def getRoutePath : String :=
  (request.baseUrl ++ " " ++ request.route ++ " " ++ request.originalUrl).toLower

def includes (text pattern : String) : Bool :=
  text.toList.tails.any fun tail => pattern.toList.isPrefixOf tail

/-- The building a request names outside its path. -/
def carriedBuildingId : Option Id :=
  ((request.query.bind (·.get "buildingId")).bind JsonValue.asString).orElse fun _ =>
    ((request.body.bind (·.get "buildingId")).bind JsonValue.asString).orElse fun _ =>
      (request.body.bind (·.get "buildingIds")).bind JsonValue.asSingleton

end Request

namespace EntityTables

variable (db : EntityTables)

def buildingInOrg (buildingId orgId : Id) : Bool :=
  (db.directory.buildings.findUnique buildingId).any (·.orgId = orgId)

def findParkingSlotBuildingId (slotId orgId : Id) : Option Id :=
  (db.parkingSlots.table.findFirst fun s => s.id = slotId ∧ s.orgId = orgId).map (·.buildingId)

def findParkingAllocationBuildingId (allocationId orgId : Id) : Option Id :=
  (db.parkingAllocations.findFirst fun a => a.id = allocationId ∧ a.orgId = orgId).map
    (·.buildingId)

def findVehicleBuildingId (vehicleId orgId : Id) : Option Id := do
  let vehicle ← db.vehicles.findFirst fun v => v.id = vehicleId ∧ v.orgId = orgId ∧
    (db.occupancies.findUnique v.occupancyId).any fun o => db.buildingInOrg o.buildingId orgId
  let occupancy ← db.occupancies.findUnique vehicle.occupancyId
  return occupancy.buildingId

def findOccupancyBuildingId (occupancyId orgId : Id) : Option Id :=
  (db.occupancies.findFirst fun o =>
    o.id = occupancyId ∧ db.buildingInOrg o.buildingId orgId).map (·.buildingId)

def findUnitBuildingId (unitId orgId : Id) : Option Id :=
  (db.directory.units.findFirst fun u =>
    u.id = unitId ∧ db.buildingInOrg u.buildingId orgId).map (·.buildingId)

def findLeaseBuildingId (leaseId orgId : Id) : Option Id :=
  (db.leases.findFirst fun l => l.id = leaseId ∧ l.orgId = orgId).map (·.buildingId)

def findMoveInRequestBuildingId (requestId orgId : Id) : Option Id :=
  (db.moveInRequests.findFirst fun r => r.id = requestId ∧ r.orgId = orgId).map (·.buildingId)

def findMoveOutRequestBuildingId (requestId orgId : Id) : Option Id :=
  (db.moveOutRequests.findFirst fun r => r.id = requestId ∧ r.orgId = orgId).map (·.buildingId)

def findMaintenanceRequestBuildingId (requestId orgId : Id) : Option Id :=
  (db.maintenanceRequests.findFirst fun r => r.id = requestId ∧ r.orgId = orgId).map (·.buildingId)

def findRequestBuildingId (requestId orgId : Id) (request : Request) : Option Id :=
  let routePath := request.getRoutePath
  if Request.includes routePath "move-in-requests" then
    db.findMoveInRequestBuildingId requestId orgId
  else if Request.includes routePath "move-out-requests" then
    db.findMoveOutRequestBuildingId requestId orgId
  else if Request.includes routePath "/requests" then
    db.findMaintenanceRequestBuildingId requestId orgId
  else
    (truthy (db.findMoveInRequestBuildingId requestId orgId)).orElse fun _ =>
      (truthy (db.findMoveOutRequestBuildingId requestId orgId)).orElse fun _ =>
        db.findMaintenanceRequestBuildingId requestId orgId

def findEntityBuildingId (entityId orgId : Id) (request : Request) : Option Id :=
  if Request.includes request.getRoutePath "/org/conversations" then
    (db.conversations.findFirst fun c => c.id = entityId ∧ c.orgId = orgId).bind (·.buildingId)
  else none

/-- The lookups by path parameter, in the order they are tried. -/
def resolveFromPath (request : Request) (orgId : Id) : Option Id :=
  match request.param "slotId" with
  | some slotId => db.findParkingSlotBuildingId slotId orgId
  | none =>
  match request.param "allocationId" with
  | some allocationId => db.findParkingAllocationBuildingId allocationId orgId
  | none =>
  match request.param "vehicleId" with
  | some vehicleId => db.findVehicleBuildingId vehicleId orgId
  | none =>
  match request.param "occupancyId" with
  | some occupancyId => db.findOccupancyBuildingId occupancyId orgId
  | none =>
  match request.param "unitId" with
  | some unitId => db.findUnitBuildingId unitId orgId
  | none =>
  match request.param "leaseId" with
  | some leaseId => db.findLeaseBuildingId leaseId orgId
  | none =>
  match request.param "contractId" with
  | some contractId => db.findLeaseBuildingId contractId orgId
  | none =>
  match request.param "requestId" with
  | some requestId => db.findRequestBuildingId requestId orgId request
  | none =>
  match request.param "id" with
  | some entityId => db.findEntityBuildingId entityId orgId request
  | none => none

def resolveForRequest (request : Request) (orgId : Option Id) : Option Id :=
  match truthy orgId with
  | none => none
  | some orgId =>
    (request.param "buildingId").orElse fun _ =>
      request.carriedBuildingId.orElse fun _ => db.resolveFromPath request orgId

end EntityTables

/-- What the decorators of a handler declare. -/
structure RoutePolicy where
  permissions : Option (List String)
  allowAnyScopePermissions : Bool

section Guards

def orgScopeGuard (request : Request) : Result Request := do
  let _ ← assertUserId request.user
  let _ ← assertOrgScope request.user
  return request

variable (access : AccessTables) (db : EntityTables)

def resolvedPermissions (request : Request) (userId : Id) : Finset String :=
  let orgId := request.user.bind (·.orgId)
  access.getUserEffectivePermissions userId orgId (db.resolveForRequest request orgId)

/-- `canActivate`, with the permissions it leaves on the request. -/
def permissionsGuard (policy : RoutePolicy) (request : Request) : Result Request := do
  let permissions := policy.permissions.getD []
  if permissions.isEmpty then return request
  let userId ← assertUserId request.user
  let effective := request.effectivePermissions.getD (resolvedPermissions access db request userId)
  if hasAllPermissionMatches effective permissions then
    return { request with effectivePermissions := some effective }
  let anywhere :=
    access.getUserEffectivePermissionsAcrossAnyScope userId (request.user.bind (·.orgId))
  if policy.allowAnyScopePermissions && hasAllPermissionMatches anywhere permissions then
    return { request with effectivePermissions := some anywhere }
  .error (.forbidden "Missing required permissions")

variable {access db}

/-- Without the any-scope fallback the guard goes by the permissions at the building it
resolves. -/
theorem permissionsGuard_admits_iff {request : Request} {userId : Id} {permissions : List String}
    (huser : assertUserId request.user = .ok userId)
    (hfresh : request.effectivePermissions = none) (hne : permissions ≠ []) :
    (∃ passed, permissionsGuard access db ⟨some permissions, false⟩ request = .ok passed) ↔
      hasAllPermissionMatches (resolvedPermissions access db request userId) permissions
        = true := by
  have hempty : permissions.isEmpty = false := by simpa using hne
  have hguard : permissionsGuard access db ⟨some permissions, false⟩ request =
      if hasAllPermissionMatches (resolvedPermissions access db request userId) permissions then
        .ok { request with
          effectivePermissions := some (resolvedPermissions access db request userId) }
      else .error (.forbidden "Missing required permissions") := by
    simp only [permissionsGuard, Option.getD_some, hempty, huser, hfresh, Option.getD_none,
      Bool.false_and]
    rfl
  rw [hguard]
  split
  · simp_all
  · simp_all

end Guards

end Towerdesk.Access
