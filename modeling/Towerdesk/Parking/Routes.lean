import Towerdesk.Access.Guard
import Towerdesk.Access.Scopes
import Towerdesk.Access.Isolation

/-!
# Parking routes keyed by an entity

Ten parking routes name a slot, an allocation, a vehicle, an occupancy or a unit and no
building. The guard authorises them at the building the request carries, if it carries
one, and at the entity's building otherwise; the services go by the entity.
-/

namespace Towerdesk.Parking

open Access

inductive EntityKey
  | slotId | allocationId | vehicleId | occupancyId | unitId
deriving DecidableEq, Repr

def EntityKey.name : EntityKey → String
  | .slotId => "slotId"
  | .allocationId => "allocationId"
  | .vehicleId => "vehicleId"
  | .occupancyId => "occupancyId"
  | .unitId => "unitId"

inductive EntityRoute
  | updateSlot | endAllocation | endAll | endAllForUnit | listAllocations
  | listUnitAllocations | createVehicle | listVehicles | updateVehicle | deleteVehicle
deriving DecidableEq, Repr

namespace EntityRoute

def key : EntityRoute → EntityKey
  | .updateSlot => .slotId
  | .endAllocation => .allocationId
  | .endAll => .occupancyId
  | .endAllForUnit => .unitId
  | .listAllocations => .occupancyId
  | .listUnitAllocations => .unitId
  | .createVehicle => .occupancyId
  | .listVehicles => .occupancyId
  | .updateVehicle => .vehicleId
  | .deleteVehicle => .vehicleId

def path : EntityRoute → String
  | .updateSlot => "/org/parking-slots/:slotId"
  | .endAllocation => "/org/parking-allocations/:allocationId/end"
  | .endAll => "/org/occupancies/:occupancyId/parking-allocations/end-all"
  | .endAllForUnit => "/org/units/:unitId/parking-allocations/end-all"
  | .listAllocations => "/org/occupancies/:occupancyId/parking-allocations"
  | .listUnitAllocations => "/org/units/:unitId/parking-allocations"
  | .createVehicle => "/org/occupancies/:occupancyId/vehicles"
  | .listVehicles => "/org/occupancies/:occupancyId/vehicles"
  | .updateVehicle => "/org/vehicles/:vehicleId"
  | .deleteVehicle => "/org/vehicles/:vehicleId"

def requiredPermission : EntityRoute → String
  | .updateSlot => "parkingSlots.update"
  | .endAllocation => "parkingAllocations.end"
  | .endAll => "parkingAllocations.end"
  | .endAllForUnit => "parkingAllocations.end"
  | .listAllocations => "parkingAllocations.read"
  | .listUnitAllocations => "parkingAllocations.read"
  | .createVehicle => "vehicles.create"
  | .listVehicles => "vehicles.read"
  | .updateVehicle => "vehicles.update"
  | .deleteVehicle => "vehicles.delete"

def policy (route : EntityRoute) : RoutePolicy where
  permissions := some [route.requiredPermission]
  allowAnyScopePermissions := false

end EntityRoute

/-- A request as a client sends it to one of the routes. -/
structure EntityRequest where
  route : EntityRoute
  entityId : Id
  user : AuthenticatedUser
  query : Option JsonValue
  body : Option JsonValue
  originalUrl : String

def EntityRequest.toRequest (r : EntityRequest) : Request where
  user := some r.user
  effectivePermissions := none
  params := [(r.route.key.name, r.entityId)]
  query := r.query
  body := r.body
  baseUrl := ""
  route := r.route.path
  originalUrl := r.originalUrl

def EntityKey.buildingId (db : EntityTables) (orgId entityId : Id) : EntityKey → Option Id
  | .slotId => db.findParkingSlotBuildingId entityId orgId
  | .allocationId => db.findParkingAllocationBuildingId entityId orgId
  | .vehicleId => db.findVehicleBuildingId entityId orgId
  | .occupancyId => db.findOccupancyBuildingId entityId orgId
  | .unitId => db.findUnitBuildingId entityId orgId

section Guard

variable (access : AccessTables) (db : EntityTables)

def canActivate (r : EntityRequest) : Result Request := do
  let request ← orgScopeGuard r.toRequest
  permissionsGuard access db r.route.policy request

/-- The user's permissions at the building match what the route requires. -/
def PermittedAt (r : EntityRequest) (orgId buildingId : Id) : Prop :=
  hasPermissionMatch
    (access.getUserEffectivePermissions r.user.sub (some orgId) (some buildingId))
    r.route.requiredPermission = true

instance (r : EntityRequest) (orgId buildingId : Id) :
    Decidable (PermittedAt access r orgId buildingId) :=
  inferInstanceAs (Decidable (_ = true))

def Admitted (r : EntityRequest) : Prop := ∃ request, canActivate access db r = .ok request

end Guard

variable {access : AccessTables} {db : EntityTables} {r : EntityRequest} {orgId buildingId : Id}

theorem resolveFromPath_toRequest :
    db.resolveFromPath r.toRequest orgId = r.route.key.buildingId db orgId r.entityId := by
  cases hkey : r.route.key <;>
    simp [EntityTables.resolveFromPath, Request.param, EntityRequest.toRequest, EntityKey.name,
      EntityKey.buildingId, hkey]

theorem param_buildingId_toRequest : r.toRequest.param "buildingId" = none := by
  cases hkey : r.route.key <;>
    simp [Request.param, EntityRequest.toRequest, EntityKey.name, hkey]

theorem resolveForRequest_toRequest (horg : orgId ≠ "") :
    db.resolveForRequest r.toRequest (some orgId) =
      r.toRequest.carriedBuildingId.orElse fun _ =>
        r.route.key.buildingId db orgId r.entityId := by
  have htruthy : truthy (some orgId) = some orgId := truthy_eq_some.mpr ⟨rfl, horg⟩
  simp only [EntityTables.resolveForRequest, htruthy, param_buildingId_toRequest,
    resolveFromPath_toRequest]
  rfl

theorem admitted_iff (huser : r.user.sub ≠ "") (horg : r.user.orgId = some orgId)
    (hne : orgId ≠ "") :
    Admitted access db r ↔ hasPermissionMatch (access.getUserEffectivePermissions r.user.sub
      (some orgId) (r.toRequest.carriedBuildingId.orElse fun _ =>
        r.route.key.buildingId db orgId r.entityId)) r.route.requiredPermission = true := by
  have hsub : assertUserId r.toRequest.user = .ok r.user.sub :=
    Outcome.orThrow_eq_ok.mpr (truthy_eq_some.mpr ⟨rfl, huser⟩)
  have hscope : assertOrgScope r.toRequest.user = .ok orgId :=
    Outcome.orThrow_eq_ok.mpr (truthy_eq_some.mpr ⟨horg, hne⟩)
  have hpass : orgScopeGuard r.toRequest = .ok r.toRequest :=
    Outcome.bind_eq_ok.mpr ⟨_, hsub, Outcome.bind_eq_ok.mpr ⟨_, hscope, rfl⟩⟩
  have hguard : Admitted access db r ↔ ∃ passed,
      permissionsGuard access db r.route.policy r.toRequest = .ok passed := by
    unfold Admitted canActivate
    rw [hpass]
    rfl
  have horg' : r.toRequest.user.bind (·.orgId) = some orgId := horg
  have hall (effective : Finset String) :
      hasAllPermissionMatches effective [r.route.requiredPermission] =
        hasPermissionMatch effective r.route.requiredPermission := by
    simp [hasAllPermissionMatches]
  rw [hguard, ← resolveForRequest_toRequest hne, ← hall, ← horg']
  exact permissionsGuard_admits_iff hsub rfl (List.cons_ne_nil _ _)

/-- Every assignment of the user is scoped to one building, and nothing is overridden. -/
structure OnlyAssignedAt (access : AccessTables) (userId home : Id) : Prop where
  assignments : ∀ a ∈ access.userAccessAssignments, a.userId = userId →
    a.scopeType = .BUILDING ∧ a.scopeId = some home
  overrides : access.userOverrides userId = []

theorem OnlyAssignedAt.not_permitted {home : Id} (h : OnlyAssignedAt access r.user.sub home)
    (hne : buildingId ≠ home) : ¬ PermittedAt access r orgId buildingId := by
  have hnone (k : String) :
      k ∉ access.getUserEffectivePermissions r.user.sub (some orgId) (some buildingId) := by
    intro hk
    have hk' : k ∈ access.effectivePermissionsIn r.user.sub (some orgId)
        (.within (some buildingId)) := hk
    rw [AccessTables.effectivePermissionsIn_eq, h.overrides] at hk'
    have hkey : k ∈ (access.accessIn r.user.sub (some orgId)
        (.within (some buildingId))).rolePermissionKeys := List.mem_toFinset.mp hk'
    obtain ⟨a, ha, hu, role, -, -, -, hin, -⟩ := AccessTables.mem_rolePermissionKeys.mp hkey
    obtain ⟨htype, hscope⟩ := h.assignments a ha hu
    by_cases hb : buildingId = ""
    · subst hb
      have horg : a.scopeType = .ORG := (AccessTables.includes_org.mp hin).1
      rw [htype] at horg
      cases horg
    · rcases ((AccessTables.includes_building hb).mp hin).2 with ⟨horg, -⟩ | ⟨-, hid, -⟩
      · rw [htype] at horg
        cases horg
      · rw [hscope] at hid
        exact hne (Option.some.inj hid).symm
  unfold PermittedAt
  rw [Bool.not_eq_true, hasPermissionMatch_eq_false_iff]
  exact ⟨hnone _, fun a _ => hnone a⟩

theorem admitted_iff_permittedAt (huser : r.user.sub ≠ "") (horg : r.user.orgId = some orgId)
    (hne : orgId ≠ "") (hentity : r.route.key.buildingId db orgId r.entityId = some buildingId) :
    Admitted access db r ↔
      PermittedAt access r orgId (r.toRequest.carriedBuildingId.getD buildingId) := by
  rw [admitted_iff huser horg hne, hentity]
  cases r.toRequest.carriedBuildingId with
  | none => exact Iff.rfl
  | some carried => exact Iff.rfl

theorem guard_keeps_building_roles_iff (access : AccessTables) (db : EntityTables)
    (r : EntityRequest) (orgId buildingId : Id) (huser : r.user.sub ≠ "")
    (horg : r.user.orgId = some orgId) (hne : orgId ≠ "")
    (hentity : r.route.key.buildingId db orgId r.entityId = some buildingId) :
    ((Admitted access db r → PermittedAt access r orgId buildingId) ↔
      ∀ carried, r.toRequest.carriedBuildingId = some carried →
        PermittedAt access r orgId carried → PermittedAt access r orgId buildingId) ∧
    ∀ home, OnlyAssignedAt access r.user.sub home → buildingId ≠ home →
      (¬ Admitted access db r ↔
        ¬ (r.toRequest.carriedBuildingId = some home ∧ PermittedAt access r orgId home)) := by
  rw [admitted_iff_permittedAt huser horg hne hentity]
  constructor
  · cases r.toRequest.carriedBuildingId with
    | none => simp
    | some carried => simp
  · intro home honly hbuilding
    refine not_congr ?_
    cases hcarried : r.toRequest.carriedBuildingId with
    | none => simpa using honly.not_permitted hbuilding
    | some carried =>
      by_cases hhome : carried = home
      · simp [hhome]
      · simpa [hhome] using honly.not_permitted hhome

section Gatehouse

/-- A manager of one tower, and a slot of the other. -/
def gatehouseAccess : AccessTables where
  permissions := ⟨[⟨"slots", "parkingSlots.update"⟩], List.nodup_singleton _⟩
  roleTemplates :=
    ⟨[⟨"managers", some "org", "building_manager", true, .BUILDING⟩], List.nodup_singleton _⟩
  rolePermissions := ⟨[⟨"managers", "slots"⟩], List.nodup_singleton _⟩
  userAccessAssignments :=
    ⟨[⟨"managing", "manager", "managers", .BUILDING, some "tower-a"⟩], List.nodup_singleton _⟩
  userPermissions := .empty _

def gatehouseSlots : SlotTable where
  table := ⟨[⟨"slot", "org", "tower-b", "B1-001", none, .CAR, false, true⟩],
    List.nodup_singleton _⟩
  valid := by decide

def gatehouse : EntityTables where
  directory := { Directory.empty with
    buildings := ⟨[⟨"tower-a", "org", "Tower A", "City"⟩, ⟨"tower-b", "org", "Tower B", "City"⟩],
      by decide⟩ }
  parkingSlots := gatehouseSlots
  parkingAllocations := .empty _
  vehicles := .empty _
  occupancies := .empty _
  leases := .empty _
  moveInRequests := .empty _
  moveOutRequests := .empty _
  maintenanceRequests := .empty _
  conversations := .empty _

def gatehouseUser : AuthenticatedUser := ⟨"manager", some "org"⟩

/-- `PATCH /org/parking-slots/slot`, with or without `?buildingId=`. -/
def gatehouseRequest (query : Option JsonValue) : EntityRequest where
  route := .updateSlot
  entityId := "slot"
  user := gatehouseUser
  query
  body := none
  originalUrl := "/org/parking-slots/slot"

def carryingTowerA : Option JsonValue := some (.object [("buildingId", .string "tower-a")])

def closeSlot : UpdateParkingSlotDto := ⟨.undefined, .undefined, .undefined, .undefined, .value false⟩

theorem gatehouse_onlyAssignedAt : OnlyAssignedAt gatehouseAccess "manager" "tower-a" where
  assignments := by decide
  overrides := by decide

theorem gatehouse_admitted : Admitted gatehouseAccess gatehouse (gatehouseRequest carryingTowerA) := by
  have hentity : EntityKey.buildingId gatehouse "org" "slot" .slotId = some "tower-b" := by decide
  refine (admitted_iff_permittedAt (by decide) rfl (by decide) hentity).mpr ?_
  decide

theorem gatehouse_closes_slot :
    ∃ slots, updateSlot gatehouseSlots (some gatehouseUser) "slot" closeSlot = .ok slots ∧
      ∃ s ∈ slots, s.buildingId = "tower-b" ∧ s.isActive = false := by
  refine ⟨⟨⟨[⟨"slot", "org", "tower-b", "B1-001", none, .CAR, false, false⟩],
    List.nodup_singleton _⟩, by decide⟩, rfl, ?_⟩
  exact ⟨_, List.mem_singleton_self _, rfl, rfl⟩

theorem building_role_leaves_its_building :
    ¬ (∀ access db r orgId buildingId, r.user.sub ≠ "" → r.user.orgId = some orgId → orgId ≠ "" →
        r.route.key.buildingId db orgId r.entityId = some buildingId → Admitted access db r →
          PermittedAt access r orgId buildingId) ∧
      OnlyAssignedAt gatehouseAccess "manager" "tower-a" ∧
      Admitted gatehouseAccess gatehouse (gatehouseRequest carryingTowerA) ∧
      ∃ slots, updateSlot gatehouseSlots (some gatehouseUser) "slot" closeSlot = .ok slots ∧
        ∃ s ∈ slots, s.buildingId = "tower-b" ∧ s.isActive = false := by
  refine ⟨fun h => ?_, gatehouse_onlyAssignedAt, gatehouse_admitted, gatehouse_closes_slot⟩
  have hpermitted := h gatehouseAccess gatehouse (gatehouseRequest carryingTowerA) "org" "tower-b"
    (by decide) rfl (by decide) (by decide) gatehouse_admitted
  exact gatehouse_onlyAssignedAt.not_permitted (by decide) hpermitted

theorem gatehouse_refused_without_building :
    ¬ Admitted gatehouseAccess gatehouse (gatehouseRequest none) := by
  have h := (guard_keeps_building_roles_iff gatehouseAccess gatehouse (gatehouseRequest none) "org"
    "tower-b" (by decide) rfl (by decide) (by decide)).2 "tower-a" gatehouse_onlyAssignedAt
    (by decide)
  exact h.mpr (by decide)

end Gatehouse

end Towerdesk.Parking
