import Towerdesk.Maintenance.Store

/-!
# Entering the service

The guards and the lookup every operation of a portal begins with.
-/

namespace Towerdesk.Maintenance

structure BuildingEntry where
  orgId : Id
  userId : Id
  accessContext : BuildingAccessContext

structure ResidentEntry where
  orgId : Id
  userId : Id
  occupancy : Occupancy

section Management

def enterBuilding (env : Env) (user : Option AuthenticatedUser) (buildingId : Id) :
    Result BuildingEntry := do
  let orgId ← assertOrgScope user
  let userId ← assertUserId user
  let _ ← env.world.directory.assertBuildingInOrg buildingId orgId
  return ⟨orgId, userId, env.world.getBuildingAccessContext userId orgId buildingId⟩

/-- Entry to an operation building staff may not use. -/
def enterAsManager (env : Env) (user : Option AuthenticatedUser) (buildingId : Id)
    (staffMessage : String) : Result BuildingEntry := do
  let entry ← enterBuilding env user buildingId
  Outcome.throwIf entry.accessContext.isBuildingStaffOnly (.forbidden staffMessage)
  return entry

def findByIdForBuilding (db : Db) (orgId buildingId requestId : Id) : Result MaintenanceRequest :=
  Outcome.orThrow
    (db.maintenanceRequests.findFirst fun r =>
      r.id = requestId ∧ r.orgId = orgId ∧ r.buildingId = buildingId)
    (.notFound "Request not found")

def BuildingEntry.assertOwnAssignment (entry : BuildingEntry) (request : MaintenanceRequest) :
    Result Unit :=
  Outcome.throwIf
    (entry.accessContext.isBuildingStaffOnly ∧ request.assignedToUserId ≠ some entry.userId)
    (.forbidden "Forbidden")

end Management

section Residents

def enterResident (env : Env) (user : Option AuthenticatedUser) : Result ResidentEntry := do
  let orgId ← assertOrgScope user
  let userId ← assertUserId user
  let occupancy ← env.world.requireActiveResidentOccupancy userId orgId
  return ⟨orgId, userId, occupancy⟩

def findByIdForCreator (db : Db) (orgId userId requestId : Id) : Result MaintenanceRequest :=
  Outcome.orThrow
    (db.maintenanceRequests.findFirst fun r =>
      r.id = requestId ∧ r.orgId = orgId ∧ r.createdByUserId = userId)
    (.notFound "Request not found")

end Residents

section Providers

structure ProviderEntry where
  userId : Id
  accessContext : ProviderAccessContext

def enterProvider (env : Env) (user : Option AuthenticatedUser) : Result ProviderEntry := do
  let userId ← assertUserId user
  let accessContext ← env.world.getAccessibleProviderContext userId
  return ⟨userId, accessContext⟩

def findByIdForServiceProviders (db : Db) (providerIds : List Id) (requestId : Id) :
    Result MaintenanceRequest :=
  Outcome.orThrow
    (db.maintenanceRequests.findFirst fun r =>
      r.id = requestId ∧ r.serviceProviderId.any providerIds.contains)
    (.notFound "Request not found")

def ProviderEntry.assertProviderRequestWriteAccess (entry : ProviderEntry)
    (request : MaintenanceRequest) : Result Unit := do
  let providerId ← Outcome.orThrow (truthy request.serviceProviderId) (.forbidden "Forbidden")
  if providerId ∈ entry.accessContext.adminProviderIds then return ()
  Outcome.throwIf (request.serviceProviderAssignedUserId ≠ some entry.userId)
    (.forbidden "Forbidden")

end Providers

section Owners

/-- `getAccessibleRequestById`: the request and the unit row it is reached through. -/
def getAccessibleRequestById (env : Env) (db : Db) (userId requestId : Id) :
    Result (MaintenanceRequest × PortfolioUnitRow) := do
  let request ← Outcome.orThrow
    (db.maintenanceRequests.findFirst fun r =>
      r.id = requestId ∧ r.unitId.any fun u => (env.world.accessibleUnit userId u).isSome)
    (.notFound "Request not found")
  let unitId ← Outcome.orThrow (truthy request.unitId) (.notFound "Request not found")
  let unit ← Outcome.orThrow (env.world.accessibleUnit userId unitId) (.notFound "Request not found")
  return (request, unit)

end Owners

section Lookups

variable {env : Env} {db : Db} {request : MaintenanceRequest} {orgId buildingId userId requestId : Id}

theorem enterBuilding_caller {user : Option AuthenticatedUser} {entry : BuildingEntry}
    (h : enterBuilding env user buildingId = .ok entry) :
    user.map (·.sub) = some entry.userId ∧ user.bind (·.orgId) = some entry.orgId ∧
      entry.orgId ≠ "" := by
  simp only [enterBuilding, Outcome.bind_eq_ok, Outcome.pure_eq_ok] at h
  obtain ⟨orgId, horg, userId, huser, building, -, rfl⟩ := h
  obtain ⟨horg, hne⟩ := truthy_eq_some.mp (Outcome.orThrow_eq_ok.mp horg)
  exact ⟨(truthy_eq_some.mp (Outcome.orThrow_eq_ok.mp huser)).1, horg, hne⟩

theorem findByIdForBuilding_ok :
    findByIdForBuilding db orgId buildingId requestId = .ok request →
      request ∈ db.maintenanceRequests ∧ request.id = requestId := by
  intro h
  obtain ⟨hmem, hp⟩ := Table.findFirst_some (Outcome.orThrow_eq_ok.mp h)
  exact ⟨hmem, (of_decide_eq_true hp).1⟩

theorem findByIdForBuilding_of_mem (h : request ∈ db.maintenanceRequests) :
    findByIdForBuilding db request.orgId request.buildingId request.id = .ok request := by
  refine Outcome.orThrow_eq_ok.mpr (Table.findFirst_eq_some h (decide_eq_true ⟨rfl, rfl, rfl⟩) ?_)
  exact fun r hr => (of_decide_eq_true hr).1

theorem findByIdForCreator_ok :
    findByIdForCreator db orgId userId requestId = .ok request →
      request ∈ db.maintenanceRequests ∧ request.id = requestId := by
  intro h
  obtain ⟨hmem, hp⟩ := Table.findFirst_some (Outcome.orThrow_eq_ok.mp h)
  exact ⟨hmem, (of_decide_eq_true hp).1⟩

theorem findByIdForServiceProviders_ok {providerIds : List Id} :
    findByIdForServiceProviders db providerIds requestId = .ok request →
      request ∈ db.maintenanceRequests ∧ request.id = requestId ∧
        request.serviceProviderId ≠ none := by
  intro h
  obtain ⟨hmem, hp⟩ := Table.findFirst_some (Outcome.orThrow_eq_ok.mp h)
  obtain ⟨hid, hprovider⟩ := of_decide_eq_true hp
  refine ⟨hmem, hid, fun hnone => ?_⟩
  simp [hnone] at hprovider

theorem getAccessibleRequestById_ok {unit : PortfolioUnitRow} :
    getAccessibleRequestById env db userId requestId = .ok (request, unit) →
      request ∈ db.maintenanceRequests ∧ request.id = requestId := by
  intro h
  simp only [getAccessibleRequestById, Outcome.bind_eq_ok, Outcome.orThrow_eq_ok,
    Outcome.pure_eq_ok, Prod.mk.injEq] at h
  obtain ⟨r, hr, unitId, -, u, -, rfl, -⟩ := h
  obtain ⟨hmem, hp⟩ := Table.findFirst_some hr
  exact ⟨hmem, (of_decide_eq_true hp).1⟩

end Lookups

end Towerdesk.Maintenance
