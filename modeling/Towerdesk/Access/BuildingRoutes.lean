import Towerdesk.Access.Guard

/-!
# The routes of a building

A route that the building guard protects is declared with the permission it needs and with
whether it reads or writes. Some controllers put the guard behind the permissions guard, the
others use it alone, and the two look for the permissions in different ways. Whichever stands in
front of a route, it lets in those whose permissions are effective in that building of their own
organisation, and on one route the residents of the building.
-/

namespace Towerdesk.Access.BuildingRoutes

inductive BuildingAccessLevel
  | read | write
deriving DecidableEq, Repr

structure AccessOptions where
  requiredPermissions : List String
  allowResident : Bool
  effectivePermissions : Option (Finset String)

inductive RouteGuard
  | OrgScopeGuard | PermissionsGuard | BuildingAccessGuard
deriving DecidableEq, Repr

/-- A handler with the guards of its controller and its own, in the order they run. -/
structure BuildingRoute where
  method : String
  path : String
  guards : List RouteGuard
  permissions : List String
  accessLevel : BuildingAccessLevel
  allowResident : Bool
deriving DecidableEq, Repr

section BuildingAccessService

variable (access : AccessTables) (db : EntityTables)

def assertBuildingInOrg (buildingId orgId : Id) : Result Building := do
  Outcome.throwIf (orgId = "") (.forbidden "Org scope required")
  Outcome.orThrow (db.directory.buildings.findFirst fun b => b.id = buildingId ∧ b.orgId = orgId)
    (.notFound "Building not found")

def hasActiveOccupancy (buildingId userId : Id) : Bool :=
  (db.occupancies.findFirst fun o => o.buildingId = buildingId ∧ o.residentUserId = userId ∧
    o.status = .ACTIVE).isSome

def hasScopedPermissions (userId orgId buildingId : Id) (options : AccessOptions) : Bool :=
  if options.requiredPermissions.isEmpty then false
  else
    hasAllPermissionMatches
      (options.effectivePermissions.getD
        (access.getUserEffectivePermissions userId (some orgId) (some buildingId)))
      options.requiredPermissions

def canReadBuildingResource (user : Option AuthenticatedUser) (buildingId : Id)
    (options : AccessOptions) : Result Bool := do
  let orgId ← assertOrgScope user
  let _ ← assertBuildingInOrg db buildingId orgId
  match truthy (user.map (·.sub)) with
  | none => return false
  | some userId =>
    if hasScopedPermissions access userId orgId buildingId options then return true
    if options.allowResident then return hasActiveOccupancy db buildingId userId
    return false

def canWriteBuildingResource (user : Option AuthenticatedUser) (buildingId : Id)
    (options : AccessOptions) : Result Bool := do
  let orgId ← assertOrgScope user
  let _ ← assertBuildingInOrg db buildingId orgId
  match truthy (user.map (·.sub)) with
  | none => return false
  | some userId => return hasScopedPermissions access userId orgId buildingId options

def canAccess (route : BuildingRoute) (request : Request) (buildingId : Id) : Result Bool :=
  match route.accessLevel with
  | .read => canReadBuildingResource access db request.user buildingId
    ⟨route.permissions, route.allowResident, request.effectivePermissions⟩
  | .write => canWriteBuildingResource access db request.user buildingId
    ⟨route.permissions, false, request.effectivePermissions⟩

def buildingAccessGuard (route : BuildingRoute) (request : Request) : Result Request := do
  let buildingId ← Outcome.orThrow (truthy (request.param "buildingId"))
    (.badRequest "buildingId is required")
  let _ ← assertUserId request.user
  let allowed ← canAccess access db route request buildingId
  Outcome.throwIf (allowed = false) (.forbidden "Forbidden")
  return request

def RouteGuard.canActivate (route : BuildingRoute) (request : Request) :
    RouteGuard → Result Request
  | .OrgScopeGuard => orgScopeGuard request
  | .PermissionsGuard => permissionsGuard access db ⟨some route.permissions, false⟩ request
  | .BuildingAccessGuard => buildingAccessGuard access db route request

/-- The guards after the one that authenticates, each on what the one before has left. -/
def BuildingRoute.activate (route : BuildingRoute) (request : Request) : Result Request :=
  route.guards.foldlM (RouteGuard.canActivate access db route) request

end BuildingAccessService

section Routes

def controller (guards : List RouteGuard) (basePath : String)
    (handlers : List (String × String × String × BuildingAccessLevel)) : List BuildingRoute :=
  handlers.map fun handler => {
    method := handler.1
    path := basePath ++ handler.2.1
    guards := .OrgScopeGuard :: guards
    permissions := [handler.2.2.1]
    accessLevel := handler.2.2.2
    allowResident := false }

def unitsBasic : BuildingRoute where
  method := "GET"
  path := "org/buildings/:buildingId/units/basic"
  guards := [.OrgScopeGuard, .BuildingAccessGuard]
  permissions := ["units.read"]
  accessLevel := .read
  allowResident := true

def buildingRoutes : List BuildingRoute :=
  controller [.BuildingAccessGuard] "org/buildings/:buildingId/amenities" [
    ("GET", "", "buildings.read", .read),
    ("POST", "", "buildings.write", .write),
    ("PATCH", "/:amenityId", "buildings.write", .write)] ++
  controller [.BuildingAccessGuard] "org/buildings/:buildingId/assignments" [
    ("GET", "", "building.assignments.read", .read)] ++
  controller [.BuildingAccessGuard] "org/buildings" [
    ("GET", "/:buildingId", "buildings.read", .read)] ++
  controller [.BuildingAccessGuard] "org" [
    ("POST", "/buildings/:buildingId/contracts", "contracts.write", .write),
    ("GET", "/buildings/:buildingId/move-in-requests", "contracts.move_requests.review", .read),
    ("GET", "/buildings/:buildingId/move-out-requests", "contracts.move_requests.review",
      .read)] ++
  controller [.PermissionsGuard, .BuildingAccessGuard] "org/buildings/:buildingId" [
    ("POST", "/leases/move-in", "leases.move_in", .write),
    ("POST", "/leases/:leaseId/move-out", "leases.move_out", .write)] ++
  controller [.PermissionsGuard, .BuildingAccessGuard] "org" [
    ("GET", "/buildings/:buildingId/units/:unitId/lease/active", "leases.read", .read)] ++
  controller [.BuildingAccessGuard] "org/buildings/:buildingId/requests" [
    ("GET", "", "requests.read", .read),
    ("GET", "/comments/unread-count", "requests.comment", .read),
    ("GET", "/:requestId", "requests.read", .read),
    ("POST", "/:requestId/assign", "requests.assign", .write),
    ("POST", "/:requestId/assign-provider", "requests.assign", .write),
    ("POST", "/:requestId/request-estimate", "requests.assign", .write),
    ("POST", "/:requestId/assign-provider-worker", "requests.assign", .write),
    ("POST", "/:requestId/unassign-provider", "requests.assign", .write),
    ("POST", "/:requestId/status", "requests.update_status", .read),
    ("POST", "/:requestId/cancel", "requests.update_status", .read),
    ("POST", "/:requestId/comments", "requests.comment", .read),
    ("GET", "/:requestId/comments", "requests.comment", .read),
    ("POST", "/:requestId/attachments", "requests.comment", .read),
    ("POST", "/:requestId/owner-approval/require", "requests.assign", .write),
    ("POST", "/:requestId/owner-approval/request", "requests.assign", .write),
    ("POST", "/:requestId/owner-approval/request-now", "requests.assign", .write),
    ("POST", "/:requestId/policy-triage", "requests.assign", .write),
    ("POST", "/:requestId/estimate", "requests.assign", .write),
    ("POST", "/:requestId/owner-approval/resend", "requests.assign", .write),
    ("POST", "/:requestId/owner-approval/override", "requests.owner_approval_override",
      .write)] ++
  controller [.BuildingAccessGuard] "org/buildings/:buildingId/occupancies" [
    ("POST", "", "occupancy.write", .write),
    ("GET", "", "occupancy.read", .read),
    ("GET", "/count", "occupancy.read", .read)] ++
  controller [.PermissionsGuard, .BuildingAccessGuard] "org/buildings/:buildingId" [
    ("GET", "/resident-directory", "residents.read", .read)] ++
  controller [.BuildingAccessGuard] "org/buildings/:buildingId/residents" [
    ("POST", "", "residents.write", .write),
    ("GET", "", "residents.read", .read)] ++
  controller [.BuildingAccessGuard] "org/buildings/:buildingId/units" [
    ("POST", "/import", "units.write", .write),
    ("POST", "", "units.write", .write),
    ("GET", "", "units.read", .read),
    ("GET", "/count", "units.read", .read),
    ("GET", "/:unitId", "units.read", .read),
    ("PATCH", "/:unitId", "units.write", .write)] ++
  [unitsBasic] ++
  controller [.BuildingAccessGuard] "org/buildings/:buildingId/visitors" [
    ("POST", "", "visitors.create", .write),
    ("GET", "", "visitors.read", .read),
    ("PATCH", "/:visitorId", "visitors.update", .write)]

/-- The building guard comes last, after the permissions guard or without it; residents are let
in only to read, and where no permissions guard is in their way. -/
structure BuildingRoute.Guarded (route : BuildingRoute) : Prop where
  permissions : route.permissions ≠ []
  guards : route.guards = [.OrgScopeGuard, .BuildingAccessGuard] ∨
    route.guards = [.OrgScopeGuard, .PermissionsGuard, .BuildingAccessGuard] ∧
      route.allowResident = false
  allowResident : route.allowResident = true ↔ route = unitsBasic

theorem guarded_controller {guards : List RouteGuard}
    (hguards : guards = [.BuildingAccessGuard] ∨ guards = [.PermissionsGuard, .BuildingAccessGuard])
    (basePath : String) (handlers : List (String × String × String × BuildingAccessLevel)) :
    ∀ route ∈ controller guards basePath handlers, route.Guarded := by
  intro route hroute
  obtain ⟨handler, -, rfl⟩ := List.mem_map.mp hroute
  refine ⟨List.cons_ne_nil _ _, ?_, ⟨nofun, fun h => ?_⟩⟩
  · rcases hguards with rfl | rfl
    · exact .inl rfl
    · exact .inr ⟨rfl, rfl⟩
  · exact congrArg BuildingRoute.allowResident h

theorem guarded_unitsBasic : unitsBasic.Guarded where
  permissions := List.cons_ne_nil _ _
  guards := .inl rfl
  allowResident := ⟨fun _ => rfl, fun _ => rfl⟩

theorem guarded_of_mem : ∀ route ∈ buildingRoutes, route.Guarded := by
  have halone := @guarded_controller [.BuildingAccessGuard] (.inl rfl)
  have hboth := @guarded_controller [.PermissionsGuard, .BuildingAccessGuard] (.inr rfl)
  unfold buildingRoutes
  simp only [List.forall_mem_append, List.forall_mem_singleton, and_assoc]
  exact ⟨halone _ _, halone _ _, halone _ _, halone _ _, hboth _ _, hboth _ _, halone _ _,
    halone _ _, hboth _ _, halone _ _, halone _ _, guarded_unitsBasic, halone _ _⟩

end Routes

section Admission

variable {access : AccessTables} {db : EntityTables} {route : BuildingRoute}
  {request passed : Request} {user : AuthenticatedUser} {userId orgId buildingId : Id} {options : AccessOptions}

def InOrg (db : EntityTables) (buildingId orgId : Id) : Prop :=
  ∃ b ∈ db.directory.buildings, b.id = buildingId ∧ b.orgId = orgId

def Resides (db : EntityTables) (buildingId userId : Id) : Prop :=
  ∃ o ∈ db.occupancies, o.buildingId = buildingId ∧ o.residentUserId = userId ∧ o.status = .ACTIVE

theorem assertBuildingInOrg_iff (horg : orgId ≠ "") :
    (∃ b, assertBuildingInOrg db buildingId orgId = .ok b) ↔ InOrg db buildingId orgId := by
  simp only [assertBuildingInOrg, Outcome.bind_eq_ok, Outcome.orThrow_eq_ok,
    Outcome.throwIf_eq_ok]
  constructor
  · intro h
    obtain ⟨b, _, -, hfound⟩ := h
    obtain ⟨hb, hp⟩ := Table.findFirst_some hfound
    exact ⟨b, hb, of_decide_eq_true hp⟩
  · intro h
    obtain ⟨b, hb, hp⟩ := h
    refine ⟨b, (), horg, Table.findFirst_eq_some hb (decide_eq_true hp) fun b' hp' => ?_⟩
    exact (of_decide_eq_true hp').1.trans hp.1.symm

theorem hasActiveOccupancy_iff :
    hasActiveOccupancy db buildingId userId = true ↔ Resides db buildingId userId := by
  simp only [hasActiveOccupancy, Table.findFirst, List.find?_isSome, decide_eq_true_eq]
  rfl

theorem assertOrgScope_some (horg : orgId ≠ "") :
    assertOrgScope (some ⟨userId, some orgId⟩) = .ok orgId :=
  Outcome.orThrow_eq_ok.mpr (truthy_eq_some.mpr ⟨rfl, horg⟩)

theorem assertUserId_some (huser : userId ≠ "") {orgId : Option Id} :
    assertUserId (some ⟨userId, orgId⟩) = .ok userId :=
  Outcome.orThrow_eq_ok.mpr (truthy_eq_some.mpr ⟨rfl, huser⟩)

/-- The two services differ in the residents only. -/
def scopedAccess (access : AccessTables) (db : EntityTables) (userId orgId buildingId : Id)
    (options : AccessOptions) : Result Bool := do
  let _ ← assertBuildingInOrg db buildingId orgId
  return hasScopedPermissions access userId orgId buildingId options ||
    (options.allowResident && hasActiveOccupancy db buildingId userId)

theorem canReadBuildingResource_eq (huser : userId ≠ "") (horg : orgId ≠ "") :
    canReadBuildingResource access db (some ⟨userId, some orgId⟩) buildingId options =
      scopedAccess access db userId orgId buildingId options := by
  have htruthy : truthy (some userId) = some userId := truthy_eq_some.mpr ⟨rfl, huser⟩
  simp only [canReadBuildingResource, scopedAccess, assertOrgScope_some horg, Option.map_some,
    htruthy, bind, Except.bind]
  cases assertBuildingInOrg db buildingId orgId with
  | error e => rfl
  | ok b =>
    cases hscoped : hasScopedPermissions access userId orgId buildingId options with
    | true => simp
    | false => cases options.allowResident <;> simp

theorem canWriteBuildingResource_eq (huser : userId ≠ "") (horg : orgId ≠ "")
    (hresident : options.allowResident = false) :
    canWriteBuildingResource access db (some ⟨userId, some orgId⟩) buildingId options =
      scopedAccess access db userId orgId buildingId options := by
  have htruthy : truthy (some userId) = some userId := truthy_eq_some.mpr ⟨rfl, huser⟩
  simp only [canWriteBuildingResource, scopedAccess, assertOrgScope_some horg, Option.map_some,
    htruthy, hresident, Bool.false_and, Bool.or_false]
  rfl

theorem scopedAccess_iff (horg : orgId ≠ "") (hoptions : options.requiredPermissions ≠ []) :
    scopedAccess access db userId orgId buildingId options = .ok true ↔
      InOrg db buildingId orgId ∧ (hasAllPermissionMatches
        (options.effectivePermissions.getD
          (access.getUserEffectivePermissions userId (some orgId) (some buildingId)))
        options.requiredPermissions = true ∨
        options.allowResident = true ∧ Resides db buildingId userId) := by
  have hempty : options.requiredPermissions.isEmpty = false := by simpa using hoptions
  simp only [scopedAccess, Outcome.bind_eq_ok, Outcome.pure_eq_ok, Bool.or_eq_true,
    Bool.and_eq_true, hasActiveOccupancy_iff, hasScopedPermissions, hempty, Bool.false_eq_true,
    if_false, exists_and_right, assertBuildingInOrg_iff horg]

theorem canAccess_eq (hroute : route.Guarded) (huser : userId ≠ "") (horg : orgId ≠ "")
    (hrequest : request.user = some ⟨userId, some orgId⟩) :
    canAccess access db route request buildingId = scopedAccess access db userId orgId buildingId
      ⟨route.permissions, route.allowResident, request.effectivePermissions⟩ := by
  unfold canAccess
  rw [hrequest]
  cases hlevel : route.accessLevel with
  | read => exact canReadBuildingResource_eq huser horg
  | write =>
    have hnobody : route.allowResident = false := by
      by_contra h
      have hbasic := hroute.allowResident.mp (Bool.of_not_eq_false h)
      rw [hbasic] at hlevel
      cases hlevel
    rw [hnobody]
    exact canWriteBuildingResource_eq huser horg rfl

/-- Whom the permissions in force let into a building of the organisation, and whom residence. -/
def LetIn (db : EntityTables) (route : BuildingRoute) (effective : Finset String)
    (userId orgId buildingId : Id) : Prop :=
  InOrg db buildingId orgId ∧ (hasAllPermissionMatches effective route.permissions = true ∨
    route = unitsBasic ∧ Resides db buildingId userId)

theorem buildingAccessGuard_ok (hroute : route.Guarded) (huser : userId ≠ "") (horg : orgId ≠ "")
    (hrequest : request.user = some ⟨userId, some orgId⟩)
    (hparam : request.param "buildingId" = some buildingId) (hbuilding : buildingId ≠ "") :
    (∃ passed, buildingAccessGuard access db route request = .ok passed) ↔
      LetIn db route (request.effectivePermissions.getD
        (access.getUserEffectivePermissions userId (some orgId) (some buildingId)))
        userId orgId buildingId := by
  have htruthy : truthy (request.param "buildingId") = some buildingId :=
    truthy_eq_some.mpr ⟨hparam, hbuilding⟩
  have hknown : assertUserId request.user = .ok userId := hrequest ▸ assertUserId_some huser
  unfold LetIn
  rw [← hroute.allowResident, ← @scopedAccess_iff access db userId orgId buildingId
    ⟨route.permissions, route.allowResident, request.effectivePermissions⟩ horg
    hroute.permissions, ← canAccess_eq hroute huser horg hrequest]
  simp only [buildingAccessGuard, htruthy, hknown, Outcome.orThrow, bind, Except.bind]
  cases canAccess access db route request buildingId with
  | error e => simp
  | ok allowed => cases allowed <;> simp [Outcome.throwIf, pure, Except.pure]

theorem orgScopeGuard_ok (huser : userId ≠ "") (horg : orgId ≠ "")
    (hrequest : request.user = some ⟨userId, some orgId⟩) :
    orgScopeGuard request = .ok request := by
  simp only [orgScopeGuard, hrequest, assertUserId_some huser, assertOrgScope_some horg, bind,
    Except.bind, pure, Except.pure]

theorem orgScopeGuard_user (h : orgScopeGuard request = .ok passed) :
    ∃ userId orgId, request.user = some ⟨userId, some orgId⟩ ∧ userId ≠ "" ∧ orgId ≠ "" := by
  simp only [orgScopeGuard, assertUserId, assertOrgScope, Outcome.bind_eq_ok,
    Outcome.orThrow_eq_ok, truthy_eq_some] at h
  obtain ⟨userId, ⟨hsub, huser⟩, orgId, ⟨horg, hne⟩, -⟩ := h
  obtain ⟨user, hrequest, rfl⟩ := Option.map_eq_some_iff.mp hsub
  rw [hrequest] at horg
  refine ⟨user.sub, orgId, ?_, huser, hne⟩
  rw [hrequest, ← show user.orgId = some orgId from horg]

/-- The permissions guard goes by the building in the path, and leaves what it found there. -/
theorem permissionsGuard_eq (hroute : route.Guarded) (huser : userId ≠ "") (horg : orgId ≠ "")
    (hrequest : request.user = some ⟨userId, some orgId⟩)
    (hparam : request.param "buildingId" = some buildingId)
    (hfresh : request.effectivePermissions = none) {effective : Finset String}
    (heffective :
      access.getUserEffectivePermissions userId (some orgId) (some buildingId) = effective) :
    permissionsGuard access db ⟨some route.permissions, false⟩ request =
      if hasAllPermissionMatches effective route.permissions then
        .ok { request with effectivePermissions := some effective }
      else .error (.forbidden "Missing required permissions") := by
  have hempty : route.permissions.isEmpty = false := by simpa using hroute.permissions
  have hknown : assertUserId request.user = .ok userId := hrequest ▸ assertUserId_some huser
  have htruthy : truthy (some orgId) = some orgId := truthy_eq_some.mpr ⟨rfl, horg⟩
  have hresolved : resolvedPermissions access db request userId = effective := by
    simp only [resolvedPermissions, EntityTables.resolveForRequest, hrequest, Option.bind_some,
      htruthy, hparam, Option.orElse_some, heffective]
  rw [← hresolved]
  simp only [permissionsGuard, Option.getD_some, hempty, hknown, hfresh, Option.getD_none,
    Bool.false_and]
  rfl

/-- The two chains of guards let in the same. -/
theorem activate_iff (hroute : route.Guarded) (huser : userId ≠ "") (horg : orgId ≠ "")
    (hrequest : request.user = some ⟨userId, some orgId⟩)
    (hparam : request.param "buildingId" = some buildingId) (hbuilding : buildingId ≠ "")
    (hfresh : request.effectivePermissions = none) :
    (∃ passed, route.activate access db request = .ok passed) ↔
      LetIn db route (access.getUserEffectivePermissions userId (some orgId) (some buildingId))
        userId orgId buildingId := by
  unfold BuildingRoute.activate
  rcases hroute.guards with hguards | ⟨hguards, hresident⟩
  · have hguard := @buildingAccessGuard_ok access db route request userId orgId buildingId
      hroute huser horg hrequest hparam hbuilding
    rw [hfresh, Option.getD_none] at hguard
    simp only [hguards, List.foldlM_cons, List.foldlM_nil, RouteGuard.canActivate, bind_pure,
      orgScopeGuard_ok huser horg hrequest]
    exact hguard
  · simp only [hguards, List.foldlM_cons, List.foldlM_nil, bind_pure, RouteGuard.canActivate,
      orgScopeGuard_ok huser horg hrequest]
    change (∃ passed, (permissionsGuard access db ⟨some route.permissions, false⟩ request >>=
      buildingAccessGuard access db route) = .ok passed) ↔ _
    rw [permissionsGuard_eq hroute huser horg hrequest hparam hfresh rfl]
    split
    · exact buildingAccessGuard_ok hroute huser horg hrequest hparam hbuilding
    case isFalse hmissing =>
      -- no resident is let in here, so both sides ask for the permission that is missing
      refine iff_of_false (fun h => nomatch h.choose_spec) fun hletin => ?_
      rcases hletin.2 with hmatches | ⟨hbasic, -⟩
      · exact hmissing hmatches
      · rw [hroute.allowResident.mpr hbasic] at hresident
        cases hresident

/-- Whoever passes the guards has a user and an organisation. -/
theorem activate_user (hroute : route.Guarded) (h : route.activate access db request = .ok passed) :
    ∃ userId orgId, request.user = some ⟨userId, some orgId⟩ ∧ userId ≠ "" ∧ orgId ≠ "" := by
  have hfirst : ∃ guards, route.guards = .OrgScopeGuard :: guards :=
    hroute.guards.elim (fun h => ⟨_, h⟩) fun h => ⟨_, h.1⟩
  obtain ⟨guards, hguards⟩ := hfirst
  rw [BuildingRoute.activate, hguards, List.foldlM_cons, Outcome.bind_eq_ok] at h
  obtain ⟨checked, hchecked, -⟩ := h
  exact orgScopeGuard_user hchecked

end Admission

theorem building_routes_admit_iff (access : AccessTables) (db : EntityTables)
    (route : BuildingRoute) (hroute : route ∈ buildingRoutes) (request : Request)
    (hfresh : request.effectivePermissions = none) (buildingId : Id)
    (hparam : request.param "buildingId" = some buildingId) (hbuilding : buildingId ≠ "") :
    (∃ passed, route.activate access db request = .ok passed) ↔
      ∃ userId orgId, request.user = some ⟨userId, some orgId⟩ ∧ userId ≠ "" ∧ orgId ≠ "" ∧
        LetIn db route (access.getUserEffectivePermissions userId (some orgId) (some buildingId))
          userId orgId buildingId := by
  have hguarded := guarded_of_mem route hroute
  constructor
  · intro h
    obtain ⟨passed, hpassed⟩ := h
    obtain ⟨userId, orgId, hrequest, huser, horg⟩ := activate_user hguarded hpassed
    exact ⟨userId, orgId, hrequest, huser, horg,
      (activate_iff hguarded huser horg hrequest hparam hbuilding hfresh).mp ⟨passed, hpassed⟩⟩
  · intro h
    obtain ⟨userId, orgId, hrequest, huser, horg, hletin⟩ := h
    exact (activate_iff hguarded huser horg hrequest hparam hbuilding hfresh).mpr hletin

section Tower

theorem noSlots_valid : Parking.slotCheck (.empty _) = none := by decide

/-- An organisation with one building, in which somebody lives. -/
def towerEntities : EntityTables where
  directory := { Directory.empty with
    buildings := ⟨[⟨"tower", "org", "Creek Tower", "City"⟩], List.nodup_singleton _⟩ }
  parkingSlots := ⟨.empty _, noSlots_valid⟩
  parkingAllocations := .empty _
  vehicles := .empty _
  occupancies := ⟨[⟨"home", "tower", "one", "ann", .ACTIVE, 0, none, 0, 0⟩],
    List.nodup_singleton _⟩
  leases := .empty _
  moveInRequests := .empty _
  moveOutRequests := .empty _
  maintenanceRequests := .empty _
  conversations := .empty _

def basicRequest : Request where
  user := some ⟨"ann", some "org"⟩
  effectivePermissions := none
  params := [("buildingId", "tower")]
  query := none
  body := none
  baseUrl := ""
  route := ""
  originalUrl := ""

theorem resident_admitted_to_units_basic :
    ∃ passed, unitsBasic.activate .empty towerEntities basicRequest = .ok passed := by
  refine (building_routes_admit_iff .empty towerEntities unitsBasic ?_ basicRequest rfl "tower" rfl
    (by decide)).mpr ⟨"ann", "org", rfl, by decide, by decide, ?_, .inr ⟨rfl, ?_⟩⟩
  · simp [buildingRoutes]
  · exact ⟨_, List.mem_singleton_self _, rfl, rfl⟩
  · exact ⟨_, List.mem_singleton_self _, rfl, rfl, rfl⟩

end Tower

end Towerdesk.Access.BuildingRoutes
