import Towerdesk.Maintenance.Steps

/-!
# A building and its people

The smallest world in which every portal can act, in an organisation and a building
of any name: a unit with its resident and its owner, a manager, a provider linked to
the building with one administrator.
-/

namespace Towerdesk.Maintenance

def REQUEST_MANAGER_PERMISSIONS : List Permission :=
  [⟨"assign", REQUEST_ASSIGN_PERMISSION⟩, ⟨"override", REQUEST_OWNER_APPROVAL_OVERRIDE_PERMISSION⟩]

def sceneAccess (orgId : Id) : AccessTables where
  permissions := ⟨REQUEST_MANAGER_PERMISSIONS, by decide⟩
  roleTemplates := ⟨[⟨"managers", some orgId, "request_manager", false, .ORG⟩], List.nodup_singleton _⟩
  rolePermissions := ⟨[⟨"managers", "assign"⟩, ⟨"managers", "override"⟩], by decide⟩
  userAccessAssignments := ⟨[⟨"managing", "manager", "managers", .ORG, none⟩], List.nodup_singleton _⟩
  userPermissions := .empty _

def sceneUser (orgId userId : Id) : User :=
  ⟨userId, userId ++ "@example.com", none, none, some orgId, true⟩

def sceneDirectory (orgId buildingId : Id) : Directory where
  buildings := ⟨[⟨buildingId, orgId, "Tower", "City"⟩], List.nodup_singleton _⟩
  units := ⟨[⟨"unit", buildingId, "101", some "owner", none⟩], List.nodup_singleton _⟩
  users := ⟨["manager", "resident", "landlord", "agent"].map (sceneUser orgId), by
    simp [sceneUser]⟩
  serviceProviders := ⟨[⟨"provider", "Provider", true⟩], List.nodup_singleton _⟩
  serviceProviderBuildings := ⟨[⟨"provider", buildingId⟩], List.nodup_singleton _⟩
  serviceProviderUsers := ⟨[⟨"provider", "agent", .ADMIN, true⟩], List.nodup_singleton _⟩
  serviceProviderAccessGrants := .empty _
  owners := ⟨[⟨"owner", orgId, "Owner", true⟩], List.nodup_singleton _⟩
  ownerAccessGrants := ⟨[⟨"grant", some "landlord", "owner", .ACTIVE⟩], List.nodup_singleton _⟩
  unitOwnerships := .empty _

def scene (orgId buildingId : Id) : World where
  access := sceneAccess orgId
  directory := sceneDirectory orgId buildingId
  occupancies := ⟨[⟨"occupancy", buildingId, "unit", "resident", .ACTIVE, 0, none, 0, 0⟩],
    List.nodup_singleton _⟩
  leases := .empty _

def sceneEnv (orgId buildingId : Id) (now : Date) : Env where
  world := scene orgId buildingId
  now
  freshId := "request"
  estimateTtlHours := 72
  parseDate _ := none

section Manager

variable {orgId buildingId : Id}

def manager (orgId : Id) : Option AuthenticatedUser := some ⟨"manager", some orgId⟩

theorem manager_assertOrgScope (h : orgId ≠ "") : assertOrgScope (manager orgId) = .ok orgId :=
  Outcome.orThrow_eq_ok.mpr (truthy_eq_some.mpr ⟨rfl, h⟩)

theorem manager_assertUserId : assertUserId (manager orgId) = .ok "manager" :=
  Outcome.orThrow_eq_ok.mpr (truthy_eq_some.mpr ⟨rfl, by decide⟩)

theorem scene_assertBuildingInOrg (h : orgId ≠ "") :
    (scene orgId buildingId).directory.assertBuildingInOrg buildingId orgId =
      .ok ⟨buildingId, orgId, "Tower", "City"⟩ := by
  refine Outcome.bind_eq_ok.mpr ⟨(), Outcome.throwIf_eq_ok.mpr h, ?_⟩
  exact Outcome.orThrow_eq_ok.mpr (by simp [scene, sceneDirectory, Table.findFirst])

theorem scene_permissions (buildingId' : Option Id) :
    (scene orgId buildingId).access.getUserEffectivePermissions "manager" (some orgId) buildingId' =
      {REQUEST_ASSIGN_PERMISSION, REQUEST_OWNER_APPROVAL_OVERRIDE_PERMISSION} := by
  have hscope : AccessTables.inScope (some orgId) (truthy buildingId')
      ⟨"managing", "manager", "managers", .ORG, none⟩
      ⟨"managers", some orgId, "request_manager", false, .ORG⟩ = true :=
    AccessTables.inScope_org rfl rfl rfl rfl
  simp [scene, sceneAccess, AccessTables.getUserEffectivePermissions,
    AccessTables.getUserScopedAccess, hscope, AccessTables.userOverrides,
    AccessTables.permissionKeysOfRole, Table.findUnique, Table.empty, isVisibleRoleTemplate,
    REQUEST_MANAGER_PERMISSIONS]

theorem scene_connectUser :
    (scene orgId buildingId).directory.connectUser "manager" = .ok "manager" := by
  refine Outcome.map_eq_ok.mpr ⟨sceneUser orgId "manager", ?_, rfl⟩
  exact Outcome.orThrow_eq_ok.mpr (by simp [scene, sceneDirectory, Table.findUnique, sceneUser])

def emergencyOverride (r : MaintenanceRequest) : Operation :=
  .overrideOwnerApproval (manager r.orgId) r.buildingId r.id ⟨.EMERGENCY_OVERRIDE, "Emergency"⟩

theorem emergencyOverride_plans (now : Date) {db : Db} {r : MaintenanceRequest}
    (hr : r ∈ db.maintenanceRequests) (horg : r.orgId ≠ "")
    (hpending : r.ownerApprovalStatus = .PENDING) :
    ∃ w, plan (sceneEnv r.orgId r.buildingId now) db (emergencyOverride r) = .ok w := by
  refine Outcome.exists_bind_ok (manager_assertOrgScope horg) ?_
  refine Outcome.exists_bind_ok manager_assertUserId ?_
  refine Outcome.exists_bind_ok (scene_assertBuildingInOrg horg) ?_
  refine Outcome.exists_bind_ok (a := ()) ?_ ?_
  · refine Outcome.throwIf_eq_ok.mpr (not_not.mpr ?_)
    simp [sceneEnv, scene_permissions]
  refine Outcome.exists_bind_ok (findByIdForBuilding_of_mem hr) ?_
  refine Outcome.exists_bind_ok (a := ()) (Outcome.throwIf_eq_ok.mpr (not_not.mpr hpending)) ?_
  refine Outcome.exists_bind_ok (a := ()) (Outcome.throwIf_eq_ok.mpr (by simp)) ?_
  exact Outcome.exists_bind_ok scene_connectUser ⟨_, rfl⟩

theorem emergencyOverride_succeeds (now : Date) {db : Db} {r : MaintenanceRequest}
    (hr : r ∈ db.maintenanceRequests) (horg : r.orgId ≠ "")
    (hpending : r.ownerApprovalStatus = .PENDING) :
    Succeeds (sceneEnv r.orgId r.buildingId now) (emergencyOverride r) db := by
  obtain ⟨w, hplan⟩ := emergencyOverride_plans now hr horg hpending
  obtain ⟨r₀, hr₀, -, -, userId, actorUserId, event, rfl⟩ := overrideOwnerApproval_ok hplan
  exact ⟨_, step_eq_ok.mpr ⟨_, hplan, commit_update.mpr ⟨r₀, hr₀, rfl, rfl⟩⟩⟩

end Manager

section Steps

/-- What the people of the scene do, each in the organisation "org" and the building
"building". -/
def act (now : Date) (op : Operation) : Env × Operation := (sceneEnv "org" "building" now, op)

def residentCreates (now : Date) (title : String) : Env × Operation :=
  act now (.createResidentRequest (some ⟨"resident", some "org"⟩)
    ⟨title, .undefined, .undefined, .undefined, .undefined, .undefined, .undefined⟩)

def residentCancels (now : Date) : Env × Operation :=
  act now (.cancelResidentRequest (some ⟨"resident", some "org"⟩) "request")

def managerRequires (now : Date) : Env × Operation :=
  act now (.requireOwnerApproval (manager "org") "building" "request"
    ⟨PolicyTriageFieldsDto.none, "Cost", .undefined⟩)

def managerTriages (now : Date) : Env × Operation :=
  act now (.updateRequestPolicyTriage (manager "org") "building" "request"
    { PolicyTriageFieldsDto.none with isUpgrade := .value true })

def landlordApproves (now : Date) : Env × Operation :=
  act now (.approveAccessibleRequest "landlord" "request" none)

def landlordRejects (now : Date) : Env × Operation :=
  act now (.rejectAccessibleRequest "landlord" "request" "No")

def managerAssignsProvider (now : Date) : Env × Operation :=
  act now (.assignProvider (manager "org") "building" "request" "provider")

def managerSetsStatus (now : Date) (status : MaintenanceRequestStatus) : Env × Operation :=
  act now (.updateRequestStatus (manager "org") "building" "request" status)

def managerRequestsEstimate (now : Date) : Env × Operation :=
  act now (.requestEstimateFromProvider (manager "org") "building" "request" "provider")

end Steps

end Towerdesk.Maintenance
