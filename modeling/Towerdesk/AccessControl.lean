import Towerdesk.Lib.Table
import Towerdesk.Common
import Mathlib.Data.Finset.Basic

/-!
# Effective permissions

Role templates reach a user through assignments scoped to the organisation or to
one building; the user's own overrides are applied on top, one by one, each adding
or removing its key.
-/

namespace Towerdesk

inductive AccessScopeType
  | ORG | BUILDING
deriving DecidableEq, Repr

inductive PermissionEffect
  | ALLOW | DENY
deriving DecidableEq, Repr

structure Permission where
  id : Id
  key : String
deriving DecidableEq, Repr

structure RoleTemplate where
  id : Id
  orgId : Option Id
  key : String
  isSystem : Bool
  scopeType : AccessScopeType
deriving DecidableEq, Repr

structure RoleTemplatePermission where
  roleTemplateId : Id
  permissionId : Id
deriving DecidableEq, Repr

def RoleTemplatePermission.key (p : RoleTemplatePermission) : Id × Id :=
  (p.roleTemplateId, p.permissionId)

structure UserAccessAssignment where
  id : Id
  userId : Id
  roleTemplateId : Id
  scopeType : AccessScopeType
  scopeId : Option Id
deriving DecidableEq, Repr

structure UserPermission where
  userId : Id
  permissionId : Id
  effect : PermissionEffect
deriving DecidableEq, Repr

def UserPermission.key (p : UserPermission) : Id × Id := (p.userId, p.permissionId)

structure AccessTables where
  permissions : Table Permission.id
  roleTemplates : Table RoleTemplate.id
  rolePermissions : Table RoleTemplatePermission.key
  userAccessAssignments : Table UserAccessAssignment.id
  userPermissions : Table UserPermission.key

def VISIBLE_SYSTEM_ROLE_TEMPLATE_KEYS : List String :=
  ["org_admin", "viewer", "building_admin", "building_manager", "building_staff"]

def isVisibleRoleTemplate (roleTemplate : RoleTemplate) : Bool :=
  if roleTemplate.key = "platform_superadmin" then false
  else if roleTemplate.isSystem = false then true
  else VISIBLE_SYSTEM_ROLE_TEMPLATE_KEYS.contains roleTemplate.key

def PERMISSION_ALIASES : String → List String
  | "contracts.read" => ["leases.read"]
  | "contracts.write" => ["leases.write"]
  | "contracts.documents.read" => ["leases.documents.read"]
  | "contracts.documents.write" => ["leases.documents.write"]
  | "contracts.occupants.read" => ["leases.occupants.read"]
  | "contracts.occupants.write" => ["leases.occupants.write"]
  | "contracts.move_in.execute" => ["leases.move_in"]
  | "contracts.move_out.execute" => ["leases.move_out"]
  | "contracts.move_requests.review" => ["leases.move_in", "leases.move_out"]
  | "contracts.move_in_request.create" => ["leases.move_in"]
  | "contracts.move_out_request.create" => ["leases.move_out"]
  | "leases.read" => ["contracts.read"]
  | "leases.write" => ["contracts.write"]
  | "leases.documents.read" => ["contracts.documents.read"]
  | "leases.documents.write" => ["contracts.documents.write"]
  | "leases.occupants.read" => ["contracts.occupants.read"]
  | "leases.occupants.write" => ["contracts.occupants.write"]
  | "leases.move_in" =>
    ["contracts.move_in.execute", "contracts.move_in_request.create",
      "contracts.move_requests.review"]
  | "leases.move_out" =>
    ["contracts.move_out.execute", "contracts.move_out_request.create",
      "contracts.move_requests.review"]
  | "service_providers.read" => ["serviceProviders.read"]
  | "service_providers.write" => ["serviceProviders.write"]
  | "serviceProviders.read" => ["service_providers.read"]
  | "serviceProviders.write" => ["service_providers.write"]
  | _ => []

def hasPermissionMatch (effectivePermissions : Finset String) (permission : String) : Bool :=
  permission ∈ effectivePermissions || (PERMISSION_ALIASES permission).any (· ∈ effectivePermissions)

def hasAllPermissionMatches (effectivePermissions : Finset String) (permissions : List String) :
    Bool :=
  permissions.all (hasPermissionMatch effectivePermissions)

structure UserPermissionOverride where
  key : String
  effect : PermissionEffect
deriving DecidableEq, Repr

structure ScopedAccess where
  assignments : List UserAccessAssignment
  rolePermissionKeys : List String
  userOverrides : List UserPermissionOverride

namespace AccessTables

def empty : AccessTables where
  permissions := .empty _
  roleTemplates := .empty _
  rolePermissions := .empty _
  userAccessAssignments := .empty _
  userPermissions := .empty _

variable (t : AccessTables)

def permissionKeysOfRole (roleTemplateId : Id) : List String :=
  (t.rolePermissions.rows.filter (·.roleTemplateId = roleTemplateId)).filterMap fun p =>
    (t.permissions.findUnique p.permissionId).map (·.key)

/-- `assignmentWhere` of `getUserScopedAccess`, the role template joined in. Without a
building the spread's own `roleTemplate` replaces the one that names the organisation. -/
def inScope (orgId : Option Id) (buildingId : Option Id) (a : UserAccessAssignment)
    (r : RoleTemplate) : Bool :=
  match buildingId with
  | none => a.scopeType = .ORG ∧ a.scopeId = none ∧ r.scopeType = .ORG
  | some buildingId =>
    r.orgId = orgId ∧
      ((a.scopeType = .ORG ∧ a.scopeId = none ∧ r.scopeType = .ORG) ∨
        (a.scopeType = .BUILDING ∧ a.scopeId = some buildingId ∧ r.scopeType = .BUILDING))

theorem inScope_org {orgId buildingId : Option Id} {a : UserAccessAssignment} {r : RoleTemplate}
    (hscope : a.scopeType = .ORG) (hid : a.scopeId = none) (hrole : r.scopeType = .ORG)
    (horg : r.orgId = orgId) : inScope orgId buildingId a r = true := by
  cases buildingId with
  | none => simp [inScope, hscope, hid, hrole]
  | some buildingId => simp [inScope, hscope, hid, hrole, horg]

def userOverrides (userId : Id) : List UserPermissionOverride :=
  (t.userPermissions.rows.filter (·.userId = userId)).filterMap fun p =>
    (t.permissions.findUnique p.permissionId).map fun permission => ⟨permission.key, p.effect⟩

def getUserScopedAccess (userId : Id) (orgId buildingId : Option Id)
    (includeHiddenRoleTemplates : Bool) : ScopedAccess :=
  let visibleAssignments := t.userAccessAssignments.rows.filter fun a =>
    a.userId = userId ∧
      (t.roleTemplates.findUnique a.roleTemplateId).any fun r =>
        inScope orgId (truthy buildingId) a r && (includeHiddenRoleTemplates || isVisibleRoleTemplate r)
  { assignments := visibleAssignments
    rolePermissionKeys := visibleAssignments.flatMap fun a => t.permissionKeysOfRole a.roleTemplateId
    userOverrides := t.userOverrides userId }

def getUserAccessAcrossAnyScope (userId : Id) (orgId : Option Id) : ScopedAccess :=
  let visibleAssignments := t.userAccessAssignments.rows.filter fun a =>
    a.userId = userId ∧
      (t.roleTemplates.findUnique a.roleTemplateId).any fun r =>
        r.orgId = orgId && isVisibleRoleTemplate r
  { assignments := visibleAssignments
    rolePermissionKeys := visibleAssignments.flatMap fun a => t.permissionKeysOfRole a.roleTemplateId
    userOverrides := t.userOverrides userId }

def applyOverride (effective : Finset String) (override : UserPermissionOverride) : Finset String :=
  match override.effect with
  | .ALLOW => insert override.key effective
  | .DENY => effective.erase override.key

def getUserEffectivePermissions (userId : Id) (orgId buildingId : Option Id) : Finset String :=
  let access := t.getUserScopedAccess userId orgId buildingId false
  access.userOverrides.foldl applyOverride access.rolePermissionKeys.toFinset

def getUserEffectivePermissionsAcrossAnyScope (userId : Id) (orgId : Option Id) : Finset String :=
  let access := t.getUserAccessAcrossAnyScope userId orgId
  access.userOverrides.foldl applyOverride access.rolePermissionKeys.toFinset

def getUserScopedAssignments (userId : Id) (orgId buildingId : Option Id) :
    List UserAccessAssignment :=
  (t.getUserScopedAccess userId orgId buildingId false).assignments

end AccessTables

end Towerdesk
