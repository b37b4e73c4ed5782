import Towerdesk.Access.Roles
import Towerdesk.Leases.Scene

/-!
# Assignments, overrides and provisioning

A user of the organisation is assigned visible templates and given overrides, one call at a
time or together when the user is provisioned. Provisioning reads statement by statement and
commits what it writes as a whole, as a transaction does whose inserts are checked against
the templates that exist by then.
-/

namespace Towerdesk.Access

open Script (query throwIf orThrow)
open Users (ProvisionAccessAssignmentDto OrgUserProvisionParams scopeTypeText dedupeAssignments)

structure CreateAccessAssignmentDto where
  roleTemplateId : Id
  scopeType : AccessScopeType
  scopeId : Option Id
deriving DecidableEq, Repr

structure AccessAssignmentResponseDto where
  id : Id
  userId : Id
  roleTemplateId : Id
  roleTemplateKey : String
  scopeType : AccessScopeType
  scopeId : Option Id
deriving DecidableEq, Repr

def buildUserAccessAssignmentId (env : Env) (userId roleTemplateId : Id)
    (scopeType : AccessScopeType) (scopeId : Option Id) : Id :=
  env.md5 (":".intercalate [userId, roleTemplateId, scopeTypeText scopeType, scopeId.getD ""])

def newAssignment (env : Env) (userId roleTemplateId : Id) (scopeType : AccessScopeType)
    (scopeId : Option Id) : UserAccessAssignment where
  id := buildUserAccessAssignmentId env userId roleTemplateId scopeType scopeId
  userId
  roleTemplateId
  scopeType
  scopeId

namespace Db

variable (db : Db)

def findUserAccessAssignmentById (assignmentId orgId : Id) :
    Option (UserAccessAssignment × RoleTemplateRow) :=
  (db.userAccessAssignments.findUnique assignmentId).bind fun a =>
    ((db.roleTemplates.table.findUnique a.roleTemplateId).filter (·.orgId = some orgId)).map
      fun r => (a, r)

def findDuplicateUserAccessAssignment (userId roleTemplateId : Id) (scopeType : AccessScopeType)
    (scopeId : Option Id) : Option UserAccessAssignment :=
  db.userAccessAssignments.findFirst fun a =>
    a.userId = userId ∧ a.roleTemplateId = roleTemplateId ∧ a.scopeType = scopeType ∧
      a.scopeId = scopeId

def assertUserInOrg (userId orgId : Id) : Result Unit :=
  Outcome.throwIf
    (¬ (db.tenancy.directory.users.findUnique userId).any fun u => u.orgId = some orgId)
    (.badRequest "User not in org")

def assertBuildingInOrg (buildingId orgId : Id) : Result Unit :=
  Outcome.throwIf (db.tenancy.directory.buildings.findFirst fun b =>
      b.id = buildingId ∧ b.orgId = orgId).isNone
    (.notFound "Building not found")

end Db

section UserAccessService

variable (env : Env) (userId orgId : Id)

def assertUserInOrg : Call Unit := query fun db => db.assertUserInOrg userId orgId

/-- A building is looked up for an assignment scoped to one, and only then. -/
def assertScope (scopeType : AccessScopeType) (scopeId : Option Id) : Call Unit :=
  match scopeType with
  | .ORG => return ()
  | .BUILDING => do
    let scopeId ← orThrow (truthy scopeId)
      (.badRequest "BUILDING assignments require a building scopeId")
    query fun db => db.assertBuildingInOrg scopeId orgId

def scopeIdOf (scopeType : AccessScopeType) (scopeId : Option Id) : Option Id :=
  match scopeType with
  | .ORG => none
  | .BUILDING => scopeId

def assignableTemplate (db : Db) (roleTemplateId : Id) : Result RoleTemplateRow := do
  let roleTemplate ← Outcome.orThrow (db.findRoleTemplateById orgId roleTemplateId)
    (.badRequest "Role template not found")
  Outcome.throwIf (¬ isVisibleRoleTemplate roleTemplate.toRoleTemplate)
    (.badRequest "Role template not found")
  return roleTemplate

def toAccessAssignmentResponse (found : UserAccessAssignment × RoleTemplateRow) :
    AccessAssignmentResponseDto where
  id := found.1.id
  userId := found.1.userId
  roleTemplateId := found.1.roleTemplateId
  roleTemplateKey := found.2.key
  scopeType := found.1.scopeType
  scopeId := found.1.scopeId

def createAccessAssignment (dto : CreateAccessAssignmentDto) :
    Call AccessAssignmentResponseDto := do
  assertUserInOrg userId orgId
  let roleTemplate ← query fun db => assignableTemplate orgId db dto.roleTemplateId
  let scopeId := scopeIdOf dto.scopeType dto.scopeId
  throwIf (roleTemplate.scopeType ≠ dto.scopeType)
    (.badRequest "Assignment scopeType must match the role template scopeType")
  assertScope orgId dto.scopeType scopeId
  let duplicate ← query fun db =>
    .ok (db.findDuplicateUserAccessAssignment userId dto.roleTemplateId dto.scopeType scopeId)
  throwIf duplicate.isSome (.conflict "Access assignment already exists")
  let row := newAssignment env userId dto.roleTemplateId dto.scopeType scopeId
  commit [.upsertAssignment row]
  query fun db => toAccessAssignmentResponse <$>
    Outcome.orThrow (db.findUserAccessAssignmentById row.id orgId)
      (.notFound "Access assignment not found")

def deleteAccessAssignment (assignmentId : Id) : Call Unit := do
  assertUserInOrg userId orgId
  let assignment ← query fun db => .ok (db.findUserAccessAssignmentById assignmentId orgId)
  throwIf (¬ assignment.any fun found => found.1.userId = userId)
    (.notFound "Access assignment not found")
  commit [.deleteAssignment assignmentId]

structure OverrideDto where
  permissionKey : String
  effect : PermissionEffect
deriving DecidableEq, Repr

/-- A `Map` keeps the last entry of a key. -/
def permissionIdByKey (permissions : List Permission) (key : String) : Option Id :=
  (permissions.reverse.find? (·.key = key)).map (·.id)

def mappedOverrides (permissions : List Permission) (overrides : List OverrideDto) :
    List UserPermission :=
  overrides.filterMap fun o =>
    (truthy (permissionIdByKey permissions o.permissionKey)).map fun id => ⟨userId, id, o.effect⟩

def setPermissionOverrides (overrides : List OverrideDto) : Call Unit := do
  assertUserInOrg userId orgId
  let permissionKeys := overrides.map (·.permissionKey)
  let disallowedPlatformKeys := listPlatformPermissionKeys env permissionKeys
  throwIf (disallowedPlatformKeys ≠ [])
    (.badRequest ("Platform permission keys cannot be assigned to org users: " ++
      ", ".intercalate disallowedPlatformKeys))
  let permissions ← lookupPermissions permissionKeys
  let missing := missingKeys permissionKeys permissions
  throwIf (missing ≠ []) (.badRequest ("Unknown permission keys: " ++ ", ".intercalate missing))
  commit (.clearUserPermissions userId ::
    (mappedOverrides userId permissions overrides).map .addUserPermission)

end UserAccessService

section Provisioning

variable (env : Env) (orgId : Id)

structure AppliedAssignment where
  assignmentId : Id
  roleTemplateKey : String
  scopeType : AccessScopeType
  scopeId : Option Id
deriving DecidableEq, Repr

/-- One grant once its statements have been read: the row it upserts, unless there is one for
the same user, template and scope already. -/
structure ResolvedGrant where
  row : UserAccessAssignment
  roleTemplateKey : String
  duplicate : Option Id
deriving DecidableEq

def ResolvedGrant.writes (g : ResolvedGrant) : List DbWrite :=
  match g.duplicate with
  | some _ => []
  | none => [.upsertAssignment g.row]

def ResolvedGrant.applied (g : ResolvedGrant) : AppliedAssignment where
  assignmentId := g.duplicate.getD g.row.id
  roleTemplateKey := g.roleTemplateKey
  scopeType := g.row.scopeType
  scopeId := g.row.scopeId

def resolveGrant (userId : Id) (grant : ProvisionAccessAssignmentDto) : Call ResolvedGrant := do
  let roleTemplate ← query fun db =>
    Users.findRoleTemplateForProvisioning (env.at db) orgId grant
  let scopeId := scopeIdOf grant.scopeType grant.scopeId
  throwIf (roleTemplate.scopeType ≠ grant.scopeType)
    (.badRequest "Assignment scopeType must match the role template scopeType")
  assertScope orgId grant.scopeType scopeId
  let duplicate ← query fun db =>
    .ok (db.findDuplicateUserAccessAssignment userId roleTemplate.id grant.scopeType scopeId)
  return {
    row := newAssignment env userId roleTemplate.id grant.scopeType scopeId
    roleTemplateKey := roleTemplate.key
    duplicate := duplicate.map (·.id) }

/-- By scope type, then scope, then template. -/
def AppliedAssignment.le (left right : AppliedAssignment) : Bool :=
  if left.scopeType ≠ right.scopeType then
    (env.localeCompare (scopeTypeText left.scopeType) (scopeTypeText right.scopeType)).isLE
  else if left.scopeId.getD "" ≠ right.scopeId.getD "" then
    (env.localeCompare (left.scopeId.getD "") (right.scopeId.getD "")).isLE
  else (env.localeCompare left.roleTemplateKey right.roleTemplateKey).isLE

structure Applied where
  orgAccess : List AppliedAssignment
  buildingAccess : List AppliedAssignment
deriving DecidableEq, Repr

def appliedAssignments (grants : List ResolvedGrant) : Applied :=
  let applied := (grants.map ResolvedGrant.applied).insertionSort fun left right =>
    left.le env right = true
  { orgAccess := applied.filter (·.scopeType = .ORG)
    buildingAccess := applied.filter (·.scopeType = .BUILDING) }

def baselinePermissions (ensureResidentBaselinePermissions : Bool)
    (params : OrgUserProvisionParams) (userId : Id) : Call (List UserPermission) :=
  if ensureResidentBaselinePermissions = true ∨ params.resident.isSome then
    query fun db => .ok (Messaging.residentPermissions db.tables userId)
  else return []

def tenancyWrites (plan : Leases.Plan) : List DbWrite := (Transaction.writes plan).map .tenancy

/-- The response is built from the user as it is once the transaction is committed. -/
def assertResponse (userId : Id) (orgId : Id) : Call Unit :=
  query fun db => Outcome.throwIf
    (¬ (db.tenancy.directory.users.findUnique userId).any fun u => u.orgId = some orgId)
    (.notFound "User not found")

def provisionOrgUser (params : OrgUserProvisionParams)
    (ensureResidentBaselinePermissions : Bool) : Call (Id × Applied) := do
  let (userId, user) ← query fun db => Users.targetUser (env.at db) db.tenancy params
  let baseline ← baselinePermissions ensureResidentBaselinePermissions params userId
  let grants ← Script.collect (resolveGrant env params.orgId userId)
    (dedupeAssignments params.accessAssignments)
  let resident ← query fun db =>
    Users.applyResidentGrant (env.at db) db.tenancy params.orgId userId params.resident
  commit (user.toList.map .tenancy ++ baseline.map .addUserPermission ++
    grants.flatMap ResolvedGrant.writes ++ tenancyWrites resident)
  assertResponse userId params.orgId
  return (userId, appliedAssignments env grants)

end Provisioning

section Tower

def towerDirectory : Directory := { Directory.empty with
  buildings := ⟨[⟨"tower", "org", "Tower", "City"⟩], List.nodup_singleton _⟩
  users := ⟨[⟨"root", "root@example.com", none, none, none, true⟩,
    ⟨"admin", "admin@example.com", none, none, some "org", true⟩,
    ⟨"ann", "ann@example.com", none, none, some "org", true⟩], by decide⟩ }

def systemTemplate (id : Id) (orgId : Option Id) (key : String) : RoleTemplateRow where
  id
  orgId
  key
  isSystem := true
  scopeType := .ORG
  name := key
  description := none
  createdAt := 0
  updatedAt := 0

def helperTemplate : RoleTemplateRow :=
  { systemTemplate "helpers" (some "org") "helper" with isSystem := false }

def towerTemplates : Table RoleTemplateRow.rowId :=
  ⟨[systemTemplate "super" none "platform_superadmin",
    systemTemplate "admins" (some "org") "org_admin", helperTemplate], by decide⟩

theorem towerTemplates_valid : roleTemplateCheck towerTemplates = none := by decide

/-- An organisation with an administrator and a template of its own, and the platform's. -/
def tower : Db where
  tenancy := .start towerDirectory
  permissions := ⟨[⟨"read", "users.read"⟩, ⟨"create", "platform.org.create"⟩], by decide⟩
  roleTemplates := ⟨towerTemplates, towerTemplates_valid⟩
  rolePermissions := ⟨[⟨"super", "create"⟩, ⟨"admins", "read"⟩], by decide⟩
  userAccessAssignments := ⟨[⟨"rooting", "root", "super", .ORG, none⟩,
    ⟨"running", "admin", "admins", .ORG, none⟩], by decide⟩
  userPermissions := .empty _

/-- A call at which no two texts have to be told apart. -/
def towerEnv : Env where
  access := .empty
  now := 1
  ids := ⟨"new", "new", "new", "new", fun _ => "new"⟩
  parseDecimal := fun _ => none
  toLowerCase := id
  roleTemplateId := "new"
  md5 := id
  localeCompare := fun _ _ => .eq

end Tower

end Towerdesk.Access
