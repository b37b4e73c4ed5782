import Towerdesk.Access.RoleStore

/-!
# Role templates

An administrator of the organisation creates, edits and deletes its role templates. Every
repository call is a step of its own; only the replacement of a template's permissions is
a transaction.
-/

namespace Towerdesk.Access

open Script (query throwIf)

def PLATFORM_PERMISSION_PREFIX : String := "platform."

def isPlatformPermissionKey (key : String) : Bool :=
  PLATFORM_PERMISSION_PREFIX.toList.isPrefixOf key.toList

def RESERVED_ORG_ROLE_TEMPLATE_KEYS : List String := ["platform_superadmin"]

def isReservedRoleTemplateKey (key : String) : Bool := RESERVED_ORG_ROLE_TEMPLATE_KEYS.contains key

structure CreateRoleDto where
  key : String
  name : String
  scopeType : AccessScopeType
  description : Option String
  permissionKeys : List String
deriving DecidableEq, Repr

structure UpdateRoleTemplateDto where
  name : Field String
  description : Field String
  permissionKeys : Field (List String)
deriving DecidableEq, Repr

structure RoleResponseDto where
  id : Id
  key : String
  name : String
  description : Option String
  isSystem : Bool
  scopeType : AccessScopeType
  createdAt : Date
  updatedAt : Date
  permissions : List String
deriving DecidableEq, Repr

namespace Db

variable (db : Db)

def findRoleTemplateById (orgId roleTemplateId : Id) : Option RoleTemplateRow :=
  db.roleTemplates.table.findFirst fun r => r.id = roleTemplateId ∧ r.orgId = some orgId

/-- An empty list of keys is not looked up. -/
def findPermissionsByKeys (keys : List String) : List Permission :=
  db.permissions.rows.filter (·.key ∈ keys)

def hasUserRoleTemplateKeyInOrg (userId orgId : Id) (roleTemplateKey : String) : Bool :=
  db.userAccessAssignments.rows.any fun a =>
    a.userId = userId ∧ a.scopeType = .ORG ∧ a.scopeId = none ∧
      (db.roleTemplates.table.findUnique a.roleTemplateId).any fun r =>
        r.orgId = some orgId ∧ r.key = roleTemplateKey ∧ r.scopeType = .ORG

def countUsersAssignedToRoleTemplate (roleTemplateId : Id) : ℕ :=
  (db.userAccessAssignments.rows.filter (·.roleTemplateId = roleTemplateId)).length

end Db

section Permissions

variable (env : Env)

def listPlatformPermissionKeys (keys : List String) : List String :=
  env.sortKeys (keys.filter isPlatformPermissionKey).eraseDups

variable {env} in
theorem listPlatformPermissionKeys_eq_nil {keys : List String} :
    listPlatformPermissionKeys env keys = [] ↔ ∀ k ∈ keys, isPlatformPermissionKey k = false := by
  have hperm : (listPlatformPermissionKeys env keys).Perm
      (keys.filter isPlatformPermissionKey).eraseDups := List.perm_insertionSort _ _
  constructor
  · intro h k hk
    by_contra hplatform
    have hmem : k ∈ (keys.filter isPlatformPermissionKey).eraseDups :=
      List.mem_eraseDups.mpr (List.mem_filter.mpr ⟨hk, by simpa using hplatform⟩)
    rw [← hperm.mem_iff, h] at hmem
    cases hmem
  · intro h
    refine List.eq_nil_iff_forall_not_mem.mpr fun k hk => ?_
    have hfilter := List.mem_filter.mp (List.mem_eraseDups.mp (hperm.mem_iff.mp hk))
    rw [h k hfilter.1] at hfilter
    cases hfilter.2

def normalizeKeys (permissionKeys : List String) : List String :=
  ((permissionKeys.map trimString).filter (· ≠ "")).eraseDups

def missingKeys (keys : List String) (permissions : List Permission) : List String :=
  keys.filter fun key => (permissions.find? (·.key = key)).isNone

/-- The lookup itself is left out when there is nothing to look up. -/
def lookupPermissions (keys : List String) : Call (List Permission) :=
  if keys.isEmpty then pure [] else query fun db => .ok (db.findPermissionsByKeys keys)

def resolvePermissionIds (permissionKeys : List String) : Call (List Id) := do
  let normalizedKeys := normalizeKeys permissionKeys
  let disallowedPlatformKeys := listPlatformPermissionKeys env normalizedKeys
  throwIf (disallowedPlatformKeys ≠ [])
    (.badRequest ("Platform permission keys cannot be assigned to org role templates: " ++
      ", ".intercalate disallowedPlatformKeys))
  let permissions ← lookupPermissions normalizedKeys
  let missing := missingKeys normalizedKeys permissions
  throwIf (missing ≠ [])
    (.badRequest ("Unknown permission keys: " ++ ", ".intercalate missing))
  return permissions.map (·.id)

def replaceRoleTemplatePermissions (roleTemplateId : Id) (permissionIds : List Id) : Call Unit :=
  commit (.clearRolePermissions roleTemplateId ::
    permissionIds.map fun permissionId => .addRolePermission ⟨roleTemplateId, permissionId⟩)

end Permissions

section RolesService

variable (env : Env) (actorUserId orgId : Id)

def assertOrgAdmin : Call Unit :=
  query fun db => Outcome.throwIf (¬ db.hasUserRoleTemplateKeyInOrg actorUserId orgId "org_admin")
    (.forbidden "Only org_admin can manage role templates")

def toRoleResponse (t : AccessTables) (r : RoleTemplateRow) : RoleResponseDto where
  id := r.id
  key := r.key
  name := r.name
  description := r.description
  isSystem := r.isSystem
  scopeType := r.scopeType
  createdAt := r.createdAt
  updatedAt := r.updatedAt
  permissions := env.sortKeys (t.permissionKeysOfRole r.id)

def list : Call (List RoleResponseDto) :=
  query fun db => .ok (((db.roleTemplates.table.rows.filter (·.orgId = some orgId)).filter
    fun r => isVisibleRoleTemplate r.toRoleTemplate).map (toRoleResponse env db.tables))

def visibleTemplate (db : Db) (roleTemplateId : Id) : Result RoleTemplateRow := do
  let roleTemplate ← Outcome.orThrow (db.findRoleTemplateById orgId roleTemplateId)
    (.notFound "Role template not found")
  Outcome.throwIf (¬ isVisibleRoleTemplate roleTemplate.toRoleTemplate)
    (.notFound "Role template not found")
  return roleTemplate

def getById (roleTemplateId : Id) : Call RoleResponseDto :=
  query fun db => toRoleResponse env db.tables <$> visibleTemplate orgId db roleTemplateId

def isUniqueConflict (error : HttpException) : Prop := error = uniqueFailed

instance (error : HttpException) : Decidable (isUniqueConflict error) :=
  inferInstanceAs (Decidable (error = uniqueFailed))

def newTemplate (dto : CreateRoleDto) : RoleTemplateRow where
  id := env.roleTemplateId
  orgId := some orgId
  key := trimString dto.key
  isSystem := false
  scopeType := dto.scopeType
  name := trimString dto.name
  description := dto.description.map trimString
  createdAt := env.now
  updatedAt := env.now

def keyTaken (error : HttpException) : HttpException :=
  if isUniqueConflict error then .conflict "Role template key already exists" else error

/-- The response is read outside the `try`: its promise is returned, not awaited. -/
def create (dto : CreateRoleDto) : Call RoleResponseDto := do
  assertOrgAdmin actorUserId orgId
  throwIf (isReservedRoleTemplateKey (trimString dto.key))
    (.badRequest "Role template key is reserved")
  let permissionIds ← resolvePermissionIds env dto.permissionKeys
  Script.mapError keyTaken do
    commit [.createRoleTemplate (newTemplate env orgId dto)]
    replaceRoleTemplatePermissions env.roleTemplateId permissionIds
  getById env orgId env.roleTemplateId

def templateEdited (name : Field String) (description : Field String) :
    Patch RoleTemplateRow.rowId where
  apply r := { r with
    name := (name.toOption.map trimString).getD r.name
    description := if description.isUndefined then r.description
      else description.toOption.map trimString
    updatedAt := env.now }
  key_apply _ := rfl

/-- `null.trim()` is a type error. -/
def editTemplate (roleTemplateId : Id) (dto : UpdateRoleTemplateDto) : Call Unit :=
  if ¬ dto.name.isUndefined ∨ ¬ dto.description.isUndefined then do
    throwIf (dto.name = .null) (.internal "Cannot read properties of null")
    commit [.updateRoleTemplate roleTemplateId (templateEdited env dto.name dto.description)]
  else return ()

def editPermissions (roleTemplateId : Id) (permissionKeys : Field (List String)) : Call Unit :=
  match permissionKeys with
  | .value permissionKeys => do
    let permissionIds ← resolvePermissionIds env permissionKeys
    replaceRoleTemplatePermissions roleTemplateId permissionIds
  | .undefined | .null => return ()

def update (roleTemplateId : Id) (dto : UpdateRoleTemplateDto) : Call RoleResponseDto := do
  assertOrgAdmin actorUserId orgId
  let existing ← query fun db => visibleTemplate orgId db roleTemplateId
  throwIf existing.isSystem (.badRequest "System role templates cannot be edited")
  editTemplate env roleTemplateId dto
  editPermissions env roleTemplateId dto.permissionKeys
  getById env orgId roleTemplateId

def deleteTemplate (roleTemplateId : Id) : Call Unit := commit [.deleteRoleTemplate roleTemplateId]

def delete (roleTemplateId : Id) : Call Unit := do
  assertOrgAdmin actorUserId orgId
  let roleTemplate ← query fun db => visibleTemplate orgId db roleTemplateId
  throwIf roleTemplate.isSystem (.badRequest "System role templates cannot be deleted")
  let assignedUsers ← query fun db => .ok (db.countUsersAssignedToRoleTemplate roleTemplateId)
  throwIf (assignedUsers > 0)
    (.conflict "Role template is assigned and cannot be deleted")
  deleteTemplate roleTemplateId

end RolesService

end Towerdesk.Access
