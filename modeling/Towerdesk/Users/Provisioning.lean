import Towerdesk.Leases.Contracts

/-!
# Provisioning the users of an organisation

One transaction finds or creates a user by email, grants access and opens or ends
occupancies for a resident. Grants of access write tables every call is given anew, so
only their checks are here; the invitation and the response come after the transaction
and change nothing in this store.
-/

namespace Towerdesk.Users

open Leases (Env Db DbError DbWrite Plan FreshIds normalizeEmail occupancyEnded
  describeEmailOwnershipConflict)

inductive ProvisionIfEmailExists
  | LINK | ERROR
deriving DecidableEq, Repr

inductive ResidentGrantMode
  | ADD | MOVE | MOVE_OUT
deriving DecidableEq, Repr

structure ProvisionIdentity where
  email : String
  name : Option String
  phone : Option String
  password : Option String
  sendInvite : Option Bool
deriving DecidableEq, Repr

structure ProvisionAccessAssignmentDto where
  roleTemplateId : Option Id
  roleTemplateKey : Option String
  scopeType : AccessScopeType
  scopeId : Option Id
deriving DecidableEq, Repr

structure ResidentGrantDto where
  buildingId : Id
  unitId : Option Id
  mode : Option ResidentGrantMode
deriving DecidableEq, Repr

structure ProvisionMode where
  ifEmailExists : Option ProvisionIfEmailExists
  requireSameOrg : Option Bool
deriving DecidableEq, Repr

structure OrgUserProvisionParams where
  orgId : Id
  identity : ProvisionIdentity
  accessAssignments : List ProvisionAccessAssignmentDto
  resident : Option ResidentGrantDto
  mode : ProvisionMode
  allowGeneratedPasswordWithoutInvite : Bool
deriving DecidableEq, Repr

section TargetUser

variable (env : Env) (db : Db)

def userJoined (orgId : Id) : Patch User.id where
  apply u := { u with orgId := some orgId }
  key_apply _ := rfl

/-- The user found by email and, when they belong to no organisation yet, the write that has
them join. -/
def linkUser (orgId : Id) (mode : ProvisionMode) (targetUser : User) :
    Result (Id × Option DbWrite) := do
  Outcome.throwIf (mode.ifEmailExists.getD .LINK = .ERROR)
    (.conflict (describeEmailOwnershipConflict targetUser.orgId orgId))
  let joins := targetUser.orgId ≠ some orgId
  Outcome.throwIf (joins ∧ ¬ ((truthy targetUser.orgId).isNone ∧ mode.requireSameOrg = some false))
    (.badRequest "User not in org")
  Outcome.throwIf (truthy (some orgId)).isNone (.badRequest "User not in org")
  Outcome.throwIf (¬ targetUser.isActive) (.badRequest "User not active")
  return (targetUser.id, if joins then some (.user (.update targetUser.id (userJoined orgId)))
    else none)

/-- `length` of a JavaScript string. -/
def utf16Length (s : String) : ℕ := (s.toList.map fun c => if c.val < 0x10000 then 1 else 2).sum

def newUser (params : OrgUserProvisionParams) (email : String) : Result (Id × Option DbWrite) := do
  let name ← Outcome.orThrow (truthy (params.identity.name.map trimString))
    (.badRequest "Name required")
  Outcome.throwIf (utf16Length name < 2) (.badRequest "Name required")
  Outcome.throwIf ((truthy params.identity.password).isNone ∧
      params.identity.sendInvite ≠ some true ∧ params.allowGeneratedPasswordWithoutInvite = false)
    (.badRequest "Password or sendInvite required")
  return (env.ids.user, some (.user (.create {
    id := env.ids.user
    email
    name := some name
    phone := params.identity.phone.map trimString
    orgId := some params.orgId
    isActive := true })))

def targetUser (params : OrgUserProvisionParams) : Result (Id × Option DbWrite) :=
  let email := normalizeEmail env params.identity.email
  match db.directory.users.findFirst fun u => env.toLowerCase u.email = env.toLowerCase email with
  | some user => linkUser params.orgId params.mode user
  | none => newUser env params email

variable {env db} in
theorem targetUser_write {params : OrgUserProvisionParams} {userId : Id} {write : Option DbWrite}
    (h : targetUser env db params = .ok (userId, write)) :
    write = none ∨ ∃ w, write = some (.user w) := by
  unfold targetUser at h
  dsimp only at h
  split at h
  · simp only [linkUser, Outcome.bind_eq_ok, Outcome.pure_eq_ok, Prod.mk.injEq] at h
    obtain ⟨-, -, -, -, -, -, -, -, -, hwrite⟩ := h
    split at hwrite
    · exact .inr ⟨_, hwrite.symm⟩
    · exact .inl hwrite.symm
  · simp only [newUser, Outcome.bind_eq_ok, Outcome.pure_eq_ok, Prod.mk.injEq] at h
    obtain ⟨-, -, -, -, -, -, -, rfl⟩ := h
    exact .inr ⟨_, rfl⟩

end TargetUser

section AccessAssignments

variable (env : Env) (db : Db)

def scopeTypeText : AccessScopeType → String
  | .ORG => "ORG"
  | .BUILDING => "BUILDING"

/-- What tells two assignments apart; one without a selector is skipped. -/
def assignmentKey (a : ProvisionAccessAssignmentDto) : Option String :=
  (truthy (a.roleTemplateId <|> a.roleTemplateKey)).map fun selector =>
    selector ++ ":" ++ scopeTypeText a.scopeType ++ ":" ++ a.scopeId.getD ""

def dedupeAssignments (assignments : List ProvisionAccessAssignmentDto) :
    List ProvisionAccessAssignmentDto :=
  (assignments.foldl (fun (acc : List String × List ProvisionAccessAssignmentDto) a =>
    match assignmentKey a with
    | none => acc
    | some key =>
      if acc.1.contains key then acc
      else (key :: acc.1,
        acc.2 ++ [{ a with scopeId := if a.scopeType = .ORG then none else a.scopeId }]))
    ([], [])).2

def findRoleTemplateForProvisioning (orgId : Id) (grant : ProvisionAccessAssignmentDto) :
    Result RoleTemplate := do
  Outcome.throwIf
    ((truthy grant.roleTemplateId).isNone ∧ (truthy grant.roleTemplateKey).isNone)
    (.badRequest "Each access assignment requires roleTemplateId or roleTemplateKey")
  let roleTemplate ← Outcome.orThrow
    (env.access.roleTemplates.findFirst fun r => r.orgId = some orgId ∧
      (truthy grant.roleTemplateId = some r.id ∨ truthy grant.roleTemplateKey = some r.key))
    (.badRequest "Role template not found")
  Outcome.throwIf (¬ isVisibleRoleTemplate roleTemplate) (.badRequest "Role template not found")
  return roleTemplate

def checkAccessAssignment (orgId : Id) (grant : ProvisionAccessAssignmentDto) : Result Unit := do
  let roleTemplate ← findRoleTemplateForProvisioning env orgId grant
  Outcome.throwIf (roleTemplate.scopeType ≠ grant.scopeType)
    (.badRequest "Assignment scopeType must match the role template scopeType")
  match grant.scopeType with
  | .ORG => return ()
  | .BUILDING =>
    let scopeId ← Outcome.orThrow (truthy grant.scopeId)
      (.badRequest "BUILDING assignments require a building scopeId")
    Outcome.throwIf
      (db.directory.buildings.findFirst fun b => b.id = scopeId ∧ b.orgId = orgId).isNone
      (.notFound "Building not found")

end AccessAssignments

section ResidentGrant

variable (env : Env) (db : Db)

/-- The active occupancies of a resident in a building, but for those of the unit they stay in. -/
def leaves (userId buildingId : Id) (stays : Option Id) (o : Occupancy) : Bool :=
  o.residentUserId = userId ∧ o.buildingId = buildingId ∧ o.status = .ACTIVE ∧ some o.unitId ≠ stays

def endOccupancies (userId buildingId : Id) (stays : Option Id) : DbWrite :=
  .occupancy (.updateMany (leaves userId buildingId stays) (occupancyEnded env.now env.now))

def newOccupancy (userId buildingId unitId : Id) : Occupancy where
  id := env.ids.occupancy
  buildingId
  unitId
  residentUserId := userId
  status := .ACTIVE
  startAt := env.now
  endAt := none
  createdAt := env.now
  updatedAt := env.now

def existingForUserUnit (userId unitId : Id) (existingForUnit : Option Occupancy) :
    Option Occupancy :=
  (existingForUnit.filter (·.residentUserId = userId)) <|>
    db.occupancies.table.findFirst fun o =>
      o.unitId = unitId ∧ o.residentUserId = userId ∧ o.status = .ACTIVE

/-- ADD and MOVE: both open an occupancy of the unit unless the user has one. -/
def moveResident (userId : Id) (grant : ResidentGrantDto) (moves : Bool) : Result Plan := do
  let unitId ← Outcome.orThrow (truthy grant.unitId) (.badRequest "Unit required")
  let unit ← Outcome.orThrow
    (db.directory.units.findFirst fun u => u.id = unitId ∧ u.buildingId = grant.buildingId)
    (.badRequest "Unit not in building")
  let existingForUnit := db.occupancies.table.findFirst fun o =>
    o.unitId = unit.id ∧ o.status = .ACTIVE
  Outcome.throwIf (existingForUnit.any fun o => o.residentUserId ≠ userId)
    (.conflict "Unit is already occupied")
  let existingForResident := db.occupancies.table.findFirst fun o =>
    o.residentUserId = userId ∧ o.status = .ACTIVE
  Outcome.throwIf (¬ moves ∧ existingForResident.any fun o => o.unitId ≠ unit.id)
    (.conflict "Resident already occupying a unit")
  return (if moves then [.write (endOccupancies env userId grant.buildingId (some unit.id))]
      else []) ++
    if (existingForUserUnit db userId unit.id existingForUnit).isSome then []
    else [.write (.occupancy (.create (newOccupancy env userId grant.buildingId unit.id)))]

def applyResidentGrant (orgId userId : Id) (residentGrant : Option ResidentGrantDto) :
    Result Plan :=
  match residentGrant with
  | none => .ok []
  | some grant => do
    Outcome.throwIf
      (db.directory.buildings.findFirst fun b => b.id = grant.buildingId ∧ b.orgId = orgId).isNone
      (.notFound "Building not found")
    match grant.mode.getD .ADD with
    | .MOVE_OUT => return [.write (endOccupancies env userId grant.buildingId none)]
    | .MOVE => moveResident env db userId grant true
    | .ADD => moveResident env db userId grant false

end ResidentGrant

section Provision

variable (env : Env)

def provisionPlan (db : Db) (params : OrgUserProvisionParams) : Result Plan := do
  let (userId, write) ← targetUser env db params
  (dedupeAssignments params.accessAssignments).forM (checkAccessAssignment env db params.orgId)
  let resident ← applyResidentGrant env db params.orgId userId params.resident
  return (write.map .write).toList ++ resident

def mapOccupancyConstraintError : DbError → HttpException
  | .violates .uniq_active_occupancy_per_unit => .conflict "Unit is already occupied"
  | .violates .uniq_active_occupancy_per_resident => .conflict "Resident already occupying a unit"
  | .violates .occupancy_status_endat_consistency => .badRequest "Invalid occupancy state"
  | .violates _ => .internal "Unique constraint failed"
  | .duplicateKey => .internal "Unique constraint failed"
  | .recordNotFound => .internal "Record to update not found"

def provisionOrgUser (params : OrgUserProvisionParams) : Leases.Service :=
  Transaction.transaction DbWrite.apply mapOccupancyConstraintError fun db =>
    provisionPlan env db params

end Provision

end Towerdesk.Users
