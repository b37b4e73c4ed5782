import Towerdesk.Lib.Script
import Towerdesk.Messaging.Authority
import Towerdesk.Users.Provisioning
import Mathlib.Data.List.Sort

/-!
# The store of roles and assignments

Role templates with their texts and permissions, who they are assigned to and the
overrides of single users, over the tenancy store. A template is found by its key once
in an organisation; deleting it takes its permissions and assignments along.
-/

namespace Towerdesk.Access

structure RoleTemplateRow extends RoleTemplate where
  name : String
  description : Option String
  createdAt : Date
  updatedAt : Date
deriving DecidableEq, Repr

def RoleTemplateRow.rowId (r : RoleTemplateRow) : Id := r.id

/-- Templates without an organisation never clash. -/
def orgKey (r : RoleTemplateRow) : Option (Id × String) := r.orgId.map fun orgId => (orgId, r.key)

inductive RoleConstraint
  | Role_orgId_key_key
deriving DecidableEq, Repr

def roleTemplateCheck (t : Table RoleTemplateRow.rowId) : Option RoleConstraint :=
  if t.UniqueOn orgKey then none else some .Role_orgId_key_key

abbrev RoleTemplateTable := Constrained RoleTemplateRow.rowId roleTemplateCheck

theorem roleTemplateCheck_eq_none {t : Table RoleTemplateRow.rowId} :
    roleTemplateCheck t = none ↔ t.UniqueOn orgKey := by
  unfold roleTemplateCheck
  split_ifs with h <;> simp [h]

def RoleTemplateTable.delete (t : RoleTemplateTable) (id : Id) : RoleTemplateTable where
  table := t.table.filter (·.id ≠ id)
  valid := roleTemplateCheck_eq_none.mpr
    ((roleTemplateCheck_eq_none.mp t.valid).filter _)

structure Db where
  tenancy : Leases.Db
  permissions : Table Permission.id
  roleTemplates : RoleTemplateTable
  rolePermissions : Table RoleTemplatePermission.key
  userAccessAssignments : Table UserAccessAssignment.id
  userPermissions : Table UserPermission.key

inductive DbError
  | uniqueConstraint
  | foreignKey
  | recordNotFound
  | tenancy (e : Leases.DbError)
deriving DecidableEq

inductive DbWrite
  | createRoleTemplate (r : RoleTemplateRow)
  | updateRoleTemplate (id : Id) (p : Patch RoleTemplateRow.rowId)
  | deleteRoleTemplate (id : Id)
  | clearRolePermissions (roleTemplateId : Id)
  | addRolePermission (row : RoleTemplatePermission)
  | clearUserPermissions (userId : Id)
  | addUserPermission (row : UserPermission)
  | upsertAssignment (row : UserAccessAssignment)
  | deleteAssignment (id : Id)
  | tenancy (w : Leases.DbWrite)

namespace Db

variable (db : Db)

def hasTemplate (id : Id) : Bool := (db.roleTemplates.table.findUnique id).isSome

def hasPermission (id : Id) : Bool := (db.permissions.findUnique id).isSome

def hasUser (id : Id) : Bool := (db.tenancy.directory.users.findUnique id).isSome

def hasBuilding (id : Id) : Bool := (db.tenancy.directory.buildings.findUnique id).isSome

def templates : Table RoleTemplate.id where
  rows := db.roleTemplates.table.rows.map (·.toRoleTemplate)
  nodup := by
    rw [List.map_map]
    exact db.roleTemplates.table.nodup

/-- What the permissions of a user are computed from. -/
def tables : AccessTables where
  permissions := db.permissions
  roleTemplates := db.templates
  rolePermissions := db.rolePermissions
  userAccessAssignments := db.userAccessAssignments
  userPermissions := db.userPermissions

def deleteRoleTemplate (id : Id) : Db where
  tenancy := db.tenancy
  permissions := db.permissions
  roleTemplates := db.roleTemplates.delete id
  rolePermissions := db.rolePermissions.filter (·.roleTemplateId ≠ id)
  userAccessAssignments := db.userAccessAssignments.filter (·.roleTemplateId ≠ id)
  userPermissions := db.userPermissions

end Db

def DbWrite.apply : DbWrite → Db → Except DbError Db
  | .createRoleTemplate r, db =>
    match db.roleTemplates.write (.create r) with
    | .ok roleTemplates => .ok { db with roleTemplates }
    | .error _ => .error .uniqueConstraint
  | .updateRoleTemplate id p, db =>
    match db.roleTemplates.write (.update id p) with
    | .ok roleTemplates => .ok { db with roleTemplates }
    | .error .recordNotFound => .error .recordNotFound
    | .error _ => .error .uniqueConstraint
  | .deleteRoleTemplate id, db =>
    if db.hasTemplate id then .ok (db.deleteRoleTemplate id) else .error .recordNotFound
  | .clearRolePermissions roleTemplateId, db =>
    .ok { db with
      rolePermissions := db.rolePermissions.filter (·.roleTemplateId ≠ roleTemplateId) }
  | .addRolePermission row, db =>
    if db.hasTemplate row.roleTemplateId ∧ db.hasPermission row.permissionId then
      .ok { db with
        rolePermissions := (db.rolePermissions.insert row).getD db.rolePermissions }
    else .error .foreignKey
  | .clearUserPermissions userId, db =>
    .ok { db with userPermissions := db.userPermissions.filter (·.userId ≠ userId) }
  | .addUserPermission row, db =>
    if db.hasUser row.userId ∧ db.hasPermission row.permissionId then
      .ok { db with
        userPermissions := (db.userPermissions.insert row).getD db.userPermissions }
    else .error .foreignKey
  | .upsertAssignment row, db =>
    match db.userAccessAssignments.insert row with
    | none => .ok db
    | some userAccessAssignments =>
      if db.hasUser row.userId ∧ db.hasTemplate row.roleTemplateId ∧
          row.scopeId.all db.hasBuilding then
        .ok { db with userAccessAssignments }
      else .error .foreignKey
  | .deleteAssignment id, db =>
    if (db.userAccessAssignments.findUnique id).isSome then
      .ok { db with userAccessAssignments := db.userAccessAssignments.filter (·.id ≠ id) }
    else .error .recordNotFound
  | .tenancy w, db =>
    match w.apply db.tenancy with
    | .ok t => .ok { db with tenancy := t }
    | .error e => .error (.tenancy e)

section Apply

variable {db db' : Db}

theorem apply_createRoleTemplate {r : RoleTemplateRow} :
    (DbWrite.createRoleTemplate r).apply db = .ok db' ↔
      ∃ roleTemplates : RoleTemplateTable,
        db.roleTemplates.table.insert r = some roleTemplates.table ∧
          { db with roleTemplates } = db' := by
  have hwrite (roleTemplates : RoleTemplateTable) :
      db.roleTemplates.write (.create r) = .ok roleTemplates ↔
        db.roleTemplates.table.insert r = some roleTemplates.table :=
    Constrained.write_eq_ok.trans Table.apply_create
  simp only [← hwrite]
  unfold DbWrite.apply
  dsimp only
  cases db.roleTemplates.write (.create r) with
  | error e => simp
  | ok t => simp

theorem apply_updateRoleTemplate {id : Id} {p : Patch RoleTemplateRow.rowId} :
    (DbWrite.updateRoleTemplate id p).apply db = .ok db' ↔
      ∃ roleTemplates : RoleTemplateTable, (∃ r ∈ db.roleTemplates, r.id = id) ∧
        roleTemplates.table = db.roleTemplates.table.modify id p ∧
          { db with roleTemplates } = db' := by
  have hwrite (roleTemplates : RoleTemplateTable) :
      db.roleTemplates.write (.update id p) = .ok roleTemplates ↔
        (∃ r ∈ db.roleTemplates, r.id = id) ∧
          roleTemplates.table = db.roleTemplates.table.modify id p :=
    Constrained.write_eq_ok.trans Table.apply_update
  simp only [← and_assoc, ← hwrite]
  unfold DbWrite.apply
  dsimp only
  cases db.roleTemplates.write (.update id p) with
  | error e => cases e <;> simp
  | ok t => simp

theorem apply_deleteRoleTemplate {id : Id} :
    (DbWrite.deleteRoleTemplate id).apply db = .ok db' ↔
      db.hasTemplate id = true ∧ db.deleteRoleTemplate id = db' := by
  unfold DbWrite.apply
  dsimp only
  split_ifs with h <;> simp [h]

theorem apply_addRolePermission {row : RoleTemplatePermission} :
    (DbWrite.addRolePermission row).apply db = .ok db' ↔
      (db.hasTemplate row.roleTemplateId = true ∧ db.hasPermission row.permissionId = true) ∧
        { db with
          rolePermissions := (db.rolePermissions.insert row).getD db.rolePermissions } = db' := by
  unfold DbWrite.apply
  dsimp only
  split_ifs with h <;> simp [h]

theorem apply_addUserPermission {row : UserPermission} :
    (DbWrite.addUserPermission row).apply db = .ok db' ↔
      (db.hasUser row.userId = true ∧ db.hasPermission row.permissionId = true) ∧
        { db with
          userPermissions := (db.userPermissions.insert row).getD db.userPermissions } = db' := by
  unfold DbWrite.apply
  dsimp only
  split_ifs with h <;> simp [h]

theorem apply_upsertAssignment {row : UserAccessAssignment} :
    (DbWrite.upsertAssignment row).apply db = .ok db' ↔
      (db.userAccessAssignments.insert row = none ∧ db = db') ∨
        ∃ userAccessAssignments, db.userAccessAssignments.insert row = some userAccessAssignments ∧
          (db.hasUser row.userId = true ∧ db.hasTemplate row.roleTemplateId = true ∧
            row.scopeId.all db.hasBuilding = true) ∧ { db with userAccessAssignments } = db' := by
  unfold DbWrite.apply
  dsimp only
  cases db.userAccessAssignments.insert row with
  | none => simp
  | some t =>
    simp only [reduceCtorEq, false_and, Option.some.injEq, exists_eq_left', false_or]
    split_ifs with h
    · simp [h]
    · simp [h]

theorem apply_deleteAssignment {id : Id} :
    (DbWrite.deleteAssignment id).apply db = .ok db' ↔
      (∃ a ∈ db.userAccessAssignments, a.id = id) ∧
        { db with userAccessAssignments := db.userAccessAssignments.filter (·.id ≠ id) } = db' := by
  have hsome : (db.userAccessAssignments.findUnique id).isSome = true ↔
      ∃ a ∈ db.userAccessAssignments, a.id = id := by
    simp only [Option.isSome_iff_exists, Table.findUnique_eq_some]
  rw [← hsome]
  unfold DbWrite.apply
  dsimp only
  split_ifs with h <;> simp [h]

theorem apply_tenancy {w : Leases.DbWrite} :
    (DbWrite.tenancy w).apply db = .ok db' ↔
      ∃ t, w.apply db.tenancy = .ok t ∧ { db with tenancy := t } = db' := by
  unfold DbWrite.apply
  dsimp only
  cases w.apply db.tenancy with
  | error e => simp
  | ok t => simp

end Apply

def uniqueFailed : HttpException := .internal "Unique constraint failed"

def raise : DbError → HttpException
  | .uniqueConstraint => uniqueFailed
  | .foreignKey => .internal "Foreign key constraint violated"
  | .recordNotFound => .internal "Record not found"
  | .tenancy e => Users.mapOccupancyConstraintError e

abbrev Call := Script Db HttpException

abbrev Plan := List (Transaction.Statement Db DbWrite HttpException)

abbrev commits (ws : List DbWrite) (db : Db) : Result Db :=
  Transaction.commit DbWrite.apply raise (ws.map .write) db

/-- `$transaction` of statements known beforehand; a single one needs no transaction. -/
def commit (ws : List DbWrite) : Call Unit :=
  .atomic (Transaction.transaction DbWrite.apply raise fun _ => .ok (ws.map .write))

section Commit

variable {db db' : Db} {ws : List DbWrite}

theorem commits_singleton {w : DbWrite} : commits [w] db = .ok db' ↔ w.apply db = .ok db' := by
  simp [commits, Transaction.commit_write, Transaction.commit_nil]

theorem hasTemplate_iff {id : Id} :
    db.hasTemplate id = true ↔ ∃ r ∈ db.roleTemplates, r.id = id := by
  simp only [Db.hasTemplate, Option.isSome_iff_exists, Table.findUnique_eq_some]
  rfl

theorem hasPermission_iff {id : Id} :
    db.hasPermission id = true ↔ ∃ p ∈ db.permissions, p.id = id := by
  simp only [Db.hasPermission, Option.isSome_iff_exists, Table.findUnique_eq_some]

theorem commit_cases (ws : List DbWrite) (db : Db) :
    (∃ e, commits ws db = .error e ∧
        Transaction.transaction DbWrite.apply raise (fun _ => .ok (ws.map .write)) db =
          .error e db) ∨
      ∃ db', commits ws db = .ok db' ∧
        Transaction.transaction DbWrite.apply raise (fun _ => .ok (ws.map .write)) db =
          .ok () db' := by
  cases hws : commits ws db with
  | error e => exact .inl ⟨e, rfl, Transaction.transaction_of_refused hws⟩
  | ok db' => exact .inr ⟨db', rfl, Transaction.transaction_of_commit rfl hws⟩

end Commit

/-- What a call depends on besides the store. The access tables of `Leases.Env` are read from
the store anew wherever a step needs them. -/
structure Env extends Leases.Env where
  roleTemplateId : Id
  md5 : String → String
  localeCompare : String → String → Ordering

def Env.at (env : Env) (db : Db) : Leases.Env := { env.toEnv with access := db.tables }

def Env.sortKeys (env : Env) (keys : List String) : List String :=
  keys.insertionSort fun left right => (env.localeCompare left right).isLE = true

end Towerdesk.Access
