import Towerdesk.Access.BuildingRoutes
import Towerdesk.Access.Isolation
import Towerdesk.Access.UserAccess
import Towerdesk.Lib.Turns

/-!
# Organisations do not administer each other

Administrators edit the role templates of their organisation, assign them and override the
permissions of single users, all in the same tables. Each call is checked against its own
organisation some steps before it writes, while the others take their turns. However the calls
of other organisations are interleaved, they leave an organisation's users what they may do in
its buildings.
-/

namespace Towerdesk.Access.Tenants

open Script (query throwIf)
open Transaction (final)
open BuildingRoutes (BuildingRoute buildingRoutes)

inductive AccessCall
  | createRole (actorUserId orgId : Id) (dto : CreateRoleDto)
  | updateRole (actorUserId orgId roleTemplateId : Id) (dto : UpdateRoleTemplateDto)
  | deleteRole (actorUserId orgId roleTemplateId : Id)
  | createAccessAssignment (userId orgId : Id) (dto : CreateAccessAssignmentDto)
  | deleteAccessAssignment (userId orgId assignmentId : Id)
  | setPermissionOverrides (userId orgId : Id) (overrides : List OverrideDto)

def AccessCall.orgId : AccessCall → Id
  | .createRole _ orgId _ => orgId
  | .updateRole _ orgId _ _ => orgId
  | .deleteRole _ orgId _ => orgId
  | .createAccessAssignment _ orgId _ => orgId
  | .deleteAccessAssignment _ orgId _ => orgId
  | .setPermissionOverrides _ orgId _ => orgId

/-- What is answered plays no part. -/
def AccessCall.script (env : Env) : AccessCall → Call Unit
  | .createRole actorUserId orgId dto => do
    let _ ← create env actorUserId orgId dto
    return ()
  | .updateRole actorUserId orgId roleTemplateId dto => do
    let _ ← update env actorUserId orgId roleTemplateId dto
    return ()
  | .deleteRole actorUserId orgId roleTemplateId => delete actorUserId orgId roleTemplateId
  | .createAccessAssignment userId orgId dto => do
    let _ ← Access.createAccessAssignment env userId orgId dto
    return ()
  | .deleteAccessAssignment userId orgId assignmentId =>
    Access.deleteAccessAssignment userId orgId assignmentId
  | .setPermissionOverrides userId orgId overrides =>
    Access.setPermissionOverrides env userId orgId overrides

/-- The template is one of the organisation. -/
def Owns (db : Db) (orgId roleTemplateId : Id) : Prop :=
  ∃ r ∈ db.roleTemplates, r.id = roleTemplateId ∧ r.orgId = some orgId

def Member (db : Db) (orgId userId : Id) : Prop :=
  ∃ u ∈ db.tenancy.directory.users, u.id = userId ∧ u.orgId = some orgId

/-- What an organisation has in the tables: its templates with all that hangs on them, and the
overrides of its users, who have got no assignment besides. -/
structure Same (orgId : Id) (s s' : Db) : Prop where
  tenancy : s'.tenancy = s.tenancy
  permissions : s'.permissions = s.permissions
  templates : ∀ r, r.orgId = some orgId → (r ∈ s.roleTemplates ↔ r ∈ s'.roleTemplates)
  rolePermissions : ∀ p, Owns s orgId p.roleTemplateId →
    (p ∈ s.rolePermissions ↔ p ∈ s'.rolePermissions)
  assignments : ∀ a, Owns s orgId a.roleTemplateId →
    (a ∈ s.userAccessAssignments ↔ a ∈ s'.userAccessAssignments)
  overrides : ∀ userId, Member s orgId userId →
    s'.userPermissions.rows.filter (·.userId = userId) =
      s.userPermissions.rows.filter (·.userId = userId)
  members : ∀ a ∈ s'.userAccessAssignments, Member s orgId a.userId →
    a ∈ s.userAccessAssignments

section Frame

variable {orgId : Id} {s s' s'' : Db} {roleTemplateId userId : Id}

theorem Same.refl : Same orgId s s where
  tenancy := rfl
  permissions := rfl
  templates _ _ := Iff.rfl
  rolePermissions _ _ := Iff.rfl
  assignments _ _ := Iff.rfl
  overrides _ _ := rfl
  members _ ha _ := ha

theorem Same.owns_iff (h : Same orgId s s') :
    Owns s' orgId roleTemplateId ↔ Owns s orgId roleTemplateId := by
  refine exists_congr fun r => ?_
  constructor
  · intro hr
    exact ⟨(h.templates r hr.2.2).mpr hr.1, hr.2⟩
  · intro hr
    exact ⟨(h.templates r hr.2.2).mp hr.1, hr.2⟩

theorem Same.member_iff (h : Same orgId s s') : Member s' orgId userId ↔ Member s orgId userId := by
  unfold Member
  rw [h.tenancy]

theorem Same.trans (h : Same orgId s s') (h' : Same orgId s' s'') : Same orgId s s'' where
  tenancy := h'.tenancy.trans h.tenancy
  permissions := h'.permissions.trans h.permissions
  templates r hr := (h.templates r hr).trans (h'.templates r hr)
  rolePermissions p hp :=
    (h.rolePermissions p hp).trans (h'.rolePermissions p (h.owns_iff.mpr hp))
  assignments a ha := (h.assignments a ha).trans (h'.assignments a (h.owns_iff.mpr ha))
  overrides userId hu :=
    (h'.overrides userId (h.member_iff.mpr hu)).trans (h.overrides userId hu)
  members a ha hu := h.members a (h'.members a ha (h.member_iff.mpr hu)) hu

/-- The permissions of one template change. -/
theorem same_rolePermissions {rolePermissions : Table RoleTemplatePermission.key}
    (hown : ¬ Owns s orgId roleTemplateId)
    (h : ∀ p, p.roleTemplateId ≠ roleTemplateId → (p ∈ s.rolePermissions ↔ p ∈ rolePermissions)) :
    Same orgId s { s with rolePermissions } :=
  { Same.refl with rolePermissions := fun p hp => h p fun heq => hown (heq ▸ hp) }

/-- The overrides of one user change. -/
theorem same_userPermissions {userPermissions : Table UserPermission.key}
    (hmember : ¬ Member s orgId userId)
    (h : ∀ userId', userId' ≠ userId → userPermissions.rows.filter (·.userId = userId') =
      s.userPermissions.rows.filter (·.userId = userId')) :
    Same orgId s { s with userPermissions } :=
  { Same.refl with overrides := fun userId' hu => h userId' fun heq => hmember (heq ▸ hu) }

theorem same_roleTemplates {roleTemplates : RoleTemplateTable}
    (h : ∀ r, r.orgId = some orgId → (r ∈ s.roleTemplates ↔ r ∈ roleTemplates)) :
    Same orgId s { s with roleTemplates } where
  tenancy := rfl
  permissions := rfl
  templates := h
  rolePermissions _ _ := Iff.rfl
  assignments _ _ := Iff.rfl
  overrides _ _ := rfl
  members _ ha _ := ha

end Frame

section Writes

variable {orgId : Id} {s s' : Db} {w : DbWrite}

/-- A write that reaches nothing of the organisation's. -/
def Outside (orgId : Id) (s : Db) : DbWrite → Prop
  | .createRoleTemplate r => r.orgId ≠ some orgId
  | .updateRoleTemplate id p => ¬ Owns s orgId id ∧ ∀ r, (p.apply r).orgId = r.orgId
  | .deleteRoleTemplate id => ¬ Owns s orgId id
  | .clearRolePermissions roleTemplateId => ¬ Owns s orgId roleTemplateId
  | .addRolePermission row => ¬ Owns s orgId row.roleTemplateId
  | .clearUserPermissions userId => ¬ Member s orgId userId
  | .addUserPermission row => ¬ Member s orgId row.userId
  | .upsertAssignment row => ¬ Owns s orgId row.roleTemplateId ∧ ¬ Member s orgId row.userId
  | .deleteAssignment id => ∀ a ∈ s.userAccessAssignments, a.id = id →
    ¬ Owns s orgId a.roleTemplateId
  | .tenancy _ => False

theorem same_deleteRoleTemplate {id : Id} (hown : ¬ Owns s orgId id) :
    Same orgId s (s.deleteRoleTemplate id) where
  tenancy := rfl
  permissions := rfl
  templates r hr := by
    change r ∈ s.roleTemplates.table.rows ↔ r ∈ s.roleTemplates.table.rows.filter _
    rw [List.mem_filter]
    refine (and_iff_left_of_imp fun hmem => ?_).symm
    have hne : r.id ≠ id := fun hid => hown ⟨r, hmem, hid, hr⟩
    exact decide_eq_true hne
  rolePermissions p hp := by
    change p ∈ s.rolePermissions.rows ↔ p ∈ s.rolePermissions.rows.filter _
    rw [List.mem_filter]
    have hne : p.roleTemplateId ≠ id := fun hid => hown (hid ▸ hp)
    exact (and_iff_left (decide_eq_true hne)).symm
  assignments a ha := by
    change a ∈ s.userAccessAssignments.rows ↔ a ∈ s.userAccessAssignments.rows.filter _
    rw [List.mem_filter]
    have hne : a.roleTemplateId ≠ id := fun hid => hown (hid ▸ ha)
    exact (and_iff_left (decide_eq_true hne)).symm
  overrides _ _ := rfl
  members a ha _ := List.mem_of_mem_filter ha

theorem same_apply (hw : Outside orgId s w) (happly : w.apply s = .ok s') : Same orgId s s' := by
  cases w with
  | createRoleTemplate r =>
    obtain ⟨roleTemplates, hinsert, rfl⟩ := apply_createRoleTemplate.mp happly
    refine same_roleTemplates fun r' hr' => (Iff.trans (Table.mem_insert hinsert) ?_).symm
    exact or_iff_left fun heq => hw (heq ▸ hr')
  | updateRoleTemplate id p =>
    obtain ⟨roleTemplates, -, hmodify, rfl⟩ := apply_updateRoleTemplate.mp happly
    refine same_roleTemplates fun r hr => ?_
    rw [Constrained.mem_table, Constrained.mem_table, hmodify]
    constructor
    · intro hmem
      exact Table.mem_modify_of_ne hmem fun hid => hw.1 ⟨r, hmem, hid, hr⟩
    · intro hmem
      rcases Table.mem_modify.mp hmem with ⟨a, ha, hid, rfl⟩ | ⟨hmem, -⟩
      · exact absurd ⟨a, ha, hid, (hw.2 a).symm.trans hr⟩ hw.1
      · exact hmem
  | deleteRoleTemplate id =>
    obtain ⟨-, rfl⟩ := apply_deleteRoleTemplate.mp happly
    exact same_deleteRoleTemplate hw
  | clearRolePermissions roleTemplateId =>
    obtain rfl := Except.ok.inj happly
    refine same_rolePermissions hw fun p hne => ?_
    change _ ↔ p ∈ s.rolePermissions.rows.filter _
    rw [List.mem_filter]
    exact (and_iff_left (decide_eq_true hne)).symm
  | addRolePermission row =>
    obtain ⟨-, rfl⟩ := apply_addRolePermission.mp happly
    refine same_rolePermissions hw fun p hne => ⟨fun hp => Table.mem_getD_insert hp, fun hp => ?_⟩
    obtain hp | rfl := Table.mem_of_mem_getD_insert hp
    · exact hp
    · exact absurd rfl hne
  | clearUserPermissions userId =>
    obtain rfl := Except.ok.inj happly
    refine same_userPermissions hw fun userId' hne => ?_
    change (s.userPermissions.rows.filter _).filter _ = _
    rw [List.filter_filter]
    refine List.filter_congr fun p _ => ?_
    by_cases hp : p.userId = userId' <;> simp [hp, hne]
  | addUserPermission row =>
    obtain ⟨-, rfl⟩ := apply_addUserPermission.mp happly
    refine same_userPermissions hw fun userId' hne => ?_
    cases hinsert : s.userPermissions.insert row with
    | none => rfl
    | some t => exact Table.filter_insert hinsert (decide_eq_false fun heq => hne heq.symm)
  | upsertAssignment row =>
    obtain ⟨-, rfl⟩ | ⟨t, hinsert, -, rfl⟩ := apply_upsertAssignment.mp happly
    · exact .refl
    · refine { Same.refl with assignments := fun a ha => ?_, members := fun a ha hu => ?_ }
      · refine (Iff.trans (Table.mem_insert hinsert) ?_).symm
        exact or_iff_left fun heq => hw.1 (heq ▸ ha)
      · obtain ha | rfl := (Table.mem_insert hinsert).mp ha
        · exact ha
        · exact absurd hu hw.2
  | deleteAssignment id =>
    obtain ⟨-, rfl⟩ := apply_deleteAssignment.mp happly
    refine { Same.refl with assignments := fun a ha => ?_, members := fun a ha _ => ?_ }
    · change a ∈ s.userAccessAssignments.rows ↔ a ∈ s.userAccessAssignments.rows.filter _
      rw [List.mem_filter]
      refine (and_iff_left_of_imp fun hmem => ?_).symm
      have hne : a.id ≠ id := fun hid => hw a hmem hid ha
      exact decide_eq_true hne
    · exact List.mem_of_mem_filter ha
  | tenancy w => exact hw.elim

end Writes

section Permissions

variable {orgId userId : Id} {s s' : Db} {k : String}

theorem mem_templates {r : RoleTemplate} :
    r ∈ s.tables.roleTemplates ↔ ∃ row ∈ s.roleTemplates, row.toRoleTemplate = r :=
  List.mem_map

theorem Same.permissionKeysOfRole (h : Same orgId s s') {roleTemplateId : Id}
    (hown : Owns s orgId roleTemplateId) :
    k ∈ s'.tables.permissionKeysOfRole roleTemplateId ↔
      k ∈ s.tables.permissionKeysOfRole roleTemplateId := by
  simp only [AccessTables.mem_permissionKeysOfRole]
  change (∃ p ∈ s'.rolePermissions, p.roleTemplateId = roleTemplateId ∧
    ∃ permission, s'.permissions.findUnique p.permissionId = some permission ∧ _) ↔
    ∃ p ∈ s.rolePermissions, p.roleTemplateId = roleTemplateId ∧
      ∃ permission, s.permissions.findUnique p.permissionId = some permission ∧ _
  rw [h.permissions]
  refine exists_congr fun p => ⟨fun hp => ?_, fun hp => ?_⟩
  · exact ⟨(h.rolePermissions p (hp.2.1 ▸ hown)).mpr hp.1, hp.2⟩
  · exact ⟨(h.rolePermissions p (hp.2.1 ▸ hown)).mp hp.1, hp.2⟩

/-- Of the assignments of the user, only those of templates of the organisation satisfy `p`. -/
def OnlyOf (orgId userId : Id) (p : UserAccessAssignment → RoleTemplate → Prop) (s : Db) : Prop :=
  ∀ a ∈ s.userAccessAssignments, a.userId = userId → ∀ r ∈ s.tables.roleTemplates,
    r.id = a.roleTemplateId → p a r → r.orgId = some orgId

theorem Same.grants_iff (h : Same orgId s s') {p : UserAccessAssignment → RoleTemplate → Prop}
    (hp : OnlyOf orgId userId p s) (hp' : OnlyOf orgId userId p s') :
    s'.tables.Grants userId p k ↔ s.tables.Grants userId p k := by
  constructor
  · intro hgrants
    obtain ⟨a, ha, hu, r, hr, hid, hvisible, hpar, hkey⟩ := hgrants
    obtain ⟨row, hrow, rfl⟩ := mem_templates.mp hr
    have horg := hp' a ha hu row.toRoleTemplate hr hid hpar
    have hmem := (h.templates row horg).mpr hrow
    have hown : Owns s orgId a.roleTemplateId := ⟨row, hmem, hid, horg⟩
    exact ⟨a, (h.assignments a hown).mpr ha, hu, row.toRoleTemplate,
      mem_templates.mpr ⟨row, hmem, rfl⟩, hid, hvisible, hpar,
      (h.permissionKeysOfRole ⟨row, hmem, rfl, horg⟩).mp hkey⟩
  · intro hgrants
    obtain ⟨a, ha, hu, r, hr, hid, hvisible, hpar, hkey⟩ := hgrants
    obtain ⟨row, hrow, rfl⟩ := mem_templates.mp hr
    have horg := hp a ha hu row.toRoleTemplate hr hid hpar
    have hown : Owns s orgId a.roleTemplateId := ⟨row, hrow, hid, horg⟩
    exact ⟨a, (h.assignments a hown).mp ha, hu, row.toRoleTemplate,
      mem_templates.mpr ⟨row, (h.templates row horg).mp hrow, rfl⟩, hid, hvisible, hpar,
      (h.permissionKeysOfRole ⟨row, hrow, rfl, horg⟩).mpr hkey⟩

theorem Same.userOverrides (h : Same orgId s s') (hmember : Member s orgId userId) :
    s'.tables.userOverrides userId = s.tables.userOverrides userId := by
  change (s'.userPermissions.rows.filter _).filterMap _ =
    (s.userPermissions.rows.filter _).filterMap _
  rw [h.overrides userId hmember]
  change List.filterMap (fun p : UserPermission =>
    (s'.permissions.findUnique p.permissionId).map _) _ = _
  rw [h.permissions]
  rfl

theorem Same.effectivePermissionsIn (h : Same orgId s s') (hmember : Member s orgId userId)
    (scope : AccessScope)
    (hscope : OnlyOf orgId userId (fun a r => scope.includes (some orgId) a r = true) s)
    (hscope' : OnlyOf orgId userId (fun a r => scope.includes (some orgId) a r = true) s') :
    s'.tables.effectivePermissionsIn userId (some orgId) scope =
      s.tables.effectivePermissionsIn userId (some orgId) scope := by
  have hkeys : (s'.tables.accessIn userId (some orgId) scope).rolePermissionKeys.toFinset =
      (s.tables.accessIn userId (some orgId) scope).rolePermissionKeys.toFinset := by
    ext k
    rw [List.mem_toFinset, List.mem_toFinset, AccessTables.mem_rolePermissionKeys,
      AccessTables.mem_rolePermissionKeys]
    exact h.grants_iff hscope hscope'
  rw [AccessTables.effectivePermissionsIn_eq, AccessTables.effectivePermissionsIn_eq, hkeys,
    h.userOverrides hmember]

theorem onlyOf_building {buildingId : Id} (hbuilding : buildingId ≠ "") :
    OnlyOf orgId userId
      (fun a r => (AccessScope.within (some buildingId)).includes (some orgId) a r = true) s := by
  intro a _ _ r _ _ hincludes
  exact ((AccessTables.includes_building hbuilding).mp hincludes).1

theorem onlyOf_anyScope :
    OnlyOf orgId userId (fun a r => AccessScope.anyScope.includes (some orgId) a r = true) s :=
  fun _ _ _ _ _ _ hincludes => of_decide_eq_true hincludes

/-- The assignments of the user are all of templates of the organisation. -/
def AtHome (s : Db) (orgId userId : Id) : Prop :=
  ∀ a ∈ s.userAccessAssignments, a.userId = userId → Owns s orgId a.roleTemplateId

theorem AtHome.onlyOf (h : AtHome s orgId userId)
    {p : UserAccessAssignment → RoleTemplate → Prop} : OnlyOf orgId userId p s := by
  intro a ha hu r hr hid _
  obtain ⟨row, hrow, rfl⟩ := mem_templates.mp hr
  obtain ⟨own, hown, hownId, horg⟩ := h a ha hu
  have hsame : own = row := Table.eq_of_key_eq hown hrow (hownId.trans hid.symm)
  rwa [← hsame]

theorem Same.atHome (h : Same orgId s s') (hmember : Member s orgId userId)
    (hhome : AtHome s orgId userId) : AtHome s' orgId userId := by
  intro a ha hu
  exact h.owns_iff.mpr (hhome a (h.members a ha (hu ▸ hmember)) hu)

end Permissions

abbrev Upheld {α : Type} (orgId : Id) (c : Call α) (Q : α → Db → Prop) (s : Db) : Prop :=
  c.Upholds (Same orgId) (fun s effect => Same orgId s (effect s)) Q s

section Steps

variable {orgId otherId : Id} {s s' : Db} {ws : List DbWrite} {P : Db → Prop} {α : Type}
  {Q : α → Db → Prop} {roleTemplateId userId : Id}

theorem same_commits (hP : ∀ s s', P s → Same orgId s s' → P s')
    (hw : ∀ w ∈ ws, ∀ s, P s → Outside orgId s w) (hs : P s) (h : commits ws s = .ok s') :
    Same orgId s s' := by
  refine Transaction.commit_rel (R := fun a b => P a → Same orgId a b) (fun _ _ => .refl)
    (fun hab hbc ha => (hab ha).trans (hbc (hP _ _ ha (hab ha)))) (fun w hmem a b happly ha => ?_)
    h hs
  rw [Transaction.writes_map_write] at hmem
  exact same_apply (hw w hmem a ha) happly

/-- The writes are all made, or the tables stay as they are. -/
theorem same_commit (hP : ∀ s s', P s → Same orgId s s' → P s')
    (hw : ∀ w ∈ ws, ∀ s, P s → Outside orgId s w) (hs : P s) :
    Same orgId s
      (final (Transaction.transaction DbWrite.apply raise (fun _ => .ok (ws.map .write)) s)) := by
  obtain ⟨e, -, hrun⟩ | ⟨db', hcommit, hrun⟩ := commit_cases ws s
  · rw [hrun]
    exact .refl
  · rw [hrun]
    exact same_commits hP hw hs hcommit

theorem upheld_commit_bind {f : Unit → Call α} (hP : ∀ s s', P s → Same orgId s s' → P s')
    (hw : ∀ w ∈ ws, ∀ s, P s → Outside orgId s w) (hs : P s)
    (hf : ∀ s' s'', P s' → commits ws s' = .ok s'' → Upheld orgId (f ()) Q s'') :
    Upheld orgId (commit ws >>= f) Q s := by
  refine Script.upholds_atomic_bind (fun s' hs' => same_commit hP hw (hP _ _ hs hs'))
    fun s' s'' _ hs' hcommitted => ?_
  obtain ⟨e, -, hrun⟩ | ⟨db', hcommit, hrun⟩ := commit_cases ws s'
  · rw [hrun] at hcommitted
    cases hcommitted
  · rw [hrun] at hcommitted
    cases hcommitted
    exact hf s' s'' (hP _ _ hs hs') hcommit

theorem upheld_commit (hP : ∀ s s', P s → Same orgId s s' → P s')
    (hw : ∀ w ∈ ws, ∀ s, P s → Outside orgId s w) (hs : P s) :
    Upheld orgId (commit ws) (fun _ _ => True) s :=
  Script.upholds_atomic fun _ hs' => same_commit hP hw (hP _ _ hs hs')

theorem upheld_query_bind {g : Db → Result α} {β : Type} {R : β → Db → Prop} {f : α → Call β}
    (h : ∀ s' a, Same orgId s s' → g s' = .ok a → Upheld orgId (f a) R s') :
    Upheld orgId (query g >>= f) R s :=
  Script.upholds_query_bind (fun _ => .refl) h

theorem upheld_query (g : Db → Result α) : Upheld orgId (query g) (fun _ _ => True) s :=
  fun _ _ => ⟨.refl, Script.upholds_done fun _ _ => trivial⟩

theorem not_owns_stable : ∀ s s', ¬ Owns s orgId roleTemplateId → Same orgId s s' →
    ¬ Owns s' orgId roleTemplateId :=
  fun _ _ hown h hown' => hown (h.owns_iff.mp hown')

theorem not_member_stable : ∀ s s', ¬ Member s orgId userId → Same orgId s s' →
    ¬ Member s' orgId userId :=
  fun _ _ hmember h hmember' => hmember (h.member_iff.mp hmember')

theorem not_owns_of_mem {r : RoleTemplateRow} (hr : r ∈ s.roleTemplates)
    (hid : r.id = roleTemplateId) (horg : r.orgId ≠ some orgId) : ¬ Owns s orgId roleTemplateId := by
  intro hown
  obtain ⟨own, howned, hownId, hownOrg⟩ := hown
  have hsame : own = r := Table.eq_of_key_eq howned hr (hownId.trans hid.symm)
  exact horg (hsame ▸ hownOrg)

theorem not_owns_of_found {r : RoleTemplateRow} (hother : otherId ≠ orgId)
    (h : s.findRoleTemplateById otherId roleTemplateId = some r) :
    ¬ Owns s orgId roleTemplateId := by
  obtain ⟨hr, hfound⟩ := Table.findFirst_some h
  obtain ⟨hid, horg⟩ := of_decide_eq_true hfound
  exact not_owns_of_mem hr hid fun h => hother (Option.some.inj (horg.symm.trans h))

theorem not_owns_of_visible {r : RoleTemplateRow} (hother : otherId ≠ orgId)
    (h : visibleTemplate otherId s roleTemplateId = .ok r) : ¬ Owns s orgId roleTemplateId := by
  simp only [visibleTemplate, Outcome.bind_eq_ok, Outcome.orThrow_eq_ok] at h
  obtain ⟨_, hfound, -⟩ := h
  exact not_owns_of_found hother hfound

theorem not_owns_of_assignable {r : RoleTemplateRow} (hother : otherId ≠ orgId)
    (h : assignableTemplate otherId s roleTemplateId = .ok r) : ¬ Owns s orgId roleTemplateId := by
  simp only [assignableTemplate, Outcome.bind_eq_ok, Outcome.orThrow_eq_ok] at h
  obtain ⟨_, hfound, -⟩ := h
  exact not_owns_of_found hother hfound

theorem not_member_of_asserted {u : Unit} (hother : otherId ≠ orgId)
    (h : s.assertUserInOrg userId otherId = .ok u) : ¬ Member s orgId userId := by
  simp only [Db.assertUserInOrg, Outcome.throwIf_eq_ok, not_not, Option.any_eq_true,
    decide_eq_true_eq, Table.findUnique_eq_some] at h
  obtain ⟨v, ⟨hv, hid⟩, horg⟩ := h
  intro hmember
  obtain ⟨v', hv', hid', horg'⟩ := hmember
  have hsame : v' = v := Table.eq_of_key_eq hv' hv (hid'.trans hid.symm)
  rw [hsame, horg] at horg'
  exact hother (Option.some.inj horg')

end Steps

section Calls

variable {orgId otherId : Id} {s : Db} {env : Env} {actorUserId roleTemplateId userId : Id}

theorem upheld_assertOrgAdmin_bind {α : Type} {f : Unit → Call α} {Q : α → Db → Prop}
    (hf : ∀ s', Upheld orgId (f ()) Q s') :
    Upheld orgId (assertOrgAdmin actorUserId otherId >>= f) Q s :=
  upheld_query_bind fun s' _ _ _ => hf s'

theorem upheld_lookupPermissions {keys : List String} :
    Upheld orgId (lookupPermissions keys) (fun _ _ => True) s := by
  unfold lookupPermissions
  split
  · trivial
  · exact upheld_query _

theorem upheld_resolvePermissionIds {keys : List String} :
    Upheld orgId (resolvePermissionIds env keys) (fun _ _ => True) s := by
  refine Script.upholds_throwIf_bind fun _ => ?_
  refine Script.upholds_bind upheld_lookupPermissions fun permissions s' _ => ?_
  exact Script.upholds_throwIf_bind fun _ => trivial

theorem upheld_replaceRoleTemplatePermissions {permissionIds : List Id}
    (hown : ¬ Owns s orgId roleTemplateId) :
    Upheld orgId (replaceRoleTemplatePermissions roleTemplateId permissionIds)
      (fun _ _ => True) s := by
  refine upheld_commit not_owns_stable (fun w hw s' hown' => ?_) hown
  rcases List.mem_cons.mp hw with rfl | hw
  · exact hown'
  · obtain ⟨permissionId, -, rfl⟩ := List.mem_map.mp hw
    exact hown'

theorem upheld_create {dto : CreateRoleDto} (hother : otherId ≠ orgId) :
    Upheld orgId (create env actorUserId otherId dto) (fun _ _ => True) s := by
  refine upheld_assertOrgAdmin_bind fun s₁ => ?_
  refine Script.upholds_throwIf_bind fun _ => ?_
  refine Script.upholds_bind upheld_resolvePermissionIds fun permissionIds s₂ _ => ?_
  refine Script.upholds_bind (Q := fun _ _ => True) (Script.upholds_mapError ?_) fun _ _ _ =>
    upheld_query _
  refine upheld_commit_bind (P := fun _ => True) (fun _ _ _ _ => trivial) (fun w hw _ _ => ?_)
    trivial fun s₃ s₄ _ hcommit => ?_
  · obtain rfl := List.mem_singleton.mp hw
    exact fun horg => hother (Option.some.inj horg)
  · -- the row that is there under the new id is of the other organisation
    obtain ⟨roleTemplates, hinsert, rfl⟩ := apply_createRoleTemplate.mp
      (commits_singleton.mp hcommit)
    have hnew : newTemplate env otherId dto ∈ roleTemplates :=
      (Table.mem_insert hinsert).mpr (.inr rfl)
    exact upheld_replaceRoleTemplatePermissions
      (not_owns_of_mem hnew rfl fun horg => hother (Option.some.inj horg))

theorem upheld_editTemplate {dto : UpdateRoleTemplateDto} (hown : ¬ Owns s orgId roleTemplateId) :
    Upheld orgId (editTemplate env roleTemplateId dto) (fun _ _ => True) s := by
  unfold editTemplate
  split
  · refine Script.upholds_throwIf_bind fun _ => ?_
    refine upheld_commit not_owns_stable (fun w hw s' hown' => ?_) hown
    obtain rfl := List.mem_singleton.mp hw
    exact ⟨hown', fun _ => rfl⟩
  · trivial

theorem upheld_editPermissions {permissionKeys : Field (List String)}
    (hown : ¬ Owns s orgId roleTemplateId) :
    Upheld orgId (editPermissions env roleTemplateId permissionKeys) (fun _ _ => True) s := by
  cases permissionKeys with
  | value permissionKeys =>
    have hresolved : Upheld orgId (resolvePermissionIds env permissionKeys) (fun _ _ => True) s :=
      upheld_resolvePermissionIds
    have hstable := Script.Upholds.and_stable (fun _ _ h => h) not_owns_stable hresolved hown
    exact Script.upholds_bind hstable fun permissionIds s' h =>
      upheld_replaceRoleTemplatePermissions h.2
  | undefined => trivial
  | null => trivial

theorem upheld_update {dto : UpdateRoleTemplateDto} (hother : otherId ≠ orgId) :
    Upheld orgId (update env actorUserId otherId roleTemplateId dto) (fun _ _ => True) s := by
  refine upheld_assertOrgAdmin_bind fun s₁ => ?_
  refine upheld_query_bind fun s₂ existing _ hvisible => ?_
  have hown := not_owns_of_visible hother hvisible
  refine Script.upholds_throwIf_bind fun _ => ?_
  have hedited : Upheld orgId (editTemplate env roleTemplateId dto) (fun _ _ => True) s₂ :=
    upheld_editTemplate hown
  have hstable := Script.Upholds.and_stable (fun _ _ h => h) not_owns_stable hedited hown
  refine Script.upholds_bind hstable fun _ s₃ h => ?_
  exact Script.upholds_bind (upheld_editPermissions h.2) fun _ _ _ => upheld_query _

theorem upheld_delete (hother : otherId ≠ orgId) :
    Upheld orgId (delete actorUserId otherId roleTemplateId) (fun _ _ => True) s := by
  refine upheld_assertOrgAdmin_bind fun s₁ => ?_
  refine upheld_query_bind fun s₂ existing _ hvisible => ?_
  have hown := not_owns_of_visible hother hvisible
  refine Script.upholds_throwIf_bind fun _ => ?_
  refine upheld_query_bind fun s₃ assignedUsers hs₃ _ => ?_
  refine Script.upholds_throwIf_bind fun _ => ?_
  refine upheld_commit not_owns_stable (fun w hw s' hown' => ?_) (not_owns_stable _ _ hown hs₃)
  obtain rfl := List.mem_singleton.mp hw
  exact hown'

theorem upheld_assertScope {scopeType : AccessScopeType} {scopeId : Option Id} :
    Upheld orgId (assertScope otherId scopeType scopeId) (fun _ _ => True) s := by
  cases scopeType with
  | ORG => trivial
  | BUILDING => exact Script.upholds_done_bind fun _ _ => upheld_query _

theorem upheld_createAccessAssignment {dto : CreateAccessAssignmentDto} (hother : otherId ≠ orgId) :
    Upheld orgId (Access.createAccessAssignment env userId otherId dto) (fun _ _ => True) s := by
  refine upheld_query_bind fun s₁ _ _ hasserted => ?_
  have hmember := not_member_of_asserted hother hasserted
  refine upheld_query_bind fun s₂ roleTemplate hs₂ hassignable => ?_
  have hforeign : ¬ Owns s₂ orgId dto.roleTemplateId ∧ ¬ Member s₂ orgId userId :=
    ⟨not_owns_of_assignable hother hassignable, not_member_stable _ _ hmember hs₂⟩
  have hstable : ∀ s s', (¬ Owns s orgId dto.roleTemplateId ∧ ¬ Member s orgId userId) →
      Same orgId s s' → ¬ Owns s' orgId dto.roleTemplateId ∧ ¬ Member s' orgId userId :=
    fun s s' h hs => ⟨not_owns_stable s s' h.1 hs, not_member_stable s s' h.2 hs⟩
  refine Script.upholds_throwIf_bind fun _ => ?_
  refine Script.upholds_bind (Script.Upholds.and_stable (fun _ _ h => h) hstable
    upheld_assertScope hforeign) fun _ s₃ h₃ => ?_
  refine upheld_query_bind fun s₄ duplicate hs₄ _ => ?_
  refine Script.upholds_throwIf_bind fun _ => ?_
  refine upheld_commit_bind hstable (fun w hw s' h => ?_) (hstable _ _ h₃.2 hs₄)
    fun _ _ _ _ => upheld_query _
  obtain rfl := List.mem_singleton.mp hw
  exact h

/-- The assignment hangs on no template of the organisation, if it is there at all. -/
def Foreign (orgId assignmentId : Id) (s : Db) : Prop :=
  ∀ a ∈ s.userAccessAssignments, a.id = assignmentId → ¬ Owns s orgId a.roleTemplateId

theorem foreign_stable {assignmentId : Id} : ∀ s s', Foreign orgId assignmentId s →
    Same orgId s s' → Foreign orgId assignmentId s' := by
  intro s s' hforeign hs a ha hid hown
  have hown' := hs.owns_iff.mp hown
  exact hforeign a ((hs.assignments a hown').mpr ha) hid hown'

theorem foreign_of_found {assignmentId : Id} {found : UserAccessAssignment × RoleTemplateRow}
    (hother : otherId ≠ orgId)
    (h : s.findUserAccessAssignmentById assignmentId otherId = some found) :
    Foreign orgId assignmentId s := by
  obtain ⟨a, ha, hrow⟩ := Option.bind_eq_some_iff.mp h
  obtain ⟨r, hr, -⟩ := Option.map_eq_some_iff.mp hrow
  obtain ⟨hunique, horg⟩ := Option.filter_eq_some_iff.mp hr
  obtain ⟨hmem, hid⟩ := Table.findUnique_eq_some.mp ha
  obtain ⟨hr, hrId⟩ := Table.findUnique_eq_some.mp hunique
  intro a' ha' hid'
  have hsame : a' = a := Table.eq_of_key_eq ha' hmem (hid'.trans hid.symm)
  rw [hsame]
  exact not_owns_of_mem hr hrId fun h =>
    hother (Option.some.inj ((of_decide_eq_true horg).symm.trans h))

theorem upheld_deleteAccessAssignment {assignmentId : Id} (hother : otherId ≠ orgId) :
    Upheld orgId (Access.deleteAccessAssignment userId otherId assignmentId)
      (fun _ _ => True) s := by
  refine upheld_query_bind fun s₁ _ _ _ => ?_
  refine upheld_query_bind fun s₂ assignment _ hfound => ?_
  refine Script.upholds_throwIf_bind fun hany => ?_
  obtain ⟨found, hsome, -⟩ := (Option.any_eq_true _ _).mp (not_not.mp hany)
  have hforeign := foreign_of_found hother ((Except.ok.inj hfound).trans hsome)
  refine upheld_commit foreign_stable (fun w hw s' h => ?_) hforeign
  obtain rfl := List.mem_singleton.mp hw
  exact h

theorem upheld_setPermissionOverrides {overrides : List OverrideDto} (hother : otherId ≠ orgId) :
    Upheld orgId (Access.setPermissionOverrides env userId otherId overrides)
      (fun _ _ => True) s := by
  refine upheld_query_bind fun s₁ _ _ hasserted => ?_
  have hmember := not_member_of_asserted hother hasserted
  refine Script.upholds_throwIf_bind fun _ => ?_
  refine Script.upholds_bind (Script.Upholds.and_stable (fun _ _ h => h) not_member_stable
    upheld_lookupPermissions hmember) fun permissions s₂ h₂ => ?_
  refine Script.upholds_throwIf_bind fun _ => ?_
  refine upheld_commit not_member_stable (fun w hw s' h => ?_) h₂.2
  rcases List.mem_cons.mp hw with rfl | hw
  · exact h
  · obtain ⟨row, hrow, rfl⟩ := List.mem_map.mp hw
    obtain ⟨o, -, ho⟩ := List.mem_filterMap.mp hrow
    obtain ⟨permissionId, -, rfl⟩ := Option.map_eq_some_iff.mp ho
    exact h

theorem upheld_script {c : AccessCall} (hother : c.orgId ≠ orgId) :
    Upheld orgId (c.script env) (fun _ _ => True) s := by
  cases c with
  | createRole actorUserId otherId dto =>
    exact Script.upholds_bind (upheld_create hother) fun _ _ _ => trivial
  | updateRole actorUserId otherId roleTemplateId dto =>
    exact Script.upholds_bind (upheld_update hother) fun _ _ _ => trivial
  | deleteRole actorUserId otherId roleTemplateId => exact upheld_delete hother
  | createAccessAssignment userId otherId dto =>
    exact Script.upholds_bind (upheld_createAccessAssignment hother) fun _ _ _ => trivial
  | deleteAccessAssignment userId otherId assignmentId =>
    exact upheld_deleteAccessAssignment hother
  | setPermissionOverrides userId otherId overrides => exact upheld_setPermissionOverrides hother

end Calls

section Runs

variable {π : Type} [DecidableEq π]

abbrev after (start : Db) (calls : π → Env × AccessCall) (turns : List (π × Unit)) : Db :=
  (Script.inTurns (fun p => (calls p).2.script (calls p).1) start turns).shared

theorem same_after {orgId : Id} {start : Db} {calls : π → Env × AccessCall}
    (hothers : ∀ p, (calls p).2.orgId ≠ orgId) (turns : List (π × Unit)) :
    Same orgId start (after start calls turns) := by
  have hupheld (p : π) : Upheld orgId ((calls p).2.script (calls p).1) (fun _ _ => True) start :=
    upheld_script (hothers p)
  exact (Script.upheld_exec (R := fun _ => Same orgId)
    (c := Script.start (fun p => (calls p).2.script (calls p).1) start)
    (G := fun _ s effect => Same orgId s (effect s)) (I := Same orgId start)
    (fun _ _ => .refl) (fun _ => .trans) (fun _ _ _ _ _ h => h) (fun _ _ _ h hs => hs.trans h)
    hupheld .refl turns).2

end Runs

/-- What a user of an organisation may do there. -/
structure MayDoTheSame (orgId userId : Id) (s s' : Db) : Prop where
  anyScope : s'.tables.getUserEffectivePermissionsAcrossAnyScope userId (some orgId) =
    s.tables.getUserEffectivePermissionsAcrossAnyScope userId (some orgId)
  building : ∀ buildingId, buildingId ≠ "" →
    s'.tables.getUserEffectivePermissions userId (some orgId) (some buildingId) =
      s.tables.getUserEffectivePermissions userId (some orgId) (some buildingId)
  /-- Without a building, also the roles that the user has elsewhere count. -/
  org : AtHome s orgId userId → s'.tables.getUserEffectivePermissions userId (some orgId) none =
    s.tables.getUserEffectivePermissions userId (some orgId) none
  routes : ∀ (db : EntityTables) (route : BuildingRoute), route ∈ buildingRoutes →
    ∀ (request : Request) (buildingId : Id), request.user = some ⟨userId, some orgId⟩ →
      request.effectivePermissions = none → request.param "buildingId" = some buildingId →
        buildingId ≠ "" → ((∃ passed, route.activate s'.tables db request = .ok passed) ↔
          ∃ passed, route.activate s.tables db request = .ok passed)

theorem tenants_isolated {π : Type} [DecidableEq π] (orgId : Id) (start : Db)
    (calls : π → Env × AccessCall) (hothers : ∀ p, (calls p).2.orgId ≠ orgId)
    (turns : List (π × Unit)) (userId : Id) (hmember : Member start orgId userId) :
    MayDoTheSame orgId userId start (after start calls turns) := by
  have hsame : Same orgId start (after start calls turns) := same_after hothers turns
  have hbuilding : ∀ buildingId, buildingId ≠ "" →
      (after start calls turns).tables.getUserEffectivePermissions userId (some orgId)
          (some buildingId) =
        start.tables.getUserEffectivePermissions userId (some orgId) (some buildingId) :=
    fun buildingId hne => hsame.effectivePermissionsIn hmember (.within (some buildingId))
      (onlyOf_building hne) (onlyOf_building hne)
  refine ⟨?_, hbuilding, fun hhome => ?_, ?_⟩
  · exact hsame.effectivePermissionsIn hmember .anyScope onlyOf_anyScope onlyOf_anyScope
  · exact hsame.effectivePermissionsIn hmember (.within none) hhome.onlyOf
      (hsame.atHome hmember hhome).onlyOf
  · intro db route hroute request buildingId huser hfresh hparam hne
    have hguarded := BuildingRoutes.guarded_of_mem route hroute
    by_cases hids : userId ≠ "" ∧ orgId ≠ ""
    · rw [BuildingRoutes.activate_iff hguarded hids.1 hids.2 huser hparam hne hfresh,
        BuildingRoutes.activate_iff hguarded hids.1 hids.2 huser hparam hne hfresh,
        hbuilding buildingId hne]
    · -- the first guard turns an empty id away
      have hnobody : ∀ (access : AccessTables) passed,
          route.activate access db request ≠ .ok passed := by
        intro access passed hpassed
        obtain ⟨userId', orgId', hrequest, hne⟩ := BuildingRoutes.activate_user hguarded hpassed
        obtain ⟨rfl, hscope⟩ :=
          AuthenticatedUser.mk.inj (Option.some.inj (huser.symm.trans hrequest))
        obtain rfl := Option.some.inj hscope
        exact hids hne
      exact iff_of_false (fun ⟨passed, h⟩ => hnobody _ passed h) fun ⟨passed, h⟩ =>
        hnobody _ passed h

/-- Somebody of another organisation who tries to deny a user what a role allows. -/
def intruder : Env × AccessCall :=
  (towerEnv, .setPermissionOverrides "ann" "other" [⟨"users.read", .DENY⟩])

theorem intruder_leaves_ann :
    MayDoTheSame "org" "ann" tower (after tower (fun _ : Unit => intruder) [((), ()), ((), ())]) :=
  tenants_isolated "org" tower (fun _ => intruder) (fun _ => by decide) _ "ann"
    ⟨⟨"ann", "ann@example.com", none, none, some "org", true⟩, by decide, rfl, rfl⟩

end Towerdesk.Access.Tenants
