import Towerdesk.Access.Scopes
import Towerdesk.Access.UserAccess

/-!
# Platform permissions stay with the platform

A permission reaches a user through a template's permissions or through an override. What
the calls write there was looked up under keys none of which is a platform key, so
platform permissions stay with the templates that are never visible.
-/

namespace Towerdesk.Access

open Script (Yields query throwIf yields_bind yields_pure yields_query yields_throwIf_bind
  yields_orThrow_bind yields_collect yields_mapError ends_run_of_yields)
open Transaction (Ends final)
open Users (OrgUserProvisionParams)

/-- The permission, if it exists, is no platform permission. -/
def Plain (permissions : Table Permission.id) (permissionId : Id) : Prop :=
  ∀ p ∈ permissions, p.id = permissionId → isPlatformPermissionKey p.key = false

instance (permissions : Table Permission.id) (permissionId : Id) :
    Decidable (Plain permissions permissionId) :=
  inferInstanceAs (Decidable (∀ p ∈ permissions,
    p.id = permissionId → isPlatformPermissionKey p.key = false))

/-- Platform keys occur only in `platform_superadmin` templates and in no override. -/
structure PlatformConfined (db : Db) : Prop where
  templates : ∀ row ∈ db.rolePermissions, ¬ Plain db.permissions row.permissionId →
    ∃ r ∈ db.roleTemplates, r.id = row.roleTemplateId ∧ r.key = "platform_superadmin"
  overrides : ∀ row ∈ db.userPermissions, Plain db.permissions row.permissionId

section Writes

variable {permissions : Table Permission.id} {db db' : Db} {w : DbWrite}

def ConfinedOver (permissions : Table Permission.id) (db : Db) : Prop :=
  db.permissions = permissions ∧ PlatformConfined db

/-- A write that gives no template another key, and no template or user a platform permission. -/
def DbWrite.Harmless (permissions : Table Permission.id) : DbWrite → Prop
  | .updateRoleTemplate _ p => ∀ r, (p.apply r).key = r.key
  | .addRolePermission row => Plain permissions row.permissionId
  | .addUserPermission row => Plain permissions row.permissionId
  | _ => True

/-- Writes to the templates that keep every template some row of the same id and key. -/
theorem confined_of_templates {roleTemplates : RoleTemplateTable}
    (h : ConfinedOver permissions db)
    (hkept : ∀ r ∈ db.roleTemplates, ∃ r' ∈ roleTemplates, r'.id = r.id ∧ r'.key = r.key) :
    ConfinedOver permissions { db with roleTemplates } := by
  refine ⟨h.1, ⟨fun row hrow hplain => ?_, h.2.overrides⟩⟩
  obtain ⟨r, hr, hid, hkey⟩ := h.2.templates row hrow hplain
  obtain ⟨r', hr', hid', hkey'⟩ := hkept r hr
  exact ⟨r', hr', hid'.trans hid, hkey'.trans hkey⟩

theorem confined_deleteRoleTemplate (h : ConfinedOver permissions db) (id : Id) :
    ConfinedOver permissions (db.deleteRoleTemplate id) := by
  refine ⟨h.1, ⟨fun row hrow hplain => ?_, h.2.overrides⟩⟩
  obtain ⟨hrow, hne⟩ := List.mem_filter.mp hrow
  obtain ⟨r, hr, hid, hkey⟩ := h.2.templates row hrow hplain
  refine ⟨r, List.mem_filter.mpr ⟨hr, ?_⟩, hid, hkey⟩
  rwa [hid]

theorem confined_apply (hw : w.Harmless permissions) (h : ConfinedOver permissions db)
    (happly : w.apply db = .ok db') : ConfinedOver permissions db' := by
  cases w with
  | createRoleTemplate r =>
    obtain ⟨roleTemplates, hinsert, rfl⟩ := apply_createRoleTemplate.mp happly
    exact confined_of_templates h fun r' hr' =>
      ⟨r', (Table.mem_insert hinsert).mpr (.inl hr'), rfl, rfl⟩
  | updateRoleTemplate id p =>
    obtain ⟨roleTemplates, -, hmodify, rfl⟩ := apply_updateRoleTemplate.mp happly
    refine confined_of_templates h fun r hr => ?_
    by_cases hid : r.rowId = id
    · refine ⟨p.apply r, ?_, p.key_apply r, hw r⟩
      rw [Constrained.mem_table, hmodify]
      exact Table.mem_modify.mpr (.inl ⟨r, hr, hid, rfl⟩)
    · refine ⟨r, ?_, rfl, rfl⟩
      rw [Constrained.mem_table, hmodify]
      exact Table.mem_modify_of_ne hr hid
  | deleteRoleTemplate id =>
    obtain ⟨-, rfl⟩ := apply_deleteRoleTemplate.mp happly
    exact confined_deleteRoleTemplate h id
  | clearRolePermissions roleTemplateId =>
    obtain rfl := Except.ok.inj happly
    exact ⟨h.1, ⟨fun row hrow => h.2.templates row (List.mem_of_mem_filter hrow), h.2.overrides⟩⟩
  | addRolePermission row =>
    obtain ⟨-, rfl⟩ := apply_addRolePermission.mp happly
    refine ⟨h.1, ⟨fun row' hrow' hplain => ?_, h.2.overrides⟩⟩
    obtain hrow' | rfl := Table.mem_of_mem_getD_insert hrow'
    · exact h.2.templates row' hrow' hplain
    · exact absurd (h.1 ▸ hw) hplain
  | clearUserPermissions userId =>
    obtain rfl := Except.ok.inj happly
    exact ⟨h.1, ⟨h.2.templates, fun row hrow => h.2.overrides row (List.mem_of_mem_filter hrow)⟩⟩
  | addUserPermission row =>
    obtain ⟨-, rfl⟩ := apply_addUserPermission.mp happly
    refine ⟨h.1, ⟨h.2.templates, fun row' hrow' => ?_⟩⟩
    obtain hrow' | rfl := Table.mem_of_mem_getD_insert hrow'
    · exact h.2.overrides row' hrow'
    · exact h.1 ▸ hw
  | upsertAssignment row =>
    obtain ⟨-, rfl⟩ | ⟨t, -, -, rfl⟩ := apply_upsertAssignment.mp happly
    · exact h
    · exact ⟨h.1, ⟨h.2.templates, h.2.overrides⟩⟩
  | deleteAssignment id =>
    obtain ⟨-, rfl⟩ := apply_deleteAssignment.mp happly
    exact ⟨h.1, ⟨h.2.templates, h.2.overrides⟩⟩
  | tenancy w =>
    obtain ⟨t, -, rfl⟩ := apply_tenancy.mp happly
    exact ⟨h.1, ⟨h.2.templates, h.2.overrides⟩⟩

end Writes

section Scripts

variable {permissions : Table Permission.id} {ws : List DbWrite}

theorem commit_yields {I : Db → Prop}
    (h : ∀ w ∈ ws, ∀ db db', I db → w.apply db = .ok db' → I db') :
    (commit ws).Yields I fun _ => True := by
  refine Script.yields_atomic fun db hdb => Transaction.ends_transaction hdb ?_
  intro ss db' hss hcommit
  obtain rfl := Except.ok.inj hss
  refine ⟨?_, trivial⟩
  refine Transaction.commit_rel (R := fun a b => I a → I b) (fun _ => id)
    (fun hab hbc ha => hbc (hab ha)) (fun w hw a b happly ha => ?_) hcommit hdb
  rw [Transaction.writes_map_write] at hw
  exact h w hw a b ha happly

theorem confined_commit (h : ∀ w ∈ ws, w.Harmless permissions) :
    (commit ws).Yields (ConfinedOver permissions) fun _ => True :=
  commit_yields fun w hw _ _ hdb happly => confined_apply (h w hw) hdb happly

/-- Found under keys none of which is a platform key. -/
def FoundPlain (permissions : Table Permission.id) (found : List Permission) : Prop :=
  ∀ p ∈ found, p ∈ permissions ∧ isPlatformPermissionKey p.key = false

theorem FoundPlain.plain {found : List Permission} (h : FoundPlain permissions found)
    {p : Permission} (hp : p ∈ found) : Plain permissions p.id := by
  intro p' hp' hid
  rw [Table.eq_of_key_eq hp' (h p hp).1 hid]
  exact (h p hp).2

theorem lookupPermissions_yields {keys : List String}
    (hkeys : ∀ k ∈ keys, isPlatformPermissionKey k = false) :
    (lookupPermissions keys).Yields (ConfinedOver permissions) (FoundPlain permissions) := by
  unfold lookupPermissions
  split_ifs
  · exact yields_pure nofun
  · refine yields_query fun db found hdb hfound p hp => ?_
    obtain rfl := Except.ok.inj hfound
    obtain ⟨hp, hkey⟩ := List.mem_filter.mp hp
    exact ⟨hdb.1 ▸ hp, hkeys p.key (of_decide_eq_true hkey)⟩

theorem resolvePermissionIds_yields (env : Env) (permissionKeys : List String) :
    (resolvePermissionIds env permissionKeys).Yields (ConfinedOver permissions)
      fun ids => ∀ id ∈ ids, Plain permissions id := by
  refine yields_throwIf_bind fun hplatform => ?_
  have hkeys := listPlatformPermissionKeys_eq_nil.mp (not_not.mp hplatform)
  refine yields_bind (lookupPermissions_yields hkeys) fun found hfound => ?_
  refine yields_throwIf_bind fun _ => yields_pure fun id hid => ?_
  obtain ⟨p, hp, rfl⟩ := List.mem_map.mp hid
  exact hfound.plain hp

theorem replaceRoleTemplatePermissions_yields {roleTemplateId : Id} {ids : List Id}
    (hids : ∀ id ∈ ids, Plain permissions id) :
    (replaceRoleTemplatePermissions roleTemplateId ids).Yields (ConfinedOver permissions)
      fun _ => True := by
  refine confined_commit fun w hw => ?_
  obtain rfl | hw := List.mem_cons.mp hw
  · trivial
  · obtain ⟨id, hid, rfl⟩ := List.mem_map.mp hw
    exact hids id hid

theorem confined_query {α : Type} (f : Db → Result α) :
    (query f).Yields (ConfinedOver permissions) fun _ => True :=
  yields_query fun _ _ _ _ => trivial

theorem create_yields (env : Env) (actorUserId orgId : Id) (dto : CreateRoleDto) :
    (create env actorUserId orgId dto).Yields (ConfinedOver permissions) fun _ => True := by
  refine yields_bind (confined_query _) fun _ _ => ?_
  refine yields_throwIf_bind fun _ => ?_
  refine yields_bind (resolvePermissionIds_yields env dto.permissionKeys) fun ids hids => ?_
  refine yields_bind (Q := fun _ => True) (yields_mapError ?_) fun _ _ => confined_query _
  refine yields_bind (confined_commit ?_) fun _ _ => replaceRoleTemplatePermissions_yields hids
  intro w hw
  obtain rfl := List.mem_singleton.mp hw
  trivial

theorem editTemplate_yields (env : Env) (roleTemplateId : Id) (dto : UpdateRoleTemplateDto) :
    (editTemplate env roleTemplateId dto).Yields (ConfinedOver permissions) fun _ => True := by
  unfold editTemplate
  split_ifs
  · refine yields_throwIf_bind fun _ => confined_commit fun w hw => ?_
    obtain rfl := List.mem_singleton.mp hw
    exact fun r => rfl
  · exact yields_pure trivial

theorem editPermissions_yields (env : Env) (roleTemplateId : Id)
    (permissionKeys : Field (List String)) :
    (editPermissions env roleTemplateId permissionKeys).Yields (ConfinedOver permissions)
      fun _ => True := by
  cases permissionKeys with
  | undefined => exact yields_pure trivial
  | null => exact yields_pure trivial
  | value keys =>
    exact yields_bind (resolvePermissionIds_yields env keys) fun _ hids =>
      replaceRoleTemplatePermissions_yields hids

theorem update_yields (env : Env) (actorUserId orgId roleTemplateId : Id)
    (dto : UpdateRoleTemplateDto) :
    (update env actorUserId orgId roleTemplateId dto).Yields (ConfinedOver permissions)
      fun _ => True := by
  refine yields_bind (confined_query _) fun _ _ => ?_
  refine yields_bind (confined_query _) fun existing _ => ?_
  refine yields_throwIf_bind fun _ => ?_
  refine yields_bind (editTemplate_yields env roleTemplateId dto) fun _ _ => ?_
  refine yields_bind (editPermissions_yields env roleTemplateId _) fun _ _ => ?_
  exact confined_query _

theorem delete_yields (actorUserId orgId roleTemplateId : Id) :
    (delete actorUserId orgId roleTemplateId).Yields (ConfinedOver permissions)
      fun _ => True := by
  refine yields_bind (confined_query _) fun _ _ => ?_
  refine yields_bind (confined_query _) fun roleTemplate _ => ?_
  refine yields_throwIf_bind fun _ => ?_
  refine yields_bind (confined_query _) fun assignedUsers _ => ?_
  refine yields_throwIf_bind fun _ => confined_commit fun w hw => ?_
  obtain rfl := List.mem_singleton.mp hw
  trivial

theorem setPermissionOverrides_yields (env : Env) (userId orgId : Id)
    (overrides : List OverrideDto) :
    (setPermissionOverrides env userId orgId overrides).Yields (ConfinedOver permissions)
      fun _ => True := by
  refine yields_bind (confined_query _) fun _ _ => ?_
  refine yields_throwIf_bind fun hplatform => ?_
  have hkeys := listPlatformPermissionKeys_eq_nil.mp (not_not.mp hplatform)
  refine yields_bind (lookupPermissions_yields hkeys) fun found hfound => ?_
  refine yields_throwIf_bind fun _ => confined_commit fun w hw => ?_
  obtain rfl | hw := List.mem_cons.mp hw
  · trivial
  · obtain ⟨row, hrow, rfl⟩ := List.mem_map.mp hw
    obtain ⟨o, -, ho⟩ := List.mem_filterMap.mp hrow
    obtain ⟨id, hid, rfl⟩ := Option.map_eq_some_iff.mp ho
    obtain ⟨p, hfind, rfl⟩ := Option.map_eq_some_iff.mp (truthy_eq_some.mp hid).1
    exact hfound.plain (List.mem_reverse.mp (List.mem_of_find?_eq_some hfind))

theorem assertScope_yields (orgId : Id) (scopeType : AccessScopeType) (scopeId : Option Id) :
    (assertScope orgId scopeType scopeId).Yields (ConfinedOver permissions) fun _ => True := by
  cases scopeType with
  | ORG => exact yields_pure trivial
  | BUILDING => exact yields_orThrow_bind fun _ _ => confined_query _

theorem createAccessAssignment_yields (env : Env) (userId orgId : Id)
    (dto : CreateAccessAssignmentDto) :
    (createAccessAssignment env userId orgId dto).Yields (ConfinedOver permissions)
      fun _ => True := by
  refine yields_bind (confined_query _) fun _ _ => ?_
  refine yields_bind (confined_query _) fun roleTemplate _ => ?_
  refine yields_throwIf_bind fun _ => ?_
  refine yields_bind (assertScope_yields _ _ _) fun _ _ => ?_
  refine yields_bind (confined_query _) fun duplicate _ => ?_
  refine yields_throwIf_bind fun _ => ?_
  refine yields_bind (confined_commit fun w hw => ?_) fun _ _ => confined_query _
  obtain rfl := List.mem_singleton.mp hw
  trivial

theorem resolveGrant_yields (env : Env) (orgId userId : Id)
    (grant : Users.ProvisionAccessAssignmentDto) :
    (resolveGrant env orgId userId grant).Yields (ConfinedOver permissions) fun _ => True := by
  refine yields_bind (confined_query _) fun roleTemplate _ => ?_
  refine yields_throwIf_bind fun _ => ?_
  refine yields_bind (assertScope_yields _ _ _) fun _ _ => ?_
  exact yields_bind (confined_query _) fun duplicate _ => yields_pure trivial

theorem baselinePermissions_yields (ensure : Bool) (params : OrgUserProvisionParams)
    (userId : Id) :
    (baselinePermissions ensure params userId).Yields (ConfinedOver permissions)
      fun rows => ∀ row ∈ rows, Plain permissions row.permissionId := by
  unfold baselinePermissions
  split_ifs
  · refine yields_query fun db rows hdb hrows row hrow => ?_
    obtain rfl := Except.ok.inj hrows
    obtain ⟨p, hp, rfl⟩ := List.mem_map.mp hrow
    obtain ⟨hp, hkey⟩ := List.mem_filter.mp hp
    intro p' hp' hid
    rw [Table.eq_of_key_eq hp' (hdb.1 ▸ hp) hid]
    have hbaseline : ∀ k ∈ Messaging.RESIDENT_BASELINE_PERMISSION_KEYS,
        isPlatformPermissionKey k = false := by decide
    exact hbaseline p.key (of_decide_eq_true hkey)
  · exact yields_pure nofun

theorem provisionOrgUser_yields (env : Env) (params : OrgUserProvisionParams) (ensure : Bool) :
    (provisionOrgUser env params ensure).Yields (ConfinedOver permissions) fun _ => True := by
  refine yields_bind (confined_query _) fun target _ => ?_
  refine yields_bind (baselinePermissions_yields ensure params target.1) fun rows hrows => ?_
  refine yields_bind (yields_collect (R := fun _ => True) fun grant _ =>
    resolveGrant_yields env params.orgId target.1 grant) fun grants _ => ?_
  refine yields_bind (confined_query _) fun resident _ => ?_
  refine yields_bind (confined_commit fun w hw => ?_) fun _ _ => ?_
  · simp only [List.mem_append, List.mem_map, List.mem_flatMap, tenancyWrites] at hw
    obtain ((⟨w, -, rfl⟩ | ⟨row, hrow, rfl⟩) | ⟨grant, -, hw⟩) | ⟨w, -, rfl⟩ := hw
    · trivial
    · exact hrows row hrow
    · unfold ResolvedGrant.writes at hw
      split at hw
      · cases hw
      · obtain rfl := List.mem_singleton.mp hw
        trivial
    · trivial
  · exact yields_bind (confined_query _) fun _ _ => yields_pure trivial

end Scripts

inductive RoleOperation
  | createRole (actorUserId orgId : Id) (dto : CreateRoleDto)
  | updateRole (actorUserId orgId roleTemplateId : Id) (dto : UpdateRoleTemplateDto)
  | deleteRole (actorUserId orgId roleTemplateId : Id)
  | setPermissionOverrides (userId orgId : Id) (overrides : List OverrideDto)
  | createAccessAssignment (userId orgId : Id) (dto : CreateAccessAssignmentDto)
  | provisionOrgUser (params : OrgUserProvisionParams) (ensureResidentBaselinePermissions : Bool)

def call (env : Env) (db : Db) : RoleOperation → Db
  | .createRole actorUserId orgId dto => final ((create env actorUserId orgId dto).run db)
  | .updateRole actorUserId orgId roleTemplateId dto =>
    final ((update env actorUserId orgId roleTemplateId dto).run db)
  | .deleteRole actorUserId orgId roleTemplateId =>
    final ((delete actorUserId orgId roleTemplateId).run db)
  | .setPermissionOverrides userId orgId overrides =>
    final ((setPermissionOverrides env userId orgId overrides).run db)
  | .createAccessAssignment userId orgId dto =>
    final ((createAccessAssignment env userId orgId dto).run db)
  | .provisionOrgUser params ensure => final ((provisionOrgUser env params ensure).run db)

def next (l : Env × RoleOperation) (db : Db) : Db := call l.1 db l.2

section Runs

variable {permissions : Table Permission.id} {db : Db}

theorem confined_run {α : Type} {c : Call α}
    (hc : c.Yields (ConfinedOver permissions) fun _ => True) (h : ConfinedOver permissions db) :
    ConfinedOver permissions (final (c.run db)) :=
  ((ends_run_of_yields hc h).imp (fun _ => id) fun _ _ hs => hs.1).final

theorem confined_next (l : Env × RoleOperation) (h : ConfinedOver permissions db) :
    ConfinedOver permissions (next l db) := by
  obtain ⟨env, op⟩ := l
  cases op with
  | createRole actorUserId orgId dto => exact confined_run (create_yields _ _ _ _) h
  | updateRole actorUserId orgId roleTemplateId dto =>
    exact confined_run (update_yields _ _ _ _ _) h
  | deleteRole actorUserId orgId roleTemplateId => exact confined_run (delete_yields _ _ _) h
  | setPermissionOverrides userId orgId overrides =>
    exact confined_run (setPermissionOverrides_yields _ _ _ _) h
  | createAccessAssignment userId orgId dto =>
    exact confined_run (createAccessAssignment_yields _ _ _ _) h
  | provisionOrgUser params ensure => exact confined_run (provisionOrgUser_yields _ _ _) h

theorem confined_exec (h : PlatformConfined db) (calls : List (Env × RoleOperation)) :
    PlatformConfined (Run.exec next db calls) :=
  (Run.exec_inv (I := ConfinedOver db.permissions) (fun l _ => confined_next l) calls
    ⟨rfl, h⟩).2

theorem mem_templates {r : RoleTemplate} :
    r ∈ db.tables.roleTemplates ↔ ∃ row ∈ db.roleTemplates, row.toRoleTemplate = r :=
  List.mem_map

theorem not_isVisible_of_superadmin {r : RoleTemplate} (h : r.key = "platform_superadmin") :
    isVisibleRoleTemplate r = false := by
  simp [isVisibleRoleTemplate, h]

theorem not_platform_of_effective (h : PlatformConfined db) {userId : Id} {orgId : Option Id}
    {scope : AccessScope} {k : String}
    (hk : k ∈ db.tables.effectivePermissionsIn userId orgId scope) :
    isPlatformPermissionKey k = false := by
  by_contra hplatform
  obtain hallowed | ⟨-, a, -, -, r, hr, hid, hvisible, -, hkey⟩ :=
    AccessTables.mem_effectivePermissionsIn_split.mp hk
  · obtain ⟨o, ho, rfl⟩ : ∃ o ∈ db.tables.userOverrides userId, o.key = k := by
      refine List.mem_map.mp (not_not.mp fun hnone => ?_)
      unfold AccessTables.allowedKeys at hallowed
      rw [AccessTables.applyOverride_eq] at hallowed
      exact absurd ((Overrides.mem_applyAll_of_not_mem hnone).mp hallowed) (Finset.notMem_empty k)
    obtain ⟨row, hrow, ho⟩ := List.mem_filterMap.mp ho
    obtain ⟨p, hfind, rfl⟩ := Option.map_eq_some_iff.mp ho
    obtain ⟨hp, hpid⟩ := Table.findUnique_eq_some.mp hfind
    exact hplatform (h.overrides row (List.mem_of_mem_filter hrow) p hp hpid)
  · obtain ⟨row, hrow, hrole, p, hfind, rfl⟩ := AccessTables.mem_permissionKeysOfRole.mp hkey
    obtain ⟨hp, hpid⟩ := Table.findUnique_eq_some.mp hfind
    obtain ⟨r', hr', hid', hkey'⟩ := h.templates row hrow fun hplain =>
      hplatform (hplain p hp hpid)
    have hsame : r'.toRoleTemplate = r :=
      Table.eq_of_key_eq (mem_templates.mpr ⟨r', hr', rfl⟩) hr (hid'.trans hrole)
    rw [← hsame, not_isVisible_of_superadmin hkey'] at hvisible
    cases hvisible

end Runs

theorem org_users_hold_no_platform_permissions (db : Db) (h : PlatformConfined db)
    (calls : List (Env × RoleOperation)) (userId : Id) (orgId buildingId : Option Id) :
    (∀ k ∈ (Run.exec next db calls).tables.getUserEffectivePermissions userId orgId buildingId,
        isPlatformPermissionKey k = false) ∧
      ∀ k ∈ (Run.exec next db calls).tables.getUserEffectivePermissionsAcrossAnyScope userId orgId,
        isPlatformPermissionKey k = false := by
  have hconfined := confined_exec h calls
  constructor
  · intro k hk
    have hscope : k ∈ (Run.exec next db calls).tables.effectivePermissionsIn userId orgId
        (.within buildingId) := hk
    exact not_platform_of_effective hconfined hscope
  · intro k hk
    have hscope : k ∈ (Run.exec next db calls).tables.effectivePermissionsIn userId orgId
        .anyScope := hk
    exact not_platform_of_effective hconfined hscope

theorem tower_confined : PlatformConfined tower where
  templates := by
    intro row hrow hplain
    simp only [Table.mem_rows, tower, List.mem_cons, List.not_mem_nil, or_false] at hrow
    obtain rfl | rfl := hrow
    · exact ⟨systemTemplate "super" none "platform_superadmin", List.mem_cons_self, rfl, rfl⟩
    · exact absurd (by decide) hplain
  overrides := fun row hrow => absurd hrow (Table.not_mem_empty row)

/-- The administrator tries to take a platform permission as a role and as an override. -/
def grasping : List (Env × RoleOperation) :=
  [(towerEnv, .createRole "admin" "org" ⟨"owner", "Owner", .ORG, none, [" platform.org.create "]⟩),
    (towerEnv, .setPermissionOverrides "admin" "org" [⟨"platform.org.create", .ALLOW⟩]),
    (towerEnv, .createAccessAssignment "admin" "org" ⟨"super", .ORG, none⟩)]

theorem tower_holds_no_platform_permissions :
    PlatformConfined tower ∧
      (∀ k ∈ (Run.exec next tower grasping).tables.getUserEffectivePermissions "admin"
          (some "org") (some "tower"), isPlatformPermissionKey k = false) ∧
        ∀ k ∈ (Run.exec next tower grasping).tables.getUserEffectivePermissionsAcrossAnyScope
          "admin" (some "org"), isPlatformPermissionKey k = false :=
  ⟨tower_confined, org_users_hold_no_platform_permissions tower tower_confined grasping "admin"
    (some "org") (some "tower")⟩

end Towerdesk.Access
