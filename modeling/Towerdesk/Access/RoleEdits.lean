import Towerdesk.Access.UserAccess

/-!
# Role edits that stop halfway

A template's texts and its permissions are written by separate statements, with checks and
reads in between and after. A call that throws has changed nothing exactly when it stops
before its first change or its first change is also its last step that can fail.
-/

namespace Towerdesk.Access

open Script (SafeLosing query safeLosing_query_bind safeLosing_guard_bind
  safeLosing_throwIf_bind safeLosing_atomic_bind safeLosing_atomic_bind_of_error safeLosing_query
  safeLosing_mapError_bind bind_bind)

/-- The templates and their permission sets, as sets. -/
structure Unchanged (db db' : Db) : Prop where
  templates : ∀ r, r ∈ db'.roleTemplates ↔ r ∈ db.roleTemplates
  permissions : ∀ row, row ∈ db'.rolePermissions ↔ row ∈ db.rolePermissions

theorem Unchanged.refl (db : Db) : Unchanged db db := ⟨fun _ => Iff.rfl, fun _ => Iff.rfl⟩

section Keys

/-- Every key exists and none is a platform key. -/
def KeysResolve (db : Db) (permissionKeys : List String) : Prop :=
  ∀ k ∈ normalizeKeys permissionKeys,
    isPlatformPermissionKey k = false ∧ ∃ p ∈ db.permissions, p.key = k

/-- How many statements look the keys up. -/
def lookups (permissionKeys : List String) : ℕ :=
  if (normalizeKeys permissionKeys).isEmpty then 0 else 1

def resolvedIds (db : Db) (permissionKeys : List String) : List Id :=
  (db.findPermissionsByKeys (normalizeKeys permissionKeys)).map (·.id)

variable {db : Db} {lost : HttpException} {P : Db → Prop} {n : ℕ} {α : Type}

theorem missingKeys_eq_nil {keys : List String} {permissions : List Permission} :
    missingKeys keys permissions = [] ↔ ∀ k ∈ keys, ∃ p ∈ permissions, p.key = k := by
  simp [missingKeys, List.filter_eq_nil_iff]

theorem findPermissionsByKeys_cover {keys : List String} :
    (∀ k ∈ keys, ∃ p ∈ db.findPermissionsByKeys keys, p.key = k) ↔
      ∀ k ∈ keys, ∃ p ∈ db.permissions, p.key = k := by
  constructor
  · intro h k hk
    obtain ⟨p, hp, hkey⟩ := h k hk
    exact ⟨p, List.mem_of_mem_filter hp, hkey⟩
  · intro h k hk
    obtain ⟨p, hp, rfl⟩ := h k hk
    exact ⟨p, List.mem_filter.mpr ⟨hp, decide_eq_true hk⟩, rfl⟩

theorem safe_lookup_bind {keys : List String} {g : List Permission → Call α} :
    SafeLosing lost P n (lookupPermissions keys >>= g) db ↔
      (n < (if keys.isEmpty then 0 else 1) → P db) ∧
        ((if keys.isEmpty then 0 else 1) ≤ n →
          SafeLosing lost P (n - if keys.isEmpty then 0 else 1)
            (g (db.findPermissionsByKeys keys)) db) := by
  unfold lookupPermissions
  by_cases hkeys : keys.isEmpty
  · have hfound : db.findPermissionsByKeys keys = [] := by
      rw [List.isEmpty_iff.mp hkeys]
      simp [Db.findPermissionsByKeys]
    simp only [hkeys, if_true, hfound, Nat.not_lt_zero, false_implies, true_and, Nat.zero_le,
      true_implies, Nat.sub_zero]
    rfl
  · simp only [hkeys, if_false, Bool.false_eq_true]
    rw [safeLosing_query_bind, Nat.lt_one_iff]
    rfl

theorem safe_resolve_bind (env : Env) {permissionKeys : List String} {g : List Id → Call α} :
    SafeLosing lost P n (resolvePermissionIds env permissionKeys >>= g) db ↔
      (¬ (KeysResolve db permissionKeys ∧ lookups permissionKeys ≤ n) → P db) ∧
        (KeysResolve db permissionKeys ∧ lookups permissionKeys ≤ n →
          SafeLosing lost P (n - lookups permissionKeys) (g (resolvedIds db permissionKeys))
            db) := by
  unfold resolvePermissionIds
  simp only [bind_bind, safeLosing_throwIf_bind, safe_lookup_bind, ne_eq, not_not,
    listPlatformPermissionKeys_eq_nil, missingKeys_eq_nil, findPermissionsByKeys_cover]
  have hresolve : KeysResolve db permissionKeys ↔
      (∀ k ∈ normalizeKeys permissionKeys, isPlatformPermissionKey k = false) ∧
        ∀ k ∈ normalizeKeys permissionKeys, ∃ p ∈ db.permissions, p.key = k :=
    ⟨fun h => ⟨fun k hk => (h k hk).1, fun k hk => (h k hk).2⟩,
      fun h k hk => ⟨h.1 k hk, h.2 k hk⟩⟩
  rw [hresolve]
  change (_ ∧ (_ → (n < lookups permissionKeys → P db) ∧ (lookups permissionKeys ≤ n → _ ∧
    (_ → SafeLosing lost P (n - lookups permissionKeys) (g (resolvedIds db permissionKeys)) db))))
    ↔ _
  rw [← Nat.not_le]
  tauto

end Keys

section Writes

variable {db db' : Db} {lost : HttpException} {P : Db → Prop} {n : ℕ} {α : Type}
  {ws : List DbWrite}

theorem safe_commit_bind {g : Unit → Call α} (h : commits ws db = .ok db') :
    SafeLosing lost P n (commit ws >>= g) db ↔
      (n = 0 → P db) ∧ (0 < n → SafeLosing lost P (n - 1) (g ()) db') :=
  safeLosing_atomic_bind (Transaction.transaction_of_commit rfl h)

theorem safe_commit_bind_of_refused {g : Unit → Call α} (h : ∀ db', commits ws db ≠ .ok db') :
    SafeLosing lost P n (commit ws >>= g) db ↔ P db := by
  cases hws : commits ws db with
  | ok db' => exact absurd hws (h db')
  | error e => exact safeLosing_atomic_bind_of_error (Transaction.transaction_of_refused hws)

theorem mem_getD_insert_permission {t : Table RoleTemplatePermission.key}
    {row row' : RoleTemplatePermission} :
    row' ∈ (t.insert row).getD t ↔ row' ∈ t ∨ row' = row := by
  refine ⟨Table.mem_of_mem_getD_insert, ?_⟩
  rintro (hrow' | rfl)
  · exact Table.mem_getD_insert hrow'
  · obtain ⟨b, hb, hkey⟩ := Table.exists_key_getD_insert (t := t) (a := row')
    obtain ⟨hrole, hpermission⟩ := Prod.mk.inj hkey
    have hrow : b = row' := by
      cases b
      cases row'
      simp only at hrole hpermission
      rw [hrole, hpermission]
    exact hrow ▸ hb

def Db.withPermissions (db : Db) (t : Table RoleTemplatePermission.key) : Db :=
  { db with rolePermissions := t }

theorem commits_addRolePermissions {roleTemplateId : Id} {ids : List Id} :
    ∀ db : Db, db.hasTemplate roleTemplateId = true →
      (∀ id ∈ ids, db.hasPermission id = true) →
      ∃ t : Table RoleTemplatePermission.key,
        commits (ids.map fun id => .addRolePermission ⟨roleTemplateId, id⟩) db =
            .ok (db.withPermissions t) ∧
          ∀ row, row ∈ t ↔ row ∈ db.rolePermissions ∨
            (row.roleTemplateId = roleTemplateId ∧ row.permissionId ∈ ids) := by
  induction ids with
  | nil => exact fun db _ _ => ⟨db.rolePermissions, rfl, fun row => by simp⟩
  | cons id ids ih =>
    intro db htemplate hids
    have hadd : (DbWrite.addRolePermission ⟨roleTemplateId, id⟩).apply db =
        .ok (db.withPermissions
          ((db.rolePermissions.insert ⟨roleTemplateId, id⟩).getD db.rolePermissions)) :=
      apply_addRolePermission.mpr ⟨⟨htemplate, hids id List.mem_cons_self⟩, rfl⟩
    obtain ⟨t, ht, hmem⟩ := ih (db.withPermissions
      ((db.rolePermissions.insert ⟨roleTemplateId, id⟩).getD db.rolePermissions)) htemplate
      fun id' hid' => hids id' (List.mem_cons_of_mem id hid')
    refine ⟨t, Transaction.commit_write.mpr ⟨_, hadd, ht⟩, fun row => ?_⟩
    rw [hmem, Db.withPermissions, mem_getD_insert_permission, List.mem_cons]
    constructor
    · rintro ((h | rfl) | ⟨hrole, hid⟩)
      · exact .inl h
      · exact .inr ⟨rfl, .inl rfl⟩
      · exact .inr ⟨hrole, .inr hid⟩
    · rintro (h | ⟨hrole, hid | hid⟩)
      · exact .inl (.inl h)
      · refine .inl (.inr ?_)
        rw [← hrole, ← hid]
      · exact .inr ⟨hrole, hid⟩

theorem commits_replace {roleTemplateId : Id} {ids : List Id}
    (htemplate : db.hasTemplate roleTemplateId = true)
    (hids : ∀ id ∈ ids, db.hasPermission id = true) :
    ∃ t : Table RoleTemplatePermission.key,
      commits (.clearRolePermissions roleTemplateId ::
          ids.map fun id => .addRolePermission ⟨roleTemplateId, id⟩) db =
        .ok (db.withPermissions t) ∧
      ∀ row, row ∈ t ↔ (row ∈ db.rolePermissions ∧ row.roleTemplateId ≠ roleTemplateId) ∨
        (row.roleTemplateId = roleTemplateId ∧ row.permissionId ∈ ids) := by
  have hclear : (DbWrite.clearRolePermissions roleTemplateId).apply db = .ok (db.withPermissions
      (db.rolePermissions.filter (·.roleTemplateId ≠ roleTemplateId))) := rfl
  obtain ⟨t, ht, hmem⟩ := commits_addRolePermissions (db.withPermissions
    (db.rolePermissions.filter (·.roleTemplateId ≠ roleTemplateId))) htemplate hids
  refine ⟨t, Transaction.commit_write.mpr ⟨_, hclear, ht⟩, fun row => ?_⟩
  rw [hmem]
  refine or_congr_left ?_
  simp [Table.mem_rows, Table.filter, Db.withPermissions]

theorem hasPermission_of_resolved {permissionKeys : List String} :
    ∀ id ∈ resolvedIds db permissionKeys, db.hasPermission id = true := by
  intro id hid
  obtain ⟨p, hp, rfl⟩ := List.mem_map.mp hid
  exact hasPermission_iff.mpr ⟨p, List.mem_of_mem_filter hp, rfl⟩

end Writes

section Templates

variable {db : Db} {orgId roleTemplateId : Id}

theorem findRoleTemplateById_eq_some {r : RoleTemplateRow} :
    db.findRoleTemplateById orgId roleTemplateId = some r ↔
      r ∈ db.roleTemplates ∧ r.id = roleTemplateId ∧ r.orgId = some orgId := by
  constructor
  · intro h
    obtain ⟨hr, hfound⟩ := Table.findFirst_some h
    exact ⟨hr, of_decide_eq_true hfound⟩
  · rintro ⟨hr, hid, horg⟩
    refine Table.findFirst_eq_some hr (decide_eq_true ⟨hid, horg⟩) fun b hb => ?_
    exact (of_decide_eq_true hb).1.trans hid.symm

theorem visibleTemplate_eq_ok {r : RoleTemplateRow} :
    visibleTemplate orgId db roleTemplateId = .ok r ↔
      (r ∈ db.roleTemplates ∧ r.id = roleTemplateId ∧ r.orgId = some orgId) ∧
        isVisibleRoleTemplate r.toRoleTemplate = true := by
  simp only [visibleTemplate, Outcome.bind_eq_ok, Outcome.orThrow_eq_ok, Outcome.throwIf_eq_ok,
    Outcome.pure_eq_ok, findRoleTemplateById_eq_some, not_not]
  constructor
  · rintro ⟨r', hr', -, hvisible, rfl⟩
    exact ⟨hr', hvisible⟩
  · rintro ⟨hr, hvisible⟩
    exact ⟨r, hr, (), hvisible, rfl⟩

theorem getById_read (env : Env) {r : RoleTemplateRow}
    (h : (r ∈ db.roleTemplates ∧ r.id = roleTemplateId ∧ r.orgId = some orgId) ∧
      isVisibleRoleTemplate r.toRoleTemplate = true) :
    toRoleResponse env db.tables <$> visibleTemplate orgId db roleTemplateId =
      .ok (toRoleResponse env db.tables r) :=
  Outcome.map_eq_ok.mpr ⟨r, visibleTemplate_eq_ok.mpr h, rfl⟩

theorem safe_replace_getById (env : Env) (db : Db) {roleTemplateId : Id} {r : RoleTemplateRow}
    (ids : List Id)
    (hr : (r ∈ db.roleTemplates ∧ r.id = roleTemplateId ∧ r.orgId = some orgId) ∧
      isVisibleRoleTemplate r.toRoleTemplate = true)
    (hids : ∀ id ∈ ids, db.hasPermission id = true) :
    ∃ t : Table RoleTemplatePermission.key,
      (∀ row, row ∈ t ↔ (row ∈ db.rolePermissions ∧ row.roleTemplateId ≠ roleTemplateId) ∨
        (row.roleTemplateId = roleTemplateId ∧ row.permissionId ∈ ids)) ∧
      ∀ (lost : HttpException) (P : Db → Prop) (n : ℕ),
        SafeLosing lost P n (replaceRoleTemplatePermissions roleTemplateId ids >>= fun _ =>
            getById env orgId roleTemplateId) db ↔
          (n = 0 → P db) ∧ (n = 1 → P (db.withPermissions t)) := by
  obtain ⟨t, hcommit, hmem⟩ := commits_replace (hasTemplate_iff.mpr ⟨r, hr.1.1, hr.1.2.1⟩) hids
  refine ⟨t, hmem, fun lost P n => ?_⟩
  have hresponse : SafeLosing lost P (n - 1) (getById env orgId roleTemplateId)
      (db.withPermissions t) ↔ (n - 1 = 0 → P (db.withPermissions t)) :=
    safeLosing_query (getById_read env hr)
  rw [replaceRoleTemplatePermissions, safe_commit_bind hcommit, hresponse]
  have hlast : n - 1 = 0 ∧ 0 < n ↔ n = 1 := by omega
  rw [← hlast]
  tauto

end Templates

section Create

variable (env : Env) (db : Db) (actorUserId orgId : Id) (dto : CreateRoleDto)

/-- The call gets to the template's creation, and the creation is not refused. -/
structure Creates : Prop where
  admin : db.hasUserRoleTemplateKeyInOrg actorUserId orgId "org_admin" = true
  notReserved : isReservedRoleTemplateKey (trimString dto.key) = false
  keys : KeysResolve db dto.permissionKeys
  fresh : ∀ r ∈ db.roleTemplates,
    r.id ≠ env.roleTemplateId ∧ orgKey r ≠ some (orgId, trimString dto.key)

variable {env db actorUserId orgId dto} {lost : HttpException} {P : Db → Prop} {n : ℕ}

theorem exists_createRoleTemplate_iff {r : RoleTemplateRow} {k : Id × String}
    (hk : orgKey r = some k) :
    (∃ db', (DbWrite.createRoleTemplate r).apply db = .ok db') ↔
      ∀ r' ∈ db.roleTemplates, r'.id ≠ r.id ∧ orgKey r' ≠ some k := by
  constructor
  · rintro ⟨db', h⟩ r' hr'
    obtain ⟨t, hinsert, -⟩ := apply_createRoleTemplate.mp h
    have hid := Table.fresh_of_insert hinsert hr'
    refine ⟨hid, fun hkey => hid ?_⟩
    refine roleTemplateCheck_eq_none.mp t.valid r' ((Table.mem_insert hinsert).mpr (.inl hr')) r
      ((Table.mem_insert hinsert).mpr (.inr rfl)) (by simp [hkey]) (hkey.trans hk.symm)
  · intro h
    obtain ⟨t, hinsert⟩ := Table.exists_insert.mpr fun r' hr' => (h r' hr').1
    have hunique : t.UniqueOn orgKey := (roleTemplateCheck_eq_none.mp
      db.roleTemplates.valid).insert hinsert fun r' hr' => .inr (hk ▸ (h r' hr').2)
    exact ⟨_, apply_createRoleTemplate.mpr
      ⟨⟨t, roleTemplateCheck_eq_none.mpr hunique⟩, hinsert, rfl⟩⟩

theorem newTemplate_visible (h : isReservedRoleTemplateKey (trimString dto.key) = false) :
    isVisibleRoleTemplate (newTemplate env orgId dto).toRoleTemplate = true := by
  have hkey : trimString dto.key ≠ "platform_superadmin" := by
    simpa [isReservedRoleTemplateKey, RESERVED_ORG_ROLE_TEMPLATE_KEYS] using h
  simp [isVisibleRoleTemplate, newTemplate, hkey]

theorem safe_created_iff (hreserved : isReservedRoleTemplateKey (trimString dto.key) = false)
    {t : RoleTemplateTable}
    (hinsert : db.roleTemplates.table.insert (newTemplate env orgId dto) = some t.table) :
    SafeLosing lost (Unchanged db) n
        (replaceRoleTemplatePermissions env.roleTemplateId (resolvedIds db dto.permissionKeys) >>=
          fun _ => getById env orgId env.roleTemplateId) { db with roleTemplates := t } ↔
      n ≠ 0 ∧ n ≠ 1 := by
  have hnew : newTemplate env orgId dto ∈ t := (Table.mem_insert hinsert).mpr (.inr rfl)
  have htemplate : (newTemplate env orgId dto ∈ t ∧
      (newTemplate env orgId dto).id = env.roleTemplateId ∧
        (newTemplate env orgId dto).orgId = some orgId) ∧
          isVisibleRoleTemplate (newTemplate env orgId dto).toRoleTemplate = true :=
    ⟨⟨hnew, rfl, rfl⟩, newTemplate_visible hreserved⟩
  obtain ⟨rows, -, hlast⟩ := safe_replace_getById env { db with roleTemplates := t }
    (resolvedIds db dto.permissionKeys) htemplate
    (fun id hid => (hasPermission_of_resolved id hid : db.hasPermission id = true))
  have hchanged (db' : Db) (h : db'.roleTemplates = t) : ¬ Unchanged db db' := fun hsame => by
    have hold := (hsame.templates _).mp (h ▸ hnew)
    exact Table.fresh_of_insert hinsert hold rfl
  have hcreated := hchanged { db with roleTemplates := t } rfl
  have hreplaced := hchanged (Db.withPermissions { db with roleTemplates := t } rows) rfl
  rw [hlast]
  simp only [hcreated, hreplaced, imp_false, ne_eq]

theorem create_safe_iff :
    SafeLosing lost (Unchanged db) n (create env actorUserId orgId dto) db ↔
      (Creates env db actorUserId orgId dto →
        n ≠ 2 + lookups dto.permissionKeys ∧ n ≠ 3 + lookups dto.permissionKeys) := by
  have hrefl := Unchanged.refl db
  unfold create assertOrgAdmin
  rw [safeLosing_guard_bind, safeLosing_throwIf_bind, safe_resolve_bind,
    safeLosing_mapError_bind, bind_bind]
  simp only [hrefl, implies_true, true_and, not_not]
  by_cases hadmin : db.hasUserRoleTemplateKeyInOrg actorUserId orgId "org_admin" = true
  swap
  · exact iff_of_true (fun h => absurd h.2 hadmin) fun h => absurd h.admin hadmin
  by_cases hreserved : isReservedRoleTemplateKey (trimString dto.key) = true
  · refine iff_of_true (fun _ h => absurd hreserved h) fun h => ?_
    rw [h.notReserved] at hreserved
    cases hreserved
  rw [Bool.not_eq_true] at hreserved
  by_cases hkeys : KeysResolve db dto.permissionKeys
  swap
  · exact iff_of_true (fun _ _ h => absurd h.1 hkeys) fun h => absurd h.keys hkeys
  by_cases hcreate : ∃ db', (DbWrite.createRoleTemplate (newTemplate env orgId dto)).apply db =
      .ok db'
  swap
  · have hrefused : ∀ db', commits [.createRoleTemplate (newTemplate env orgId dto)] db ≠
        .ok db' := fun db' h => hcreate ⟨db', commits_singleton.mp h⟩
    rw [safe_commit_bind_of_refused hrefused]
    refine iff_of_true (fun _ _ _ => hrefl) fun h => ?_
    exact absurd ((exists_createRoleTemplate_iff rfl).mpr h.fresh) hcreate
  have hcreates : Creates env db actorUserId orgId dto :=
    ⟨hadmin, hreserved, hkeys, (exists_createRoleTemplate_iff rfl).mp hcreate⟩
  obtain ⟨db', hwrite⟩ := hcreate
  obtain ⟨t, hinsert, rfl⟩ := apply_createRoleTemplate.mp hwrite
  rw [safe_commit_bind (commits_singleton.mpr hwrite), safe_created_iff hreserved hinsert]
  simp only [hadmin, hreserved, hkeys, hcreates, hrefl, implies_true, true_and, and_true,
    true_implies, Bool.false_eq_true, not_false_eq_true]
  omega

end Create

section Update

variable (env : Env) (db : Db) (actorUserId orgId roleTemplateId : Id)
  (dto : UpdateRoleTemplateDto) (existing : RoleTemplateRow)

/-- The call is let through to its edits. -/
structure Edits : Prop where
  admin : db.hasUserRoleTemplateKeyInOrg actorUserId orgId "org_admin" = true
  template : existing ∈ db.roleTemplates ∧ existing.id = roleTemplateId ∧
    existing.orgId = some orgId
  visible : isVisibleRoleTemplate existing.toRoleTemplate = true
  editable : existing.isSystem = false
  name : dto.name ≠ .null

def editsText : Bool := ¬ dto.name.isUndefined ∨ ¬ dto.description.isUndefined

def textSteps : ℕ := if editsText dto then 1 else 0

def TextChanges : Prop :=
  editsText dto = true ∧ (templateEdited env dto.name dto.description).apply existing ≠ existing

def PermissionsChange (permissionKeys : List String) : Prop :=
  ¬ ∀ permissionId, ⟨roleTemplateId, permissionId⟩ ∈ db.rolePermissions ↔
    permissionId ∈ resolvedIds db permissionKeys

/-- Steps are counted from the two that let the call through. An edit of the texts that changes
them is not followed by a failure; and where the permissions change, the response is not lost. -/
def UpdateCompletes (n : ℕ) : Prop :=
  match dto.permissionKeys with
  | .value keys =>
    (TextChanges env dto existing → n < 3 ∨ KeysResolve db keys ∧ 4 + lookups keys < n) ∧
      (KeysResolve db keys ∧ PermissionsChange db roleTemplateId keys →
        n ≠ 3 + textSteps dto + lookups keys)
  | .undefined | .null => TextChanges env dto existing → n ≠ 3

variable {env db actorUserId orgId roleTemplateId dto existing} {lost : HttpException}
  {P : Db → Prop} {n : ℕ}

theorem safe_keep_getById (db₁ : Db) {keys : Field (List String)}
    (hr : (existing ∈ db₁.roleTemplates ∧ existing.id = roleTemplateId ∧
      existing.orgId = some orgId) ∧ isVisibleRoleTemplate existing.toRoleTemplate = true)
    (hkeys : keys.toOption = none) :
    SafeLosing lost P n (editPermissions env roleTemplateId keys >>= fun _ =>
      getById env orgId roleTemplateId) db₁ ↔ (n = 0 → P db₁) := by
  have hresponse : SafeLosing lost P n (getById env orgId roleTemplateId) db₁ ↔ (n = 0 → P db₁) :=
    Script.safeLosing_query (getById_read env hr)
  cases keys with
  | undefined => exact hresponse
  | null => exact hresponse
  | value keys => cases hkeys

variable (env) in
theorem safe_edit_getById (db₁ : Db) (keys : List String)
    (hr : (existing ∈ db₁.roleTemplates ∧ existing.id = roleTemplateId ∧
      existing.orgId = some orgId) ∧ isVisibleRoleTemplate existing.toRoleTemplate = true) :
    ∃ t : Table RoleTemplatePermission.key,
      (∀ row, row ∈ t ↔ (row ∈ db₁.rolePermissions ∧ row.roleTemplateId ≠ roleTemplateId) ∨
        (row.roleTemplateId = roleTemplateId ∧ row.permissionId ∈ resolvedIds db₁ keys)) ∧
      ∀ (lost : HttpException) (P : Db → Prop) (n : ℕ),
        SafeLosing lost P n (editPermissions env roleTemplateId (.value keys) >>= fun _ =>
            getById env orgId roleTemplateId) db₁ ↔
          (¬ (KeysResolve db₁ keys ∧ lookups keys < n) → P db₁) ∧
            (KeysResolve db₁ keys ∧ n = lookups keys + 1 → P (db₁.withPermissions t)) := by
  obtain ⟨t, hmem, hlast⟩ := safe_replace_getById env db₁ (resolvedIds db₁ keys) hr
    hasPermission_of_resolved
  refine ⟨t, hmem, fun lost P n => ?_⟩
  rw [editPermissions, bind_bind, safe_resolve_bind, hlast]
  have hfirst : ∀ m : ℕ, lookups keys ≤ n → (n - lookups keys = m ↔ n = lookups keys + m) := by
    omega
  by_cases hkeys : KeysResolve db₁ keys
  · by_cases hn : lookups keys ≤ n
    · rw [hfirst 0 hn, hfirst 1 hn, Nat.lt_iff_le_and_ne]
      simp only [hkeys, hn, true_and, not_true_eq_false, false_implies, true_implies, not_not,
        Nat.add_zero]
      simp only [eq_comm]
    · have hne : ¬ (lookups keys < n) ∧ n ≠ lookups keys + 1 := by omega
      simp [hn, hne.1, hne.2]
  · simp [hkeys]

theorem mem_modify_self_iff {t : Table RoleTemplateRow.rowId} {p : Patch RoleTemplateRow.rowId}
    (h : existing ∈ t) :
    (∀ r, r ∈ t.modify existing.rowId p ↔ r ∈ t) ↔ p.apply existing = existing := by
  constructor
  · intro hsame
    exact Table.eq_of_key_eq ((hsame _).mp (Table.apply_mem_modify h)) h (p.key_apply existing)
  · intro heq r
    rw [Table.mem_modify_iff h, heq]
    constructor
    · rintro (rfl | ⟨hr, -⟩)
      · exact h
      · exact hr
    · intro hr
      by_cases hid : r.rowId = existing.rowId
      · exact .inl (Table.eq_of_key_eq hr h hid)
      · exact .inr ⟨hr, hid⟩

theorem mem_replaced_iff {t rows : Table RoleTemplatePermission.key} {ids : List Id}
    (hmem : ∀ row, row ∈ t ↔ (row ∈ rows ∧ row.roleTemplateId ≠ roleTemplateId) ∨
      (row.roleTemplateId = roleTemplateId ∧ row.permissionId ∈ ids)) :
    (∀ row, row ∈ t ↔ row ∈ rows) ↔
      ∀ permissionId, ⟨roleTemplateId, permissionId⟩ ∈ rows ↔ permissionId ∈ ids := by
  constructor
  · intro h permissionId
    rw [← h, hmem]
    simp
  · intro h row
    rw [hmem]
    by_cases hrole : row.roleTemplateId = roleTemplateId
    · have hrow : row ∈ rows ↔ row.permissionId ∈ ids := by
        rw [← h row.permissionId, ← hrole]
      simp [hrole, hrow]
    · simp [hrole]

/-- The rest of an update after its texts, where nothing but a template's texts may have
changed so far. -/
theorem safe_rest_iff {t : RoleTemplateTable} {existing' : RoleTemplateRow}
    (hr : (existing' ∈ t ∧ existing'.id = roleTemplateId ∧ existing'.orgId = some orgId) ∧
      isVisibleRoleTemplate existing'.toRoleTemplate = true) {same : Prop}
    (hsame : (∀ r, r ∈ t ↔ r ∈ db.roleTemplates) ↔ same) :
    SafeLosing lost (Unchanged db) n (editPermissions env roleTemplateId dto.permissionKeys >>=
        fun _ => getById env orgId roleTemplateId) { db with roleTemplates := t } ↔
      match dto.permissionKeys with
      | .value keys =>
        (¬ same → KeysResolve db keys ∧ 1 + lookups keys < n) ∧
          (KeysResolve db keys ∧ PermissionsChange db roleTemplateId keys →
            n ≠ 1 + lookups keys)
      | .undefined | .null => ¬ same → n ≠ 0 := by
  have hedited : Unchanged db { db with roleTemplates := t } ↔ same :=
    ⟨fun h => hsame.mp h.templates, fun h => ⟨hsame.mpr h, fun _ => Iff.rfl⟩⟩
  cases hkeys : dto.permissionKeys with
  | undefined =>
    rw [safe_keep_getById _ hr rfl, hedited]
    tauto
  | null =>
    rw [safe_keep_getById _ hr rfl, hedited]
    tauto
  | value keys =>
    obtain ⟨rows, hmem, hrest⟩ := safe_edit_getById env { db with roleTemplates := t } keys hr
    have hreplaced : Unchanged db (Db.withPermissions { db with roleTemplates := t } rows) ↔
        same ∧ ¬ PermissionsChange db roleTemplateId keys := by
      have hpermissions : (∀ row, row ∈ rows ↔ row ∈ db.rolePermissions) ↔
          ¬ PermissionsChange db roleTemplateId keys := by
        rw [PermissionsChange, not_not]
        exact mem_replaced_iff hmem
      rw [← hsame, ← hpermissions]
      exact ⟨fun h => ⟨h.templates, h.permissions⟩, fun h => ⟨h.1, h.2⟩⟩
    rw [hrest, hedited, hreplaced]
    change (¬ (KeysResolve db keys ∧ lookups keys < n) → same) ∧
        (KeysResolve db keys ∧ n = lookups keys + 1 → _) ↔
      (¬ same → KeysResolve db keys ∧ 1 + lookups keys < n) ∧
        (KeysResolve db keys ∧ PermissionsChange db roleTemplateId keys → n ≠ 1 + lookups keys)
    rw [Nat.add_comm 1]
    have hlt : lookups keys + 1 < n ↔ lookups keys < n ∧ n ≠ lookups keys + 1 := by omega
    rw [hlt]
    by_cases hdone : n = lookups keys + 1
    · simp only [hdone, Nat.lt_succ_self, ne_eq, not_true_eq_false, and_true, and_false,
        imp_false]
      tauto
    · simp only [hdone, ne_eq, not_false_eq_true, and_true, and_false, false_implies, implies_true]
      exact not_imp_comm

variable (env) in
theorem exists_updateRoleTemplate (hr : existing ∈ db.roleTemplates)
    (hid : existing.id = roleTemplateId) (name description : Field String) :
    ∃ t : RoleTemplateTable,
      commits [.updateRoleTemplate roleTemplateId (templateEdited env name description)] db =
          .ok { db with roleTemplates := t } ∧
        t.table = db.roleTemplates.table.modify existing.rowId
          (templateEdited env name description) := by
  subst hid
  have hunique : (db.roleTemplates.table.modify existing.rowId
      (templateEdited env name description)).UniqueOn orgKey :=
    (roleTemplateCheck_eq_none.mp db.roleTemplates.valid).modify_of_le hr (.inr rfl)
  refine ⟨⟨_, roleTemplateCheck_eq_none.mpr hunique⟩, commits_singleton.mpr ?_, rfl⟩
  exact apply_updateRoleTemplate.mpr ⟨_, ⟨existing, hr, rfl⟩, rfl, rfl⟩

section Edits

variable {m : ℕ} (hr : existing ∈ db.roleTemplates ∧ existing.id = roleTemplateId ∧
    existing.orgId = some orgId)
  (hvisible : isVisibleRoleTemplate existing.toRoleTemplate = true)

include hr hvisible

theorem safe_textEdits_iff (hname : dto.name ≠ .null)
    (htext : ¬ dto.name.isUndefined ∨ ¬ dto.description.isUndefined) :
    SafeLosing lost (Unchanged db) m (editTemplate env roleTemplateId dto >>= fun _ =>
        editPermissions env roleTemplateId dto.permissionKeys >>= fun _ =>
          getById env orgId roleTemplateId) db ↔
      UpdateCompletes env db roleTemplateId dto existing (m + 2) := by
  have hsteps : ∀ l : ℕ, 0 < m → ((1 + l < m - 1 ↔ 4 + l < m + 2) ∧
      (m - 1 ≠ 1 + l ↔ m + 2 ≠ 3 + 1 + l)) := by omega
  have hedits : editsText dto = true := decide_eq_true htext
  obtain ⟨t, hcommit, htable⟩ := exists_updateRoleTemplate env hr.1 hr.2.1 dto.name
    dto.description
  have hedited : (templateEdited env dto.name dto.description).apply existing ∈ t := by
    rw [Constrained.mem_table, htable]
    exact Table.apply_mem_modify hr.1
  have hsame : (∀ r, r ∈ t ↔ r ∈ db.roleTemplates) ↔
      (templateEdited env dto.name dto.description).apply existing = existing := by
    simp only [Constrained.mem_table, htable]
    exact mem_modify_self_iff hr.1
  rw [editTemplate, if_pos htext, bind_bind, safeLosing_throwIf_bind, safe_commit_bind hcommit,
    safe_rest_iff ⟨⟨hedited, hr.2⟩, hvisible⟩ hsame]
  simp only [hname, Unchanged.refl, implies_true, true_and, not_false_eq_true, true_implies,
    UpdateCompletes, TextChanges, textSteps, hedits, if_true, ne_eq]
  obtain rfl | hm := Nat.eq_zero_or_pos m
  · cases dto.permissionKeys with
    | undefined => simp
    | null => simp
    | value keys =>
      refine iff_of_true (fun h => absurd h (Nat.lt_irrefl 0)) ⟨fun _ => .inl (by omega), ?_⟩
      intro _
      omega
  · have hone : m - 1 = 0 ↔ m + 2 = 3 := by omega
    have hlate : ¬ m + 2 < 3 := by omega
    cases dto.permissionKeys with
    | undefined => simp only [hm, hone, true_implies]
    | null => simp only [hm, hone, true_implies]
    | value keys =>
      simp only [hm, hlate, true_implies, false_or, (hsteps (lookups keys) hm).1,
        ← ne_eq, (hsteps (lookups keys) hm).2]

theorem safe_otherEdits_iff
    (htext : ¬ (¬ dto.name.isUndefined ∨ ¬ dto.description.isUndefined)) :
    SafeLosing lost (Unchanged db) m (editTemplate env roleTemplateId dto >>= fun _ =>
        editPermissions env roleTemplateId dto.permissionKeys >>= fun _ =>
          getById env orgId roleTemplateId) db ↔
      UpdateCompletes env db roleTemplateId dto existing (m + 2) := by
  have hedits : editsText dto = false := decide_eq_false htext
  rw [editTemplate, if_neg htext]
  have hrest : SafeLosing lost (Unchanged db) m (editPermissions env roleTemplateId
      dto.permissionKeys >>= fun _ => getById env orgId roleTemplateId)
        { db with roleTemplates := db.roleTemplates } ↔ _ :=
    safe_rest_iff ⟨hr, hvisible⟩ (iff_true_intro fun r => Iff.rfl)
  refine Iff.trans hrest ?_
  have hkept : ∀ l : ℕ, m ≠ 1 + l ↔ m + 2 ≠ 3 + 0 + l := by omega
  cases hkeys : dto.permissionKeys with
  | undefined => simp [UpdateCompletes, TextChanges, hedits, hkeys]
  | null => simp [UpdateCompletes, TextChanges, hedits, hkeys]
  | value keys =>
    simp only [UpdateCompletes, TextChanges, textSteps, hedits, hkeys, Bool.false_eq_true,
      if_false, false_and, false_implies, not_true_eq_false, true_and, hkept]

theorem safe_edits_iff (hname : dto.name ≠ .null) :
    SafeLosing lost (Unchanged db) m (editTemplate env roleTemplateId dto >>= fun _ =>
        editPermissions env roleTemplateId dto.permissionKeys >>= fun _ =>
          getById env orgId roleTemplateId) db ↔
      UpdateCompletes env db roleTemplateId dto existing (m + 2) := by
  by_cases htext : ¬ dto.name.isUndefined ∨ ¬ dto.description.isUndefined
  · exact safe_textEdits_iff hr hvisible hname htext
  · exact safe_otherEdits_iff hr hvisible htext

end Edits

theorem update_safe_iff :
    SafeLosing lost (Unchanged db) n (update env actorUserId orgId roleTemplateId dto) db ↔
      ∀ existing, Edits db actorUserId orgId roleTemplateId dto existing →
        UpdateCompletes env db roleTemplateId dto existing n := by
  have hrefl := Unchanged.refl db
  have hfew : n < 2 → ∀ existing, UpdateCompletes env db roleTemplateId dto existing n := by
    intro hn existing
    unfold UpdateCompletes
    cases dto.permissionKeys with
    | undefined => exact fun _ => by omega
    | null => exact fun _ => by omega
    | value keys => exact ⟨fun _ => .inl (by omega), fun _ => by omega⟩
  unfold update assertOrgAdmin
  rw [safeLosing_guard_bind, safeLosing_query_bind]
  simp only [hrefl, implies_true, true_and, not_not]
  by_cases hadmin : db.hasUserRoleTemplateKeyInOrg actorUserId orgId "org_admin" = true
  swap
  · exact iff_of_true (fun h => absurd h.2 hadmin) fun existing h => absurd h.admin hadmin
  cases hfound : visibleTemplate orgId db roleTemplateId with
  | error e =>
    rw [Script.bind_done_error, Script.safeLosing_error]
    refine iff_of_true (fun _ _ => hrefl) fun existing h => ?_
    rw [visibleTemplate_eq_ok.mpr ⟨h.template, h.visible⟩] at hfound
    cases hfound
  | ok existing =>
    obtain ⟨hr, hvisible⟩ := visibleTemplate_eq_ok.mp hfound
    have honly : ∀ existing', Edits db actorUserId orgId roleTemplateId dto existing' →
        existing' = existing := fun existing' h =>
      Table.eq_of_key_eq h.template.1 hr.1 (h.template.2.1.trans hr.2.1.symm)
    rw [Script.bind_done_ok, safeLosing_throwIf_bind]
    simp only [hrefl, implies_true, true_and]
    by_cases hsystem : existing.isSystem = true
    · refine iff_of_true (fun _ _ h => absurd hsystem h) fun existing' h => ?_
      have heditable := h.editable
      rw [honly existing' h, hsystem] at heditable
      cases heditable
    by_cases hname : dto.name = .null
    · refine iff_of_true (fun _ _ _ => ?_) fun existing' h => absurd hname h.name
      rw [editTemplate, if_pos (.inl (by simp [hname, Field.isUndefined])), bind_bind,
        safeLosing_throwIf_bind]
      exact ⟨fun _ => hrefl, fun h => absurd hname h⟩
    obtain hn | hn := Nat.lt_or_ge n 2
    · exact iff_of_true (fun _ h => absurd h (by omega)) fun existing' _ => hfew hn existing'
    obtain ⟨m, rfl⟩ := Nat.exists_eq_add_of_le' hn
    have hedits : Edits db actorUserId orgId roleTemplateId dto existing :=
      ⟨hadmin, hr, hvisible, Bool.eq_false_iff.mpr hsystem, hname⟩
    have hleft : m + 2 - 1 - 1 = m := by omega
    rw [hleft, safe_edits_iff hr hvisible hname]
    constructor
    · intro h existing' h'
      rw [honly existing' h']
      exact h ⟨by omega, hadmin⟩ (by omega) hsystem
    · exact fun h _ _ _ => h existing hedits

end Update

/-- Renames the template and asks for a permission that does not exist. -/
def renameWithUnknownKey : UpdateRoleTemplateDto where
  name := .value "Aide"
  description := .undefined
  permissionKeys := .value ["unknown.key"]

theorem tower_edits : Edits tower "admin" "org" "helpers" renameWithUnknownKey helperTemplate where
  admin := by decide
  template := by decide
  visible := by decide
  editable := rfl
  name := nofun

theorem renamed_template_survives_failure :
    ¬ ∀ (env : Env) (db : Db) (actorUserId orgId roleTemplateId : Id) (created : CreateRoleDto)
      (updated : UpdateRoleTemplateDto) (lost : HttpException) (n : ℕ),
      SafeLosing lost (Unchanged db) n (create env actorUserId orgId created) db ∧
        SafeLosing lost (Unchanged db) n (update env actorUserId orgId roleTemplateId updated)
          db := by
  intro h
  have hupdate := (h towerEnv tower "admin" "org" "helpers" ⟨"aide", "Aide", .ORG, none, []⟩
    renameWithUnknownKey uniqueFailed 10).2
  obtain ⟨htext, -⟩ := update_safe_iff.mp hupdate helperTemplate tower_edits
  have hchanges : TextChanges towerEnv renameWithUnknownKey helperTemplate :=
    ⟨rfl, fun heq => absurd (congrArg RoleTemplateRow.updatedAt heq) (by decide)⟩
  obtain hearly | ⟨hkeys, -⟩ := htext hchanges
  · exact absurd hearly (by decide)
  · obtain ⟨-, p, hp, hkey⟩ := hkeys "unknown.key" (by decide)
    have hnone : ∀ p ∈ tower.permissions, p.key ≠ "unknown.key" := by decide
    exact hnone p hp hkey

theorem role_edits_all_or_nothing_iff (env : Env) (db : Db) (actorUserId orgId roleTemplateId : Id)
    (created : CreateRoleDto) (updated : UpdateRoleTemplateDto) (lost : HttpException) (n : ℕ) :
    ((∀ e db', (create env actorUserId orgId created).runLosing lost n db = .error e db' →
        Unchanged db db') ↔
      (Creates env db actorUserId orgId created →
        n ≠ 2 + lookups created.permissionKeys ∧ n ≠ 3 + lookups created.permissionKeys)) ∧
    ((∀ e db', (update env actorUserId orgId roleTemplateId updated).runLosing lost n db =
          .error e db' → Unchanged db db') ↔
      ∀ existing, Edits db actorUserId orgId roleTemplateId updated existing →
        UpdateCompletes env db roleTemplateId updated existing n) :=
  ⟨create_safe_iff, update_safe_iff⟩

end Towerdesk.Access
