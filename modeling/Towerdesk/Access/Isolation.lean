import Towerdesk.Access.Scopes

/-!
# Scopes are monotone and isolated

The permissions in an organisation, in one of its buildings and across every scope
are three readings of the same tables. What a building's reading depends on is given
by a relation between two states of the tables; what an organisation's reading takes
from other organisations decides whether the three are ordered.
-/

namespace Towerdesk

namespace AccessTables

/-- A visible template of the organisation. -/
def OwnTemplate (orgId : Option Id) (r : RoleTemplate) : Prop :=
  r.orgId = orgId ∧ isVisibleRoleTemplate r = true

def ScopedElsewhere (buildingId : Id) (a : UserAccessAssignment) : Prop :=
  a.scopeType = .BUILDING ∧ ∃ buildingId', a.scopeId = some buildingId' ∧ buildingId' ≠ buildingId

/-- The two states differ only in assignments scoped to other buildings, in templates and
assignments of other organisations, and in hidden templates. -/
structure AgreeAt (orgId : Option Id) (buildingId : Id) (t t' : AccessTables) : Prop where
  permissions : t.permissions = t'.permissions
  userPermissions : t.userPermissions = t'.userPermissions
  roleTemplates : ∀ r, OwnTemplate orgId r → (r ∈ t.roleTemplates ↔ r ∈ t'.roleTemplates)
  rolePermissions : ∀ r ∈ t.roleTemplates, OwnTemplate orgId r → ∀ p, p.roleTemplateId = r.id →
    (p ∈ t.rolePermissions ↔ p ∈ t'.rolePermissions)
  assignments : ∀ r ∈ t.roleTemplates, OwnTemplate orgId r → ∀ a, a.roleTemplateId = r.id →
    ¬ ScopedElsewhere buildingId a →
      (a ∈ t.userAccessAssignments ↔ a ∈ t'.userAccessAssignments)

variable {t t' : AccessTables} {userId buildingId : Id} {orgId : Option Id} {k : String}

theorem AgreeAt.symm (h : AgreeAt orgId buildingId t t') : AgreeAt orgId buildingId t' t where
  permissions := h.permissions.symm
  userPermissions := h.userPermissions.symm
  roleTemplates r hr := (h.roleTemplates r hr).symm
  rolePermissions r hr hown p hp :=
    (h.rolePermissions r ((h.roleTemplates r hown).mpr hr) hown p hp).symm
  assignments r hr hown a ha helse :=
    (h.assignments r ((h.roleTemplates r hown).mpr hr) hown a ha helse).symm

theorem AgreeAt.userOverrides_eq (h : AgreeAt orgId buildingId t t') :
    t.userOverrides userId = t'.userOverrides userId := by
  unfold userOverrides
  rw [h.permissions, h.userPermissions]

theorem AgreeAt.permissionKeysOfRole (h : AgreeAt orgId buildingId t t') {r : RoleTemplate}
    (hr : r ∈ t.roleTemplates) (hown : OwnTemplate orgId r)
    (hk : k ∈ t.permissionKeysOfRole r.id) : k ∈ t'.permissionKeysOfRole r.id := by
  obtain ⟨p, hp, hrole, permission, hfind, hkey⟩ := mem_permissionKeysOfRole.mp hk
  have hp' : p ∈ t'.rolePermissions := (h.rolePermissions r hr hown p hrole).mp hp
  exact mem_permissionKeysOfRole.mpr ⟨p, hp', hrole, permission, h.permissions ▸ hfind, hkey⟩

theorem includes_building (hb : buildingId ≠ "") {a : UserAccessAssignment} {r : RoleTemplate} :
    (AccessScope.within (some buildingId)).includes orgId a r = true ↔
      r.orgId = orgId ∧ ((a.scopeType = .ORG ∧ a.scopeId = none ∧ r.scopeType = .ORG) ∨
        (a.scopeType = .BUILDING ∧ a.scopeId = some buildingId ∧ r.scopeType = .BUILDING)) := by
  have htruthy : truthy (some buildingId) = some buildingId := truthy_eq_some.mpr ⟨rfl, hb⟩
  simp [AccessScope.includes, htruthy, inScope]

theorem includes_org {a : UserAccessAssignment} {r : RoleTemplate} :
    (AccessScope.within none).includes orgId a r = true ↔
      a.scopeType = .ORG ∧ a.scopeId = none ∧ r.scopeType = .ORG := by
  simp [AccessScope.includes, truthy, inScope]

/-- No assignment that counts at a building is scoped to another one. -/
theorem not_scopedElsewhere_of_includes (hb : buildingId ≠ "") {a : UserAccessAssignment}
    {r : RoleTemplate}
    (h : (AccessScope.within (some buildingId)).includes orgId a r = true) :
    ¬ ScopedElsewhere buildingId a := by
  rintro ⟨htype, buildingId', hid, hne⟩
  rcases ((includes_building hb).mp h).2 with ⟨horg, -, -⟩ | ⟨-, hid', -⟩
  · rw [horg] at htype
    cases htype
  · rw [hid] at hid'
    exact hne (Option.some.inj hid')

theorem AgreeAt.grants (h : AgreeAt orgId buildingId t t') (hb : buildingId ≠ "")
    (hk : t.Grants userId
      (fun a r => (AccessScope.within (some buildingId)).includes orgId a r = true) k) :
    t'.Grants userId
      (fun a r => (AccessScope.within (some buildingId)).includes orgId a r = true) k := by
  obtain ⟨a, ha, hu, r, hr, hid, hv, hin, hkey⟩ := hk
  have hown : OwnTemplate orgId r := ⟨((includes_building hb).mp hin).1, hv⟩
  have ha' : a ∈ t'.userAccessAssignments :=
    (h.assignments r hr hown a hid.symm (not_scopedElsewhere_of_includes hb hin)).mp ha
  exact ⟨a, ha', hu, r, (h.roleTemplates r hown).mp hr, hid, hv, hin,
    h.permissionKeysOfRole hr hown hkey⟩

/-- What a building's permissions do not depend on. -/
theorem effectivePermissions_isolated (h : AgreeAt orgId buildingId t t') (hb : buildingId ≠ "") :
    t.getUserEffectivePermissions userId orgId (some buildingId) =
      t'.getUserEffectivePermissions userId orgId (some buildingId) := by
  have hkeys : (t.accessIn userId orgId (.within (some buildingId))).rolePermissionKeys.toFinset =
      (t'.accessIn userId orgId (.within (some buildingId))).rolePermissionKeys.toFinset := by
    ext k
    rw [List.mem_toFinset, List.mem_toFinset, mem_rolePermissionKeys, mem_rolePermissionKeys]
    exact ⟨h.grants hb, h.symm.grants hb⟩
  calc t.getUserEffectivePermissions userId orgId (some buildingId)
      = t.effectivePermissionsIn userId orgId (.within (some buildingId)) := rfl
    _ = t'.effectivePermissionsIn userId orgId (.within (some buildingId)) := by
      rw [effectivePermissionsIn_eq, effectivePermissionsIn_eq, hkeys, h.userOverrides_eq]

theorem building_subset_anyScope (hb : buildingId ≠ "") :
    t.getUserEffectivePermissions userId orgId (some buildingId) ⊆
      t.getUserEffectivePermissionsAcrossAnyScope userId orgId := by
  have hsubset : t.effectivePermissionsIn userId orgId (.within (some buildingId)) ⊆
      t.effectivePermissionsIn userId orgId .anyScope := by
    refine effectivePermissionsIn_subset_iff.mpr fun k _ hk => hk.mono fun a r hin => ?_
    exact decide_eq_true ((includes_building hb).mp hin).1
  exact hsubset

/-- The organisation's permissions take in the ORG-scoped roles of every organisation. -/
theorem org_subset_building_iff (hb : buildingId ≠ "") :
    t.getUserEffectivePermissions userId orgId none ⊆
        t.getUserEffectivePermissions userId orgId (some buildingId) ↔
      ∀ k ∉ t.overriddenKeys userId,
        t.Grants userId (fun a r => a.scopeType = .ORG ∧ a.scopeId = none ∧ r.scopeType = .ORG ∧
          r.orgId ≠ orgId) k →
        t.Grants userId (fun a r => r.orgId = orgId ∧
          ((a.scopeType = .ORG ∧ a.scopeId = none ∧ r.scopeType = .ORG) ∨
            (a.scopeType = .BUILDING ∧ a.scopeId = some buildingId ∧ r.scopeType = .BUILDING))) k
    := by
  have hsubset : t.effectivePermissionsIn userId orgId (.within none) ⊆
      t.effectivePermissionsIn userId orgId (.within (some buildingId)) ↔ _ :=
    effectivePermissionsIn_subset_iff
  refine hsubset.trans ?_
  simp only [includes_building hb, includes_org]
  constructor
  · intro h k hover hk
    exact h k hover (hk.mono fun a r ⟨htype, hid, hrole, _⟩ => ⟨htype, hid, hrole⟩)
  · rintro h k hover ⟨a, ha, hu, r, hr, hid, hv, ⟨htype, hnull, hrole⟩, hkey⟩
    by_cases horg : r.orgId = orgId
    · exact ⟨a, ha, hu, r, hr, hid, hv, ⟨horg, .inl ⟨htype, hnull, hrole⟩⟩, hkey⟩
    · exact h k hover ⟨a, ha, hu, r, hr, hid, hv, ⟨htype, hnull, hrole, horg⟩, hkey⟩

end AccessTables

theorem permission_scopes_monotone_and_isolated_iff (t : AccessTables) (userId : Id)
    (orgId : Option Id) (buildingId : Id) (hb : buildingId ≠ "") :
    (t.getUserEffectivePermissions userId orgId none ⊆
        t.getUserEffectivePermissions userId orgId (some buildingId) ∧
      t.getUserEffectivePermissions userId orgId (some buildingId) ⊆
        t.getUserEffectivePermissionsAcrossAnyScope userId orgId ∧
      ∀ t', AccessTables.AgreeAt orgId buildingId t t' →
        t.getUserEffectivePermissions userId orgId (some buildingId) =
          t'.getUserEffectivePermissions userId orgId (some buildingId)) ↔
    ∀ k ∉ t.overriddenKeys userId,
      t.Grants userId (fun a r => a.scopeType = .ORG ∧ a.scopeId = none ∧ r.scopeType = .ORG ∧
        r.orgId ≠ orgId) k →
      t.Grants userId (fun a r => r.orgId = orgId ∧
        ((a.scopeType = .ORG ∧ a.scopeId = none ∧ r.scopeType = .ORG) ∨
          (a.scopeType = .BUILDING ∧ a.scopeId = some buildingId ∧ r.scopeType = .BUILDING))) k := by
  rw [← AccessTables.org_subset_building_iff hb]
  constructor
  · intro h
    exact h.1
  · intro h
    exact ⟨h, AccessTables.building_subset_anyScope hb,
      fun t' hagree => AccessTables.effectivePermissions_isolated hagree hb⟩

section Visitor

/-- A user whose only role is an ORG-scoped one of an organisation they are not asked in. -/
def visitorAccess : AccessTables where
  permissions := ⟨[⟨"users", "users.read"⟩], List.nodup_singleton _⟩
  roleTemplates := ⟨[⟨"away", some "other", "user_reader", false, .ORG⟩], List.nodup_singleton _⟩
  rolePermissions := ⟨[⟨"away", "users"⟩], List.nodup_singleton _⟩
  userAccessAssignments := ⟨[⟨"visit", "user", "away", .ORG, none⟩], List.nodup_singleton _⟩
  userPermissions := .empty _

theorem visitorAccess_org :
    "users.read" ∈ visitorAccess.getUserEffectivePermissions "user" (some "org") none := by
  decide

theorem visitorAccess_building :
    "users.read" ∉
      visitorAccess.getUserEffectivePermissions "user" (some "org") (some "building") := by
  decide

theorem permission_scopes_not_monotone :
    ¬ ∀ (t : AccessTables) (userId : Id) (orgId : Option Id) (buildingId : Id),
      buildingId ≠ "" →
        t.getUserEffectivePermissions userId orgId none ⊆
            t.getUserEffectivePermissions userId orgId (some buildingId) ∧
          t.getUserEffectivePermissions userId orgId (some buildingId) ⊆
            t.getUserEffectivePermissionsAcrossAnyScope userId orgId ∧
          ∀ t', AccessTables.AgreeAt orgId buildingId t t' →
            t.getUserEffectivePermissions userId orgId (some buildingId) =
              t'.getUserEffectivePermissions userId orgId (some buildingId) := by
  intro h
  have hsubset := (h visitorAccess "user" (some "org") "building" (by decide)).1
  exact visitorAccess_building (hsubset visitorAccess_org)

theorem visitor_scopes_ordered_at_home :
    visitorAccess.getUserEffectivePermissions "user" (some "other") none ⊆
      visitorAccess.getUserEffectivePermissions "user" (some "other") (some "building") := by
  refine ((permission_scopes_monotone_and_isolated_iff visitorAccess "user" (some "other")
    "building" (by decide)).mpr ?_).1
  rintro k - ⟨a, ha, hu, r, hr, hid, hv, ⟨-, -, -, horg⟩, hkey⟩
  have hrole : r = ⟨"away", some "other", "user_reader", false, .ORG⟩ := by
    simpa [visitorAccess, Table.mem_rows] using hr
  exact absurd (by rw [hrole]) horg

end Visitor

end Towerdesk
