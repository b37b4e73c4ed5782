import Towerdesk.AccessControl
import Towerdesk.Lib.Overrides

/-!
# Permissions by scope

A caller asks for the effective permissions of a user in an organisation, in one of its
buildings, or across every scope of it. In each scope the permissions are the keys of the visible
roles assigned there with the user's overrides applied. An override removes exactly the key it
names; a permission is matched by its key or by an alias of it, so a denied key still matches
where one of its aliases is in effect.
-/

namespace Towerdesk

inductive AccessScope
  | within (buildingId : Option Id)
  | anyScope
deriving DecidableEq, Repr

/-- Both of `assignmentWhere`, the role template joined in. -/
def AccessScope.includes (orgId : Option Id) : AccessScope → UserAccessAssignment →
    RoleTemplate → Bool
  | .within buildingId, a, r => AccessTables.inScope orgId (truthy buildingId) a r
  | .anyScope, _, r => r.orgId = orgId

namespace AccessTables

section Scopes

variable (t : AccessTables) (userId : Id) (orgId : Option Id)

def accessIn : AccessScope → ScopedAccess
  | .within buildingId => t.getUserScopedAccess userId orgId buildingId false
  | .anyScope => t.getUserAccessAcrossAnyScope userId orgId

def effectivePermissionsIn : AccessScope → Finset String
  | .within buildingId => t.getUserEffectivePermissions userId orgId buildingId
  | .anyScope => t.getUserEffectivePermissionsAcrossAnyScope userId orgId

/-- A visible role assigned to the user in a way that satisfies `p` carries the key. -/
def Grants (p : UserAccessAssignment → RoleTemplate → Prop) (k : String) : Prop :=
  ∃ a ∈ t.userAccessAssignments, a.userId = userId ∧
    ∃ r ∈ t.roleTemplates, r.id = a.roleTemplateId ∧ isVisibleRoleTemplate r = true ∧
      p a r ∧ k ∈ t.permissionKeysOfRole r.id

def overriddenKeys : List String := (t.userOverrides userId).map (·.key)

/-- What the overrides give a user who has no role. -/
def allowedKeys : Finset String := (t.userOverrides userId).foldl applyOverride ∅

end Scopes

variable {t t' : AccessTables} {userId : Id} {orgId : Option Id} {k : String}

theorem applyOverride_eq :
    applyOverride = Overrides.apply (·.key) (fun o => decide (o.effect = .ALLOW)) := by
  funext effective override
  cases h : override.effect <;> simp [applyOverride, Overrides.apply, h]

theorem effectivePermissionsIn_eq (scope : AccessScope) :
    t.effectivePermissionsIn userId orgId scope =
      Overrides.applyAll (·.key) (fun o => decide (o.effect = .ALLOW))
        (t.accessIn userId orgId scope).rolePermissionKeys.toFinset (t.userOverrides userId) := by
  cases scope with
  | within buildingId =>
    unfold Overrides.applyAll
    rw [← applyOverride_eq]
    rfl
  | anyScope =>
    unfold Overrides.applyAll
    rw [← applyOverride_eq]
    rfl

theorem mem_permissionKeysOfRole {roleTemplateId : Id} :
    k ∈ t.permissionKeysOfRole roleTemplateId ↔
      ∃ p ∈ t.rolePermissions, p.roleTemplateId = roleTemplateId ∧
        ∃ permission, t.permissions.findUnique p.permissionId = some permission ∧
          permission.key = k := by
  simp [permissionKeysOfRole, Table.mem_rows, and_assoc]

theorem exists_assignment_iff {p : UserAccessAssignment → RoleTemplate → Prop} :
    (∃ a, (a ∈ t.userAccessAssignments.rows ∧ a.userId = userId ∧
        ∃ r ∈ t.roleTemplates.rows, r.id = a.roleTemplateId ∧ p a r ∧
          isVisibleRoleTemplate r = true) ∧ k ∈ t.permissionKeysOfRole a.roleTemplateId) ↔
      ∃ a ∈ t.userAccessAssignments.rows, a.userId = userId ∧
        ∃ r ∈ t.roleTemplates.rows, r.id = a.roleTemplateId ∧ isVisibleRoleTemplate r = true ∧
          p a r ∧ k ∈ t.permissionKeysOfRole r.id := by
  constructor
  · rintro ⟨a, ⟨ha, hu, r, hr, hid, hs, hv⟩, hk⟩
    exact ⟨a, ha, hu, r, hr, hid, hv, hs, hid ▸ hk⟩
  · rintro ⟨a, ha, hu, r, hr, hid, hv, hs, hk⟩
    exact ⟨a, ⟨ha, hu, r, hr, hid, hs, hv⟩, hid ▸ hk⟩

theorem mem_rolePermissionKeys {scope : AccessScope} :
    k ∈ (t.accessIn userId orgId scope).rolePermissionKeys ↔
      t.Grants userId (fun a r => scope.includes orgId a r = true) k := by
  have hrole (a : UserAccessAssignment) (q : RoleTemplate → Bool) :
      (t.roleTemplates.findUnique a.roleTemplateId).any q = true ↔
        ∃ r ∈ t.roleTemplates, r.id = a.roleTemplateId ∧ q r = true := by
    simp only [Option.any_eq_true, Table.findUnique_eq_some, and_assoc]
  cases scope with
  | within buildingId =>
    simp only [accessIn, getUserScopedAccess, Grants, AccessScope.includes, List.mem_flatMap,
      List.mem_filter, decide_eq_true_eq, hrole, Bool.false_or, Bool.and_eq_true, Table.mem_rows]
    exact exists_assignment_iff
  | anyScope =>
    simp only [accessIn, getUserAccessAcrossAnyScope, Grants, AccessScope.includes,
      List.mem_flatMap, List.mem_filter, decide_eq_true_eq, hrole, Bool.and_eq_true,
      Table.mem_rows]
    exact exists_assignment_iff

theorem mem_effectivePermissionsIn_split {scope : AccessScope} :
    k ∈ t.effectivePermissionsIn userId orgId scope ↔
      k ∈ t.allowedKeys userId ∨ (k ∉ t.overriddenKeys userId ∧
        t.Grants userId (fun a r => scope.includes orgId a r = true) k) := by
  rw [effectivePermissionsIn_eq, Overrides.mem_applyAll_split, List.mem_toFinset,
    mem_rolePermissionKeys]
  unfold allowedKeys overriddenKeys
  rw [applyOverride_eq]
  rfl

theorem Grants.mono {p q : UserAccessAssignment → RoleTemplate → Prop}
    (h : ∀ a r, p a r → q a r) (hk : t.Grants userId p k) : t.Grants userId q k := by
  obtain ⟨a, ha, hu, r, hr, hid, hv, hp, hkey⟩ := hk
  exact ⟨a, ha, hu, r, hr, hid, hv, h a r hp, hkey⟩

/-- A scope's permissions are within another's exactly when its roles' keys are, overridden
keys apart. -/
theorem effectivePermissionsIn_subset_iff {scope scope' : AccessScope} :
    t.effectivePermissionsIn userId orgId scope ⊆ t.effectivePermissionsIn userId orgId scope' ↔
      ∀ k ∉ t.overriddenKeys userId,
        t.Grants userId (fun a r => scope.includes orgId a r = true) k →
          t.Grants userId (fun a r => scope'.includes orgId a r = true) k := by
  rw [effectivePermissionsIn_eq, effectivePermissionsIn_eq, Overrides.applyAll_subset_iff]
  simp only [List.mem_toFinset, mem_rolePermissionKeys]
  constructor
  · intro h k hover hk
    exact h k hk hover
  · intro h k hk hover
    exact h k hover hk

end AccessTables

end Towerdesk

namespace Towerdesk

namespace AccessTables

variable {t : AccessTables} {userId : Id} {orgId : Option Id} {scope : AccessScope}

/-- With one override for each key, a key is in effect when it is allowed by its override or,
having none, granted by a role. -/
theorem mem_effectivePermissionsIn_iff (hone : (t.overriddenKeys userId).Nodup) {k : String} :
    k ∈ t.effectivePermissionsIn userId orgId scope ↔
      ⟨k, .ALLOW⟩ ∈ t.userOverrides userId ∨
        (k ∉ t.overriddenKeys userId ∧
          t.Grants userId (fun a r => scope.includes orgId a r = true) k) := by
  rw [effectivePermissionsIn_eq, Overrides.mem_applyAll_iff hone, List.mem_toFinset,
    mem_rolePermissionKeys]
  have hallow : (∃ o ∈ t.userOverrides userId, o.key = k ∧ decide (o.effect = .ALLOW) = true) ↔
      ⟨k, .ALLOW⟩ ∈ t.userOverrides userId := by
    constructor
    · rintro ⟨⟨key, effect⟩, ho, hkey, heffect⟩
      simp only [decide_eq_true_eq] at hkey heffect
      rwa [hkey, heffect] at ho
    · intro h
      exact ⟨_, h, rfl, by simp⟩
  rw [hallow]
  rfl

theorem not_mem_effectivePermissionsIn_of_deny (hone : (t.overriddenKeys userId).Nodup)
    {k : String} (hdeny : ⟨k, .DENY⟩ ∈ t.userOverrides userId) :
    k ∉ t.effectivePermissionsIn userId orgId scope := by
  rw [effectivePermissionsIn_eq]
  intro hk
  have hallow : decide (PermissionEffect.DENY = .ALLOW) = true :=
    (Overrides.mem_applyAll_of_nodup hone hdeny).mp hk
  simp at hallow

end AccessTables

theorem hasPermissionMatch_eq_false_iff {effective : Finset String} {k : String} :
    hasPermissionMatch effective k = false ↔
      k ∉ effective ∧ ∀ a ∈ PERMISSION_ALIASES k, a ∉ effective := by
  simp [hasPermissionMatch]

theorem denied_key_matches_only_through_aliases (t : AccessTables) (userId : Id)
    (orgId : Option Id) (scope : AccessScope) (k : String)
    (hone : (t.overriddenKeys userId).Nodup)
    (hdeny : ⟨k, .DENY⟩ ∈ t.userOverrides userId) :
    k ∉ t.effectivePermissionsIn userId orgId scope ∧
      (hasPermissionMatch (t.effectivePermissionsIn userId orgId scope) k = false ↔
        ∀ a ∈ PERMISSION_ALIASES k, ⟨a, .ALLOW⟩ ∉ t.userOverrides userId ∧
          (a ∈ t.overriddenKeys userId ∨
            ¬ t.Grants userId (fun s r => scope.includes orgId s r = true) a)) := by
  have hk : k ∉ t.effectivePermissionsIn userId orgId scope :=
    AccessTables.not_mem_effectivePermissionsIn_of_deny hone hdeny
  refine ⟨hk, ?_⟩
  rw [hasPermissionMatch_eq_false_iff]
  have halias (a : String) : a ∉ t.effectivePermissionsIn userId orgId scope ↔
      ⟨a, .ALLOW⟩ ∉ t.userOverrides userId ∧ (a ∈ t.overriddenKeys userId ∨
        ¬ t.Grants userId (fun s r => scope.includes orgId s r = true) a) := by
    rw [AccessTables.mem_effectivePermissionsIn_iff hone, not_or, not_and_or, not_not]
  simp only [hk, not_false_eq_true, true_and, halias]

section Lessee

/-- A viewer of leases whose `contracts.read` is denied. -/
def lesseeAccess : AccessTables where
  permissions := ⟨[⟨"leases", "leases.read"⟩, ⟨"contracts", "contracts.read"⟩], by decide⟩
  roleTemplates := ⟨[⟨"readers", some "org", "lease_reader", false, .ORG⟩], List.nodup_singleton _⟩
  rolePermissions := ⟨[⟨"readers", "leases"⟩], List.nodup_singleton _⟩
  userAccessAssignments := ⟨[⟨"reading", "user", "readers", .ORG, none⟩], List.nodup_singleton _⟩
  userPermissions := ⟨[⟨"user", "contracts", .DENY⟩], List.nodup_singleton _⟩

theorem lesseeAccess_alias_in_effect :
    "leases.read" ∈ lesseeAccess.effectivePermissionsIn "user" (some "org") (.within none) := by
  decide

theorem denied_key_can_match :
    ¬ ∀ (t : AccessTables) (userId : Id) (orgId : Option Id) (scope : AccessScope) (k : String),
      (t.overriddenKeys userId).Nodup → ⟨k, .DENY⟩ ∈ t.userOverrides userId →
        hasPermissionMatch (t.effectivePermissionsIn userId orgId scope) k = false := by
  intro h
  have hfalse := h lesseeAccess "user" (some "org") (.within none) "contracts.read" (by decide)
    (by decide)
  have halias := (hasPermissionMatch_eq_false_iff.mp hfalse).2 "leases.read" (by decide)
  exact halias lesseeAccess_alias_in_effect

theorem lessee_denied_contracts_read :
    "contracts.read" ∉ lesseeAccess.effectivePermissionsIn "user" (some "org") .anyScope ∧
      ¬ ∀ a ∈ PERMISSION_ALIASES "contracts.read",
        ⟨a, .ALLOW⟩ ∉ lesseeAccess.userOverrides "user" ∧
          (a ∈ lesseeAccess.overriddenKeys "user" ∨ ¬ lesseeAccess.Grants "user"
            (fun s r => AccessScope.anyScope.includes (some "org") s r = true) a) := by
  have h := denied_key_matches_only_through_aliases lesseeAccess "user" (some "org") .anyScope
    "contracts.read" (by decide) (by decide)
  refine ⟨h.1, fun hall => ?_⟩
  have hfalse := h.2.mpr hall
  exact absurd hfalse (by decide)

end Lessee

end Towerdesk
