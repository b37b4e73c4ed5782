import Towerdesk.Maintenance.Scene
import Mathlib.Data.Finset.Basic

/-!
# The owners a request is announced to

Notifications go from a request's unit to the users behind its owners; the owner portal
goes from a user to the units they own. Both read open ownership rows first and fall
back to the owner on the unit; only the first also asks for the request's organisation.
-/

namespace Towerdesk

namespace World

variable (w : World)

def isActiveOwner (ownerId : Id) : Bool := (w.directory.owners.findUnique ownerId).any (·.isActive)

def hasOpenOwnership (unitId : Id) : Bool :=
  w.directory.unitOwnerships.rows.any fun o => o.unitId = unitId ∧ o.endDate = none

/-- The organisation of the building a unit is in. -/
def unitOrg (unitId : Id) : Option Id := do
  let unit ← w.directory.units.findUnique unitId
  let building ← w.directory.buildings.findUnique unit.buildingId
  return building.orgId

/-- Every ownership row carries the organisation its unit is in. -/
def OwnershipOrgsAgree : Prop :=
  ∀ o ∈ w.directory.unitOwnerships, w.unitOrg o.unitId = some o.orgId

def activeOwnershipOwnerIds (orgId unitId : Id) : List Id :=
  (w.directory.unitOwnerships.rows.filter fun o =>
    o.orgId = orgId ∧ o.unitId = unitId ∧ o.endDate = none ∧ w.isActiveOwner o.ownerId).map
      (·.ownerId)

def fallbackOwnerId (orgId unitId : Id) : Option Id := do
  let unit ← w.directory.units.findFirst fun u =>
    u.id = unitId ∧ (w.directory.buildings.findUnique u.buildingId).any (·.orgId = orgId) ∧
      ¬ w.hasOpenOwnership u.id ∧ u.ownerId.any w.isActiveOwner
  truthy unit.ownerId

def requestOwnerIds (orgId unitId : Id) : List Id :=
  let ownerIds := w.activeOwnershipOwnerIds orgId unitId
  if ownerIds.isEmpty then (w.fallbackOwnerId orgId unitId).toList else ownerIds

def grantedUserIds (ownerIds : List Id) : List Id :=
  (w.directory.ownerAccessGrants.rows.filter fun g =>
    g.ownerId ∈ ownerIds ∧ g.status = .ACTIVE ∧ w.isActiveOwner g.ownerId).filterMap fun g =>
      truthy g.userId

variable {w} {userId ownerId orgId unitId : Id}

theorem mem_activeOwnerIds :
    ownerId ∈ w.activeOwnerIds userId ↔ w.isActiveOwner ownerId = true ∧
      ∃ g ∈ w.directory.ownerAccessGrants,
        g.userId = some userId ∧ g.status = .ACTIVE ∧ g.ownerId = ownerId := by
  simp only [activeOwnerIds, List.mem_map, List.mem_filter, decide_eq_true_eq, Table.mem_rows]
  constructor
  · rintro ⟨g, ⟨hg, hu, hs, hactive⟩, rfl⟩
    exact ⟨hactive, g, hg, hu, hs, rfl⟩
  · rintro ⟨hactive, g, hg, hu, hs, rfl⟩
    exact ⟨g, ⟨hg, hu, hs, hactive⟩, rfl⟩

theorem mem_grantedUserIds {ownerIds : List Id} :
    userId ∈ w.grantedUserIds ownerIds ↔
      userId ≠ "" ∧ ∃ ownerId ∈ ownerIds, ownerId ∈ w.activeOwnerIds userId := by
  simp only [grantedUserIds, List.mem_filterMap, List.mem_filter, decide_eq_true_eq,
    truthy_eq_some, mem_activeOwnerIds]
  constructor
  · rintro ⟨g, ⟨hg, howner, hs, hactive⟩, hu, hne⟩
    exact ⟨hne, g.ownerId, howner, hactive, g, hg, hu, hs, rfl⟩
  · rintro ⟨hne, ownerId, howner, hactive, g, hg, hu, hs, rfl⟩
    exact ⟨g, ⟨hg, howner, hs, hactive⟩, hu, hne⟩

theorem hasOpenOwnership_eq_true :
    w.hasOpenOwnership unitId = true ↔
      ∃ o ∈ w.directory.unitOwnerships, o.unitId = unitId ∧ o.endDate = none := by
  simp [hasOpenOwnership, Table.mem_rows]

theorem unitOrg_eq_some :
    w.unitOrg unitId = some orgId ↔ ∃ unit building,
      w.directory.units.findUnique unitId = some unit ∧
        w.directory.buildings.findUnique unit.buildingId = some building ∧
          building.orgId = orgId := by
  simp [unitOrg, Option.bind_eq_some_iff]

theorem mem_activeOwnershipOwnerIds :
    ownerId ∈ w.activeOwnershipOwnerIds orgId unitId ↔
      ∃ o ∈ w.directory.unitOwnerships, o.orgId = orgId ∧ o.unitId = unitId ∧ o.endDate = none ∧
        w.isActiveOwner ownerId = true ∧ o.ownerId = ownerId := by
  simp only [activeOwnershipOwnerIds, List.mem_map, List.mem_filter, decide_eq_true_eq,
    Table.mem_rows]
  constructor
  · rintro ⟨o, ⟨ho, horg, hunit, hopen, hactive⟩, rfl⟩
    exact ⟨o, ho, horg, hunit, hopen, hactive, rfl⟩
  · rintro ⟨o, ho, horg, hunit, hopen, hactive, rfl⟩
    exact ⟨o, ⟨ho, horg, hunit, hopen, hactive⟩, rfl⟩

theorem OwnershipOrgsAgree.unitOrg (h : w.OwnershipOrgsAgree) {o : UnitOwnership}
    (ho : o ∈ w.directory.unitOwnerships) (hunit : o.unitId = unitId) :
    w.unitOrg unitId = some o.orgId :=
  hunit ▸ h o ho

/-- The owner holds the unit through an open ownership row. -/
def HoldsUnit (w : World) (ownerId unitId : Id) : Prop :=
  ∃ o ∈ w.directory.unitOwnerships, o.unitId = unitId ∧ o.endDate = none ∧ o.ownerId = ownerId

/-- The owner is named on the unit, and no ownership row is open. -/
def NamedOnUnit (w : World) (ownerId unitId : Id) : Prop :=
  w.hasOpenOwnership unitId = false ∧
    ∃ unit ∈ w.directory.units, unit.id = unitId ∧ truthy unit.ownerId = some ownerId

/-- Who owns a unit, however it is recorded. -/
def CurrentOwner (w : World) (ownerId unitId : Id) : Prop :=
  w.HoldsUnit ownerId unitId ∨ w.NamedOnUnit ownerId unitId

theorem HoldsUnit.hasOpenOwnership (h : w.HoldsUnit ownerId unitId) :
    w.hasOpenOwnership unitId = true := by
  obtain ⟨o, ho, hunit, hopen, -⟩ := h
  exact hasOpenOwnership_eq_true.mpr ⟨o, ho, hunit, hopen⟩

theorem mem_ownershipUnitRows_unit (h : w.OwnershipOrgsAgree) :
    (∃ row ∈ w.ownershipUnitRows userId, row.unitId = unitId) ↔
      ∃ ownerId ∈ w.activeOwnerIds userId, w.HoldsUnit ownerId unitId := by
  simp only [ownershipUnitRows, List.mem_filterMap, List.mem_filter, decide_eq_true_eq,
    Option.map_eq_some_iff]
  constructor
  · rintro ⟨row, ⟨o, ⟨ho, hopen, howner⟩, u, hu, rfl⟩, hid⟩
    exact ⟨o.ownerId, howner, o, ho, (Table.findUnique_eq_some.mp hu).2.symm.trans hid, hopen, rfl⟩
  · rintro ⟨ownerId, howner, o, ho, hunit, hopen, rfl⟩
    obtain ⟨unit, building, hu, -, -⟩ := unitOrg_eq_some.mp (h.unitOrg ho hunit)
    exact ⟨_, ⟨o, ⟨ho, hopen, howner⟩, unit, hunit ▸ hu, rfl⟩, (Table.findUnique_eq_some.mp hu).2⟩

theorem mem_fallbackUnitRows_unit :
    (∃ row ∈ w.fallbackUnitRows userId, row.unitId = unitId) ↔
      (w.unitOrg unitId).isSome = true ∧
        ∃ ownerId ∈ w.activeOwnerIds userId, w.NamedOnUnit ownerId unitId := by
  have hopen (u : UnitRow) :
      (¬ w.directory.unitOwnerships.rows.any (fun o => o.unitId = u.id ∧ o.endDate = none) = true) ↔
        w.hasOpenOwnership u.id = false := by
    rw [Bool.not_eq_true]
    rfl
  simp only [fallbackUnitRows, List.mem_filterMap, List.mem_filter, decide_eq_true_eq, hopen,
    Option.bind_eq_bind, Option.bind_eq_some_iff, Option.isSome_iff_exists, unitOrg_eq_some,
    Option.guard_eq_some', Option.pure_def, Option.some.injEq]
  constructor
  · rintro ⟨row, ⟨u, ⟨hu, hnone⟩, ownerId, howner, -, hactive, building, hb, rfl⟩, rfl⟩
    have hfind : w.directory.units.findUnique u.id = some u := Table.findUnique_eq_some.mpr ⟨hu, rfl⟩
    exact ⟨⟨_, u, building, hfind, hb, rfl⟩, ownerId, hactive, hnone, u, hu, rfl, howner⟩
  · rintro ⟨⟨_, unit, building, hfind, hb, rfl⟩, ownerId, hactive, hnone, u, hu, rfl, howner⟩
    have hunit : unit = u := Table.eq_of_key_eq (Table.findUnique_eq_some.mp hfind).1 hu
      (Table.findUnique_eq_some.mp hfind).2
    subst hunit
    exact ⟨_, ⟨unit, ⟨hu, hnone⟩, ownerId, howner, (), hactive, building, hb, rfl⟩, rfl⟩

theorem accessibleUnit_isSome_iff (h : w.OwnershipOrgsAgree) :
    (w.accessibleUnit userId unitId).isSome = true ↔ (w.unitOrg unitId).isSome = true ∧
      ∃ ownerId ∈ w.activeOwnerIds userId, w.CurrentOwner ownerId unitId := by
  have hrows : (w.accessibleUnit userId unitId).isSome = true ↔
      (∃ row ∈ w.ownershipUnitRows userId, row.unitId = unitId) ∨
        ∃ row ∈ w.fallbackUnitRows userId, row.unitId = unitId := by
    simp only [accessibleUnit, List.find?_isSome, List.mem_reverse, List.mem_append,
      decide_eq_true_eq, or_and_right, exists_or]
  rw [hrows, mem_ownershipUnitRows_unit h, mem_fallbackUnitRows_unit]
  constructor
  · rintro (⟨ownerId, hactive, hholds⟩ | ⟨horg, ownerId, hactive, hnamed⟩)
    · obtain ⟨o, ho, hunit, -⟩ := id hholds
      exact ⟨by rw [h.unitOrg ho hunit]; rfl, ownerId, hactive, .inl hholds⟩
    · exact ⟨horg, ownerId, hactive, .inr hnamed⟩
  · rintro ⟨horg, ownerId, hactive, hholds | hnamed⟩
    · exact .inl ⟨ownerId, hactive, hholds⟩
    · exact .inr ⟨horg, ownerId, hactive, hnamed⟩

theorem fallbackOwnerId_eq_some (hactive : w.isActiveOwner ownerId = true) :
    w.fallbackOwnerId orgId unitId = some ownerId ↔
      w.unitOrg unitId = some orgId ∧ w.NamedOnUnit ownerId unitId := by
  simp only [fallbackOwnerId, Option.bind_eq_bind, Option.bind_eq_some_iff, unitOrg_eq_some]
  constructor
  · rintro ⟨u, hu, howner⟩
    obtain ⟨hmem, hp⟩ := Table.findFirst_some hu
    obtain ⟨rfl, hbuilding, hnone, -⟩ := of_decide_eq_true hp
    obtain ⟨building, hb, horg⟩ := (Option.any_eq_true _ _).mp hbuilding
    exact ⟨⟨u, building, Table.findUnique_eq_some.mpr ⟨hmem, rfl⟩, hb, of_decide_eq_true horg⟩,
      Bool.eq_false_iff.mpr hnone, u, hmem, rfl, howner⟩
  · rintro ⟨⟨unit, building, hfind, hb, rfl⟩, hnone, u, hu, rfl, howner⟩
    have hunit : unit = u := Table.eq_of_key_eq (Table.findUnique_eq_some.mp hfind).1 hu
      (Table.findUnique_eq_some.mp hfind).2
    subst hunit
    refine ⟨unit, Table.findFirst_eq_some hu (decide_eq_true ⟨rfl, ?_, ?_, ?_⟩) ?_, howner⟩
    · rw [hb]
      exact decide_eq_true rfl
    · exact Bool.eq_false_iff.mp hnone
    · rw [(truthy_eq_some.mp howner).1]
      exact hactive
    · intro v hv
      exact (of_decide_eq_true hv).1

theorem mem_requestOwnerIds (h : w.OwnershipOrgsAgree) (hactive : w.isActiveOwner ownerId = true) :
    ownerId ∈ w.requestOwnerIds orgId unitId ↔
      w.unitOrg unitId = some orgId ∧ w.CurrentOwner ownerId unitId := by
  have hholds : ownerId ∈ w.activeOwnershipOwnerIds orgId unitId ↔
      w.unitOrg unitId = some orgId ∧ w.HoldsUnit ownerId unitId := by
    rw [mem_activeOwnershipOwnerIds]
    constructor
    · rintro ⟨o, ho, rfl, hunit, hopen, -, hid⟩
      exact ⟨h.unitOrg ho hunit, o, ho, hunit, hopen, hid⟩
    · rintro ⟨horg, o, ho, hunit, hopen, hid⟩
      have horg' : o.orgId = orgId := Option.some.inj ((h.unitOrg ho hunit).symm.trans horg)
      exact ⟨o, ho, horg', hunit, hopen, hactive, hid⟩
  unfold requestOwnerIds
  cases hids : w.activeOwnershipOwnerIds orgId unitId with
  | nil =>
    rw [hids] at hholds
    have hnone : ¬ (w.unitOrg unitId = some orgId ∧ w.HoldsUnit ownerId unitId) :=
      fun hboth => List.not_mem_nil (hholds.mpr hboth)
    simp only [List.isEmpty_nil, if_true, Option.mem_toList, fallbackOwnerId_eq_some hactive]
    constructor
    · rintro ⟨horg, hnamed⟩
      exact ⟨horg, .inr hnamed⟩
    · rintro ⟨horg, hheld | hnamed⟩
      · exact absurd ⟨horg, hheld⟩ hnone
      · exact ⟨horg, hnamed⟩
  | cons first rest =>
    rw [hids] at hholds
    -- the first row is open, so no owner merely named on the unit counts
    have hfirst : w.hasOpenOwnership unitId = true := by
      have hmem : first ∈ w.activeOwnershipOwnerIds orgId unitId := hids ▸ List.mem_cons_self
      obtain ⟨o, ho, -, hunit, hopen, -⟩ := mem_activeOwnershipOwnerIds.mp hmem
      exact hasOpenOwnership_eq_true.mpr ⟨o, ho, hunit, hopen⟩
    simp only [List.isEmpty_cons, Bool.false_eq_true, if_false]
    rw [hholds]
    constructor
    · rintro ⟨horg, hheld⟩
      exact ⟨horg, .inl hheld⟩
    · rintro ⟨horg, hheld | hnamed⟩
      · exact ⟨horg, hheld⟩
      · rw [hnamed.1] at hfirst
        cases hfirst

end World

namespace Maintenance

def resolveActiveOwnerRecipientsForRequest (w : World) (request : MaintenanceRequestSnapshot) :
    Finset Id :=
  match truthy request.unitId with
  | none => ∅
  | some unitId => (w.grantedUserIds (w.requestOwnerIds request.orgId unitId)).toFinset

theorem mem_ownerRecipients_iff {w : World} (h : w.OwnershipOrgsAgree)
    {request : MaintenanceRequestSnapshot} {userId : Id} :
    userId ∈ resolveActiveOwnerRecipientsForRequest w request ↔
      userId ≠ "" ∧ ∃ unitId, truthy request.unitId = some unitId ∧
        w.unitOrg unitId = some request.orgId ∧
          (w.accessibleUnit userId unitId).isSome = true := by
  unfold resolveActiveOwnerRecipientsForRequest
  cases hunit : truthy request.unitId with
  | none => simp
  | some unitId =>
    rw [List.mem_toFinset, World.mem_grantedUserIds]
    simp only [World.accessibleUnit_isSome_iff h, Option.some.injEq, exists_eq_left']
    refine and_congr_right fun _ => ?_
    constructor
    · rintro ⟨ownerId, howner, hactive⟩
      obtain ⟨horg, hcurrent⟩ :=
        (World.mem_requestOwnerIds h (World.mem_activeOwnerIds.mp hactive).1).mp howner
      exact ⟨horg, by rw [horg]; rfl, ownerId, hactive, hcurrent⟩
    · rintro ⟨horg, -, ownerId, hactive, hcurrent⟩
      exact ⟨ownerId, (World.mem_requestOwnerIds h (World.mem_activeOwnerIds.mp hactive).1).mpr
        ⟨horg, hcurrent⟩, hactive⟩

theorem getAccessibleRequestById_ok_iff {env : Env} {db : Db} {request : MaintenanceRequest}
    {userId : Id} (hmem : request ∈ db.maintenanceRequests) :
    (∃ unit, getAccessibleRequestById env db userId request.id = .ok (request, unit)) ↔
      ∃ unitId, truthy request.unitId = some unitId ∧
        (env.world.accessibleUnit userId unitId).isSome = true := by
  simp only [getAccessibleRequestById, Outcome.bind_eq_ok, Outcome.orThrow_eq_ok,
    Outcome.pure_eq_ok, Prod.mk.injEq]
  constructor
  · rintro ⟨unit, r, -, unitId, hunit, row, hrow, rfl, -⟩
    exact ⟨unitId, hunit, by rw [hrow]; rfl⟩
  · rintro ⟨unitId, hunit, hrow⟩
    obtain ⟨row, hrow'⟩ := Option.isSome_iff_exists.mp hrow
    refine ⟨row, request, Table.findFirst_eq_some hmem (decide_eq_true ⟨rfl, ?_⟩) ?_, unitId, hunit,
      row, hrow', rfl, rfl⟩
    · rw [(truthy_eq_some.mp hunit).1]
      exact hrow
    · intro r hr
      exact (of_decide_eq_true hr).1

theorem owner_recipients_match_unit_scope (env : Env) (userId : Id)
    (h : env.world.OwnershipOrgsAgree) (huser : userId ≠ "") :
    (∀ request : MaintenanceRequestSnapshot, ∀ unitId, truthy request.unitId = some unitId →
      (userId ∈ resolveActiveOwnerRecipientsForRequest env.world request ↔
        env.world.unitOrg unitId = some request.orgId ∧
          (env.world.accessibleUnit userId unitId).isSome = true)) ∧
    ∀ db : Db, ∀ request ∈ db.maintenanceRequests, ∀ unitId, request.unitId = some unitId →
      env.world.unitOrg unitId = some request.orgId →
        (userId ∈ resolveActiveOwnerRecipientsForRequest env.world (toEventRequest env request) ↔
          ∃ unit, getAccessibleRequestById env db userId request.id = .ok (request, unit)) := by
  constructor
  · intro request unitId hunit
    rw [mem_ownerRecipients_iff h, hunit]
    simp [huser]
  · intro db request hmem unitId hunit horg
    rw [mem_ownerRecipients_iff h, getAccessibleRequestById_ok_iff hmem]
    have hsnapshot : (toEventRequest env request).unitId = request.unitId := rfl
    rw [hsnapshot]
    constructor
    · rintro ⟨-, id, hid, -, haccess⟩
      exact ⟨id, hid, haccess⟩
    · rintro ⟨id, hid, haccess⟩
      have hid' : id = unitId :=
        Option.some.inj ((truthy_eq_some.mp hid).1.symm.trans hunit)
      exact ⟨huser, id, hid, hid' ▸ horg, haccess⟩

section Landlord

def leakSnapshot (orgId : Id) : MaintenanceRequestSnapshot where
  id := "request"
  orgId
  buildingId := "building"
  unitId := some "unit"
  title := "Leak"
  status := .OPEN
  ownerApprovalStatus := .NOT_REQUIRED
  createdByUserId := "resident"
  assignedToUserId := none
  serviceProviderId := none
  serviceProviderAssignedUserId := none
  isEmergency := true
  emergencySignals := []
  unit := some ("unit", "101")

theorem scene_ownershipOrgsAgree (orgId buildingId : Id) :
    (scene orgId buildingId).OwnershipOrgsAgree :=
  fun o ho => absurd ho (Table.not_mem_empty o)

theorem owner_recipients_can_differ_from_unit_scope :
    ¬ ∀ (w : World) (request : MaintenanceRequestSnapshot) (userId unitId : Id),
      w.OwnershipOrgsAgree → userId ≠ "" → truthy request.unitId = some unitId →
        (userId ∈ resolveActiveOwnerRecipientsForRequest w request ↔
          (w.accessibleUnit userId unitId).isSome = true) := by
  intro h
  have hiff := h (scene "org" "building") (leakSnapshot "elsewhere") "landlord" "unit"
    (scene_ownershipOrgsAgree _ _) (by decide) (by decide)
  exact absurd (hiff.mpr (by decide)) (by decide)

theorem landlord_hears_of_leak :
    "landlord" ∈ resolveActiveOwnerRecipientsForRequest (scene "org" "building")
      (leakSnapshot "org") :=
  ((owner_recipients_match_unit_scope (sceneEnv "org" "building" 0) "landlord"
    (scene_ownershipOrgsAgree _ _) (by decide)).1 (leakSnapshot "org") "unit" (by decide)).mpr
    ⟨by decide, by decide⟩

end Landlord

end Maintenance

end Towerdesk
