import Towerdesk.Messaging.Authority
import Towerdesk.Maintenance.OwnerRecipients

/-!
# The owners a resident may write to

A resident writes to the users behind the owner of their unit. The owner is looked for from
the unit's side, first among the open ownership rows and then on the unit itself; the portal
goes the other way, from a user to the units of their owners.
-/

namespace Towerdesk

namespace World

section Queries

variable (w : World)

/-- `accessGrants: { some: { status: 'ACTIVE', userId: { not: null } } }`. -/
def hasActiveGrant (ownerId : Id) : Bool :=
  w.directory.ownerAccessGrants.rows.any fun g =>
    g.ownerId = ownerId ∧ g.status = .ACTIVE ∧ g.userId ≠ none

/-- `orderBy: [{ startDate: 'desc' }, { createdAt: 'desc' }]`. -/
def ownershipBefore (createdAt : Id → Date) (a b : UnitOwnership) : Bool :=
  b.startDate < a.startDate ∨ (a.startDate = b.startDate ∧ createdAt b.id ≤ createdAt a.id)

/-- The times at which the ownership rows were created are not kept in the directory. -/
def activeOwnership (createdAt : Id → Date) (unitId orgId : Id) : Option UnitOwnership :=
  ((w.directory.unitOwnerships.rows.filter fun o =>
    o.orgId = orgId ∧ o.unitId = unitId ∧ o.endDate = none ∧ w.isActiveOwner o.ownerId ∧
      w.hasActiveGrant o.ownerId).insertionSort fun a b => ownershipBefore createdAt a b).head?

def fallbackUnit (unitId orgId : Id) : Option UnitRow :=
  w.directory.units.findFirst fun u =>
    u.id = unitId ∧ (w.directory.buildings.findUnique u.buildingId).any (·.orgId = orgId) ∧
      ¬ w.hasOpenOwnership u.id ∧
      u.ownerId.any fun ownerId => w.isActiveOwner ownerId ∧ w.hasActiveGrant ownerId

def contactOwnerId (createdAt : Id → Date) (unitId orgId : Id) : Option Id :=
  match w.activeOwnership createdAt unitId orgId with
  | some ownership => truthy (some ownership.ownerId)
  | none => truthy ((w.fallbackUnit unitId orgId).bind (·.ownerId))

def getActiveOwnerUserIdsForUnit (createdAt : Id → Date) (unitId orgId : Id) : List Id :=
  match w.contactOwnerId createdAt unitId orgId with
  | none => []
  | some ownerId => (w.grantedUserIds [ownerId]).eraseDups

def findActiveOccupancyByResident (userId orgId : Id) : Option Occupancy :=
  w.occupancies.findFirst fun o =>
    o.residentUserId = userId ∧ o.status = .ACTIVE ∧
      (w.directory.buildings.findUnique o.buildingId).any (·.orgId = orgId)

end Queries

/-- At most one ownership row of a unit is open. -/
def OneOpenOwnership (w : World) : Prop :=
  ∀ o ∈ w.directory.unitOwnerships, ∀ o' ∈ w.directory.unitOwnerships,
    o.unitId = o'.unitId → o.endDate = none → o'.endDate = none → o = o'

/-- Owners and granted users have keys that are not the empty text. -/
structure KeysAssigned (w : World) : Prop where
  owners : ∀ o ∈ w.directory.owners, o.id ≠ ""
  users : ∀ g ∈ w.directory.ownerAccessGrants, g.userId ≠ some ""

variable {w : World} {createdAt : Id → Date} {userId ownerId unitId orgId : Id}

theorem hasActiveGrant_of_mem_activeOwnerIds (h : ownerId ∈ w.activeOwnerIds userId) :
    w.hasActiveGrant ownerId = true := by
  obtain ⟨-, g, hg, huser, hstatus, howner⟩ := mem_activeOwnerIds.mp h
  refine List.any_eq_true.mpr ⟨g, hg, decide_eq_true ⟨howner, hstatus, ?_⟩⟩
  rw [huser]
  exact Option.some_ne_none userId

theorem activeOwnership_mem {o : UnitOwnership}
    (h : w.activeOwnership createdAt unitId orgId = some o) :
    o ∈ w.directory.unitOwnerships ∧ o.orgId = orgId ∧ o.unitId = unitId ∧ o.endDate = none ∧
      w.isActiveOwner o.ownerId = true ∧ w.hasActiveGrant o.ownerId = true := by
  have hmem := (List.mem_insertionSort _).mp (List.mem_of_head? h)
  obtain ⟨ho, hp⟩ := List.mem_filter.mp hmem
  exact ⟨ho, of_decide_eq_true hp⟩

theorem activeOwnership_eq_some (hone : w.OneOpenOwnership) {o : UnitOwnership}
    (ho : o ∈ w.directory.unitOwnerships) (horg : o.orgId = orgId) (hunit : o.unitId = unitId)
    (hopen : o.endDate = none) (hactive : w.isActiveOwner o.ownerId = true)
    (hgrant : w.hasActiveGrant o.ownerId = true) :
    w.activeOwnership createdAt unitId orgId = some o := by
  cases hfirst : w.activeOwnership createdAt unitId orgId with
  | none =>
    have hempty := List.head?_eq_none_iff.mp hfirst
    have hmem : o ∈ (w.directory.unitOwnerships.rows.filter fun o =>
        o.orgId = orgId ∧ o.unitId = unitId ∧ o.endDate = none ∧ w.isActiveOwner o.ownerId ∧
          w.hasActiveGrant o.ownerId).insertionSort fun a b => ownershipBefore createdAt a b :=
      (List.mem_insertionSort _).mpr (List.mem_filter.mpr
        ⟨ho, decide_eq_true ⟨horg, hunit, hopen, hactive, hgrant⟩⟩)
    rw [hempty] at hmem
    cases hmem
  | some o' =>
    obtain ⟨ho', -, hunit', hopen', -⟩ := activeOwnership_mem hfirst
    rw [hone o' ho' o ho (hunit'.trans hunit.symm) hopen' hopen]

theorem fallbackUnit_eq_some (hopen : w.hasOpenOwnership unitId = false)
    (horg : w.unitOrg unitId = some orgId) {unit : UnitRow} (hunit : unit ∈ w.directory.units)
    (hid : unit.id = unitId) (howner : unit.ownerId = some ownerId)
    (hactive : w.isActiveOwner ownerId = true) (hgrant : w.hasActiveGrant ownerId = true) :
    w.fallbackUnit unitId orgId = some unit := by
  obtain ⟨found, building, hfind, hbuilding, hsame⟩ := unitOrg_eq_some.mp horg
  have hfound : found = unit := by
    obtain ⟨hmem, hkey⟩ := Table.findUnique_eq_some.mp hfind
    exact Table.eq_of_key_eq hmem hunit (hkey.trans hid.symm)
  subst hfound
  refine Table.findFirst_eq_some hunit (decide_eq_true ⟨hid, ?_, ?_, ?_⟩) fun u hu => ?_
  · rw [hbuilding]
    exact decide_eq_true hsame
  · rw [hid, hopen]
    exact Bool.false_ne_true
  · rw [howner]
    exact decide_eq_true ⟨hactive, hgrant⟩
  · exact (of_decide_eq_true hu).1.trans hid.symm

/-- The owner found from the unit's side is its current owner, in the organisation asked. -/
theorem contactOwnerId_eq_some (hone : w.OneOpenOwnership) (horgs : w.OwnershipOrgsAgree)
    (hkeys : w.KeysAssigned) (hactive : ownerId ∈ w.activeOwnerIds userId) :
    w.contactOwnerId createdAt unitId orgId = some ownerId ↔
      w.unitOrg unitId = some orgId ∧ w.CurrentOwner ownerId unitId := by
  have howner := (mem_activeOwnerIds.mp hactive).1
  have hgrant := hasActiveGrant_of_mem_activeOwnerIds hactive
  have hne : ownerId ≠ "" := by
    obtain ⟨row, hrow, -⟩ := (Option.any_eq_true _ _).mp howner
    obtain ⟨hmem, hid⟩ := Table.findUnique_eq_some.mp hrow
    exact hid ▸ hkeys.owners row hmem
  unfold contactOwnerId
  constructor
  · intro h
    cases hfirst : w.activeOwnership createdAt unitId orgId with
    | some o =>
      rw [hfirst] at h
      obtain ⟨ho, horg, hunit, hopen, -⟩ := activeOwnership_mem hfirst
      have hid : o.ownerId = ownerId := Option.some.inj (truthy_eq_some.mp h).1
      exact ⟨horg ▸ horgs.unitOrg ho hunit, .inl ⟨o, ho, hunit, hopen, hid⟩⟩
    | none =>
      rw [hfirst] at h
      obtain ⟨hbind, -⟩ := truthy_eq_some.mp h
      obtain ⟨unit, hunit, hid⟩ := Option.bind_eq_some_iff.mp hbind
      obtain ⟨hmem, hp⟩ := Table.findFirst_some hunit
      obtain ⟨rfl, hbuilding, hnone, -⟩ := of_decide_eq_true hp
      obtain ⟨building, hb, horg⟩ := (Option.any_eq_true _ _).mp hbuilding
      refine ⟨unitOrg_eq_some.mpr ⟨unit, building, Table.findUnique_eq_some.mpr ⟨hmem, rfl⟩, hb,
        of_decide_eq_true horg⟩, .inr ⟨Bool.eq_false_iff.mpr hnone, unit, hmem, rfl, ?_⟩⟩
      exact truthy_eq_some.mpr ⟨hid, hne⟩
  · rintro ⟨horg, hholds | ⟨hnone, unit, hmem, hid, hnamed⟩⟩
    · obtain ⟨o, ho, hunit, hopen, rfl⟩ := hholds
      have hsame : o.orgId = orgId := Option.some.inj ((horgs.unitOrg ho hunit).symm.trans horg)
      rw [activeOwnership_eq_some hone ho hsame hunit hopen howner hgrant]
      exact truthy_eq_some.mpr ⟨rfl, hne⟩
    · have hfirst : w.activeOwnership createdAt unitId orgId = none := by
        -- any row found would be open
        refine Option.eq_none_iff_forall_ne_some.mpr fun o ho => ?_
        obtain ⟨hmem, -, hunit, hopen, -⟩ := activeOwnership_mem ho
        have htrue := hasOpenOwnership_eq_true.mpr ⟨o, hmem, hunit, hopen⟩
        rw [hnone] at htrue
        cases htrue
      obtain ⟨hownerId, -⟩ := truthy_eq_some.mp hnamed
      rw [hfirst, fallbackUnit_eq_some hnone horg hmem hid hownerId howner hgrant]
      exact hnamed

theorem mem_getActiveOwnerUserIdsForUnit (hone : w.OneOpenOwnership)
    (horgs : w.OwnershipOrgsAgree) (hkeys : w.KeysAssigned) :
    userId ∈ w.getActiveOwnerUserIdsForUnit createdAt unitId orgId ↔
      w.unitOrg unitId = some orgId ∧ (w.accessibleUnit userId unitId).isSome = true := by
  have hmem : userId ∈ w.getActiveOwnerUserIdsForUnit createdAt unitId orgId ↔
      userId ≠ "" ∧ ∃ ownerId, w.contactOwnerId createdAt unitId orgId = some ownerId ∧
        ownerId ∈ w.activeOwnerIds userId := by
    unfold getActiveOwnerUserIdsForUnit
    cases w.contactOwnerId createdAt unitId orgId with
    | none => simp
    | some ownerId => simp [List.mem_eraseDups, mem_grantedUserIds]
  rw [hmem, accessibleUnit_isSome_iff horgs]
  constructor
  · rintro ⟨-, ownerId, hcontact, hactive⟩
    obtain ⟨horg, hcurrent⟩ := (contactOwnerId_eq_some hone horgs hkeys hactive).mp hcontact
    exact ⟨horg, by rw [horg]; rfl, ownerId, hactive, hcurrent⟩
  · rintro ⟨horg, -, ownerId, hactive, hcurrent⟩
    obtain ⟨-, g, hg, huser, -⟩ := mem_activeOwnerIds.mp hactive
    refine ⟨fun hempty => hkeys.users g hg (hempty ▸ huser), ownerId, ?_, hactive⟩
    exact (contactOwnerId_eq_some hone horgs hkeys hactive).mpr ⟨horg, hcurrent⟩

end World

namespace Messaging

/-- Asked for the unit's organisation, the owners found are the users whose portal has the unit;
asked for another, there are none. -/
theorem owner_contacts_match_unit_scope (w : World) (createdAt : Id → Date)
    (hone : w.OneOpenOwnership) (horgs : w.OwnershipOrgsAgree) (hkeys : w.KeysAssigned)
    (unitId orgId : Id) :
    (w.unitOrg unitId = some orgId →
      {userId | userId ∈ w.getActiveOwnerUserIdsForUnit createdAt unitId orgId} =
        {userId | (w.accessibleUnit userId unitId).isSome = true}) ∧
    (w.unitOrg unitId ≠ some orgId →
      w.getActiveOwnerUserIdsForUnit createdAt unitId orgId = []) := by
  constructor
  · intro horg
    ext userId
    rw [Set.mem_ofPred_eq, World.mem_getActiveOwnerUserIdsForUnit hone horgs hkeys]
    exact and_iff_right horg
  · intro horg
    refine List.eq_nil_iff_forall_not_mem.mpr fun userId hmem => ?_
    exact horg ((World.mem_getActiveOwnerUserIdsForUnit hone horgs hkeys).mp hmem).1

section Witness

open Maintenance (scene sceneDirectory)

/-- The scene's unit, with the owner in an open ownership row. -/
def ownedScene : World :=
  { scene "org" "building" with directory := { sceneDirectory "org" "building" with
      unitOwnerships := ⟨[⟨"ownership", "org", "unit", "owner", 0, none⟩], List.nodup_singleton _⟩ } }

theorem ownedScene_oneOpen : ownedScene.OneOpenOwnership := by
  intro o ho o' ho' _ _ _
  rw [List.mem_singleton.mp ho, List.mem_singleton.mp ho']

theorem ownedScene_orgsAgree : ownedScene.OwnershipOrgsAgree := by
  intro o ho
  rw [List.mem_singleton.mp ho]
  decide

theorem ownedScene_keys : ownedScene.KeysAssigned := ⟨by decide, by decide⟩

theorem landlord_is_contact :
    "landlord" ∈ ownedScene.getActiveOwnerUserIdsForUnit (fun _ => 0) "unit" "org" := by
  have hsame := (owner_contacts_match_unit_scope ownedScene (fun _ => 0) ownedScene_oneOpen
    ownedScene_orgsAgree ownedScene_keys "unit" "org").1 (by decide)
  have hscope : "landlord" ∈ {userId | (ownedScene.accessibleUnit userId "unit").isSome = true} := by
    show (ownedScene.accessibleUnit "landlord" "unit").isSome = true
    decide
  rw [← hsame] at hscope
  exact hscope

end Witness

section Conversation

structure CreateResidentOwnerConversationDto where
  subject : Option String := none
  message : String

def ownerConversation (user : AuthenticatedUser) (orgId : Id)
    (dto : CreateResidentOwnerConversationDto) (occupancy : Occupancy)
    (participantUserIds : List Id) : NewConversation where
  type := .OWNER_TENANT
  counterpartyGroup := getCounterpartyGroupForConversationType .OWNER_TENANT
  orgId
  buildingId := some occupancy.buildingId
  subject := dto.subject
  participantUserIds := user.sub :: participantUserIds
  senderUserId := user.sub
  content := dto.message

def createResidentConversationWithOwner (env : Env) (w : World) (createdAt : Id → Date) (db : Db)
    (user : AuthenticatedUser) (orgId : Id) (dto : CreateResidentOwnerConversationDto) :
    Result (Db × ConversationWithRelations) := do
  let occupancy ← Outcome.orThrow (w.findActiveOccupancyByResident user.sub orgId)
    (.conflict "Resident must have an active occupancy to message the unit owner")
  let participantUserIds := ((w.getActiveOwnerUserIdsForUnit createdAt occupancy.unitId
    orgId).filter (· ≠ user.sub)).eraseDups
  Outcome.throwIf (participantUserIds = [])
    (.conflict "No active owner user is assigned to this unit")
  createConversationRows env db (ownerConversation user orgId dto occupancy participantUserIds)

/-- The conversation is between the resident and the users whose portal has the unit. -/
theorem resident_owner_conversation_participants {env : Env} {w : World} {createdAt : Id → Date}
    {db db' : Db} {user : AuthenticatedUser} {orgId : Id}
    {dto : CreateResidentOwnerConversationDto} {c : ConversationWithRelations}
    (hone : w.OneOpenOwnership) (horgs : w.OwnershipOrgsAgree) (hkeys : w.KeysAssigned)
    (h : createResidentConversationWithOwner env w createdAt db user orgId dto = .ok (db', c)) :
    ∃ occupancy, w.findActiveOccupancyByResident user.sub orgId = some occupancy ∧
      ∀ userId, userId ∈ newParticipantIds db db' ↔ userId = user.sub ∨
        (w.unitOrg occupancy.unitId = some orgId ∧
          (w.accessibleUnit userId occupancy.unitId).isSome = true) := by
  obtain ⟨occupancy, hoccupancy, h⟩ := Outcome.bind_eq_ok.mp h
  obtain ⟨_, -, h⟩ := Outcome.bind_eq_ok.mp h
  refine ⟨occupancy, Outcome.orThrow_eq_ok.mp hoccupancy, fun userId => ?_⟩
  rw [mem_newParticipantIds h List.mem_cons_self, ownerConversation, List.mem_cons,
    List.mem_eraseDups, List.mem_filter, decide_eq_true_eq,
    World.mem_getActiveOwnerUserIdsForUnit hone horgs hkeys]
  by_cases hself : userId = user.sub
  · simp [hself]
  · simp [hself]

end Conversation

end Messaging

end Towerdesk
