import Towerdesk.Broadcasts.Visibility
import Towerdesk.Lib.Regroup
import Mathlib.Data.Finset.Card

/-!
# Whom a broadcast reaches

The sender names buildings, or leaves them to the service: all buildings of the organisation for
a sender with authority over it, else those where a role of the sender's may broadcast. What the
broadcast says of itself is computed from the list of buildings as it came, by comparing lengths.
The recipients are the union over the audiences, which share two cached queries.
-/

namespace Towerdesk.Broadcasts

inductive BroadcastAudience
  | TENANTS | ADMINS | STAFF | MANAGERS | BUILDING_ADMINS | ALL_USERS
deriving DecidableEq, Repr

def DEFAULT_BROADCAST_AUDIENCES : List BroadcastAudience := [.TENANTS]

inductive BroadcastMetadataScope
  | single_building | multi_building | org_wide
deriving DecidableEq, Repr

structure BroadcastMetadata where
  audiences : List BroadcastAudience
  scope : BroadcastMetadataScope
  buildingCount : ℕ
  audienceSummary : String
deriving DecidableEq, Repr

def AUDIENCE_LABELS : BroadcastAudience → String
  | .TENANTS => "Tenants"
  | .ADMINS => "Admins"
  | .STAFF => "Staff"
  | .MANAGERS => "Managers"
  | .BUILDING_ADMINS => "Building Admins"
  | .ALL_USERS => "All Users"

def buildBroadcastAudienceSummary (audiences : List BroadcastAudience) : String :=
  match audiences.map AUDIENCE_LABELS with
  | [] => "Recipients"
  | [label] => label
  | [first, second] => s!"{first} and {second}"
  | labels => ", ".intercalate labels.dropLast ++ ", and " ++ labels.getLastD ""

def inferBroadcastMetadataScope (buildingCount : ℕ) (isOrgWide : Bool) : BroadcastMetadataScope :=
  if isOrgWide then .org_wide
  else if buildingCount ≤ 1 then .single_building
  else .multi_building

def buildBroadcastMetadata (audiences : List BroadcastAudience) (buildingCount : ℕ)
    (isOrgWide : Bool) : BroadcastMetadata where
  audiences
  scope := inferBroadcastMetadataScope buildingCount isOrgWide
  buildingCount
  audienceSummary := buildBroadcastAudienceSummary audiences

structure CreateBroadcastDto where
  title : String
  body : Option String := none
  buildingIds : Option (List Id) := none
  audiences : Option (List BroadcastAudience) := none
deriving DecidableEq

structure BroadcastInput where
  orgId : Id
  senderUserId : Id
  title : String
  body : Option String
  buildingIds : List Id
  recipientCount : ℕ
  metadata : BroadcastMetadata
deriving DecidableEq

structure FanoutMetadata where
  broadcastId : Id
  buildingIds : List Id
  senderUserId : Id
  metadata : BroadcastMetadata
deriving DecidableEq

structure FanoutRequest where
  broadcastId : Id
  orgId : Id
  userIds : List Id
  title : String
  body : Option String
  senderUserId : Id
  buildingIds : List Id
  metadata : FanoutMetadata
deriving DecidableEq

namespace BroadcastsRepo

variable (w : World) (orgId : Id)

def isActiveOrgUser (userId : Id) : Bool :=
  (w.directory.users.findUnique userId).any fun u => u.isActive ∧ u.orgId = some orgId

def getActiveResidentUserIds (buildingIds : List Id) : List Id :=
  ((w.occupancies.rows.filter fun o =>
    o.status = .ACTIVE ∧ (w.directory.buildings.findUnique o.buildingId).any (·.orgId = orgId) ∧
      w.isActiveUser o.residentUserId ∧ (buildingIds = [] ∨ o.buildingId ∈ buildingIds)).map
        (·.residentUserId)).eraseDups

def getBuildingAssignmentUserIds (buildingIds : List Id) (roleTemplateKeys : List String) :
    List Id :=
  if buildingIds = [] ∨ roleTemplateKeys = [] then []
  else ((w.access.userAccessAssignments.rows.filter fun a =>
    a.scopeType = .BUILDING ∧ a.scopeId.any (· ∈ buildingIds) ∧
      ((w.access.roleTemplates.findUnique a.roleTemplateId).any fun r =>
        r.orgId = some orgId ∧ r.scopeType = .BUILDING ∧ r.key ∈ roleTemplateKeys) ∧
      isActiveOrgUser w orgId a.userId).map (·.userId)).eraseDups

def getAdminUserIds : List Id :=
  ((w.access.userAccessAssignments.rows.filter fun a =>
    a.scopeType = .ORG ∧ a.scopeId = none ∧
      ((w.access.roleTemplates.findUnique a.roleTemplateId).any fun r =>
        r.orgId = some orgId ∧ r.scopeType = .ORG ∧ r.key ∈ ["org_admin"]) ∧
      isActiveOrgUser w orgId a.userId).map (·.userId)).eraseDups

def getActiveOrgUserIds : List Id :=
  (w.directory.users.rows.filter fun u => u.orgId = some orgId ∧ u.isActive).map (·.id)

def getOrgBuildingIds : List Id :=
  (w.directory.buildings.rows.filter (·.orgId = orgId)).map (·.id)

end BroadcastsRepo

section Recipients

variable (w : World) (orgId : Id) (buildingIds : List Id) (audiences : List BroadcastAudience)

/-- What the two caches of `resolveRecipientUserIds` hold, put together. -/
def loadBuildingLinkedIds : List Id :=
  (BroadcastsRepo.getActiveResidentUserIds w orgId buildingIds ++
    BroadcastsRepo.getBuildingAssignmentUserIds w orgId buildingIds
      ["building_manager", "building_staff", "building_admin"]).eraseDups

def assignmentTypes : List String :=
  (if .MANAGERS ∈ audiences then ["building_manager"] else []) ++
    (if .STAFF ∈ audiences then ["building_staff"] else []) ++
    (if .BUILDING_ADMINS ∈ audiences then ["building_admin"] else [])

def tenantRecipients : List Id :=
  if .TENANTS ∈ audiences then BroadcastsRepo.getActiveResidentUserIds w orgId buildingIds else []

def assignedRecipients : List Id :=
  if 0 < (assignmentTypes audiences).length then
    BroadcastsRepo.getBuildingAssignmentUserIds w orgId buildingIds (assignmentTypes audiences)
  else []

def adminRecipients : List Id :=
  if .ADMINS ∈ audiences then
    if buildingIds = [] then BroadcastsRepo.getAdminUserIds w orgId
    else (BroadcastsRepo.getAdminUserIds w orgId).filter
      (· ∈ loadBuildingLinkedIds w orgId buildingIds)
  else []

def resolveRecipientUserIds : List Id :=
  if .ALL_USERS ∈ audiences then
    if 0 < buildingIds.length then loadBuildingLinkedIds w orgId buildingIds
    else BroadcastsRepo.getActiveOrgUserIds w orgId
  else (tenantRecipients w orgId buildingIds audiences ++
    assignedRecipients w orgId buildingIds audiences ++
    adminRecipients w orgId buildingIds audiences).eraseDups

end Recipients

section Creation

variable (w : World) (user : AuthenticatedUser) (orgId : Id) (dto : CreateBroadcastDto)

def normalizeAudiences (audiences : Option (List BroadcastAudience)) : List BroadcastAudience :=
  ((audiences.filter (0 < ·.length)).getD DEFAULT_BROADCAST_AUDIENCES).eraseDups

def matchesOrgWideTarget (targetBuildingIds orgBuildingIds : List Id) : Bool :=
  if targetBuildingIds.length = 0 ∨ orgBuildingIds.length = 0 then false
  else if targetBuildingIds.length ≠ orgBuildingIds.length then false
  else targetBuildingIds.all (· ∈ orgBuildingIds)

def ORG_SCOPED_BROADCAST_PERMISSION : String := "broadcasts.write"

def hasOrgWideBroadcastAccess : Bool :=
  ORG_SCOPED_BROADCAST_PERMISSION ∈
    w.access.getUserEffectivePermissions user.sub (some orgId) none

def assignedBuildingIds : List Id :=
  w.getUserBuildingIdsWithPermission user.sub orgId ORG_SCOPED_BROADCAST_PERMISSION

def assertMayTarget (buildingId : Id) : Result Unit := do
  let _ ← w.directory.assertBuildingInOrg buildingId orgId
  Outcome.throwIf (hasOrgWideBroadcastAccess w user orgId = false ∧
      buildingId ∉ assignedBuildingIds w user orgId)
    (.forbidden s!"You do not have permission to broadcast to building {buildingId}")

def defaultBuildingIds : List Id :=
  if hasOrgWideBroadcastAccess w user orgId then BroadcastsRepo.getOrgBuildingIds w orgId
  else assignedBuildingIds w user orgId

def resolveTargetBuildingIds : Result (List Id) :=
  match dto.buildingIds.filter (0 < ·.length) with
  | some targetBuildingIds => do
    targetBuildingIds.forM (assertMayTarget w user orgId)
    return targetBuildingIds
  | none => do
    Outcome.throwIf (defaultBuildingIds w user orgId = [])
      (.badRequest "No buildings available for broadcasting")
    return defaultBuildingIds w user orgId

def metadataOf (targetBuildingIds : List Id) : BroadcastMetadata :=
  buildBroadcastMetadata (normalizeAudiences dto.audiences) targetBuildingIds.length
    (hasOrgWideBroadcastAccess w user orgId &&
      matchesOrgWideTarget targetBuildingIds (BroadcastsRepo.getOrgBuildingIds w orgId))

def createBroadcast (broadcastId : Id) : Result (BroadcastInput × FanoutRequest) := do
  let targetBuildingIds ← resolveTargetBuildingIds w user orgId dto
  let metadata := metadataOf w user orgId dto targetBuildingIds
  let recipientUserIds :=
    resolveRecipientUserIds w orgId targetBuildingIds (normalizeAudiences dto.audiences)
  Outcome.throwIf (recipientUserIds = []) (.badRequest
    "No active recipients found for the selected audiences in the target buildings")
  return (
    { orgId
      senderUserId := user.sub
      title := dto.title
      body := dto.body
      buildingIds := targetBuildingIds
      recipientCount := recipientUserIds.length
      metadata },
    { broadcastId
      orgId
      userIds := recipientUserIds
      title := dto.title
      body := dto.body
      senderUserId := user.sub
      buildingIds := targetBuildingIds
      metadata := ⟨broadcastId, targetBuildingIds, user.sub, metadata⟩ })

end Creation

section Audiences

variable (w : World) (orgId buildingId userId : Id)

/-- An active user lives at the building, which is one of the organisation. -/
def IsResident : Prop :=
  w.isActiveUser userId = true ∧ ∃ o ∈ w.occupancies, o.residentUserId = userId ∧
    o.buildingId = buildingId ∧ o.status = .ACTIVE ∧
    ∃ b ∈ w.directory.buildings, b.id = o.buildingId ∧ b.orgId = orgId

/-- An active user of the organisation has the role at the building. -/
def HasRoleAt (key : String) : Prop :=
  BroadcastsRepo.isActiveOrgUser w orgId userId = true ∧
    ∃ a ∈ w.access.userAccessAssignments, a.userId = userId ∧ a.scopeType = .BUILDING ∧
      a.scopeId = some buildingId ∧ ∃ r ∈ w.access.roleTemplates, r.id = a.roleTemplateId ∧
        r.orgId = some orgId ∧ r.scopeType = .BUILDING ∧ r.key = key

/-- An active user of the organisation administers all of it. -/
def IsOrgAdmin : Prop :=
  BroadcastsRepo.isActiveOrgUser w orgId userId = true ∧
    ∃ a ∈ w.access.userAccessAssignments, a.userId = userId ∧ a.scopeType = .ORG ∧
      a.scopeId = none ∧ ∃ r ∈ w.access.roleTemplates, r.id = a.roleTemplateId ∧
        r.orgId = some orgId ∧ r.scopeType = .ORG ∧ r.key = "org_admin"

def IsLinked : Prop :=
  IsResident w orgId buildingId userId ∨ HasRoleAt w orgId buildingId userId "building_manager" ∨
    HasRoleAt w orgId buildingId userId "building_staff" ∨
    HasRoleAt w orgId buildingId userId "building_admin"

/-- The user is of the audience and linked to the building. -/
def InAudience : BroadcastAudience → Prop
  | .TENANTS => IsResident w orgId buildingId userId
  | .MANAGERS => HasRoleAt w orgId buildingId userId "building_manager"
  | .STAFF => HasRoleAt w orgId buildingId userId "building_staff"
  | .BUILDING_ADMINS => HasRoleAt w orgId buildingId userId "building_admin"
  | .ADMINS => IsOrgAdmin w orgId userId ∧ IsLinked w orgId buildingId userId
  | .ALL_USERS => IsLinked w orgId buildingId userId

end Audiences

section Membership

variable {w : World} {orgId userId : Id} {buildingIds : List Id}
  {audiences : List BroadcastAudience}

theorem isLinked_of_inAudience {buildingId : Id} {audience : BroadcastAudience}
    (h : InAudience w orgId buildingId userId audience) : IsLinked w orgId buildingId userId := by
  cases audience with
  | TENANTS => exact .inl h
  | MANAGERS => exact .inr (.inl h)
  | STAFF => exact .inr (.inr (.inl h))
  | BUILDING_ADMINS => exact .inr (.inr (.inr h))
  | ADMINS => exact h.2
  | ALL_USERS => exact h

theorem mem_getActiveResidentUserIds (hne : buildingIds ≠ []) :
    userId ∈ BroadcastsRepo.getActiveResidentUserIds w orgId buildingIds ↔
      ∃ b ∈ buildingIds, IsResident w orgId b userId := by
  simp only [BroadcastsRepo.getActiveResidentUserIds, List.mem_eraseDups, List.mem_map,
    List.mem_filter, decide_eq_true_eq, IsResident, Table.mem_rows, Table.any_findUnique,
    hne, false_or]
  constructor
  · rintro ⟨o, ⟨ho, hactive, hbuilding, huser, hmem⟩, rfl⟩
    exact ⟨o.buildingId, hmem, huser, o, ho, rfl, rfl, hactive, hbuilding⟩
  · rintro ⟨_, hmem, huser, o, ho, rfl, rfl, hactive, hbuilding⟩
    exact ⟨o, ⟨ho, hactive, hbuilding, huser, hmem⟩, rfl⟩

theorem mem_getBuildingAssignmentUserIds {roleTemplateKeys : List String} :
    userId ∈ BroadcastsRepo.getBuildingAssignmentUserIds w orgId buildingIds roleTemplateKeys ↔
      ∃ b ∈ buildingIds, ∃ key ∈ roleTemplateKeys, HasRoleAt w orgId b userId key := by
  rw [BroadcastsRepo.getBuildingAssignmentUserIds]
  split_ifs with hempty
  · obtain rfl | rfl := hempty <;> simp
  simp only [List.mem_eraseDups, List.mem_map, List.mem_filter, decide_eq_true_eq, HasRoleAt,
    Table.mem_rows, Table.any_findUnique]
  simp only [Option.any_eq_true, decide_eq_true_eq]
  constructor
  · rintro ⟨a, ⟨ha, hscope, ⟨b, hb, hmem⟩, ⟨r, hr, hid, horg, htype, hkey⟩, huser⟩, rfl⟩
    exact ⟨b, hmem, r.key, hkey, huser, a, ha, rfl, hscope, hb, r, hr, hid, horg, htype, rfl⟩
  · rintro ⟨b, hmem, _, hkey, huser, a, ha, rfl, hscope, hb, r, hr, hid, horg, htype, rfl⟩
    exact ⟨a, ⟨ha, hscope, ⟨b, hb, hmem⟩, ⟨r, hr, hid, horg, htype, hkey⟩, huser⟩, rfl⟩

theorem mem_getAdminUserIds :
    userId ∈ BroadcastsRepo.getAdminUserIds w orgId ↔ IsOrgAdmin w orgId userId := by
  simp only [BroadcastsRepo.getAdminUserIds, List.mem_eraseDups, List.mem_map, List.mem_filter,
    decide_eq_true_eq, IsOrgAdmin, Table.mem_rows, Table.any_findUnique, List.mem_singleton]
  constructor
  · rintro ⟨a, ⟨ha, hscope, hnone, ⟨r, hr, hid, horg, htype, hkey⟩, huser⟩, rfl⟩
    exact ⟨huser, a, ha, rfl, hscope, hnone, r, hr, hid, horg, htype, hkey⟩
  · rintro ⟨huser, a, ha, rfl, hscope, hnone, r, hr, hid, horg, htype, hkey⟩
    exact ⟨a, ⟨ha, hscope, hnone, ⟨r, hr, hid, horg, htype, hkey⟩, huser⟩, rfl⟩

theorem mem_loadBuildingLinkedIds (hne : buildingIds ≠ []) :
    userId ∈ loadBuildingLinkedIds w orgId buildingIds ↔
      ∃ b ∈ buildingIds, IsLinked w orgId b userId := by
  rw [loadBuildingLinkedIds, List.mem_eraseDups, List.mem_append, mem_getActiveResidentUserIds hne,
    mem_getBuildingAssignmentUserIds]
  simp only [IsLinked, List.mem_cons, List.not_mem_nil, or_false, exists_eq_or_imp, exists_eq_left]
  constructor
  · rintro (⟨b, hb, h⟩ | ⟨b, hb, h⟩)
    · exact ⟨b, hb, .inl h⟩
    · exact ⟨b, hb, .inr h⟩
  · rintro ⟨b, hb, h | h⟩
    · exact .inl ⟨b, hb, h⟩
    · exact .inr ⟨b, hb, h⟩

theorem mem_tenantRecipients (hne : buildingIds ≠ []) :
    userId ∈ tenantRecipients w orgId buildingIds audiences ↔
      .TENANTS ∈ audiences ∧ ∃ b ∈ buildingIds, InAudience w orgId b userId .TENANTS := by
  rw [tenantRecipients]
  split_ifs with htenants
  · rw [mem_getActiveResidentUserIds hne, and_iff_right htenants]
    rfl
  · simp [htenants]

/-- The audiences that are asked for in one query of the role assignments. -/
def IsRoleAudience (audience : BroadcastAudience) : Prop :=
  audience = .MANAGERS ∨ audience = .STAFF ∨ audience = .BUILDING_ADMINS

instance (audience : BroadcastAudience) : Decidable (IsRoleAudience audience) :=
  inferInstanceAs (Decidable (_ ∨ _ ∨ _))

theorem mem_assignedRecipients :
    userId ∈ assignedRecipients w orgId buildingIds audiences ↔
      ∃ audience ∈ audiences, IsRoleAudience audience ∧
        ∃ b ∈ buildingIds, InAudience w orgId b userId audience := by
  have hkeys : userId ∈ assignedRecipients w orgId buildingIds audiences ↔
      ∃ b ∈ buildingIds, ∃ key ∈ assignmentTypes audiences, HasRoleAt w orgId b userId key := by
    rw [assignedRecipients]
    split_ifs with hlength
    · exact mem_getBuildingAssignmentUserIds
    · simp [List.length_eq_zero_iff.mp (Nat.le_zero.mp (not_lt.mp hlength))]
  rw [hkeys]
  constructor
  · rintro ⟨b, hb, key, hkey, h⟩
    simp only [assignmentTypes, List.mem_append, List.mem_ite_nil_right, List.mem_singleton] at hkey
    obtain (⟨haudience, rfl⟩ | ⟨haudience, rfl⟩) | ⟨haudience, rfl⟩ := hkey
    · exact ⟨.MANAGERS, haudience, .inl rfl, b, hb, h⟩
    · exact ⟨.STAFF, haudience, .inr (.inl rfl), b, hb, h⟩
    · exact ⟨.BUILDING_ADMINS, haudience, .inr (.inr rfl), b, hb, h⟩
  · rintro ⟨_, haudience, rfl | rfl | rfl, b, hb, h⟩
    · exact ⟨b, hb, "building_manager", by simp [assignmentTypes, haudience], h⟩
    · exact ⟨b, hb, "building_staff", by simp [assignmentTypes, haudience], h⟩
    · exact ⟨b, hb, "building_admin", by simp [assignmentTypes, haudience], h⟩

theorem mem_adminRecipients (hne : buildingIds ≠ []) :
    userId ∈ adminRecipients w orgId buildingIds audiences ↔
      .ADMINS ∈ audiences ∧ ∃ b ∈ buildingIds, InAudience w orgId b userId .ADMINS := by
  rw [adminRecipients]
  split_ifs with hadmins
  · simp only [List.mem_filter, mem_getAdminUserIds, decide_eq_true_eq,
      mem_loadBuildingLinkedIds hne, InAudience, hadmins, true_and]
    constructor
    · rintro ⟨hadmin, b, hb, hlinked⟩
      exact ⟨b, hb, hadmin, hlinked⟩
    · rintro ⟨b, hb, hadmin, hlinked⟩
      exact ⟨hadmin, b, hb, hlinked⟩
  · simp [hadmins]

/-- The recipients are the union over the audiences, also where `ALL_USERS` returns early. -/
theorem mem_resolveRecipientUserIds (hne : buildingIds ≠ []) :
    userId ∈ resolveRecipientUserIds w orgId buildingIds audiences ↔
      ∃ audience ∈ audiences, ∃ b ∈ buildingIds, InAudience w orgId b userId audience := by
  rw [resolveRecipientUserIds]
  split_ifs with hall hlength
  · rw [mem_loadBuildingLinkedIds hne]
    constructor
    · rintro ⟨b, hb, hlinked⟩
      exact ⟨.ALL_USERS, hall, b, hb, hlinked⟩
    · rintro ⟨audience, -, b, hb, h⟩
      exact ⟨b, hb, isLinked_of_inAudience h⟩
  · exact absurd (List.length_pos_iff.mpr hne) hlength
  · rw [List.mem_eraseDups, List.mem_append, List.mem_append, mem_tenantRecipients hne,
      mem_assignedRecipients, mem_adminRecipients hne]
    constructor
    · rintro ((⟨haudience, b, hb, h⟩ | ⟨audience, haudience, -, b, hb, h⟩) | ⟨haudience, b, hb, h⟩)
      · exact ⟨_, haudience, b, hb, h⟩
      · exact ⟨audience, haudience, b, hb, h⟩
      · exact ⟨_, haudience, b, hb, h⟩
    · rintro ⟨audience, haudience, b, hb, h⟩
      cases audience with
      | TENANTS => exact .inl (.inl ⟨haudience, b, hb, h⟩)
      | ADMINS => exact .inr ⟨haudience, b, hb, h⟩
      | STAFF => exact .inl (.inr ⟨_, haudience, by decide, b, hb, h⟩)
      | MANAGERS => exact .inl (.inr ⟨_, haudience, by decide, b, hb, h⟩)
      | BUILDING_ADMINS => exact .inl (.inr ⟨_, haudience, by decide, b, hb, h⟩)
      | ALL_USERS => exact absurd haudience hall

theorem nodup_resolveRecipientUserIds (hne : buildingIds ≠ []) :
    (resolveRecipientUserIds w orgId buildingIds audiences).Nodup := by
  rw [resolveRecipientUserIds]
  split_ifs with hall hlength
  · exact Regroup.nodup_eraseDups _
  · exact absurd (List.length_pos_iff.mpr hne) hlength
  · exact Regroup.nodup_eraseDups _

end Membership

section Targets

variable {w : World} {user : AuthenticatedUser} {orgId : Id} {dto : CreateBroadcastDto}
  {targetBuildingIds : List Id}

theorem mem_getOrgBuildingIds {buildingId : Id} :
    buildingId ∈ BroadcastsRepo.getOrgBuildingIds w orgId ↔
      ∃ b ∈ w.directory.buildings, b.id = buildingId ∧ b.orgId = orgId := by
  simp only [BroadcastsRepo.getOrgBuildingIds, List.mem_map, List.mem_filter, decide_eq_true_eq,
    Table.mem_rows]
  constructor
  · rintro ⟨b, ⟨hb, horg⟩, hid⟩
    exact ⟨b, hb, hid, horg⟩
  · rintro ⟨b, hb, hid, horg⟩
    exact ⟨b, ⟨hb, horg⟩, hid⟩

theorem nodup_getOrgBuildingIds : (BroadcastsRepo.getOrgBuildingIds w orgId).Nodup :=
  w.directory.buildings.nodup.sublist (List.filter_sublist.map _)

theorem nodup_defaultBuildingIds : (defaultBuildingIds w user orgId).Nodup := by
  rw [defaultBuildingIds]
  split_ifs
  · exact nodup_getOrgBuildingIds
  · exact Regroup.nodup_eraseDups _

theorem mem_getOrgBuildingIds_of_assertMayTarget {buildingId : Id} {u : Unit}
    (h : assertMayTarget w user orgId buildingId = .ok u) :
    buildingId ∈ BroadcastsRepo.getOrgBuildingIds w orgId := by
  obtain ⟨b, hb, -⟩ := Outcome.bind_eq_ok.mp h
  obtain ⟨_, -, hb⟩ := Outcome.bind_eq_ok.mp hb
  obtain ⟨hb, hfound⟩ := Table.findFirst_some (Outcome.orThrow_eq_ok.mp hb)
  exact mem_getOrgBuildingIds.mpr ⟨b, hb, of_decide_eq_true hfound⟩

/-- What is known of the buildings a broadcast goes to: they repeat only where the request
repeats, and the sender's authority over the organisation keeps them in it. -/
structure Targets (w : World) (user : AuthenticatedUser) (orgId : Id) (dto : CreateBroadcastDto)
    (targetBuildingIds : List Id) : Prop where
  ne_nil : targetBuildingIds ≠ []
  nodup_iff : targetBuildingIds.Nodup ↔ (dto.buildingIds.getD []).Nodup
  org : hasOrgWideBroadcastAccess w user orgId = true →
    ∀ b ∈ targetBuildingIds, b ∈ BroadcastsRepo.getOrgBuildingIds w orgId

theorem targets_of_resolve (h : resolveTargetBuildingIds w user orgId dto = .ok targetBuildingIds) :
    Targets w user orgId dto targetBuildingIds := by
  rw [resolveTargetBuildingIds] at h
  split at h
  next named hnamed =>
    obtain ⟨hsome, hlength⟩ := Option.filter_eq_some_iff.mp hnamed
    obtain ⟨_, hchecks, htargets⟩ := Outcome.bind_eq_ok.mp h
    obtain rfl := Outcome.pure_eq_ok.mp htargets
    refine ⟨List.length_pos_iff.mp (of_decide_eq_true hlength), by rw [hsome, Option.getD_some], ?_⟩
    intro _ b hb
    exact mem_getOrgBuildingIds_of_assertMayTarget (Outcome.forM_eq_ok.mp hchecks b hb)
  next hnamed =>
    obtain ⟨_, hne, htargets⟩ := Outcome.bind_eq_ok.mp h
    obtain rfl := Outcome.pure_eq_ok.mp htargets
    have hempty : dto.buildingIds.getD [] = [] := by
      cases hids : dto.buildingIds with
      | none => rfl
      | some ids =>
        have hshort := Option.filter_eq_none_iff.mp hnamed ids hids
        simpa using hshort
    refine ⟨Outcome.throwIf_eq_ok.mp hne, ?_, fun hwide b hb => ?_⟩
    · rw [hempty]
      exact iff_of_true nodup_defaultBuildingIds List.nodup_nil
    · rwa [defaultBuildingIds, if_pos hwide] at hb

/-- Without repetitions the comparison of lengths is equality of sets. -/
theorem matchesOrgWideTarget_iff {orgBuildingIds : List Id} (hne : targetBuildingIds ≠ [])
    (htargets : targetBuildingIds.Nodup) (horg : orgBuildingIds.Nodup) :
    matchesOrgWideTarget targetBuildingIds orgBuildingIds = true ↔
      ∀ b, b ∈ targetBuildingIds ↔ b ∈ orgBuildingIds := by
  rw [matchesOrgWideTarget]
  constructor
  · intro h
    split_ifs at h with hzero hlength
    have hsub : targetBuildingIds ⊆ orgBuildingIds := fun b hb => by
      simpa using List.all_eq_true.mp h b hb
    have hperm : targetBuildingIds.Perm orgBuildingIds :=
      (List.subperm_of_subset htargets hsub).perm_of_length_le (not_not.mp hlength).ge
    exact fun b => hperm.mem_iff
  · intro h
    have hlength : targetBuildingIds.length = orgBuildingIds.length :=
      ((List.perm_ext_iff_of_nodup htargets horg).mpr h).length_eq
    have hpos : targetBuildingIds.length ≠ 0 := mt List.length_eq_zero_iff.mp hne
    rw [if_neg (by rw [← hlength]; tauto), if_neg (not_not.mpr hlength)]
    exact List.all_eq_true.mpr fun b hb => decide_eq_true ((h b).mp hb)

end Targets

section Claims

variable {w : World} {user : AuthenticatedUser} {orgId broadcastId : Id}
  {dto : CreateBroadcastDto} {broadcast : BroadcastInput} {fanout : FanoutRequest}

def SpansOrg (w : World) (orgId : Id) (buildingIds : List Id) : Prop :=
  ∀ id, id ∈ buildingIds ↔ ∃ b ∈ w.directory.buildings, b.id = id ∧ b.orgId = orgId

/-- The broadcast says of itself, and reaches, what it was asked for. -/
structure IsAsAsked (w : World) (user : AuthenticatedUser) (orgId : Id) (dto : CreateBroadcastDto)
    (broadcast : BroadcastInput) (fanout : FanoutRequest) : Prop where
  org_wide : broadcast.metadata.scope = .org_wide ↔
    hasOrgWideBroadcastAccess w user orgId = true ∧ SpansOrg w orgId broadcast.buildingIds
  buildingCount : broadcast.metadata.buildingCount = broadcast.buildingIds.toFinset.card
  nodup : fanout.userIds.Nodup
  recipients : ∀ userId, userId ∈ fanout.userIds ↔
    ∃ audience ∈ normalizeAudiences dto.audiences, ∃ b ∈ broadcast.buildingIds,
      InAudience w orgId b userId audience

theorem createBroadcast_ok
    (h : createBroadcast w user orgId dto broadcastId = .ok (broadcast, fanout)) :
    resolveTargetBuildingIds w user orgId dto = .ok broadcast.buildingIds ∧
      broadcast.metadata = metadataOf w user orgId dto broadcast.buildingIds ∧
      fanout.userIds = resolveRecipientUserIds w orgId broadcast.buildingIds
        (normalizeAudiences dto.audiences) := by
  obtain ⟨targets, htargets, h⟩ := Outcome.bind_eq_ok.mp h
  obtain ⟨_, -, h⟩ := Outcome.bind_eq_ok.mp h
  obtain ⟨rfl, rfl⟩ := Prod.mk.inj (Outcome.pure_eq_ok.mp h)
  exact ⟨htargets, rfl, rfl⟩

theorem scope_eq_org_wide {buildingIds : List Id} :
    (metadataOf w user orgId dto buildingIds).scope = .org_wide ↔
      hasOrgWideBroadcastAccess w user orgId = true ∧ matchesOrgWideTarget buildingIds
        (BroadcastsRepo.getOrgBuildingIds w orgId) = true := by
  rw [← Bool.and_eq_true]
  simp only [metadataOf, buildBroadcastMetadata, inferBroadcastMetadataScope]
  split_ifs with hwide hone
  · exact iff_of_true rfl hwide
  · exact iff_of_false nofun hwide
  · exact iff_of_false nofun hwide

/-- A broadcast is as asked exactly where the request repeats no building. -/
theorem createBroadcast_isAsAsked_iff
    (h : createBroadcast w user orgId dto broadcastId = .ok (broadcast, fanout)) :
    IsAsAsked w user orgId dto broadcast fanout ↔ (dto.buildingIds.getD []).Nodup := by
  obtain ⟨htargets, hmetadata, hrecipients⟩ := createBroadcast_ok h
  have htargets := targets_of_resolve htargets
  have hcount : broadcast.metadata.buildingCount = broadcast.buildingIds.length := by
    rw [hmetadata]
    rfl
  rw [← htargets.nodup_iff]
  constructor
  · intro hasked
    have hcard := hcount.symm.trans hasked.buildingCount
    exact Multiset.coe_nodup.mp (Multiset.toFinset_card_eq_card_iff_nodup.mp hcard.symm)
  · intro hnodup
    refine ⟨?_, hcount.trans (List.toFinset_card_of_nodup hnodup).symm, ?_, fun userId => ?_⟩
    · rw [hmetadata, scope_eq_org_wide,
        matchesOrgWideTarget_iff htargets.ne_nil hnodup nodup_getOrgBuildingIds]
      simp only [SpansOrg, mem_getOrgBuildingIds]
    · rw [hrecipients]
      exact nodup_resolveRecipientUserIds htargets.ne_nil
    · rw [hrecipients]
      exact mem_resolveRecipientUserIds htargets.ne_nil

/-- An organisation with two towers, one of them inhabited, and an admin of all of it. -/
def twoTowers : World where
  access :=
    { permissions := ⟨[⟨"write", "broadcasts.write"⟩], List.nodup_singleton _⟩
      roleTemplates := ⟨[⟨"admin", some "org", "org_admin", true, .ORG⟩], List.nodup_singleton _⟩
      rolePermissions := ⟨[⟨"admin", "write"⟩], List.nodup_singleton _⟩
      userAccessAssignments := ⟨[⟨"assigned", "anna", "admin", .ORG, none⟩], List.nodup_singleton _⟩
      userPermissions := .empty _ }
  directory :=
    { Directory.empty with
      buildings := ⟨[⟨"east", "org", "East", "Dubai"⟩, ⟨"west", "org", "West", "Dubai"⟩], by simp⟩
      users := ⟨[⟨"rita", "rita@example.com", none, none, some "org", true⟩],
        List.nodup_singleton _⟩ }
  occupancies := ⟨[⟨"o", "east", "u", "rita", .ACTIVE, 0, none, 0, 0⟩], List.nodup_singleton _⟩
  leases := .empty _

def newsTo (buildingIds : List Id) : CreateBroadcastDto where
  title := "Water shut-off"
  buildingIds := some buildingIds

def sentTo (buildingIds : List Id) : BroadcastInput where
  orgId := "org"
  senderUserId := "anna"
  title := "Water shut-off"
  body := none
  buildingIds
  recipientCount := 1
  metadata := ⟨[.TENANTS], .org_wide, 2, "Tenants"⟩

def fannedOutTo (buildingIds : List Id) : FanoutRequest where
  broadcastId := "news"
  orgId := "org"
  userIds := ["rita"]
  title := "Water shut-off"
  body := none
  senderUserId := "anna"
  buildingIds
  metadata := ⟨"news", buildingIds, "anna", (sentTo buildingIds).metadata⟩

theorem news_to_both_towers_isAsAsked :
    IsAsAsked twoTowers ⟨"anna", some "org"⟩ "org" (newsTo ["east", "west"])
      (sentTo ["east", "west"]) (fannedOutTo ["east", "west"]) := by
  have hsent : createBroadcast twoTowers ⟨"anna", some "org"⟩ "org" (newsTo ["east", "west"])
      "news" = .ok (sentTo ["east", "west"], fannedOutTo ["east", "west"]) := by
    decide +kernel
  exact (createBroadcast_isAsAsked_iff hsent).mpr (by decide)

/-- Naming one of two towers twice is called a broadcast to the whole organisation. -/
theorem tower_named_twice_org_wide : ¬ ∀ (w : World) (user : AuthenticatedUser) (orgId : Id)
    (dto : CreateBroadcastDto) (broadcastId : Id) (broadcast : BroadcastInput)
    (fanout : FanoutRequest), createBroadcast w user orgId dto broadcastId =
      .ok (broadcast, fanout) → IsAsAsked w user orgId dto broadcast fanout := by
  intro h
  have hsent : createBroadcast twoTowers ⟨"anna", some "org"⟩ "org" (newsTo ["east", "east"])
      "news" = .ok (sentTo ["east", "east"], fannedOutTo ["east", "east"]) := by
    decide +kernel
  have hasked := h _ _ _ _ _ _ _ hsent
  have hwest := ((hasked.org_wide.mp rfl).2 "west").mpr
    ⟨⟨"west", "org", "West", "Dubai"⟩, by decide, rfl, rfl⟩
  exact absurd hwest (by decide)

end Claims

end Towerdesk.Broadcasts
