import Towerdesk.Messaging.Store
import Towerdesk.Access.Scopes
import Towerdesk.Portals

/-!
# Who may start a conversation

A conversation between members of an organisation is started by someone with messaging
authority over all of it, or over one building for its residents. The first is read off the
effective permissions, which also hold what the user's overrides allow and what roles of
other organisations give.
-/

namespace Towerdesk

def ORG_SCOPED_MESSAGING_PERMISSION : String := "messaging.write"

namespace World

variable (w : World)

def validateUsersInOrg (userIds : List Id) (orgId : Id) : List Id :=
  (w.directory.users.rows.filter fun u =>
    u.id ∈ userIds ∧ u.orgId = some orgId ∧ u.isActive).map (·.id)

def isActiveUser (userId : Id) : Bool := (w.directory.users.findUnique userId).any (·.isActive)

/-- The role template of an assignment, when it carries the permission. -/
def roleWithPermission (permissionKey : String) (a : UserAccessAssignment) : Option RoleTemplate :=
  (w.access.roleTemplates.findUnique a.roleTemplateId).filter fun r =>
    permissionKey ∈ w.access.permissionKeysOfRole r.id

def getUserBuildingIdsWithPermission (userId orgId : Id) (permissionKey : String) : List Id :=
  ((w.access.userAccessAssignments.rows.filter fun a =>
    a.userId = userId ∧ a.scopeType = .BUILDING ∧ (w.roleWithPermission permissionKey a).any fun r =>
      r.orgId = some orgId ∧ r.scopeType = .BUILDING).filterMap fun a =>
        truthy a.scopeId).eraseDups

def getActiveResidentUserIdsInBuilding (buildingId : Id) : List Id :=
  ((w.occupancies.rows.filter fun o =>
    o.buildingId = buildingId ∧ o.status = .ACTIVE ∧ w.isActiveUser o.residentUserId).map
      (·.residentUserId)).eraseDups

end World

namespace Messaging

section Service

variable (env : Env) (w : World) (db : Db)

def staffUserIds (userIds : List Id) (orgId : Id) : List Id :=
  ((w.access.userAccessAssignments.rows.filter fun a =>
    a.userId ∈ userIds ∧ w.isActiveUser a.userId ∧
      (w.roleWithPermission "messaging.write" a).any fun r => r.orgId = some orgId).map
        (·.userId)).eraseDups

def tenantUserIds (userIds : List Id) (orgId : Id) : List Id :=
  ((w.occupancies.rows.filter fun o =>
    o.residentUserId ∈ userIds ∧ o.status = .ACTIVE ∧ w.isActiveUser o.residentUserId ∧
      (w.directory.buildings.findUnique o.buildingId).any (·.orgId = orgId)).map
        (·.residentUserId)).eraseDups

def ownerUserIds (userIds : List Id) (orgId : Id) : List Id :=
  ((w.directory.ownerAccessGrants.rows.filter fun g =>
    g.userId.any (· ∈ userIds) ∧ g.status = .ACTIVE ∧
      (w.directory.owners.findUnique g.ownerId).any fun o => o.orgId = orgId ∧ o.isActive).filterMap
        fun g => truthy g.userId).eraseDups

def getConversationParticipantRoleBuckets (userIds : List Id) (orgId : Id) :
    ParticipantRoleBuckets where
  staffUserIds := staffUserIds w userIds orgId
  tenantUserIds := tenantUserIds w userIds orgId
  ownerUserIds := ownerUserIds w userIds orgId

structure CreateConversationDto where
  participantUserIds : List Id
  subject : Option String := none
  message : String
  buildingId : Option Id := none

variable (user : AuthenticatedUser) (orgId : Id) (dto : CreateConversationDto)

def hasOrgWideMessagingAccess : Bool :=
  ORG_SCOPED_MESSAGING_PERMISSION ∈
    w.access.getUserEffectivePermissions user.sub (some orgId) none

def validParticipantIds : List Id := w.validateUsersInOrg dto.participantUserIds orgId

def allParticipantIds : List Id := (user.sub :: validParticipantIds w orgId dto).eraseDups

/-- What is asked of a sender whose authority does not span the organisation. -/
def assertMayMessageResidents (buildingId : Id) : Result Unit := do
  Outcome.throwIf (buildingId ∉
      w.getUserBuildingIdsWithPermission user.sub orgId ORG_SCOPED_MESSAGING_PERMISSION)
    (.forbidden "You do not have permission to message residents in this building")
  let invalidParticipants := (validParticipantIds w orgId dto).filter fun id =>
    id ∉ w.getActiveResidentUserIdsInBuilding buildingId ∧ id ≠ user.sub
  Outcome.throwIf (invalidParticipants ≠ [])
    (.forbidden "Some participants are not residents in this building")

def assertBuildingScope : Result Unit :=
  match truthy dto.buildingId with
  | none => Outcome.throwIf (hasOrgWideMessagingAccess w user orgId = false)
      (.badRequest "buildingId is required for building-scoped messaging")
  | some buildingId => do
    let _ ← w.directory.assertBuildingInOrg buildingId orgId
    if hasOrgWideMessagingAccess w user orgId then pure ()
    else assertMayMessageResidents w user orgId dto buildingId

def newConversation (classification : Classification) : NewConversation where
  toClassification := classification
  orgId
  buildingId := dto.buildingId
  subject := dto.subject
  participantUserIds := allParticipantIds w user orgId dto
  senderUserId := user.sub
  content := dto.message

def createConversation : Result (Db × ConversationWithRelations) := do
  Outcome.throwIf (validParticipantIds w orgId dto = []) (.badRequest "No valid participants found")
  assertBuildingScope w user orgId dto
  let classification ← Outcome.orThrow (inferConversationClassification
      (getConversationParticipantRoleBuckets w (allParticipantIds w user orgId dto) orgId))
    (.badRequest "Conversation participants do not map to a supported conversation relationship")
  createConversationRows env db (newConversation w user orgId dto classification)

end Service

section Roles

variable (w : World)

/-- The user has an ORG-scoped role of the organisation that carries the permission. -/
def HoldsOrgRole (userId orgId : Id) : Prop :=
  ∃ a ∈ w.access.userAccessAssignments, a.userId = userId ∧
    ∃ r, w.roleWithPermission ORG_SCOPED_MESSAGING_PERMISSION a = some r ∧
      r.scopeType = .ORG ∧ r.orgId = some orgId

/-- The user is assigned, at the building, a BUILDING-scoped role of the organisation that
carries the permission. -/
def HoldsBuildingRole (userId orgId buildingId : Id) : Prop :=
  ∃ a ∈ w.access.userAccessAssignments, a.userId = userId ∧ a.scopeType = .BUILDING ∧
    a.scopeId = some buildingId ∧
    ∃ r, w.roleWithPermission ORG_SCOPED_MESSAGING_PERMISSION a = some r ∧
      r.scopeType = .BUILDING ∧ r.orgId = some orgId

def ActiveResident (buildingId userId : Id) : Prop :=
  ∃ o ∈ w.occupancies, o.buildingId = buildingId ∧ o.residentUserId = userId ∧
    o.status = .ACTIVE ∧ w.isActiveUser userId = true

/-- The authority to start a conversation with these participants. -/
def Authorized (userId orgId : Id) (buildingId : Option Id) (participantIds : List Id) : Prop :=
  HoldsOrgRole w userId orgId ∨ ∃ building, truthy buildingId = some building ∧
    HoldsBuildingRole w userId orgId building ∧
      ∀ id ∈ participantIds, id ≠ userId → ActiveResident w building id

/-- Nothing but an override gives the user the permission. -/
def OnlyOverride (userId : Id) : Prop :=
  ORG_SCOPED_MESSAGING_PERMISSION ∈ w.access.allowedKeys userId ∧
    ∀ a ∈ w.access.userAccessAssignments, a.userId = userId →
      w.roleWithPermission ORG_SCOPED_MESSAGING_PERMISSION a = none

/-- The effective permissions for the organisation hold the key through an override, or through
a role of another organisation. -/
def StrayAuthority (userId orgId : Id) : Prop :=
  ORG_SCOPED_MESSAGING_PERMISSION ∈ w.access.allowedKeys userId ∨
    (ORG_SCOPED_MESSAGING_PERMISSION ∉ w.access.overriddenKeys userId ∧
      w.access.Grants userId (fun a r => a.scopeType = .ORG ∧ a.scopeId = none ∧
        r.scopeType = .ORG ∧ r.orgId ≠ some orgId) ORG_SCOPED_MESSAGING_PERMISSION)

variable {w} {userId orgId buildingId : Id}

theorem mem_getUserBuildingIdsWithPermission :
    buildingId ∈ w.getUserBuildingIdsWithPermission userId orgId ORG_SCOPED_MESSAGING_PERMISSION ↔
      buildingId ≠ "" ∧ HoldsBuildingRole w userId orgId buildingId := by
  simp only [World.getUserBuildingIdsWithPermission, List.mem_eraseDups, List.mem_filterMap,
    List.mem_filter, decide_eq_true_eq, truthy_eq_some, Option.any_eq_true, HoldsBuildingRole]
  constructor
  · rintro ⟨a, ⟨ha, hu, hs, r, hr, horg, hrole⟩, hid, hne⟩
    exact ⟨hne, a, ha, hu, hs, hid, r, hr, hrole, horg⟩
  · rintro ⟨hne, a, ha, hu, hs, hid, r, hr, hrole, horg⟩
    exact ⟨a, ⟨ha, hu, hs, r, hr, horg, hrole⟩, hid, hne⟩

theorem mem_getActiveResidentUserIdsInBuilding :
    userId ∈ w.getActiveResidentUserIdsInBuilding buildingId ↔
      ActiveResident w buildingId userId := by
  simp only [World.getActiveResidentUserIdsInBuilding, List.mem_eraseDups, List.mem_map,
    List.mem_filter, decide_eq_true_eq, ActiveResident, Table.mem_rows]
  constructor
  · rintro ⟨o, ⟨ho, hb, hs, hactive⟩, rfl⟩
    exact ⟨o, ho, hb, rfl, hs, hactive⟩
  · rintro ⟨o, ho, hb, rfl, hs, hactive⟩
    exact ⟨o, ⟨ho, hb, hs, hactive⟩, rfl⟩

theorem holdsOrgRole_of_grants {p : UserAccessAssignment → RoleTemplate → Prop}
    (h : w.access.Grants userId p ORG_SCOPED_MESSAGING_PERMISSION)
    (hp : ∀ a r, p a r → r.scopeType = .ORG ∧ r.orgId = some orgId) :
    HoldsOrgRole w userId orgId := by
  obtain ⟨a, ha, hu, r, hr, hid, -, hpar, hkey⟩ := h
  have hfind : w.access.roleTemplates.findUnique a.roleTemplateId = some r :=
    Table.findUnique_eq_some.mpr ⟨hr, hid⟩
  refine ⟨a, ha, hu, r, ?_, hp a r hpar⟩
  rw [World.roleWithPermission, hfind]
  exact Option.filter_eq_some_iff.mpr ⟨rfl, decide_eq_true hkey⟩

theorem stray_or_holdsOrgRole {user : AuthenticatedUser}
    (h : hasOrgWideMessagingAccess w user orgId = true) :
    StrayAuthority w user.sub orgId ∨ HoldsOrgRole w user.sub orgId := by
  have hmem : ORG_SCOPED_MESSAGING_PERMISSION ∈
      w.access.effectivePermissionsIn user.sub (some orgId) (.within none) := of_decide_eq_true h
  rcases AccessTables.mem_effectivePermissionsIn_split.mp hmem with hallow | ⟨hover, hgrant⟩
  · exact .inl (.inl hallow)
  · obtain ⟨a, ha, hu, r, hr, hid, hv, hscope, hkey⟩ := id hgrant
    have hin : a.scopeType = .ORG ∧ a.scopeId = none ∧ r.scopeType = .ORG := of_decide_eq_true hscope
    by_cases horg : r.orgId = some orgId
    · refine .inr (holdsOrgRole_of_grants (p := fun _ r' => r' = r) ?_ ?_)
      · exact ⟨a, ha, hu, r, hr, hid, hv, rfl, hkey⟩
      · rintro _ _ rfl
        exact ⟨hin.2.2, horg⟩
    · exact .inl (.inr ⟨hover, a, ha, hu, r, hr, hid, hv, ⟨hin.1, hin.2.1, hin.2.2, horg⟩, hkey⟩)

theorem StrayAuthority.hasOrgWideMessagingAccess {user : AuthenticatedUser}
    (h : StrayAuthority w user.sub orgId) : hasOrgWideMessagingAccess w user orgId = true := by
  have hmem : ORG_SCOPED_MESSAGING_PERMISSION ∈
      w.access.effectivePermissionsIn user.sub (some orgId) (.within none) := by
    rw [AccessTables.mem_effectivePermissionsIn_split]
    refine h.imp id fun ⟨hover, hgrant⟩ => ⟨hover, hgrant.mono fun a r hpar => ?_⟩
    exact decide_eq_true ⟨hpar.1, hpar.2.1, hpar.2.2.1⟩
  exact decide_eq_true hmem

theorem OnlyOverride.strayAuthority (h : OnlyOverride w userId) :
    StrayAuthority w userId orgId :=
  .inl h.1

theorem OnlyOverride.not_authorized (h : OnlyOverride w userId) {building : Option Id}
    {participantIds : List Id} : ¬ Authorized w userId orgId building participantIds := by
  rintro (⟨a, ha, hu, r, hr, -⟩ | ⟨_, -, ⟨a, ha, hu, -, -, r, hr, -⟩, -⟩)
  · rw [h.2 a ha hu] at hr
    cases hr
  · rw [h.2 a ha hu] at hr
    cases hr

end Roles

section Starting

/-- The request is in order, whoever sends it. -/
structure Startable (env : Env) (w : World) (db : Db) (user : AuthenticatedUser) (orgId : Id)
    (dto : CreateConversationDto) : Prop where
  participants : validParticipantIds w orgId dto ≠ []
  building : ∀ buildingId, truthy dto.buildingId = some buildingId →
    ∃ row, w.directory.assertBuildingInOrg buildingId orgId = .ok row
  classified : ∃ classification, inferConversationClassification
      (getConversationParticipantRoleBuckets w (allParticipantIds w user orgId dto) orgId) =
        some classification ∧ (newConversation w user orgId dto classification).Storable env db

/-- The authority of a sender whose role spans one building. -/
def ScopedToBuilding (w : World) (user : AuthenticatedUser) (orgId : Id)
    (dto : CreateConversationDto) : Prop :=
  ∃ buildingId, truthy dto.buildingId = some buildingId ∧
    HoldsBuildingRole w user.sub orgId buildingId ∧
      ∀ id ∈ validParticipantIds w orgId dto, id ≠ user.sub → ActiveResident w buildingId id

/-- No role of the organisation carries the user's authority for this request. -/
structure Unbacked (w : World) (user : AuthenticatedUser) (orgId : Id)
    (dto : CreateConversationDto) : Prop where
  org : ¬ HoldsOrgRole w user.sub orgId
  building : ∀ buildingId, truthy dto.buildingId = some buildingId →
    HoldsBuildingRole w user.sub orgId buildingId →
      ∃ id ∈ validParticipantIds w orgId dto, id ≠ user.sub ∧ ¬ ActiveResident w buildingId id

variable {env : Env} {w : World} {db db' : Db} {user : AuthenticatedUser} {orgId : Id}
  {dto : CreateConversationDto} {c : ConversationWithRelations}

theorem assertMayMessageResidents_ok {buildingId : Id} (hne : buildingId ≠ "") :
    assertMayMessageResidents w user orgId dto buildingId = .ok () ↔
      HoldsBuildingRole w user.sub orgId buildingId ∧
        ∀ id ∈ validParticipantIds w orgId dto, id ≠ user.sub → ActiveResident w buildingId id := by
  have hrole : ¬ buildingId ∉ w.getUserBuildingIdsWithPermission user.sub orgId
      ORG_SCOPED_MESSAGING_PERMISSION ↔ HoldsBuildingRole w user.sub orgId buildingId := by
    rw [not_not, mem_getUserBuildingIdsWithPermission]
    exact and_iff_right hne
  have hresidents : ¬ ((validParticipantIds w orgId dto).filter fun id =>
      id ∉ w.getActiveResidentUserIdsInBuilding buildingId ∧ id ≠ user.sub) ≠ [] ↔
        ∀ id ∈ validParticipantIds w orgId dto, id ≠ user.sub → ActiveResident w buildingId id := by
    simp only [not_not, List.filter_eq_nil_iff, decide_eq_true_eq, not_and,
      mem_getActiveResidentUserIdsInBuilding, ne_eq]
    exact forall₂_congr fun id _ => not_imp_comm
  simp only [assertMayMessageResidents, Outcome.bind_eq_ok, Outcome.throwIf_eq_ok, hrole,
    hresidents, exists_const]

theorem assertBuildingScope_ok :
    assertBuildingScope w user orgId dto = .ok () ↔
      (∀ buildingId, truthy dto.buildingId = some buildingId →
        ∃ row, w.directory.assertBuildingInOrg buildingId orgId = .ok row) ∧
      (hasOrgWideMessagingAccess w user orgId = true ∨ ScopedToBuilding w user orgId dto) := by
  unfold assertBuildingScope ScopedToBuilding
  cases hbuilding : truthy dto.buildingId with
  | none => simp [Outcome.throwIf_eq_ok]
  | some buildingId =>
    have hne : buildingId ≠ "" := (truthy_eq_some.mp hbuilding).2
    simp only [Outcome.bind_eq_ok, Option.some.injEq, forall_eq', exists_eq_left']
    by_cases hwide : hasOrgWideMessagingAccess w user orgId = true
    · simp [hwide, Outcome.pure_eq_ok]
    · simp only [hwide, Bool.false_eq_true, if_false, false_or, assertMayMessageResidents_ok hne,
        exists_and_right]

theorem createConversation_ok_iff :
    (∃ created, createConversation env w db user orgId dto = .ok created) ↔
      Startable env w db user orgId dto ∧
        (hasOrgWideMessagingAccess w user orgId = true ∨ ScopedToBuilding w user orgId dto) := by
  constructor
  · rintro ⟨created, h⟩
    obtain ⟨_, hparticipants, h⟩ := Outcome.bind_eq_ok.mp h
    obtain ⟨_, hscope, h⟩ := Outcome.bind_eq_ok.mp h
    obtain ⟨classification, hclass, h⟩ := Outcome.bind_eq_ok.mp h
    obtain ⟨hbuilding, hauthority⟩ := assertBuildingScope_ok.mp hscope
    refine ⟨⟨Outcome.throwIf_eq_ok.mp hparticipants, hbuilding, classification, ?_, ?_⟩,
      hauthority⟩
    · exact Outcome.orThrow_eq_ok.mp hclass
    · exact createConversationRows_ok_iff.mp ⟨created, h⟩
  · rintro ⟨hstart, hauthority⟩
    obtain ⟨classification, hclass, hstorable⟩ := hstart.classified
    have hscope : assertBuildingScope w user orgId dto = .ok () :=
      assertBuildingScope_ok.mpr ⟨hstart.building, hauthority⟩
    refine Outcome.exists_bind_ok (a := ()) (Outcome.throwIf_eq_ok.mpr hstart.participants) ?_
    refine Outcome.exists_bind_ok hscope ?_
    refine Outcome.exists_bind_ok (Outcome.orThrow_eq_ok.mpr hclass) ?_
    exact createConversationRows_ok_iff.mpr hstorable

theorem mem_created_participants
    (h : createConversation env w db user orgId dto = .ok (db', c)) {userId : Id} :
    userId ∈ newParticipantIds db db' ↔
      userId = user.sub ∨ userId ∈ validParticipantIds w orgId dto := by
  obtain ⟨_, -, h⟩ := Outcome.bind_eq_ok.mp h
  obtain ⟨_, -, h⟩ := Outcome.bind_eq_ok.mp h
  obtain ⟨classification, -, h⟩ := Outcome.bind_eq_ok.mp h
  have hsender : user.sub ∈ allParticipantIds w user orgId dto :=
    List.mem_eraseDups.mpr List.mem_cons_self
  have hmem : userId ∈ newParticipantIds db db' ↔ userId ∈ allParticipantIds w user orgId dto :=
    mem_newParticipantIds h hsender
  rw [hmem, allParticipantIds, List.mem_eraseDups, List.mem_cons]

theorem authorized_created_iff (h : createConversation env w db user orgId dto = .ok (db', c)) :
    Authorized w user.sub orgId dto.buildingId (newParticipantIds db db') ↔
      HoldsOrgRole w user.sub orgId ∨ ScopedToBuilding w user orgId dto := by
  have hothers (buildingId : Id) :
      (∀ id ∈ newParticipantIds db db', id ≠ user.sub → ActiveResident w buildingId id) ↔
        ∀ id ∈ validParticipantIds w orgId dto, id ≠ user.sub → ActiveResident w buildingId id := by
    constructor
    · intro hall id hid
      exact hall id ((mem_created_participants h).mpr (.inr hid))
    · intro hall id hid hother
      exact hall id (((mem_created_participants h).mp hid).resolve_left hother) hother
  simp only [Authorized, ScopedToBuilding, hothers]

theorem unbacked_iff :
    Unbacked w user orgId dto ↔
      ¬ (HoldsOrgRole w user.sub orgId ∨ ScopedToBuilding w user orgId dto) := by
  rw [not_or]
  constructor
  · intro h
    refine ⟨h.org, ?_⟩
    rintro ⟨buildingId, hbuilding, hrole, hall⟩
    obtain ⟨id, hid, hother, hnot⟩ := h.building buildingId hbuilding hrole
    exact hnot (hall id hid hother)
  · rintro ⟨horg, hscoped⟩
    refine ⟨horg, fun buildingId hbuilding hrole => ?_⟩
    by_contra hnone
    refine hscoped ⟨buildingId, hbuilding, hrole, fun id hid hother => ?_⟩
    exact by_contra fun hnot => hnone ⟨id, hid, hother, hnot⟩

/-- Every conversation is started with authority, and none on an override alone, unless a request
in order comes from a user whose key is stray and whom no role of the organisation backs. -/
theorem conversations_start_with_authority_iff (env : Env) (w : World) (db : Db)
    (user : AuthenticatedUser) (orgId : Id) (dto : CreateConversationDto) :
    ((∀ db' c, createConversation env w db user orgId dto = .ok (db', c) →
        Authorized w user.sub orgId dto.buildingId (newParticipantIds db db')) ∧
      (OnlyOverride w user.sub → ∀ created,
        createConversation env w db user orgId dto ≠ .ok created)) ↔
      ¬ (StrayAuthority w user.sub orgId ∧ Startable env w db user orgId dto ∧
        Unbacked w user orgId dto) := by
  constructor
  · rintro ⟨hauthority, -⟩ ⟨hstray, hstart, hunbacked⟩
    obtain ⟨⟨db', c⟩, hcreated⟩ :=
      createConversation_ok_iff.mpr ⟨hstart, .inl hstray.hasOrgWideMessagingAccess⟩
    exact unbacked_iff.mp hunbacked
      ((authorized_created_iff hcreated).mp (hauthority db' c hcreated))
  · intro hcondition
    have hauthority : ∀ db' c, createConversation env w db user orgId dto = .ok (db', c) →
        Authorized w user.sub orgId dto.buildingId (newParticipantIds db db') := by
      intro db' c hcreated
      rw [authorized_created_iff hcreated]
      obtain ⟨hstart, hwide | hscoped⟩ := createConversation_ok_iff.mp ⟨_, hcreated⟩
      · by_contra hnot
        rcases stray_or_holdsOrgRole hwide with hstray | hrole
        · exact hcondition ⟨hstray, hstart, unbacked_iff.mpr hnot⟩
        · exact hnot (.inl hrole)
      · exact .inr hscoped
    refine ⟨hauthority, fun honly created hcreated => ?_⟩
    exact honly.not_authorized (hauthority created.1 created.2 hcreated)

/-- With nothing but an override, every request in order starts a conversation. -/
theorem OnlyOverride.createConversation_ok_iff (h : OnlyOverride w user.sub) :
    (∃ created, createConversation env w db user orgId dto = .ok created) ↔
      Startable env w db user orgId dto := by
  rw [Messaging.createConversation_ok_iff]
  exact and_iff_left (.inl h.strayAuthority.hasOrgWideMessagingAccess)

end Starting

section Baseline

def RESIDENT_BASELINE_PERMISSION_KEYS : List String :=
  ["resident.profile.read", "resident.profile.write", "resident.requests.read",
    "resident.requests.create", "resident.requests.update", "resident.requests.cancel",
    "resident.requests.comment", "resident.visitors.read", "resident.visitors.create",
    "resident.visitors.update", "resident.visitors.cancel", "resident.contracts.read",
    "resident.contracts.documents.read", "resident.contracts.documents.create",
    "resident.moves.read", "resident.moves.create", "notifications.read", "notifications.write",
    "messaging.read", "messaging.write"]

variable (t : AccessTables) (userId : Id)

def residentPermissions : List UserPermission :=
  (t.permissions.rows.filter (·.key ∈ RESIDENT_BASELINE_PERMISSION_KEYS)).map fun p =>
    ⟨userId, p.id, .ALLOW⟩

/-- `createMany` with `skipDuplicates`. -/
def ensureResidentPermissions : AccessTables where
  permissions := t.permissions
  roleTemplates := t.roleTemplates
  rolePermissions := t.rolePermissions
  userAccessAssignments := t.userAccessAssignments
  userPermissions := (residentPermissions t userId).foldl
    (fun rows row => (rows.insert row).getD rows) t.userPermissions

variable {t userId}

theorem foldl_insert_rows {l : List UserPermission} :
    ∀ {rows : Table UserPermission.key}, ((rows.rows ++ l).map UserPermission.key).Nodup →
      (l.foldl (fun rows row => (rows.insert row).getD rows) rows).rows = rows.rows ++ l := by
  induction l with
  | nil =>
    intro rows _
    rw [List.foldl_nil, List.append_nil]
  | cons row l ih =>
    intro rows hnodup
    have hfresh : ∀ b ∈ rows, b.key ≠ row.key := by
      rw [List.map_append, List.nodup_append] at hnodup
      exact fun b hb => hnodup.2.2 b.key (List.mem_map_of_mem hb) row.key List.mem_cons_self
    obtain ⟨rows', hinsert⟩ := Table.exists_insert.mpr hfresh
    have hrows := Table.insert_eq_some.mp hinsert
    rw [List.append_cons, ← hrows] at hnodup
    rw [List.foldl_cons, hinsert, Option.getD_some, ih hnodup, hrows, ← List.append_cons]

/-- A user without overrides is allowed every baseline permission there is, and no other. -/
theorem mem_allowedKeys_ensureResidentPermissions
    (hfresh : ∀ p ∈ t.userPermissions, p.userId ≠ userId) {k : String} :
    k ∈ (ensureResidentPermissions t userId).allowedKeys userId ↔
      k ∈ RESIDENT_BASELINE_PERMISSION_KEYS ∧ ∃ p ∈ t.permissions, p.key = k := by
  have hnodup : ((t.userPermissions.rows ++ residentPermissions t userId).map
      UserPermission.key).Nodup := by
    have hkeys : (residentPermissions t userId).map UserPermission.key =
        ((t.permissions.rows.filter (·.key ∈ RESIDENT_BASELINE_PERMISSION_KEYS)).map
          Permission.id).map (Prod.mk userId) := by
      rw [residentPermissions, List.map_map, List.map_map]
      rfl
    rw [List.map_append, hkeys, List.nodup_append']
    refine ⟨t.userPermissions.nodup, ?_, ?_⟩
    · exact (t.permissions.nodup.sublist (List.filter_sublist.map _)).map
        (Prod.mk_right_injective userId)
    · intro key hold hnew
      obtain ⟨p, hp, rfl⟩ := List.mem_map.mp hold
      obtain ⟨id, -, hid⟩ := List.mem_map.mp hnew
      exact hfresh p hp (congrArg Prod.fst hid).symm
  have hold : t.userPermissions.rows.filter (·.userId = userId) = [] := by
    refine List.filter_eq_nil_iff.mpr fun p hp => ?_
    simpa using hfresh p hp
  have hnew : (residentPermissions t userId).filter (·.userId = userId) =
      residentPermissions t userId := by
    refine List.filter_eq_self.mpr fun p hp => ?_
    obtain ⟨permission, -, rfl⟩ := List.mem_map.mp hp
    exact decide_eq_true rfl
  have hmem : ∀ o, o ∈ (ensureResidentPermissions t userId).userOverrides userId ↔
      o.effect = .ALLOW ∧ o.key ∈ RESIDENT_BASELINE_PERMISSION_KEYS ∧
        ∃ p ∈ t.permissions, p.key = o.key := by
    intro o
    rw [AccessTables.userOverrides, ensureResidentPermissions, foldl_insert_rows hnodup,
      List.filter_append, hold, hnew, List.nil_append, residentPermissions, List.mem_filterMap]
    constructor
    · rintro ⟨row, hrow, ho⟩
      obtain ⟨permission, hp, rfl⟩ := List.mem_map.mp hrow
      obtain ⟨hp, hbaseline⟩ := List.mem_filter.mp hp
      obtain ⟨found, hfound, rfl⟩ := Option.map_eq_some_iff.mp ho
      obtain ⟨hmem, hid⟩ := Table.findUnique_eq_some.mp hfound
      obtain rfl := Table.eq_of_key_eq hmem hp hid
      exact ⟨rfl, of_decide_eq_true hbaseline, found, hp, rfl⟩
    · rintro ⟨heffect, hbaseline, p, hp, hkey⟩
      refine ⟨⟨userId, p.id, .ALLOW⟩, List.mem_map.mpr ⟨p, List.mem_filter.mpr ⟨hp, ?_⟩, rfl⟩, ?_⟩
      · exact decide_eq_true (hkey ▸ hbaseline)
      · rw [Table.findUnique_eq_some.mpr ⟨hp, rfl⟩, Option.map_some, hkey, ← heffect]
  have hallow : ∀ o ∈ (ensureResidentPermissions t userId).userOverrides userId,
      decide (o.effect = .ALLOW) = true := fun o ho => decide_eq_true ((hmem o).mp ho).1
  rw [AccessTables.allowedKeys, AccessTables.applyOverride_eq]
  refine (Overrides.mem_applyAll_of_allows hallow).trans ?_
  simp only [Finset.notMem_empty, false_or, List.mem_map, hmem]
  constructor
  · rintro ⟨o, ⟨-, hbaseline, hp⟩, rfl⟩
    exact ⟨hbaseline, hp⟩
  · rintro ⟨hbaseline, hp⟩
    exact ⟨⟨k, .ALLOW⟩, ⟨rfl, hbaseline, hp⟩, rfl⟩

end Baseline

section Lobby

/-- A tower with a manager and a resident who was given the baseline permissions. -/
def lobbyAccess : AccessTables where
  permissions := ⟨[⟨"write", "messaging.write"⟩], List.nodup_singleton _⟩
  roleTemplates := ⟨[⟨"managers", some "org", "manager", false, .ORG⟩], List.nodup_singleton _⟩
  rolePermissions := ⟨[⟨"managers", "write"⟩], List.nodup_singleton _⟩
  userAccessAssignments := ⟨[⟨"desk", "manager", "managers", .ORG, none⟩],
    List.nodup_singleton _⟩
  userPermissions := .empty _

def lobby : World where
  access := ensureResidentPermissions lobbyAccess "resident"
  directory := { Directory.empty with
    buildings := ⟨[⟨"building", "org", "Tower", "City"⟩], List.nodup_singleton _⟩
    users := ⟨[⟨"manager", "manager@example.com", none, none, some "org", true⟩,
      ⟨"resident", "resident@example.com", none, none, some "org", true⟩], by decide⟩ }
  occupancies := ⟨[⟨"occupancy", "building", "unit", "resident", .ACTIVE, 0, none, 0, 0⟩],
    List.nodup_singleton _⟩
  leases := .empty _

def lobbyDb : Db where
  orgs := ⟨[⟨"org", "Org"⟩], List.nodup_singleton _⟩
  buildings := ⟨[⟨"building", "Tower"⟩], List.nodup_singleton _⟩
  users := ⟨[⟨"manager", none, none⟩, ⟨"resident", none, none⟩], by decide⟩
  conversations := .empty _
  participants := .empty _
  messages := .empty _

theorem resident_onlyOverride : OnlyOverride lobby "resident" := by
  refine ⟨?_, by decide⟩
  refine (mem_allowedKeys_ensureResidentPermissions fun p hp => absurd hp (Table.not_mem_empty p)).mpr
    ⟨by decide, ⟨"write", "messaging.write"⟩, List.mem_singleton_self _, rfl⟩

/-- The resident writes to the manager with no role at all. -/
theorem conversation_started_on_override : ¬ ∀ (env : Env) (w : World) (db : Db)
    (user : AuthenticatedUser) (orgId : Id) (dto : CreateConversationDto),
    (∀ db' c, createConversation env w db user orgId dto = .ok (db', c) →
      Authorized w user.sub orgId dto.buildingId (newParticipantIds db db')) ∧
    (OnlyOverride w user.sub → ∀ created,
      createConversation env w db user orgId dto ≠ .ok created) := by
  intro h
  obtain ⟨-, hnever⟩ := h ⟨.epoch, .epoch, "conversation", "message"⟩ lobby lobbyDb
    ⟨"resident", some "org"⟩ "org" { participantUserIds := ["manager"], message := "Hello" }
  have hstarted : (createConversation ⟨.epoch, .epoch, "conversation", "message"⟩ lobby lobbyDb
      ⟨"resident", some "org"⟩ "org" { participantUserIds := ["manager"], message := "Hello" }).toOption
        ≠ none := by
    decide +kernel
  obtain ⟨created, hcreated⟩ := Option.ne_none_iff_exists'.mp hstarted
  refine hnever resident_onlyOverride created ?_
  revert hcreated
  generalize createConversation _ lobby lobbyDb _ _ _ = result
  intro hresult
  cases result with
  | error e => cases hresult
  | ok c => exact congrArg Except.ok (Option.some.inj hresult)

end Lobby

end Messaging

end Towerdesk
