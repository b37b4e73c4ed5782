import Towerdesk.Access.Scopes
import Towerdesk.Access.Isolation
import Towerdesk.Leases.Scene

/-!
# Who reviews move requests

The assertion in front of a review goes by effective permissions at the request's
building. The inbox counts by effective permissions of the organisation and by roles at
buildings, and the audience of a new request is found by roles alone; both read the
roles that carry the literal key, hidden or overridden as they may be.
-/

namespace Towerdesk.Leases

section Inbox

variable (env : Env) (db : Db)

def getManagedBuildingIds (orgId userId : Id) : List Id :=
  ((env.access.userAccessAssignments.rows.filter fun a =>
      a.userId = userId ∧ a.scopeType = .BUILDING ∧
        (env.access.roleTemplates.findUnique a.roleTemplateId).any fun r =>
          r.orgId = some orgId ∧ r.scopeType = .BUILDING ∧
            MOVE_REVIEW_PERMISSION ∈ env.access.permissionKeysOfRole r.id).filterMap
    fun a => truthy a.scopeId).dedup

def canReviewAll (orgId userId : Id) : Bool :=
  hasAllPermissionMatches (env.access.getUserEffectivePermissions userId (some orgId) none)
    [MOVE_REVIEW_PERMISSION]

/-- `where` of the two counts. -/
def inboxWhere (orgId userId : Id) (r : MoveRequest) : Bool :=
  r.orgId = orgId ∧ r.status = .PENDING ∧
    (canReviewAll env orgId userId ∨ r.buildingId ∈ getManagedBuildingIds env orgId userId)

def inboxRequests (kind : MoveRequestKind) (orgId userId : Id) : List MoveRequest :=
  (db.moveRequests kind).table.rows.filter (inboxWhere env orgId userId)

structure MoveRequestInboxCount where
  moveInCount : ℕ
  moveOutCount : ℕ
  totalCount : ℕ
deriving DecidableEq, Repr

def getMoveRequestInboxCount (user : Option AuthenticatedUser) : Result MoveRequestInboxCount := do
  let orgId ← assertOrgScope user
  let userId ← assertUserId user
  let buildingIds :=
    if canReviewAll env orgId userId then [] else getManagedBuildingIds env orgId userId
  if !canReviewAll env orgId userId && buildingIds.isEmpty then return ⟨0, 0, 0⟩
  let moveInCount := (inboxRequests env db .MOVE_IN orgId userId).length
  let moveOutCount := (inboxRequests env db .MOVE_OUT orgId userId).length
  return ⟨moveInCount, moveOutCount, moveInCount + moveOutCount⟩

end Inbox

section Authority

/-- The keys that match the review permission. -/
def REVIEW_KEYS : List String := MOVE_REVIEW_PERMISSION :: PERMISSION_ALIASES MOVE_REVIEW_PERMISSION

variable (t : AccessTables) (userId : Id) (orgId : Id)

def AllowsReview : Prop := ∃ k ∈ REVIEW_KEYS, k ∈ t.allowedKeys userId

/-- A visible role assigned as `p` says carries one of the keys, and no override decides it. -/
def GrantsReview (p : UserAccessAssignment → RoleTemplate → Prop) : Prop :=
  ∃ k ∈ REVIEW_KEYS, k ∉ t.overriddenKeys userId ∧ t.Grants userId p k

def OrgRole (a : UserAccessAssignment) (r : RoleTemplate) : Prop :=
  a.scopeType = .ORG ∧ a.scopeId = none ∧ r.scopeType = .ORG

def BuildingRole (buildingId : Id) (a : UserAccessAssignment) (r : RoleTemplate) : Prop :=
  a.scopeType = .BUILDING ∧ a.scopeId = some buildingId ∧ r.scopeType = .BUILDING

/-- A role of the organisation, visible or hidden, carries the literal key. -/
def HoldsReviewRole (p : UserAccessAssignment → RoleTemplate → Prop) : Prop :=
  ∃ a ∈ t.userAccessAssignments, a.userId = userId ∧
    ∃ r ∈ t.roleTemplates, r.id = a.roleTemplateId ∧ r.orgId = some orgId ∧ p a r ∧
      MOVE_REVIEW_PERMISSION ∈ t.permissionKeysOfRole r.id

/-- The user may review at the organisation's own word: by an override or a visible role of
the organisation, at ORG scope or at the building. -/
def MayReviewAt (buildingId : Id) : Prop :=
  AllowsReview t userId ∨
    GrantsReview t userId (fun a r => r.orgId = some orgId ∧ (OrgRole a r ∨ BuildingRole buildingId a r))

end Authority

variable {env : Env} {db : Db} {orgId userId buildingId : Id}

theorem hasAllPermissionMatches_review {effective : Finset String} :
    hasAllPermissionMatches effective [MOVE_REVIEW_PERMISSION] = true ↔
      ∃ k ∈ REVIEW_KEYS, k ∈ effective := by
  simp [hasAllPermissionMatches, hasPermissionMatch, REVIEW_KEYS]

theorem matches_review_iff {scope : AccessScope} :
    hasAllPermissionMatches (env.access.effectivePermissionsIn userId (some orgId) scope)
        [MOVE_REVIEW_PERMISSION] = true ↔
      AllowsReview env.access userId ∨
        GrantsReview env.access userId (fun a r => scope.includes (some orgId) a r = true) := by
  rw [hasAllPermissionMatches_review]
  simp only [AccessTables.mem_effectivePermissionsIn_split, AllowsReview, GrantsReview, and_or_left,
    exists_or]

theorem canReviewAll_iff :
    canReviewAll env orgId userId = true ↔
      AllowsReview env.access userId ∨ GrantsReview env.access userId OrgRole := by
  have hmatch : hasAllPermissionMatches
      (env.access.effectivePermissionsIn userId (some orgId) (.within none))
      [MOVE_REVIEW_PERMISSION] = true ↔ _ := matches_review_iff
  simp only [AccessTables.includes_org] at hmatch
  exact hmatch

theorem assertAssigned_review_eq (huser : userId ≠ "") (horg : orgId ≠ "") :
    assertAssignedMoveManagementAccess env (some ⟨userId, some orgId⟩) buildingId
        MOVE_REVIEW_PERMISSION = .ok () ↔
      AllowsReview env.access userId ∨ GrantsReview env.access userId
        (fun a r => (AccessScope.within (some buildingId)).includes (some orgId) a r = true) := by
  have hsub : assertUserId (some ⟨userId, some orgId⟩) = .ok userId :=
    Outcome.orThrow_eq_ok.mpr (truthy_eq_some.mpr ⟨rfl, huser⟩)
  have hscope : assertOrgScope (some ⟨userId, some orgId⟩) = .ok orgId :=
    Outcome.orThrow_eq_ok.mpr (truthy_eq_some.mpr ⟨rfl, horg⟩)
  rw [← matches_review_iff]
  simp only [assertAssignedMoveManagementAccess, Outcome.bind_eq_ok, hsub, hscope,
    Except.ok.injEq, exists_eq_left', Outcome.throwIf_eq_ok, not_not]
  rfl

theorem assertAssigned_review_iff (huser : userId ≠ "") (horg : orgId ≠ "")
    (hbuilding : buildingId ≠ "") :
    assertAssignedMoveManagementAccess env (some ⟨userId, some orgId⟩) buildingId
        MOVE_REVIEW_PERMISSION = .ok () ↔ MayReviewAt env.access userId orgId buildingId := by
  rw [assertAssigned_review_eq huser horg]
  unfold MayReviewAt
  simp only [AccessTables.includes_building hbuilding]
  rfl

theorem assertAssigned_review_without_building (huser : userId ≠ "") (horg : orgId ≠ "") :
    assertAssignedMoveManagementAccess env (some ⟨userId, some orgId⟩) ""
        MOVE_REVIEW_PERMISSION = .ok () ↔ canReviewAll env orgId userId = true := by
  rw [assertAssigned_review_eq huser horg, canReviewAll_iff]
  have hin (a : UserAccessAssignment) (r : RoleTemplate) :
      ((AccessScope.within (some "")).includes (some orgId) a r = true) = OrgRole a r :=
    propext AccessTables.includes_org
  simp only [hin]

theorem mem_getManagedBuildingIds :
    buildingId ∈ getManagedBuildingIds env orgId userId ↔
      buildingId ≠ "" ∧ HoldsReviewRole env.access userId orgId (BuildingRole buildingId) := by
  simp only [getManagedBuildingIds, List.mem_dedup, List.mem_filterMap, List.mem_filter,
    decide_eq_true_eq, truthy_eq_some, Option.any_eq_true, Table.findUnique_eq_some,
    HoldsReviewRole, BuildingRole, Table.mem_rows]
  constructor
  · rintro ⟨a, ⟨ha, hu, htype, r, ⟨hr, hid⟩, horg, hrole, hkey⟩, hscope, hne⟩
    exact ⟨hne, a, ha, hu, r, hr, hid, horg, ⟨htype, hscope, hrole⟩, hkey⟩
  · rintro ⟨hne, a, ha, hu, r, hr, hid, horg, ⟨htype, hscope, hrole⟩, hkey⟩
    exact ⟨a, ⟨ha, hu, htype, r, ⟨hr, hid⟩, horg, hrole, hkey⟩, hscope, hne⟩

def ActiveMember (db : Db) (orgId userId : Id) : Prop :=
  ∃ u, db.directory.users.findUnique userId = some u ∧ u.orgId = some orgId ∧ u.isActive = true

theorem mem_resolveMoveRequestRecipients :
    userId ∈ resolveMoveRequestRecipients env db orgId buildingId ↔
      ActiveMember db orgId userId ∧
        (HoldsReviewRole env.access userId orgId (BuildingRole buildingId) ∨
          HoldsReviewRole env.access userId orgId OrgRole) := by
  simp only [resolveMoveRequestRecipients, List.mem_reverse, List.mem_dedup, List.mem_append,
    List.mem_map, List.mem_filter, decide_eq_true_eq, Option.any_eq_true,
    Table.findUnique_eq_some, HoldsReviewRole, BuildingRole, OrgRole, ActiveMember, Table.mem_rows]
  constructor
  · rintro (⟨a, ⟨ha, htype, hscope, ⟨r, ⟨hr, hid⟩, horg, hrole, hkey⟩, u, hu, hactive⟩, rfl⟩ |
      ⟨a, ⟨ha, htype, hscope, ⟨r, ⟨hr, hid⟩, horg, hrole, hkey⟩, u, hu, hactive⟩, rfl⟩)
    · exact ⟨⟨u, hu, hactive⟩, .inl ⟨a, ha, rfl, r, hr, hid, horg, ⟨htype, hscope, hrole⟩, hkey⟩⟩
    · exact ⟨⟨u, hu, hactive⟩, .inr ⟨a, ha, rfl, r, hr, hid, horg, ⟨htype, hscope, hrole⟩, hkey⟩⟩
  · rintro ⟨⟨u, hu, hactive⟩,
      ⟨a, ha, rfl, r, hr, hid, horg, ⟨htype, hscope, hrole⟩, hkey⟩ |
      ⟨a, ha, rfl, r, hr, hid, horg, ⟨htype, hscope, hrole⟩, hkey⟩⟩
    · exact .inl ⟨a, ⟨ha, htype, hscope, ⟨r, ⟨hr, hid⟩, horg, hrole, hkey⟩, u, hu, hactive⟩, rfl⟩
    · exact .inr ⟨a, ⟨ha, htype, hscope, ⟨r, ⟨hr, hid⟩, horg, hrole, hkey⟩, u, hu, hactive⟩, rfl⟩

section Agreement

variable (env : Env) (db : Db) (orgId : Id)

/-- The inbox counts exactly the pending requests the user is let to review. -/
def InboxExact (userId : Id) : Prop :=
  ∀ kind, ∀ r ∈ (db.moveRequests kind).table,
    (r ∈ inboxRequests env db kind orgId userId ↔ r.orgId = orgId ∧ r.status = .PENDING ∧
      assertAssignedMoveManagementAccess env (some ⟨userId, some orgId⟩) r.buildingId
        MOVE_REVIEW_PERMISSION = .ok ())

/-- A request is announced to exactly the active users who are let to review it. -/
def AudienceExact (buildingId : Id) : Prop :=
  ∀ userId, userId ≠ "" →
    (userId ∈ resolveMoveRequestRecipients env db orgId buildingId ↔
      ActiveMember db orgId userId ∧
        assertAssignedMoveManagementAccess env (some ⟨userId, some orgId⟩) buildingId
          MOVE_REVIEW_PERMISSION = .ok ())

/-- Unless the organisation itself lets the user review everywhere, a role at the building
carries the literal key, or another organisation's role counts, exactly when a visible role at
the building lets them review there. -/
def InboxAgreesAt (t : AccessTables) (userId buildingId : Id) : Prop :=
  AllowsReview t userId ∨ GrantsReview t userId (fun a r => r.orgId = some orgId ∧ OrgRole a r) ∨
    ((GrantsReview t userId (fun a r => r.orgId ≠ some orgId ∧ OrgRole a r) ∨
        HoldsReviewRole t userId orgId (BuildingRole buildingId)) ↔
      GrantsReview t userId (fun a r => r.orgId = some orgId ∧ BuildingRole buildingId a r))

/-- A role at the building or organisation-wide carries the literal key exactly when an override
or a visible role lets the user review there. -/
def AudienceAgreesAt (t : AccessTables) (userId buildingId : Id) : Prop :=
  (HoldsReviewRole t userId orgId (BuildingRole buildingId) ∨
      HoldsReviewRole t userId orgId OrgRole) ↔ MayReviewAt t userId orgId buildingId

end Agreement

theorem grantsReview_or {t : AccessTables} {p q s : UserAccessAssignment → RoleTemplate → Prop}
    (h : ∀ a r, s a r ↔ p a r ∨ q a r) :
    GrantsReview t userId s ↔ GrantsReview t userId p ∨ GrantsReview t userId q := by
  simp only [GrantsReview, AccessTables.Grants, h, or_and_right, and_or_left, exists_or]

theorem or_iff_or_iff {common own foreign held granted : Prop} :
    (((common ∨ own ∨ foreign) ∨ held) ↔ (common ∨ own ∨ granted)) ↔
      (common ∨ own ∨ ((foreign ∨ held) ↔ granted)) := by
  by_cases hcommon : common
  · simp only [hcommon, true_or]
  · by_cases hown : own
    · simp only [hown, true_or, or_true]
    · simp only [hcommon, hown, false_or]

theorem inbox_agrees_at_iff (huser : userId ≠ "") (horg : orgId ≠ "")
    (hbuilding : buildingId ≠ "") :
    ((canReviewAll env orgId userId = true ∨
        buildingId ∈ getManagedBuildingIds env orgId userId) ↔
      assertAssignedMoveManagementAccess env (some ⟨userId, some orgId⟩) buildingId
        MOVE_REVIEW_PERMISSION = .ok ()) ↔
    InboxAgreesAt orgId env.access userId buildingId := by
  have hall : GrantsReview env.access userId OrgRole ↔
      GrantsReview env.access userId (fun a r => r.orgId = some orgId ∧ OrgRole a r) ∨
        GrantsReview env.access userId (fun a r => r.orgId ≠ some orgId ∧ OrgRole a r) :=
    grantsReview_or fun a r => by
      by_cases h : r.orgId = some orgId
      · simp [h]
      · simp [h]
  have hat : MayReviewAt env.access userId orgId buildingId ↔ AllowsReview env.access userId ∨
      GrantsReview env.access userId (fun a r => r.orgId = some orgId ∧ OrgRole a r) ∨
        GrantsReview env.access userId
          (fun a r => r.orgId = some orgId ∧ BuildingRole buildingId a r) :=
    or_congr_right (grantsReview_or fun a r => and_or_left)
  rw [assertAssigned_review_iff huser horg hbuilding, canReviewAll_iff, hall, hat,
    mem_getManagedBuildingIds]
  simp only [hbuilding, ne_eq, not_false_eq_true, true_and]
  exact or_iff_or_iff

theorem inboxExact_iff (huser : userId ≠ "") (horg : orgId ≠ "") :
    InboxExact env db orgId userId ↔
      ∀ kind, ∀ r ∈ (db.moveRequests kind).table, r.orgId = orgId → r.status = .PENDING →
        r.buildingId = "" ∨ InboxAgreesAt orgId env.access userId r.buildingId := by
  refine forall_congr' fun kind => forall_congr' fun r => forall_congr' fun hr => ?_
  have hmem : r ∈ inboxRequests env db kind orgId userId ↔ r.orgId = orgId ∧ r.status = .PENDING ∧
      (canReviewAll env orgId userId = true ∨
        r.buildingId ∈ getManagedBuildingIds env orgId userId) := by
    simp [inboxRequests, inboxWhere, Table.mem_rows.mp hr]
  rw [hmem]
  have hlocal : ((canReviewAll env orgId userId = true ∨
        r.buildingId ∈ getManagedBuildingIds env orgId userId) ↔
      assertAssignedMoveManagementAccess env (some ⟨userId, some orgId⟩) r.buildingId
        MOVE_REVIEW_PERMISSION = .ok ()) ↔
      (r.buildingId = "" ∨ InboxAgreesAt orgId env.access userId r.buildingId) := by
    by_cases hb : r.buildingId = ""
    · rw [hb, assertAssigned_review_without_building huser horg, mem_getManagedBuildingIds]
      simp
    · rw [inbox_agrees_at_iff huser horg hb]
      simp [hb]
  rw [← hlocal, and_congr_right_iff]
  exact imp_congr_right fun _ => and_congr_right_iff

theorem audienceExact_iff (horg : orgId ≠ "") (hbuilding : buildingId ≠ "") :
    AudienceExact env db orgId buildingId ↔
      ∀ userId, userId ≠ "" → ActiveMember db orgId userId →
        AudienceAgreesAt orgId env.access userId buildingId := by
  refine forall_congr' fun userId => forall_congr' fun huser => ?_
  rw [mem_resolveMoveRequestRecipients, assertAssigned_review_iff huser horg hbuilding]
  exact and_congr_right_iff

section Doorman

/-- The manager's only role is at the building and lets them move residents in. -/
def doormanAccess : AccessTables where
  permissions := ⟨[⟨"in", "leases.move_in"⟩], List.nodup_singleton _⟩
  roleTemplates := ⟨[⟨"doormen", some "org", "doorman", false, .BUILDING⟩], List.nodup_singleton _⟩
  rolePermissions := ⟨[⟨"doormen", "in"⟩], List.nodup_singleton _⟩
  userAccessAssignments :=
    ⟨[⟨"minding", "manager", "doormen", .BUILDING, some "building"⟩], List.nodup_singleton _⟩
  userPermissions := .empty _

def reviewEnv (access : AccessTables) : Env where
  access
  now := 0
  ids := ⟨"row", "row", "row", "row", fun _ => "row"⟩
  parseDecimal _ := none
  toLowerCase := id

def pendingMoveIn : MoveRequest where
  id := "request"
  orgId := "org"
  buildingId := "building"
  unitId := "101"
  leaseId := "lease"
  residentUserId := "ann"
  status := .PENDING
  requestedMoveAt := 0
  notes := none
  reviewedByUserId := none
  reviewedAt := none
  rejectionReason := none
  createdAt := 0
  updatedAt := 0

def waitingDb : Db :=
  { Db.start sceneDirectory with
    moveInRequests := ⟨⟨[pendingMoveIn], List.nodup_singleton _⟩, by decide⟩ }

theorem doorman_may_review :
    assertAssignedMoveManagementAccess (reviewEnv doormanAccess) (some ⟨"manager", some "org"⟩)
      "building" MOVE_REVIEW_PERMISSION = .ok () := by
  rfl

theorem doorman_not_counted_nor_told :
    ¬ InboxExact (reviewEnv doormanAccess) waitingDb "org" "manager" ∧
      ¬ AudienceExact (reviewEnv doormanAccess) waitingDb "org" "building" := by
  constructor
  · intro h
    have hmem := (h .MOVE_IN pendingMoveIn (List.mem_singleton_self _)).mpr
      ⟨rfl, rfl, doorman_may_review⟩
    have hempty : inboxRequests (reviewEnv doormanAccess) waitingDb .MOVE_IN "org" "manager" = [] := by
      decide
    rw [hempty] at hmem
    cases hmem
  · intro h
    have hmember : ActiveMember waitingDb "org" "manager" := ⟨_, rfl, rfl, rfl⟩
    have hmem := (h "manager" (by decide)).mpr ⟨hmember, doorman_may_review⟩
    have hempty : resolveMoveRequestRecipients (reviewEnv doormanAccess) waitingDb "org" "building" =
        [] := by
      decide
    rw [hempty] at hmem
    cases hmem

end Doorman

end Towerdesk.Leases
