import Towerdesk.Maintenance.OwnerRecipients

/-!
# Who an event is announced to

The recipient resolver: who is told of a request's event, read off the tables at the
time the listener runs. Whoever caused the event is left out, unless nobody else is
left. Every source yields users; the estimate reminder is caused by nobody, and its
actor is the one name that need not be a user.
-/

namespace Towerdesk

namespace World

variable (w : World)

def IsUser (userId : Id) : Prop := ∃ u ∈ w.directory.users, u.id = userId

instance (userId : Id) : Decidable (w.IsUser userId) :=
  inferInstanceAs (Decidable (∃ u ∈ w.directory.users, u.id = userId))

/-- An active user of the organisation who manages or administers the building. -/
def ManagesBuilding (orgId buildingId userId : Id) : Prop :=
  (∃ u ∈ w.directory.users, u.id = userId ∧ u.isActive = true ∧ u.orgId = some orgId) ∧
    ∃ a ∈ w.access.userAccessAssignments, a.userId = userId ∧ a.scopeType = .BUILDING ∧
      a.scopeId = some buildingId ∧ ∃ r ∈ w.access.roleTemplates, r.id = a.roleTemplateId ∧
        r.orgId = some orgId ∧ r.scopeType = .BUILDING ∧
          (r.key = "building_manager" ∨ r.key = "building_admin")

def AdministersOrg (orgId userId : Id) : Prop :=
  (∃ u ∈ w.directory.users, u.id = userId ∧ u.isActive = true ∧ u.orgId = some orgId) ∧
    ∃ a ∈ w.access.userAccessAssignments, a.userId = userId ∧ a.scopeType = .ORG ∧
      a.scopeId = none ∧ ∃ r ∈ w.access.roleTemplates, r.id = a.roleTemplateId ∧
        r.orgId = some orgId ∧ r.key = "org_admin"

/-- The organisation's administrators stand in where nobody manages the building. -/
def OperatesBuilding (orgId buildingId userId : Id) : Prop :=
  w.ManagesBuilding orgId buildingId userId ∨
    (¬ ∃ v, w.ManagesBuilding orgId buildingId v) ∧ w.AdministersOrg orgId userId

/-- An active administrator of an active provider. -/
def ManagesProvider (serviceProviderId userId : Id) : Prop :=
  (∃ u ∈ w.directory.users, u.id = userId ∧ u.isActive = true) ∧
    (∃ p ∈ w.directory.serviceProviders, p.id = serviceProviderId ∧ p.isActive = true) ∧
      ∃ m ∈ w.directory.serviceProviderUsers, m.serviceProviderId = serviceProviderId ∧
        m.userId = userId ∧ m.role = .ADMIN ∧ m.isActive = true

/-- The owners' grants name users. -/
def UserReferences : Prop :=
  ∀ g ∈ w.directory.ownerAccessGrants, ∀ userId, g.userId = some userId → w.IsUser userId

def getBuildingManagersAndAdmins (orgId buildingId : Id) : Finset Id :=
  let assignments := w.access.userAccessAssignments.rows.filter fun a =>
    a.scopeType = .BUILDING ∧ a.scopeId = some buildingId ∧
      (w.access.roleTemplates.findUnique a.roleTemplateId).any fun r =>
        r.orgId = some orgId ∧ r.scopeType = .BUILDING ∧
          r.key ∈ ["building_manager", "building_admin"]
  ((assignments.filter fun a =>
    (w.directory.users.findUnique a.userId).any fun user =>
      user.isActive ∧ user.orgId = some orgId).map (·.userId)).toFinset

def getOrgAdmins (orgId : Id) : Finset Id :=
  ((w.directory.users.rows.filter fun user =>
    user.orgId = some orgId ∧ user.isActive ∧
      w.access.userAccessAssignments.rows.any fun a =>
        a.userId = user.id ∧ a.scopeType = .ORG ∧ a.scopeId = none ∧
          (w.access.roleTemplates.findUnique a.roleTemplateId).any fun r =>
            r.key ∈ ["org_admin"] ∧ r.orgId = some orgId).map (·.id)).toFinset

def resolveOpsRecipients (orgId buildingId : Id) : Finset Id :=
  let recipients := w.getBuildingManagersAndAdmins orgId buildingId
  if recipients = ∅ then w.getOrgAdmins orgId else recipients

def getActiveProviderManagers (serviceProviderId : Id) : Finset Id :=
  ((w.directory.serviceProviderUsers.rows.filter fun m =>
    m.serviceProviderId = serviceProviderId ∧ m.role = .ADMIN ∧ m.isActive ∧
      (w.directory.users.findUnique m.userId).any (·.isActive) ∧
        (w.directory.serviceProviders.findUnique m.serviceProviderId).any (·.isActive)).map
          (·.userId)).toFinset

variable {w} {orgId buildingId userId serviceProviderId : Id}

theorem mem_getBuildingManagersAndAdmins :
    userId ∈ w.getBuildingManagersAndAdmins orgId buildingId ↔
      w.ManagesBuilding orgId buildingId userId := by
  simp only [getBuildingManagersAndAdmins, List.mem_toFinset, List.mem_map, List.mem_filter,
    decide_eq_true_eq, Table.any_findUnique, Table.mem_rows.symm, List.mem_cons, List.not_mem_nil,
    or_false]
  constructor
  · rintro ⟨a, ⟨⟨ha, hscope, hid, hrole⟩, huser⟩, rfl⟩
    exact ⟨huser, a, ha, rfl, hscope, hid, hrole⟩
  · rintro ⟨huser, a, ha, rfl, hscope, hid, hrole⟩
    exact ⟨a, ⟨⟨ha, hscope, hid, hrole⟩, huser⟩, rfl⟩

theorem mem_getOrgAdmins : userId ∈ w.getOrgAdmins orgId ↔ w.AdministersOrg orgId userId := by
  simp only [getOrgAdmins, List.mem_toFinset, List.mem_map, List.mem_filter, decide_eq_true_eq,
    List.any_eq_true, Table.any_findUnique, Table.mem_rows.symm, List.mem_singleton]
  constructor
  · rintro ⟨u, ⟨hu, horg, hactive, a, ha, hau, hscope, hid, r, hr, hrid, hkey, hrorg⟩, rfl⟩
    exact ⟨⟨u, hu, rfl, hactive, horg⟩, a, ha, hau, hscope, hid, r, hr, hrid, hrorg, hkey⟩
  · rintro ⟨⟨u, hu, rfl, hactive, horg⟩, a, ha, hau, hscope, hid, r, hr, hrid, hrorg, hkey⟩
    exact ⟨u, ⟨hu, horg, hactive, a, ha, hau, hscope, hid, r, hr, hrid, hkey, hrorg⟩, rfl⟩

theorem mem_resolveOpsRecipients :
    userId ∈ w.resolveOpsRecipients orgId buildingId ↔
      w.OperatesBuilding orgId buildingId userId := by
  have hempty : w.getBuildingManagersAndAdmins orgId buildingId = ∅ ↔
      ¬ ∃ v, w.ManagesBuilding orgId buildingId v := by
    simp only [Finset.eq_empty_iff_forall_notMem, mem_getBuildingManagersAndAdmins, not_exists]
  unfold resolveOpsRecipients
  by_cases hnone : ∃ v, w.ManagesBuilding orgId buildingId v
  · rw [if_neg (mt hempty.mp (not_not.mpr hnone)), mem_getBuildingManagersAndAdmins]
    exact ⟨.inl, fun h => h.resolve_right fun hno => hno.1 hnone⟩
  · rw [if_pos (hempty.mpr hnone), mem_getOrgAdmins]
    exact ⟨fun h => .inr ⟨hnone, h⟩, fun h => (h.resolve_left fun hm => hnone ⟨_, hm⟩).2⟩

theorem mem_getActiveProviderManagers :
    userId ∈ w.getActiveProviderManagers serviceProviderId ↔
      w.ManagesProvider serviceProviderId userId := by
  simp only [getActiveProviderManagers, List.mem_toFinset, List.mem_map, List.mem_filter,
    decide_eq_true_eq, Table.any_findUnique, Table.mem_rows.symm]
  constructor
  · rintro ⟨m, ⟨hm, rfl, hrole, hactive, huser, hprovider⟩, rfl⟩
    exact ⟨huser, hprovider, m, hm, rfl, rfl, hrole, hactive⟩
  · rintro ⟨huser, hprovider, m, hm, rfl, rfl, hrole, hactive⟩
    exact ⟨m, ⟨hm, rfl, hrole, hactive, huser, hprovider⟩, rfl⟩

end World

namespace Maintenance

def SYSTEM_ACTOR_USER_ID : Id := "system"

def finalizeRecipients (recipients : Finset Id) (actorUserId : Id) : Finset Id :=
  let recipients := recipients.erase actorUserId
  if recipients = ∅ then {actorUserId} else recipients

section Resolver

variable (w : World) (request : MaintenanceRequestSnapshot) (actorUserId : Id)
  (previousRequest : Option MaintenanceRequestSnapshot)

def opsRecipients : Finset Id := w.resolveOpsRecipients request.orgId request.buildingId

/-- The worker, or else whoever manages the provider. -/
def providerRecipients (serviceProviderAssignedUserId serviceProviderId : Option Id) : Finset Id :=
  match truthy serviceProviderAssignedUserId, truthy serviceProviderId with
  | some workerId, _ => {workerId}
  | none, some providerId => w.getActiveProviderManagers providerId
  | none, none => ∅

def resolveExecutionRecipients : Finset Id :=
  {request.createdByUserId} ∪ (truthy request.assignedToUserId).toFinset ∪
    providerRecipients w request.serviceProviderAssignedUserId request.serviceProviderId ∪
      opsRecipients w request

/-- A column's earlier value, where it named somebody and has changed since. -/
def replacedId (previous current : Option Id) : Option Id :=
  (truthy previous).filter fun id => some id ≠ current

def addPreviousExecutionRecipients (recipients : Finset Id) : Finset Id :=
  match previousRequest with
  | none => recipients
  | some previous =>
    recipients ∪ (replacedId previous.assignedToUserId request.assignedToUserId).toFinset ∪
      (replacedId previous.serviceProviderAssignedUserId
        request.serviceProviderAssignedUserId).toFinset ∪
      (replacedId previous.serviceProviderId request.serviceProviderId).elim ∅
        w.getActiveProviderManagers

def resolveForRequestCreated : Finset Id :=
  finalizeRecipients (opsRecipients w request) actorUserId

/-- A request handed to a provider is the provider's news alone. -/
def assignedRecipients : Finset Id :=
  if (truthy request.serviceProviderAssignedUserId).isSome ∨
      (truthy request.serviceProviderId).isSome then
    providerRecipients w request.serviceProviderAssignedUserId request.serviceProviderId
  else
    (truthy request.assignedToUserId).toFinset ∪ {request.createdByUserId} ∪ opsRecipients w request

def resolveForRequestAssigned : Finset Id :=
  let recipients := assignedRecipients w request ∪
    if request.isEmergency then resolveActiveOwnerRecipientsForRequest w request else ∅
  finalizeRecipients (addPreviousExecutionRecipients w request previousRequest recipients)
    actorUserId

def resolveForRequestStatusChanged : Finset Id :=
  let recipients := {request.createdByUserId} ∪ (truthy request.assignedToUserId).toFinset ∪
    opsRecipients w request
  finalizeRecipients (addPreviousExecutionRecipients w request previousRequest recipients)
    actorUserId

def resolveForRequestCommented : Finset Id :=
  finalizeRecipients ({request.createdByUserId} ∪ (truthy request.assignedToUserId).toFinset ∪
    opsRecipients w request ∪ resolveActiveOwnerRecipientsForRequest w request) actorUserId

def resolveForRequestCanceled : Finset Id :=
  finalizeRecipients (opsRecipients w request ∪ (truthy request.assignedToUserId).toFinset)
    actorUserId

def resolveForEstimateReminder : Finset Id :=
  finalizeRecipients (opsRecipients w request) actorUserId

def resolveForOwnerApprovalRequested : Finset Id :=
  finalizeRecipients (resolveActiveOwnerRecipientsForRequest w request) actorUserId

def resolveForOwnerApprovalReminder : Finset Id :=
  finalizeRecipients (resolveActiveOwnerRecipientsForRequest w request) actorUserId

def resolveForOwnerRequestApproved : Finset Id :=
  finalizeRecipients (resolveExecutionRecipients w request) actorUserId

def resolveForOwnerRequestRejected : Finset Id :=
  finalizeRecipients (resolveExecutionRecipients w request) actorUserId

def resolveForOwnerRequestOverridden : Finset Id :=
  finalizeRecipients
    (resolveExecutionRecipients w request ∪ resolveActiveOwnerRecipientsForRequest w request)
    actorUserId

end Resolver

/-- The listener's choice of resolver. -/
def recipients (w : World) (e : Event) : Finset Id :=
  match e.name with
  | .CREATED => resolveForRequestCreated w e.request e.actorUserId
  | .ASSIGNED => resolveForRequestAssigned w e.request e.actorUserId e.previousRequest
  | .STATUS_CHANGED => resolveForRequestStatusChanged w e.request e.actorUserId e.previousRequest
  | .COMMENTED => resolveForRequestCommented w e.request e.actorUserId
  | .CANCELED => resolveForRequestCanceled w e.request e.actorUserId
  | .ESTIMATE_REMINDER => resolveForEstimateReminder w e.request e.actorUserId
  | .OWNER_APPROVAL_REQUESTED => resolveForOwnerApprovalRequested w e.request e.actorUserId
  | .OWNER_APPROVAL_REMINDER => resolveForOwnerApprovalReminder w e.request e.actorUserId
  | .OWNER_REQUEST_APPROVED => resolveForOwnerRequestApproved w e.request e.actorUserId
  | .OWNER_REQUEST_REJECTED => resolveForOwnerRequestRejected w e.request e.actorUserId
  | .OWNER_REQUEST_OVERRIDDEN => resolveForOwnerRequestOverridden w e.request e.actorUserId

section Finalize

variable {s : Finset Id} {actorUserId userId : Id}

theorem finalizeRecipients_nonempty : (finalizeRecipients s actorUserId).Nonempty := by
  unfold finalizeRecipients
  dsimp only
  split_ifs with hempty
  · exact Finset.singleton_nonempty _
  · exact Finset.nonempty_iff_ne_empty.mpr hempty

theorem mem_finalizeRecipients (hne : userId ≠ actorUserId) :
    userId ∈ finalizeRecipients s actorUserId ↔ userId ∈ s := by
  unfold finalizeRecipients
  dsimp only
  split_ifs with hempty
  · have hnot : userId ∉ s := fun hmem =>
      Finset.notMem_empty userId (hempty ▸ Finset.mem_erase.mpr ⟨hne, hmem⟩)
    simp only [Finset.mem_singleton, hne, hnot]
  · simp only [Finset.mem_erase, hne, ne_eq, not_false_eq_true, true_and]

theorem forall_mem_finalizeRecipients {p : Id → Prop} (hs : ∀ id ∈ s, p id) :
    (∀ id ∈ finalizeRecipients s actorUserId, p id) ↔
      (∀ id ∈ s, id = actorUserId) → p actorUserId := by
  have hempty : s.erase actorUserId = ∅ ↔ ∀ id ∈ s, id = actorUserId := by
    simp only [Finset.eq_empty_iff_forall_notMem, Finset.mem_erase, not_and', not_not]
  unfold finalizeRecipients
  dsimp only
  split_ifs with hall
  · simp only [Finset.mem_singleton, forall_eq]
    exact ⟨fun h _ => h, fun h => h (hempty.mp hall)⟩
  · exact ⟨fun _ h => absurd (hempty.mpr h) hall,
      fun _ id hid => hs id (Finset.mem_of_mem_erase hid)⟩

end Finalize

section Users

variable {w : World}

/-- The user columns a snapshot carries name users. -/
structure MaintenanceRequestSnapshot.RefersToUsers (request : MaintenanceRequestSnapshot)
    (w : World) : Prop where
  creator : w.IsUser request.createdByUserId
  assignee : ∀ id, request.assignedToUserId = some id → w.IsUser id
  worker : ∀ id, request.serviceProviderAssignedUserId = some id → w.IsUser id

/-- What the event carries names users; the reminder alone is caused by the system. -/
structure Event.RefersToUsers (e : Event) (w : World) : Prop where
  request : e.request.RefersToUsers w
  previousRequest : ∀ previous, e.previousRequest = some previous → previous.RefersToUsers w
  actor : e.name ≠ .ESTIMATE_REMINDER → w.IsUser e.actorUserId
  system : e.name = .ESTIMATE_REMINDER → e.actorUserId = SYSTEM_ACTOR_USER_ID

variable {request : MaintenanceRequestSnapshot} {id : Id}

theorem isUser_of_ops (h : id ∈ opsRecipients w request) : w.IsUser id := by
  obtain ⟨⟨u, hu, hid, -⟩, -⟩ | ⟨-, ⟨u, hu, hid, -⟩, -⟩ := World.mem_resolveOpsRecipients.mp h
  · exact ⟨u, hu, hid⟩
  · exact ⟨u, hu, hid⟩

theorem isUser_of_manager {serviceProviderId : Id}
    (h : id ∈ w.getActiveProviderManagers serviceProviderId) : w.IsUser id := by
  obtain ⟨⟨u, hu, hid, -⟩, -⟩ := World.mem_getActiveProviderManagers.mp h
  exact ⟨u, hu, hid⟩

theorem isUser_of_owner (hw : w.UserReferences)
    (h : id ∈ resolveActiveOwnerRecipientsForRequest w request) : w.IsUser id := by
  unfold resolveActiveOwnerRecipientsForRequest at h
  cases hunit : truthy request.unitId with
  | none => simp [hunit] at h
  | some unitId =>
    rw [hunit, List.mem_toFinset, World.mem_grantedUserIds] at h
    obtain ⟨-, ownerId, -, hactive⟩ := h
    obtain ⟨-, g, hg, huser, -⟩ := World.mem_activeOwnerIds.mp hactive
    exact hw g hg id huser

theorem isUser_of_provider {serviceProviderAssignedUserId serviceProviderId : Option Id}
    (hworker : ∀ id, serviceProviderAssignedUserId = some id → w.IsUser id)
    (h : id ∈ providerRecipients w serviceProviderAssignedUserId serviceProviderId) :
    w.IsUser id := by
  unfold providerRecipients at h
  cases hid : truthy serviceProviderAssignedUserId with
  | some workerId =>
    simp only [hid, Finset.mem_singleton] at h
    exact h ▸ hworker workerId (truthy_eq_some.mp hid).1
  | none =>
    cases hprovider : truthy serviceProviderId with
    | some providerId => exact isUser_of_manager (by simpa only [hid, hprovider] using h)
    | none => simp [hid, hprovider] at h

theorem isUser_of_replaced {previous current : Option Id}
    (hprevious : ∀ id, previous = some id → w.IsUser id)
    (h : replacedId previous current = some id) : w.IsUser id := by
  obtain ⟨hid, -⟩ := Option.filter_eq_some_iff.mp h
  exact hprevious id (truthy_eq_some.mp hid).1

namespace MaintenanceRequestSnapshot.RefersToUsers

theorem assigned (h : request.RefersToUsers w)
    (hid : id ∈ (truthy request.assignedToUserId).toFinset) : w.IsUser id := by
  exact h.assignee id (truthy_eq_some.mp (Option.mem_toFinset.mp hid)).1

theorem created (h : request.RefersToUsers w) (hid : id ∈ ({request.createdByUserId} : Finset Id)) :
    w.IsUser id := by
  rw [Finset.mem_singleton.mp hid]
  exact h.creator

theorem provider (h : request.RefersToUsers w) (hid : id ∈ providerRecipients w
    request.serviceProviderAssignedUserId request.serviceProviderId) : w.IsUser id :=
  isUser_of_provider h.worker hid

theorem execution (h : request.RefersToUsers w) (hid : id ∈ resolveExecutionRecipients w request) :
    w.IsUser id := by
  simp only [resolveExecutionRecipients, Finset.mem_union, or_assoc] at hid
  rcases hid with hid | hid | hid | hid
  · exact h.created hid
  · exact h.assigned hid
  · exact h.provider hid
  · exact isUser_of_ops hid

theorem handed (h : request.RefersToUsers w) (hid : id ∈ assignedRecipients w request) :
    w.IsUser id := by
  unfold assignedRecipients at hid
  split_ifs at hid
  · exact h.provider hid
  · simp only [Finset.mem_union, or_assoc] at hid
    rcases hid with hid | hid | hid
    · exact h.assigned hid
    · exact h.created hid
    · exact isUser_of_ops hid

end MaintenanceRequestSnapshot.RefersToUsers

theorem isUser_of_previous {previousRequest : Option MaintenanceRequestSnapshot} {s : Finset Id}
    (hprevious : ∀ previous, previousRequest = some previous → previous.RefersToUsers w)
    (hs : ∀ id ∈ s, w.IsUser id)
    (h : id ∈ addPreviousExecutionRecipients w request previousRequest s) : w.IsUser id := by
  unfold addPreviousExecutionRecipients at h
  cases previousRequest with
  | none => exact hs id h
  | some previous =>
    simp only [Finset.mem_union, Option.mem_toFinset, Option.mem_def, or_assoc] at h
    have hrefers := hprevious previous rfl
    rcases h with h | h | h | h
    · exact hs id h
    · exact isUser_of_replaced hrefers.assignee h
    · exact isUser_of_replaced hrefers.worker h
    · cases hprovider : replacedId previous.serviceProviderId request.serviceProviderId with
      | none => simp [hprovider] at h
      | some providerId => exact isUser_of_manager (by simpa [hprovider] using h)

variable {s : Finset Id} {actorUserId : Id}

theorem users_of_finalize (hs : ∀ id ∈ s, w.IsUser id) (hactor : w.IsUser actorUserId) :
    ∀ id ∈ finalizeRecipients s actorUserId, w.IsUser id :=
  (forall_mem_finalizeRecipients hs).mpr fun _ => hactor

theorem recipients_users_of_actor (hw : w.UserReferences) {e : Event} (he : e.RefersToUsers w)
    (hactor : w.IsUser e.actorUserId) : ∀ id ∈ recipients w e, w.IsUser id := by
  have hops : ∀ id ∈ opsRecipients w e.request, w.IsUser id := fun _ => isUser_of_ops
  have howners : ∀ id ∈ resolveActiveOwnerRecipientsForRequest w e.request, w.IsUser id :=
    fun _ => isUser_of_owner hw
  have hexecution : ∀ id ∈ resolveExecutionRecipients w e.request, w.IsUser id :=
    fun _ => he.request.execution
  have hfollowing : ∀ id ∈ {e.request.createdByUserId} ∪
      (truthy e.request.assignedToUserId).toFinset ∪ opsRecipients w e.request, w.IsUser id := by
    intro id hid
    simp only [Finset.mem_union, or_assoc] at hid
    rcases hid with hid | hid | hid
    · exact he.request.created hid
    · exact he.request.assigned hid
    · exact isUser_of_ops hid
  unfold recipients
  cases e.name with
  | CREATED => exact users_of_finalize hops hactor
  | ASSIGNED =>
    refine users_of_finalize (fun id hid => isUser_of_previous he.previousRequest ?_ hid) hactor
    intro id hid
    rcases Finset.mem_union.mp hid with hid | hid
    · exact he.request.handed hid
    · split_ifs at hid
      · exact howners id hid
      · exact absurd hid (Finset.notMem_empty id)
  | STATUS_CHANGED =>
    exact users_of_finalize
      (fun id hid => isUser_of_previous he.previousRequest hfollowing hid) hactor
  | COMMENTED =>
    refine users_of_finalize (fun id hid => ?_) hactor
    exact (Finset.mem_union.mp hid).elim (hfollowing id) (howners id)
  | CANCELED =>
    refine users_of_finalize (fun id hid => ?_) hactor
    exact (Finset.mem_union.mp hid).elim (hops id) he.request.assigned
  | ESTIMATE_REMINDER => exact users_of_finalize hops hactor
  | OWNER_APPROVAL_REQUESTED => exact users_of_finalize howners hactor
  | OWNER_APPROVAL_REMINDER => exact users_of_finalize howners hactor
  | OWNER_REQUEST_APPROVED => exact users_of_finalize hexecution hactor
  | OWNER_REQUEST_REJECTED => exact users_of_finalize hexecution hactor
  | OWNER_REQUEST_OVERRIDDEN =>
    refine users_of_finalize (fun id hid => ?_) hactor
    exact (Finset.mem_union.mp hid).elim (hexecution id) (howners id)

theorem recipients_are_users_iff (w : World) (hw : w.UserReferences) (e : Event)
    (he : e.RefersToUsers w) :
    (∀ id ∈ recipients w e, w.IsUser id) ↔ (e.name = .ESTIMATE_REMINDER →
      (∃ id, w.OperatesBuilding e.request.orgId e.request.buildingId id) ∨
        w.IsUser SYSTEM_ACTOR_USER_ID) := by
  by_cases hname : e.name = .ESTIMATE_REMINDER
  · have hrecipients : recipients w e =
        finalizeRecipients (opsRecipients w e.request) SYSTEM_ACTOR_USER_ID := by
      unfold recipients
      rw [hname, he.system hname]
      rfl
    rw [hrecipients, forall_mem_finalizeRecipients fun _ => isUser_of_ops]
    constructor
    · intro h _
      by_cases hops : ∃ id, w.OperatesBuilding e.request.orgId e.request.buildingId id
      · exact .inl hops
      · exact .inr (h fun id hid => absurd ⟨id, World.mem_resolveOpsRecipients.mp hid⟩ hops)
    · intro h hall
      obtain ⟨id, hid⟩ | hsystem := h hname
      · have hmem : id ∈ opsRecipients w e.request := World.mem_resolveOpsRecipients.mpr hid
        exact hall id hmem ▸ isUser_of_ops hmem
      · exact hsystem
  · exact iff_of_true (recipients_users_of_actor hw he (he.actor hname))
      fun h => absurd h hname

end Users

section Reminder

theorem scene_userReferences : (scene "org" "building").UserReferences := by
  intro g hg userId huser
  have hgrants : ∀ g ∈ (scene "org" "building").directory.ownerAccessGrants,
      g.userId = some "landlord" := by decide
  rw [hgrants g hg] at huser
  cases huser
  exact (by decide : (scene "org" "building").IsUser "landlord")

def leakCommented : Event where
  name := .COMMENTED
  request := leakSnapshot "org"
  previousRequest := none
  actorUserId := "resident"
  actorIsResident := some true
  comment := some ("comment", "Still leaking")

theorem leakCommented_refersToUsers : leakCommented.RefersToUsers (scene "org" "building") where
  request := {
    creator := by decide
    assignee := fun id h => by cases h
    worker := fun id h => by cases h }
  previousRequest := fun previous h => by cases h
  actor := fun _ => by decide
  system := fun h => by cases h

theorem leak_comment_reaches_users :
    "landlord" ∈ recipients (scene "org" "building") leakCommented ∧
      (scene "org" "building").IsUser "landlord" := by
  have hmem : "landlord" ∈ recipients (scene "org" "building") leakCommented := by decide
  have hall := (recipients_are_users_iff _ scene_userReferences _ leakCommented_refersToUsers).mpr
    fun h => by cases h
  exact ⟨hmem, hall "landlord" hmem⟩

def managerRequestsThenReminds : List (Env × Operation) :=
  [residentCreates 0 "Tap", managerRequestsEstimate 1, act 300000000 (.remindEstimate "request")]

/-- Nobody manages the building and nobody administers the organisation, so the overdue
estimate is announced to the system. -/
theorem reminder_can_name_nobody :
    ¬ ∀ (ls : List (Env × Operation)) (w : World), w.UserReferences →
      ∀ e ∈ (run .empty ls).events, e.RefersToUsers w → ∀ id ∈ recipients w e, w.IsUser id := by
  intro h
  have hevent : ∃ e ∈ (run .empty managerRequestsThenReminds).events,
      e.name = .ESTIMATE_REMINDER ∧ e.actorUserId = SYSTEM_ACTOR_USER_ID ∧
        e.request.createdByUserId = "resident" ∧ e.request.assignedToUserId = none ∧
          e.request.serviceProviderAssignedUserId = none ∧ e.previousRequest = none ∧
            SYSTEM_ACTOR_USER_ID ∈ recipients (scene "org" "building") e := by decide +kernel
  obtain ⟨e, he, hname, hactor, hcreator, hassignee, hworker, hprevious, hmem⟩ := hevent
  have hrefers : e.RefersToUsers (scene "org" "building") := by
    refine ⟨⟨?_, ?_, ?_⟩, ?_, fun hne => absurd hname hne, fun _ => hactor⟩
    · rw [hcreator]
      decide
    · simp [hassignee]
    · simp [hworker]
    · simp [hprevious]
  exact absurd (h _ _ scene_userReferences e he hrefers _ hmem) (by decide)

end Reminder

end Maintenance

end Towerdesk
