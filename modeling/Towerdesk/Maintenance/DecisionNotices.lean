import Towerdesk.Maintenance.EventRecipients

/-!
# Whom a decision reaches

An owner's decision and the management's override are announced to the people who
carry the request out. The override's snapshot names the provider and its worker; the
owner portal's leaves both out, and they hear of the decision only if some other list
has them.
-/

namespace Towerdesk.Maintenance

/-- The provider's side of a request: its worker, or else the managers of the provider. -/
def providerSide (w : World) (r : MaintenanceRequest) : Finset Id :=
  providerRecipients w r.serviceProviderAssignedUserId r.serviceProviderId

/-- Everyone on the provider's side but the actor is told of the event. -/
def ReachesProvider (w : World) (r : MaintenanceRequest) (e : Event) : Prop :=
  ∀ id ∈ providerSide w r, id ≠ e.actorUserId → id ∈ recipients w e

inductive Operation.DecidesAsOwner (userId requestId : Id) : Operation → Prop
  | approve {approvalReason} :
      Operation.DecidesAsOwner userId requestId
        (.approveAccessibleRequest userId requestId approvalReason)
  | reject {approvalReason} :
      Operation.DecidesAsOwner userId requestId
        (.rejectAccessibleRequest userId requestId approvalReason)

section Snapshots

variable {w : World} {request : MaintenanceRequestSnapshot} {id actorUserId : Id}

theorem mem_executionRecipients : id ∈ resolveExecutionRecipients w request ↔
    id = request.createdByUserId ∨ truthy request.assignedToUserId = some id ∨
      id ∈ providerRecipients w request.serviceProviderAssignedUserId request.serviceProviderId ∨
        w.OperatesBuilding request.orgId request.buildingId id := by
  simp only [resolveExecutionRecipients, opsRecipients, Finset.mem_union, Finset.mem_singleton,
    Option.mem_toFinset, Option.mem_def, World.mem_resolveOpsRecipients, or_assoc]

theorem mem_recipients_of_decided {e : Event}
    (hname : e.name = .OWNER_REQUEST_APPROVED ∨ e.name = .OWNER_REQUEST_REJECTED)
    (hne : id ≠ e.actorUserId) :
    id ∈ recipients w e ↔ id ∈ resolveExecutionRecipients w e.request := by
  have hrecipients : recipients w e =
      finalizeRecipients (resolveExecutionRecipients w e.request) e.actorUserId := by
    unfold recipients
    rcases hname with hname | hname
    · rw [hname]
      rfl
    · rw [hname]
      rfl
  rw [hrecipients, mem_finalizeRecipients hne]

theorem mem_recipients_of_overridden {e : Event} (hname : e.name = .OWNER_REQUEST_OVERRIDDEN)
    (hne : id ≠ e.actorUserId) (hmem : id ∈ resolveExecutionRecipients w e.request) :
    id ∈ recipients w e := by
  unfold recipients
  rw [hname]
  exact (mem_finalizeRecipients hne).mpr (Finset.mem_union_left _ hmem)

end Snapshots

section Decided

variable {env : Env} {db db' : Db} {userId requestId : Id}

/-- What an owner's decision leaves: the decided row, and an event whose snapshot the
owner portal has built. -/
structure DecidedAsOwner (env : Env) (db db' : Db) (userId : Id) (r : MaintenanceRequest)
    (unit : PortfolioUnitRow) (e : Event) : Prop where
  mem : r ∈ db'.maintenanceRequests
  accessible : ∃ unitId, truthy r.unitId = some unitId ∧
    env.world.accessibleUnit userId unitId = some unit
  events : db'.events = db.events ++ [e]
  name : e.name = .OWNER_REQUEST_APPROVED ∨ e.name = .OWNER_REQUEST_REJECTED
  request : e.request = toOwnerEventRequest unit r
  actor : e.actorUserId = userId

theorem commit_update_event {u : RowUpdate} {event : UpdateEvent} (hevent : u.event = some event)
    (h : commit env (.update u) db = .ok db') :
    ∃ read ∈ db.maintenanceRequests, read.id = u.requestId ∧ ∃ r ∈ db'.maintenanceRequests,
      r = (touched u.data env.now).apply read ∧ r.id = u.requestId ∧
        db'.events = db.events ++ [event.toEvent r] := by
  obtain ⟨read, hread, hid, rfl⟩ := commit_update.mp h
  refine ⟨read, hread, hid, _, Table.mem_modify.mpr (.inl ⟨read, hread, hid, rfl⟩), rfl,
    ((touched u.data env.now).key_apply read).trans hid, ?_⟩
  simp only [Db.applyUpdate, hevent, Option.map_some, Option.toList_some]

theorem decided_of_commit {status : OwnerApprovalStatus} {action : OwnerApprovalAuditAction}
    {name : EventName} {approvalReason : Option String} {write : Write}
    (hname : name = .OWNER_REQUEST_APPROVED ∨ name = .OWNER_REQUEST_REJECTED)
    (h : decideAccessibleRequest env db userId requestId status action name approvalReason =
      .ok write) (hcommit : commit env write db = .ok db') :
    ∃ r unit e, r.id = requestId ∧ DecidedAsOwner env db db' userId r unit e := by
  simp only [decideAccessibleRequest, getAccessibleRequestById, Outcome.bind_eq_ok,
    Outcome.orThrow_eq_ok, Outcome.pure_eq_ok] at h
  obtain ⟨-, ⟨found, hfound, unitId, hunitId, unit, hunit, rfl⟩, -, -, decidedBy, -, rfl⟩ := h
  obtain ⟨read, hread, hid, r, hr, rfl, hrid, hevents⟩ := commit_update_event rfl hcommit
  obtain ⟨hmem, hp⟩ := Table.findFirst_some hfound
  have hsame : read = found :=
    Table.eq_of_key_eq hread hmem (hid.trans (of_decide_eq_true hp).1.symm)
  subst hsame
  exact ⟨_, unit, _, hrid, hr, ⟨unitId, hunitId, hunit⟩, hevents, hname, rfl, rfl⟩

theorem decidesAsOwner_step {op : Operation} (hop : op.DecidesAsOwner userId requestId)
    (h : step env op db = .ok db') :
    ∃ r unit e, r.id = requestId ∧ DecidedAsOwner env db db' userId r unit e := by
  obtain ⟨write, hplan, hcommit⟩ := step_eq_ok.mp h
  cases hop with
  | approve => exact decided_of_commit (.inl rfl) hplan hcommit
  | reject => exact decided_of_commit (.inr rfl) hplan hcommit

theorem override_step {user : Option AuthenticatedUser} {buildingId : Id}
    {dto : OverrideOwnerApprovalDto}
    (h : step env (.overrideOwnerApproval user buildingId requestId dto) db = .ok db') :
    ∃ r ∈ db'.maintenanceRequests, r.id = requestId ∧ ∃ e, db'.events = db.events ++ [e] ∧
      e.name = .OWNER_REQUEST_OVERRIDDEN ∧ e.request = toEventRequest env r ∧
        user.map (·.sub) = some e.actorUserId := by
  obtain ⟨write, hplan, hcommit⟩ := step_eq_ok.mp h
  simp only [plan, overrideOwnerApproval, Outcome.bind_eq_ok, Outcome.pure_eq_ok] at hplan
  obtain ⟨orgId, -, userId, huser, -, -, -, -, found, hfound, -, -, -, -, connected, -, rfl⟩ :=
    hplan
  obtain ⟨read, -, -, r, hr, -, hrid, hevents⟩ := commit_update_event rfl hcommit
  exact ⟨r, hr, hrid.trans (findByIdForBuilding_ok hfound).2, _, hevents, rfl, rfl,
    (truthy_eq_some.mp (Outcome.orThrow_eq_ok.mp huser)).1⟩

/-- The owner portal's snapshot names nobody on the provider's side. -/
theorem DecidedAsOwner.reachesProvider_iff {w : World} {r : MaintenanceRequest}
    {unit : PortfolioUnitRow} {e : Event} (h : DecidedAsOwner env db db' userId r unit e) :
    ReachesProvider w r e ↔ ∀ id ∈ providerSide w r, id ≠ userId →
      id = r.createdByUserId ∨ truthy r.assignedToUserId = some id ∨
        w.OperatesBuilding unit.orgId unit.buildingId id := by
  have hnobody : providerRecipients w e.request.serviceProviderAssignedUserId
      e.request.serviceProviderId = ∅ := by
    rw [h.request]
    rfl
  unfold ReachesProvider
  rw [h.actor]
  refine forall_congr' fun id => forall_congr' fun _ => forall_congr' fun hne => ?_
  rw [mem_recipients_of_decided h.name (h.actor.symm ▸ hne), mem_executionRecipients, hnobody,
    h.request]
  simp only [Finset.notMem_empty, false_or]
  rfl

theorem override_reachesProvider {w : World} {r : MaintenanceRequest} {e : Event}
    (hname : e.name = .OWNER_REQUEST_OVERRIDDEN) (hrequest : e.request = toEventRequest env r) :
    ReachesProvider w r e := by
  intro id hid hne
  refine mem_recipients_of_overridden hname hne ?_
  refine mem_executionRecipients.mpr (.inr (.inr (.inl ?_)))
  rw [hrequest]
  exact hid

end Decided

theorem owner_decisions_reach_provider_iff (env : Env) (w : World) (db db' : Db) (requestId : Id) :
    (∀ userId op, op.DecidesAsOwner userId requestId → step env op db = .ok db' →
      ∃ r unit e, r.id = requestId ∧ DecidedAsOwner env db db' userId r unit e ∧
        (ReachesProvider w r e ↔ ∀ id ∈ providerSide w r, id ≠ userId →
          id = r.createdByUserId ∨ truthy r.assignedToUserId = some id ∨
            w.OperatesBuilding unit.orgId unit.buildingId id)) ∧
      ∀ user buildingId dto,
        step env (.overrideOwnerApproval user buildingId requestId dto) db = .ok db' →
          ∃ r ∈ db'.maintenanceRequests, r.id = requestId ∧
            ∃ e, db'.events = db.events ++ [e] ∧ ReachesProvider w r e := by
  constructor
  · intro userId op hop h
    obtain ⟨r, unit, e, hid, hdecided⟩ := decidesAsOwner_step hop h
    exact ⟨r, unit, e, hid, hdecided, hdecided.reachesProvider_iff⟩
  · intro user buildingId dto h
    obtain ⟨r, hr, hid, e, hevents, hname, hrequest, -⟩ := override_step h
    exact ⟨r, hr, hid, e, hevents, override_reachesProvider hname hrequest⟩

section Agent

instance (w : World) (r : MaintenanceRequest) (e : Event) : Decidable (ReachesProvider w r e) :=
  inferInstanceAs (Decidable (∀ id ∈ providerSide w r, id ≠ e.actorUserId → id ∈ recipients w e))

def assignedThenPending : List (Env × Operation) :=
  [residentCreates 0 "Tap", managerAssignsProvider 1, managerRequires 2]

def managerOverrides (now : Date) : Env × Operation :=
  act now (.overrideOwnerApproval (manager "org") "building" "request"
    ⟨.EMERGENCY_OVERRIDE, "Emergency"⟩)

/-- The manager's override reaches the provider's administrator. -/
theorem agent_hears_of_override :
    ∃ r ∈ (run .empty (assignedThenPending ++ [managerOverrides 3])).maintenanceRequests,
      r.id = "request" ∧ ∃ e, ReachesProvider (scene "org" "building") r e := by
  have hok : Succeeds (managerOverrides 3).1 (managerOverrides 3).2
      (run .empty assignedThenPending) := by decide +kernel
  obtain ⟨db', h⟩ := hok
  obtain ⟨r, hr, hid, e, -, hreaches⟩ :=
    (owner_decisions_reach_provider_iff _ (scene "org" "building") _ _ _).2 _ _ _ h
  have hdb : run .empty (assignedThenPending ++ [managerOverrides 3]) = db' :=
    congrArg (Outcome.orElseKeep (run .empty assignedThenPending)) h
  exact ⟨r, hdb ▸ hr, hid, e, hreaches⟩

/-- The owner's approval does not. -/
theorem approval_misses_agent :
    ¬ ∀ (ls : List (Env × Operation)) (env : Env) (op : Operation) (db' : Db)
      (userId requestId : Id),
      op.DecidesAsOwner userId requestId → step env op (run .empty ls) = .ok db' →
        ∀ r ∈ db'.maintenanceRequests, r.id = requestId →
          ∀ e ∈ db'.events, e ∉ (run .empty ls).events → ReachesProvider env.world r e := by
  intro hreaches
  have hok : Succeeds (landlordApproves 3).1 (landlordApproves 3).2
      (run .empty assignedThenPending) := by decide +kernel
  obtain ⟨db', h⟩ := hok
  have hdb : run .empty (assignedThenPending ++ [landlordApproves 3]) = db' :=
    congrArg (Outcome.orElseKeep (run .empty assignedThenPending)) h
  have hmissed :
      ∃ r ∈ (run .empty (assignedThenPending ++ [landlordApproves 3])).maintenanceRequests,
        r.id = "request" ∧ ∃ e ∈ (run .empty (assignedThenPending ++ [landlordApproves 3])).events,
        e ∉ (run .empty assignedThenPending).events ∧
          ¬ ReachesProvider (scene "org" "building") r e := by decide +kernel
  rw [hdb] at hmissed
  obtain ⟨r, hr, hid, e, he, hnew, hmiss⟩ := hmissed
  exact hmiss (hreaches _ _ _ _ "landlord" "request" .approve h r hr hid e he hnew)

end Agent

end Towerdesk.Maintenance
