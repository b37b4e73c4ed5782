import Towerdesk.Maintenance.Gate

/-!
# Work queues

Which requests the management lists show. Working requests always have a queue of
their own. An open one can be missed by all of them for the first days, and a closed
one can still be awaiting something; the two predicates say when.
-/

namespace Towerdesk.Maintenance

namespace MaintenanceRequest

variable (r : MaintenanceRequest) (now : Date)

def IsLive : Prop := r.status = .OPEN ∨ r.status = .ASSIGNED ∨ r.status = .IN_PROGRESS

instance : Decidable r.IsLive := inferInstanceAs (Decidable (_ ∨ _ ∨ _))

/-- An open request, not yet overdue, that waits neither for the owner nor for work: the
owner has refused, or has approved while an estimate is asked for. -/
def IsStranded : Prop :=
  r.status = .OPEN ∧ isMaintenanceRequestOverdue r.policyInput now = false ∧
    (r.ownerApprovalStatus = .REJECTED ∨
      (r.ownerApprovalStatus = .APPROVED ∧ r.estimateStatus = .REQUESTED))

/-- A closed request that still waits for the owner or for an estimate. -/
def IsHaunting : Prop :=
  r.status.IsClosed ∧ (r.ownerApprovalStatus = .PENDING ∨
    (r.ownerApprovalStatus = .NOT_REQUIRED ∧ r.estimateStatus = .REQUESTED))

def primaryQueue : Option RequestQueue := getPrimaryMaintenanceRequestQueue r.policyInput now

end MaintenanceRequest

section Queues

variable {r : MaintenanceRequest} {now : Date}

theorem primaryQueue_isSome_of (queue : RequestQueue)
    (h : matchesMaintenanceRequestQueue r.policyInput now queue = true) :
    (r.primaryQueue now).isSome :=
  (primaryQueue_isSome_iff _ _).mpr ⟨queue, h⟩

theorem route_cases (input : MaintenanceRequestPolicyInput) :
    getMaintenanceRequestPolicyRoute input = .NEEDS_ESTIMATE ∨
      getMaintenanceRequestPolicyRoute input = .OWNER_APPROVAL_REQUIRED ∨
      [PolicyRoute.DIRECT_ASSIGN, .EMERGENCY_DISPATCH].contains
        (getMaintenanceRequestPolicyRoute input) = true := by
  cases getMaintenanceRequestPolicyRoute input <;> simp

theorem primaryQueue_of_working (h : r.status = .ASSIGNED ∨ r.status = .IN_PROGRESS) :
    (r.primaryQueue now).isSome := by
  rcases h with h | h
  · refine primaryQueue_isSome_of .ASSIGNED ?_
    simp [matchesMaintenanceRequestQueue, MaintenanceRequest.policyInput, h]
  · refine primaryQueue_isSome_of .IN_PROGRESS ?_
    simp [matchesMaintenanceRequestQueue, MaintenanceRequest.policyInput, h]

theorem primaryQueue_of_pending (h : r.ownerApprovalStatus = .PENDING) :
    (r.primaryQueue now).isSome := by
  refine primaryQueue_isSome_of .AWAITING_OWNER ?_
  simp [matchesMaintenanceRequestQueue, MaintenanceRequest.policyInput, h]

theorem primaryQueue_of_requested (h : r.ownerApprovalStatus = .NOT_REQUIRED)
    (he : r.estimateStatus = .REQUESTED) : (r.primaryQueue now).isSome := by
  refine primaryQueue_isSome_of .AWAITING_ESTIMATE ?_
  have hrequested : r.policyInput.estimateStatus = some .REQUESTED := congrArg some he
  simp only [matchesMaintenanceRequestQueue, route_of_requested hrequested]
  simp [MaintenanceRequest.policyInput, h, he]

theorem primaryQueue_of_open_notRequired (hopen : r.status = .OPEN)
    (h : r.ownerApprovalStatus = .NOT_REQUIRED) : (r.primaryQueue now).isSome := by
  by_cases he : r.estimateStatus = .REQUESTED
  · exact primaryQueue_of_requested h he
  rcases route_cases r.policyInput with hroute | hroute | hroute
  · refine primaryQueue_isSome_of .NEEDS_ESTIMATE ?_
    simp only [matchesMaintenanceRequestQueue, hroute]
    simp [MaintenanceRequest.policyInput, hopen, h, he]
  · refine primaryQueue_isSome_of .NEW ?_
    simp only [matchesMaintenanceRequestQueue, hroute]
    simp [MaintenanceRequest.policyInput, hopen, h]
  · refine primaryQueue_isSome_of .READY_TO_ASSIGN ?_
    simp only [matchesMaintenanceRequestQueue, hroute]
    simp [MaintenanceRequest.policyInput, hopen, h]

theorem primaryQueue_of_open_approved (hopen : r.status = .OPEN)
    (h : r.ownerApprovalStatus = .APPROVED) (he : r.estimateStatus ≠ .REQUESTED) :
    (r.primaryQueue now).isSome := by
  refine primaryQueue_isSome_of .READY_TO_ASSIGN ?_
  have hestimate : r.policyInput.estimateStatus ≠ some .REQUESTED :=
    fun hs => he (Option.some.inj hs)
  have happroved : r.policyInput.ownerApprovalStatus = some .APPROVED := congrArg some h
  have hdispatch : [PolicyRoute.DIRECT_ASSIGN, .EMERGENCY_DISPATCH].contains
      (getMaintenanceRequestPolicyRoute r.policyInput) = true := by
    rcases route_of_approved hestimate happroved with hroute | hroute <;> simp [hroute]
  simp only [matchesMaintenanceRequestQueue, hdispatch]
  simp [MaintenanceRequest.policyInput, hopen, h]

theorem primaryQueue_of_overdue (h : isMaintenanceRequestOverdue r.policyInput now = true) :
    (r.primaryQueue now).isSome :=
  primaryQueue_isSome_of .OVERDUE h

theorem not_overdue_of_closed (h : r.status.IsClosed) :
    isMaintenanceRequestOverdue r.policyInput now = false := by
  rcases h with h | h <;>
    simp [isMaintenanceRequestOverdue, MaintenanceRequest.policyInput, h]

theorem primaryQueue_of_open (hopen : r.status = .OPEN) :
    (r.primaryQueue now).isSome ↔ ¬ r.IsStranded now := by
  constructor
  · rintro hsome ⟨-, hoverdue, hstatus⟩
    obtain ⟨queue, hqueue⟩ := (primaryQueue_isSome_iff _ _).mp hsome
    cases queue with
    | OVERDUE => exact absurd hqueue (by simp [matchesMaintenanceRequestQueue, hoverdue])
    | READY_TO_ASSIGN =>
      rcases hstatus with h | ⟨-, he⟩
      · simp [matchesMaintenanceRequestQueue, MaintenanceRequest.policyInput, h] at hqueue
      · have hrequested : r.policyInput.estimateStatus = some .REQUESTED := congrArg some he
        simp [matchesMaintenanceRequestQueue, route_of_requested hrequested] at hqueue
    | _ =>
      rcases hstatus with h | ⟨h, -⟩ <;>
        simp [matchesMaintenanceRequestQueue, MaintenanceRequest.policyInput, h, hopen] at hqueue
  · intro hstranded
    by_cases hoverdue : isMaintenanceRequestOverdue r.policyInput now = true
    · exact primaryQueue_of_overdue hoverdue
    have hfalse := Bool.not_eq_true _ ▸ hoverdue
    cases hs : r.ownerApprovalStatus with
    | NOT_REQUIRED => exact primaryQueue_of_open_notRequired hopen hs
    | PENDING => exact primaryQueue_of_pending hs
    | APPROVED =>
      refine primaryQueue_of_open_approved hopen hs fun he => hstranded ?_
      exact ⟨hopen, hfalse, .inr ⟨hs, he⟩⟩
    | REJECTED => exact absurd ⟨hopen, hfalse, .inl hs⟩ hstranded

theorem primaryQueue_of_closed (hclosed : r.status.IsClosed) :
    (r.primaryQueue now).isSome ↔ r.IsHaunting := by
  constructor
  · intro hsome
    refine ⟨hclosed, ?_⟩
    obtain ⟨queue, hqueue⟩ := (primaryQueue_isSome_iff _ _).mp hsome
    cases queue with
    | OVERDUE =>
      exact absurd hqueue
        (by simp [matchesMaintenanceRequestQueue, not_overdue_of_closed hclosed])
    | AWAITING_OWNER =>
      exact .inl (of_decide_eq_true hqueue)
    | AWAITING_ESTIMATE =>
      obtain ⟨h, -, he⟩ := of_decide_eq_true hqueue
      exact .inr ⟨h, he⟩
    | _ =>
      rcases hclosed with h | h <;>
        simp [matchesMaintenanceRequestQueue, MaintenanceRequest.policyInput, h] at hqueue
  · rintro ⟨-, h | ⟨h, he⟩⟩
    · exact primaryQueue_of_pending h
    · exact primaryQueue_of_requested h he

/-- A request is listed exactly while it is live, but for the stranded and the haunting. -/
theorem primaryQueue_iff_live (r : MaintenanceRequest) (now : Date) :
    ((r.primaryQueue now).isSome ↔ r.IsLive) ↔ ¬ r.IsStranded now ∧ ¬ r.IsHaunting := by
  cases hs : r.status with
  | OPEN =>
    have hlive : r.IsLive := .inl hs
    have hquiet : ¬ r.IsHaunting := fun h => by rcases h.1 with h | h <;> simp [hs] at h
    rw [primaryQueue_of_open hs]
    tauto
  | ASSIGNED | IN_PROGRESS =>
    have hlive : r.IsLive := by simp [MaintenanceRequest.IsLive, hs]
    have hquiet : ¬ r.IsHaunting := fun h => by rcases h.1 with h | h <;> simp [hs] at h
    have hstranded : ¬ r.IsStranded now := fun h => by cases hs.symm.trans h.1
    have hsome : (r.primaryQueue now).isSome := primaryQueue_of_working (by simp [hs])
    tauto
  | COMPLETED | CANCELED =>
    have hclosed : r.status.IsClosed := by simp [MaintenanceRequestStatus.IsClosed, hs]
    have hlive : ¬ r.IsLive := by simp [MaintenanceRequest.IsLive, hs]
    have hstranded : ¬ r.IsStranded now := fun h => by cases hs.symm.trans h.1
    rw [primaryQueue_of_closed hclosed]
    tauto

/-- Every request a run reaches is in a work queue exactly while it is live, unless it is
stranded or haunting at that time. -/
theorem work_queues (ls : List (Env × Operation)) (now : Date) :
    ∀ r ∈ (run .empty ls).maintenanceRequests,
      ((r.primaryQueue now).isSome ↔ r.IsLive) ↔ ¬ r.IsStranded now ∧ ¬ r.IsHaunting :=
  fun r _ => primaryQueue_iff_live r now

theorem work_queues_fresh :
    ∃ r ∈ (run .empty [residentCreates 0 "Tap"]).maintenanceRequests,
      ((r.primaryQueue 0).isSome ↔ r.IsLive) ↔ ¬ r.IsStranded 0 ∧ ¬ r.IsHaunting := by
  have hrow : ∃ r ∈ (run .empty [residentCreates 0 "Tap"]).maintenanceRequests,
      r.status = .OPEN := by decide +kernel
  obtain ⟨r, hr, -⟩ := hrow
  exact ⟨r, hr, work_queues _ 0 r hr⟩

/-- A rejected request is in no queue, and a canceled one still awaits its owner. -/
theorem rejected_vanishes_and_canceled_haunts :
    (∃ r ∈ (run .empty [residentCreates 0 "Tap", managerRequires 1,
        landlordRejects 2]).maintenanceRequests,
      r.IsLive ∧ (r.primaryQueue 3).isSome = false) ∧
    (∃ r ∈ (run .empty [residentCreates 0 "Tap", managerRequires 1,
        residentCancels 2]).maintenanceRequests,
      ¬ r.IsLive ∧ (r.primaryQueue 3).isSome = true) := by
  constructor
  · decide +kernel
  · decide +kernel

end Queues

section Gate

variable {r : MaintenanceRequest} {now : Date}

theorem matches_readyToAssign_iff :
    matchesMaintenanceRequestQueue r.policyInput now .READY_TO_ASSIGN = true ↔
      r.status = .OPEN ∧ r.ownerApprovalStatus ≠ .PENDING ∧ r.ownerApprovalStatus ≠ .REJECTED ∧
        (r.route = .DIRECT_ASSIGN ∨ r.route = .EMERGENCY_DISPATCH) := by
  simp [matchesMaintenanceRequestQueue, MaintenanceRequest.policyInput, MaintenanceRequest.route]

theorem matches_needsEstimate_iff :
    matchesMaintenanceRequestQueue r.policyInput now .NEEDS_ESTIMATE = true ↔
      r.ownerApprovalStatus = .NOT_REQUIRED ∧ r.route = .NEEDS_ESTIMATE ∧
        r.estimateStatus ≠ .REQUESTED ∧ r.status = .OPEN := by
  simp [matchesMaintenanceRequestQueue, MaintenanceRequest.policyInput, MaintenanceRequest.route]

theorem route_of_estimate_requested (h : r.estimateStatus = .REQUESTED) :
    r.route = .NEEDS_ESTIMATE :=
  route_of_requested (congrArg some h)

theorem unlocked_iff_ready_or_needsEstimate (hopen : r.status = .OPEN) :
    r.ExecutionUnlocked ↔
      matchesMaintenanceRequestQueue r.policyInput now .READY_TO_ASSIGN = true ∨
        matchesMaintenanceRequestQueue r.policyInput now .NEEDS_ESTIMATE = true := by
  rw [matches_readyToAssign_iff, matches_needsEstimate_iff]
  constructor
  · rintro ⟨hpending, hrejected, hestimate, hroute⟩
    cases hr : r.route with
    | DIRECT_ASSIGN => exact .inl ⟨hopen, hpending, hrejected, .inl rfl⟩
    | EMERGENCY_DISPATCH => exact .inl ⟨hopen, hpending, hrejected, .inr rfl⟩
    | OWNER_APPROVAL_REQUIRED => exact absurd hr hroute
    | NEEDS_ESTIMATE =>
      -- an approved request is never sent back for an estimate that was not asked for
      have hne : r.ownerApprovalStatus ≠ .APPROVED := by
        intro happroved
        have hestimate' : r.policyInput.estimateStatus ≠ some .REQUESTED :=
          fun h => hestimate (Option.some.inj h)
        rcases route_of_approved hestimate' (congrArg some happroved) with h | h
        · cases hr.symm.trans h
        · cases hr.symm.trans h
      refine .inr ⟨?_, rfl, hestimate, hopen⟩
      cases hs : r.ownerApprovalStatus with
      | NOT_REQUIRED => rfl
      | PENDING => exact absurd hs hpending
      | APPROVED => exact absurd hs hne
      | REJECTED => exact absurd hs hrejected
  · rintro (⟨-, hpending, hrejected, hroute⟩ | ⟨hnone, hroute, hestimate, -⟩)
    · refine ⟨hpending, hrejected, fun he => ?_, fun hr => ?_⟩
      · rw [route_of_estimate_requested he] at hroute
        simp at hroute
      · rw [hr] at hroute
        simp at hroute
    · refine ⟨?_, ?_, hestimate, ?_⟩
      · simp [hnone]
      · simp [hnone]
      · simp [hroute]

/-- The queues of requests that still wait for a decision or a price. -/
def waitingQueues : List RequestQueue := [.NEW, .AWAITING_OWNER, .AWAITING_ESTIMATE]

theorem not_unlocked_of_waiting {queue : RequestQueue} (hqueue : queue ∈ waitingQueues)
    (h : matchesMaintenanceRequestQueue r.policyInput now queue = true) :
    ¬ r.ExecutionUnlocked := by
  intro hunlocked
  simp only [waitingQueues, List.mem_cons, List.not_mem_nil, or_false] at hqueue
  rcases hqueue with rfl | rfl | rfl
  · obtain ⟨-, -, hestimate, hdirect⟩ := of_decide_eq_true h
    rcases route_cases r.policyInput with hroute | hroute | hroute
    · exact hestimate hroute
    · exact hunlocked.route_ne hroute
    · exact hdirect hroute
  · exact hunlocked.not_pending (of_decide_eq_true h)
  · obtain ⟨-, -, hrequested⟩ := of_decide_eq_true h
    exact hunlocked.not_requested hrequested

/-- An open request passes the gate exactly when it is listed as ready or as in need of an
estimate, and one that waits for the owner, for an estimate or for triage is neither assigned
nor moved forward. -/
theorem queues_agree_with_gate (r : MaintenanceRequest) (now : Date) :
    (r.status = .OPEN → (r.assertExecutionUnlocked = .ok () ↔
      matchesMaintenanceRequestQueue r.policyInput now .READY_TO_ASSIGN = true ∨
        matchesMaintenanceRequestQueue r.policyInput now .NEEDS_ESTIMATE = true)) ∧
    ∀ queue ∈ waitingQueues, matchesMaintenanceRequestQueue r.policyInput now queue = true →
      ∀ env db op, r ∈ db.maintenanceRequests → op.IsExecution → op.requestId = some r.id →
        ∃ e, plan env db op = .error e := by
  refine ⟨fun hopen => ?_, fun queue hqueue h env db op hr hop hid => ?_⟩
  · rw [MaintenanceRequest.assertExecutionUnlocked_ok]
    exact unlocked_iff_ready_or_needsEstimate hopen
  · cases hplan : plan env db op with
    | error e => exact ⟨e, rfl⟩
    | ok w =>
      obtain ⟨r', hr', hid', u, -, hchange⟩ := plan_change hplan hop.named hop.not_leavesRequest
      obtain rfl := Table.eq_of_key_eq hr' hr (Option.some.inj (hid'.symm.trans hid))
      exact absurd (hchange.unlocked hop) (not_unlocked_of_waiting hqueue h)

/-- A fresh request without a hint of its cost is let through to its first assignment. -/
theorem fresh_request_let_in :
    ∃ r ∈ (run .empty [residentCreates 0 "Tap"]).maintenanceRequests,
      (r.assertExecutionUnlocked = .ok () ↔
        matchesMaintenanceRequestQueue r.policyInput 1 .READY_TO_ASSIGN = true ∨
          matchesMaintenanceRequestQueue r.policyInput 1 .NEEDS_ESTIMATE = true) := by
  have hrow : ∃ r ∈ (run .empty [residentCreates 0 "Tap"]).maintenanceRequests,
      r.status = .OPEN := by decide +kernel
  obtain ⟨r, hr, hopen⟩ := hrow
  exact ⟨r, hr, (queues_agree_with_gate r 1).1 hopen⟩

end Gate

end Towerdesk.Maintenance
