import Towerdesk.Maintenance.Scene

/-!
# Closed requests

Whether anything still writes a completed or canceled request. Every operation looks
at the status itself, except those that act on a pending approval: asking the owner,
deciding and overriding look at the approval status only.
-/

namespace Towerdesk.Maintenance

variable {env : Env} {db db' : Db} {op : Operation} {r r' : MaintenanceRequest} {u : RowUpdate}

theorem Change.open_or_pending (h : Change env r op u) :
    ¬ r.status.IsClosed ∨ r.ownerApprovalStatus = .PENDING := by
  have hopen : r.status = .OPEN ∨ r.status = .ASSIGNED → ¬ r.status.IsClosed := by
    rintro (hs | hs) <;> simp [MaintenanceRequestStatus.IsClosed, hs]
  cases h with
  | updateResidentRequest hs => exact .inl (hopen (.inl hs))
  | cancelResidentRequest hs | cancelBuildingRequest hs => exact .inl hs
  | assignRequest hs _ | assignProvider hs _ | requestEstimateFromProvider hs _ _
  | assignProviderWorker hs _ _ | assignProviderWorkerFromProvider hs _ _
  | unassignProvider hs _ _ => exact .inl (hopen hs)
  | updateRequestStatus ht _ | updateProviderRequestStatus ht _ =>
    exact .inl (MaintenanceRequestStatus.not_isClosed_of_transition ht)
  | requireOwnerApproval hs | requestOwnerApprovalNow hs | updateRequestPolicyTriage hs _
  | submitRequestEstimatePending hs | submitRequestEstimateSettled hs
  | submitProviderRequestEstimatePending hs | submitProviderRequestEstimateSettled hs =>
    exact .inl hs
  | requestOwnerApproval hp | resendOwnerApprovalRequest hp | overrideOwnerApproval hp
  | approveAccessibleRequest hp | rejectAccessibleRequest hp => exact .inr hp

theorem reminderSent_of_closed (now : Date) (hclosed : r.status.IsClosed) :
    (reminderSent now).apply r = r := by
  have hnot : ¬ estimateReminderPending now r = true := fun hp =>
    (of_decide_eq_true hp).2.2.2 hclosed
  exact if_neg hnot

theorem RowStep.eq_of_closed {as : List OwnerApprovalAudit} (h : RowStep env op r r' as)
    (hclosed : r.status.IsClosed) (hpending : r.ownerApprovalStatus ≠ .PENDING) : r' = r := by
  cases h with
  | unchanged => rfl
  | changed _ hchange =>
    exact hchange.open_or_pending.elim (absurd hclosed) fun hp => absurd hp hpending
  | reminded _ => exact reminderSent_of_closed _ hclosed

/-- Every operation throws or leaves the row exactly as it is. -/
def Frozen (db : Db) (r : MaintenanceRequest) : Prop :=
  ∀ env op db', step env op db = .ok db' → r ∈ db'.maintenanceRequests

theorem frozen_of_not_pending (hr : r ∈ db.maintenanceRequests) (hclosed : r.status.IsClosed)
    (hpending : r.ownerApprovalStatus ≠ .PENDING) : Frozen db r := by
  intro env op db' h
  obtain ⟨r', hr', as, hrow, -⟩ := step_row_forward h hr
  rwa [hrow.eq_of_closed hclosed hpending] at hr'

theorem Change.approved_of_override {dto : OverrideOwnerApprovalDto}
    {user : Option AuthenticatedUser} {buildingId requestId : Id}
    (h : Change env r (.overrideOwnerApproval user buildingId requestId dto) u) :
    ((touched u.data env.now).apply r).ownerApprovalStatus = .APPROVED := by
  cases h
  rfl

theorem not_frozen_of_pending (hr : r ∈ db.maintenanceRequests) (horg : r.orgId ≠ "")
    (hpending : r.ownerApprovalStatus = .PENDING) : ¬ Frozen db r := by
  intro h
  have hok := emergencyOverride_succeeds 0 hr horg hpending
  obtain ⟨r₀, hr₀, hid, u, hchange, hmem⟩ :=
    hok.change (Option.some_ne_none _) (by simp [emergencyOverride, Operation.LeavesRequest])
  obtain rfl := Table.eq_of_key_eq hr hr₀ (Option.some.inj hid)
  obtain ⟨db', hstep⟩ := hok
  have hkeep := h _ _ _ hstep
  rw [next, hstep, Outcome.orElseKeep_ok] at hmem
  have heq := Table.eq_of_key_eq hkeep hmem ((touched u.data _).key_apply r).symm
  have happroved := hchange.approved_of_override
  rw [← heq, hpending] at happroved
  cases happroved

/-- A closed request is frozen exactly when no approval is pending on it. -/
theorem closed_request_frozen_iff (db : Db) (r : MaintenanceRequest)
    (hr : r ∈ db.maintenanceRequests) (hclosed : r.status.IsClosed) (horg : r.orgId ≠ "") :
    Frozen db r ↔ r.ownerApprovalStatus ≠ .PENDING :=
  ⟨fun h hpending => not_frozen_of_pending hr horg hpending h, frozen_of_not_pending hr hclosed⟩

theorem canceled_request_frozen :
    ∃ r ∈ (run .empty [residentCreates 0 "Tap", residentCancels 1]).maintenanceRequests,
      Frozen (run .empty [residentCreates 0 "Tap", residentCancels 1]) r := by
  have hrow : ∃ r ∈ (run .empty [residentCreates 0 "Tap", residentCancels 1]).maintenanceRequests,
      r.status.IsClosed ∧ r.orgId ≠ "" ∧ r.ownerApprovalStatus ≠ .PENDING := by decide +kernel
  obtain ⟨r, hr, hclosed, horg, hpending⟩ := hrow
  exact ⟨r, hr, (closed_request_frozen_iff _ r hr hclosed horg).mpr hpending⟩

/-- The resident cancels while the owner is asked, and the owner then approves. -/
theorem canceled_request_approved :
    ∃ r ∈ (run .empty [residentCreates 0 "Tap", managerRequires 1,
        residentCancels 2]).maintenanceRequests,
      r.status = .CANCELED ∧
        ¬ Frozen (run .empty [residentCreates 0 "Tap", managerRequires 1, residentCancels 2]) r := by
  have hrow : ∃ r ∈ (run .empty [residentCreates 0 "Tap", managerRequires 1,
        residentCancels 2]).maintenanceRequests,
      r.status = .CANCELED ∧
        Succeeds (landlordApproves 3).1 (landlordApproves 3).2
          (run .empty [residentCreates 0 "Tap", managerRequires 1, residentCancels 2]) ∧
        r ∉ (next (landlordApproves 3) (run .empty [residentCreates 0 "Tap", managerRequires 1,
          residentCancels 2])).maintenanceRequests := by decide +kernel
  obtain ⟨r, hr, hstatus, ⟨db', hstep⟩, hgone⟩ := hrow
  refine ⟨r, hr, hstatus, fun h => hgone ?_⟩
  rw [next, hstep, Outcome.orElseKeep_ok]
  exact h _ _ _ hstep

end Towerdesk.Maintenance
