import Towerdesk.Maintenance.Scene

/-!
# The execution gate

Six operations hand out or drive the work, and each of them asks the gate about the
request as it stands. What the gate lets through, and what follows for a request
whose cost facts have come to need an approval.
-/

namespace Towerdesk.Maintenance

/-- The operations that assign a request or move its status forward. -/
def Operation.IsExecution : Operation → Prop
  | .assignRequest .. | .assignProvider .. | .assignProviderWorker ..
  | .assignProviderWorkerFromProvider .. | .updateRequestStatus ..
  | .updateProviderRequestStatus .. => True
  | _ => False

instance : DecidablePred Operation.IsExecution := by
  rintro ⟨⟩ <;> first | exact isTrue trivial | exact isFalse id

section Gate

variable {env : Env} {db db' : Db} {op : Operation} {r r' : MaintenanceRequest} {u : RowUpdate}

theorem Change.unlocked (h : Change env r op u) (hop : op.IsExecution) : r.ExecutionUnlocked := by
  cases h with
  | assignRequest _ hunlocked => exact hunlocked
  | assignProvider _ hunlocked => exact hunlocked
  | assignProviderWorker _ hunlocked _ => exact hunlocked
  | assignProviderWorkerFromProvider _ hunlocked _ => exact hunlocked
  | updateRequestStatus _ hunlocked => exact hunlocked
  | updateProviderRequestStatus _ hunlocked => exact hunlocked
  | _ => exact hop.elim

theorem Operation.IsExecution.named (hop : op.IsExecution) : op.requestId ≠ none := by
  cases op <;> first | exact hop.elim | exact Option.some_ne_none _

theorem Operation.IsExecution.not_leavesRequest (hop : op.IsExecution) : ¬ op.LeavesRequest := by
  cases op <;> first | exact hop.elim | exact id

theorem Succeeds.unlocked (h : Succeeds env op db) (hop : op.IsExecution) :
    ∃ r ∈ db.maintenanceRequests, op.requestId = some r.id ∧ r.ExecutionUnlocked := by
  obtain ⟨r, hr, hid, u, hchange, -⟩ := h.change hop.named hop.not_leavesRequest
  exact ⟨r, hr, hid, hchange.unlocked hop⟩

theorem Change.status_of_not_execution (h : Change env r op u) (hop : ¬ op.IsExecution) :
    ((touched u.data env.now).apply r).status = r.status ∨
      ¬ ((touched u.data env.now).apply r).status.IsExecution := by
  cases h with
  | cancelResidentRequest _ => exact .inr MaintenanceRequestStatus.canceled_not_isExecution
  | cancelBuildingRequest _ => exact .inr MaintenanceRequestStatus.canceled_not_isExecution
  | requestEstimateFromProvider _ _ _ => exact .inr MaintenanceRequestStatus.open_not_isExecution
  | unassignProvider _ _ _ => exact .inr MaintenanceRequestStatus.open_not_isExecution
  | assignRequest _ _ => exact (hop trivial).elim
  | assignProvider _ _ => exact (hop trivial).elim
  | assignProviderWorker _ _ _ => exact (hop trivial).elim
  | assignProviderWorkerFromProvider _ _ _ => exact (hop trivial).elim
  | updateRequestStatus _ _ => exact (hop trivial).elim
  | updateProviderRequestStatus _ _ => exact (hop trivial).elim
  | _ => exact .inl rfl

theorem reminderSent_status (now : Date) (r : MaintenanceRequest) :
    ((reminderSent now).apply r).status = r.status := by
  simp only [reminderSent]
  split_ifs <;> rfl

theorem RowStep.status_of_not_execution {as : List OwnerApprovalAudit}
    (h : RowStep env op r r' as) (hop : ¬ op.IsExecution) (hr' : r'.status.IsExecution) :
    r.status = r'.status := by
  cases h with
  | unchanged => rfl
  | changed _ hchange =>
    exact (hchange.status_of_not_execution hop).elim Eq.symm fun hne => absurd hr' hne
  | reminded _ => exact (reminderSent_status _ _).symm

end Gate

section ExecutionGate

/-- Work starts and moves only through the gate. -/
theorem execution_gate (env : Env) (db db' : Db) (op : Operation)
    (h : step env op db = .ok db') :
    (op.IsExecution → ∃ r ∈ db.maintenanceRequests, op.requestId = some r.id ∧
      r.ownerApprovalStatus ≠ .PENDING ∧ r.ownerApprovalStatus ≠ .REJECTED ∧
      r.estimateStatus ≠ .REQUESTED ∧
      getMaintenanceRequestPolicyRoute r.policyInput ≠ .OWNER_APPROVAL_REQUIRED) ∧
    (¬ op.IsExecution → ∀ r' ∈ db'.maintenanceRequests, r'.status.IsExecution →
      ∃ r ∈ db.maintenanceRequests, r.id = r'.id ∧ r.status = r'.status) := by
  refine ⟨fun hop => ?_, fun hop r' hr' hexec => ?_⟩
  · obtain ⟨r, hr, hid, hu⟩ := Succeeds.unlocked ⟨db', h⟩ hop
    exact ⟨r, hr, hid, hu.not_pending, hu.not_rejected, hu.not_requested, hu.route_ne⟩
  · rcases step_row h hr' with ⟨_, _, _, _, _, rfl, _⟩ | ⟨r, hr, as, hrow, -⟩
    · exact absurd hexec MaintenanceRequestStatus.open_not_isExecution
    · exact ⟨r, hr, hrow.id_eq.symm, hrow.status_of_not_execution hop hexec⟩

theorem execution_gate_assignProvider :
    ∃ db', step (managerAssignsProvider 1).1 (managerAssignsProvider 1).2
        (run .empty [residentCreates 0 "Light bulb"]) = .ok db' ∧
      ∃ r ∈ (run .empty [residentCreates 0 "Light bulb"]).maintenanceRequests,
        r.ownerApprovalStatus ≠ .PENDING ∧ r.ownerApprovalStatus ≠ .REJECTED := by
  have hok : Succeeds (managerAssignsProvider 1).1 (managerAssignsProvider 1).2
      (run .empty [residentCreates 0 "Light bulb"]) := by decide +kernel
  obtain ⟨db', h⟩ := hok
  obtain ⟨r, hr, -, hpending, hrejected, -⟩ := (execution_gate _ _ _ _ h).1 trivial
  exact ⟨db', h, r, hr, hpending, hrejected⟩

end ExecutionGate

section CostFacts

def MaintenanceRequest.costFacts (r : MaintenanceRequest) :
    Option ℚ × Option Bool × Option Bool × Option Bool × Option Bool :=
  (r.estimatedAmount, r.isUpgrade, r.isMajorReplacement, r.isResponsibilityDisputed,
    r.isLikeForLike)

/-- The facts alone, with neither an approval nor an estimate on record, call for an
approval. -/
def MaintenanceRequest.NeedsApproval (r : MaintenanceRequest) : Prop :=
  getMaintenanceRequestPolicyRoute { r.policyInput with
    ownerApprovalStatus := some .NOT_REQUIRED
    estimateStatus := some .NOT_REQUESTED } = .OWNER_APPROVAL_REQUIRED

instance : DecidablePred MaintenanceRequest.NeedsApproval := fun _ =>
  inferInstanceAs (Decidable (getMaintenanceRequestPolicyRoute _ = _))

variable {env : Env} {db : Db} {op : Operation} {r : MaintenanceRequest} {u : RowUpdate}
  {requestId : Id}

theorem needsApproval_iff : r.NeedsApproval ↔
    (if isEmergencyCase r.policyInput then .EMERGENCY_DISPATCH else costRoute r.policyInput) =
      PolicyRoute.OWNER_APPROVAL_REQUIRED := by
  rw [MaintenanceRequest.NeedsApproval, route_of_notRequired (by simp) rfl]
  exact Iff.rfl

theorem needsApproval_of_route (h : getMaintenanceRequestPolicyRoute { r.policyInput with
    ownerApprovalStatus := some .NOT_REQUIRED } = .OWNER_APPROVAL_REQUIRED) : r.NeedsApproval := by
  by_cases he : r.estimateStatus = .REQUESTED
  · rw [route_of_requested (by simp [MaintenanceRequest.policyInput, he])] at h
    cases h
  · rw [route_of_notRequired (by simpa [MaintenanceRequest.policyInput] using he) rfl] at h
    exact needsApproval_iff.mpr h

theorem not_unlocked_of_needsApproval (hneeds : r.NeedsApproval)
    (happroved : r.ownerApprovalStatus ≠ .APPROVED) : ¬ r.ExecutionUnlocked := by
  intro h
  have hnone : r.ownerApprovalStatus = .NOT_REQUIRED := by
    cases hs : r.ownerApprovalStatus with
    | NOT_REQUIRED => rfl
    | PENDING => exact absurd hs h.not_pending
    | APPROVED => exact absurd hs happroved
    | REJECTED => exact absurd hs h.not_rejected
  have hestimate : r.policyInput.estimateStatus ≠ some .REQUESTED := by
    simpa [MaintenanceRequest.policyInput] using h.not_requested
  refine h.route_ne ?_
  rw [MaintenanceRequest.route, route_of_notRequired hestimate (congrArg some hnone)]
  exact needsApproval_iff.mp hneeds

def Operation.Approves : Operation → Prop
  | .approveAccessibleRequest .. | .overrideOwnerApproval .. => True
  | _ => False

instance : DecidablePred Operation.Approves := by
  rintro ⟨⟩ <;> first | exact isTrue trivial | exact isFalse id

theorem Change.approved_of_approved (h : Change env r op u) (hop : ¬ op.Approves)
    (happroved : ((touched u.data env.now).apply r).ownerApprovalStatus = .APPROVED) :
    r.ownerApprovalStatus = .APPROVED := by
  cases h with
  | approveAccessibleRequest _ => exact (hop trivial).elim
  | overrideOwnerApproval _ => exact (hop trivial).elim
  | _ => first | exact happroved | cases happroved

theorem reminderSent_ownerApprovalStatus (now : Date) (r : MaintenanceRequest) :
    ((reminderSent now).apply r).ownerApprovalStatus = r.ownerApprovalStatus := by
  simp only [reminderSent]
  split_ifs <;> rfl

def ComesToNeedApproval (requestId : Id) (l : Env × Operation) (db : Db) : Prop :=
  ∃ r ∈ db.maintenanceRequests, r.id = requestId ∧
    ∃ r' ∈ (next l db).maintenanceRequests, r'.id = requestId ∧
      r'.costFacts ≠ r.costFacts ∧ r'.NeedsApproval

instance (requestId : Id) (l : Env × Operation) (db : Db) :
    Decidable (ComesToNeedApproval requestId l db) :=
  inferInstanceAs (Decidable (∃ r ∈ db.maintenanceRequests, r.id = requestId ∧
    ∃ r' ∈ (next l db).maintenanceRequests, _ ∧ _ ∧ _))

def StillNeedsApproval (requestId : Id) (l : Env × Operation) (db : Db) : Prop :=
  ¬ (l.2.Approves ∧ l.2.requestId = some requestId ∧ Succeeds l.1 l.2 db) ∧
    ∀ r' ∈ (next l db).maintenanceRequests, r'.id = requestId → r'.NeedsApproval

instance (requestId : Id) (l : Env × Operation) (db : Db) :
    Decidable (StillNeedsApproval requestId l db) :=
  inferInstanceAs (Decidable (¬ _ ∧ _))

/-- Once the facts of a request have come to need an approval, nothing is executed until
one is given or the facts no longer need it. -/
def ApprovalsCoverFacts (ls : List (Env × Operation)) : Prop :=
  ∀ requestId ls₁ l ls₂ x, ls = ls₁ ++ l :: ls₂ ++ [x] →
    ComesToNeedApproval requestId l (run .empty ls₁) →
    Run.Along next (StillNeedsApproval requestId) (run .empty (ls₁ ++ [l])) ls₂ →
    x.2.IsExecution → x.2.requestId = some requestId →
    ¬ Succeeds x.1 x.2 (run .empty (ls₁ ++ l :: ls₂))

/-- A triage of an approved request does not change its facts into ones that need an
approval. -/
def KeepsApproval : Operation → MaintenanceRequest → Prop
  | .updateRequestPolicyTriage _ _ _ dto, r =>
    r.ownerApprovalStatus = .APPROVED → ∀ columns ∈ (triageColumns dto r).toOption,
      (columns.set r).costFacts ≠ r.costFacts → ¬ (columns.set r).NeedsApproval
  | _, _ => True

instance : ∀ op r, Decidable (KeepsApproval op r) := by
  rintro ⟨⟩ r <;> first | exact inferInstanceAs (Decidable (_ → _)) | exact isTrue trivial

def AwaitsApproval (requestId : Id) (db : Db) : Prop :=
  ∃ r ∈ db.maintenanceRequests, r.id = requestId ∧
    r.NeedsApproval ∧ r.ownerApprovalStatus ≠ .APPROVED

theorem Change.not_approved (h : Change env r op u) (hkeeps : KeepsApproval op r)
    (hfacts : ((touched u.data env.now).apply r).costFacts ≠ r.costFacts)
    (hneeds : ((touched u.data env.now).apply r).NeedsApproval) :
    ((touched u.data env.now).apply r).ownerApprovalStatus ≠ .APPROVED := by
  cases h with
  | updateRequestPolicyTriage _ hcolumns =>
    exact fun happroved => hkeeps happroved _ (by rw [hcolumns]; rfl) hfacts hneeds
  | requestEstimateFromProvider _ _ _ => exact OwnerApprovalStatus.noConfusion
  | requireOwnerApproval _ => exact OwnerApprovalStatus.noConfusion
  | requestOwnerApprovalNow _ => exact OwnerApprovalStatus.noConfusion
  | submitRequestEstimatePending _ => exact OwnerApprovalStatus.noConfusion
  | submitRequestEstimateSettled _ => exact OwnerApprovalStatus.noConfusion
  | submitProviderRequestEstimatePending _ => exact OwnerApprovalStatus.noConfusion
  | submitProviderRequestEstimateSettled _ => exact OwnerApprovalStatus.noConfusion
  | _ => exact absurd rfl hfacts

theorem reminderSent_costFacts (now : Date) (r : MaintenanceRequest) :
    ((reminderSent now).apply r).costFacts = r.costFacts := by
  simp only [reminderSent]
  split_ifs <;> rfl

theorem awaitsApproval_of_comesToNeed {l : Env × Operation}
    (hkeeps : OnNamed KeepsApproval l db) (h : ComesToNeedApproval requestId l db) :
    AwaitsApproval requestId (next l db) := by
  obtain ⟨r, hr, rfl, r', hr', hid', hfacts, hneeds⟩ := h
  refine ⟨r', hr', hid', hneeds, ?_⟩
  obtain ⟨r₂, hr₂, as, hrow, -, hok⟩ := next_row l hr
  obtain rfl := Table.eq_of_key_eq hr₂ hr' (hrow.id_eq.trans hid'.symm)
  cases hrow with
  | unchanged => exact absurd rfl hfacts
  | changed hnamed hchange =>
    have hok := hok.resolve_left fun heq => hfacts (congrArg _ heq)
    exact hchange.not_approved (hkeeps r hr hnamed hok) hfacts hneeds
  | reminded _ => exact absurd (reminderSent_costFacts _ _) hfacts

theorem awaitsApproval_next {l : Env × Operation} (h : AwaitsApproval requestId db)
    (hstill : StillNeedsApproval requestId l db) : AwaitsApproval requestId (next l db) := by
  obtain ⟨r, hr, rfl, -, happroved⟩ := h
  obtain ⟨r', hr', as, hrow, -, hok⟩ := next_row l hr
  refine ⟨r', hr', hrow.id_eq, hstill.2 r' hr' hrow.id_eq, fun happroved' => happroved ?_⟩
  cases hrow with
  | unchanged => exact happroved'
  | changed hnamed hchange =>
    refine hchange.approved_of_approved (fun hop => ?_) happroved'
    have hok := hok.resolve_left fun heq => happroved (heq ▸ happroved')
    exact hstill.1 ⟨hop, hnamed, hok⟩
  | reminded _ => rwa [reminderSent_ownerApprovalStatus] at happroved'

theorem not_succeeds_of_awaitsApproval (h : AwaitsApproval requestId db) (hop : op.IsExecution)
    (hnamed : op.requestId = some requestId) : ¬ Succeeds env op db := by
  intro hok
  obtain ⟨r, hr, rfl, hneeds, happroved⟩ := h
  obtain ⟨r₂, hr₂, hid, hunlocked⟩ := hok.unlocked hop
  obtain rfl := Table.eq_of_key_eq hr hr₂ (Option.some.inj (hnamed.symm.trans hid))
  exact not_unlocked_of_needsApproval hneeds happroved hunlocked

theorem approvals_cover_facts (ls : List (Env × Operation))
    (hkeeps : Run.Along next (OnNamed KeepsApproval) .empty ls) : ApprovalsCoverFacts ls := by
  rintro requestId ls₁ l ls₂ x rfl hcomes hstill hop hnamed
  rw [List.append_assoc, Run.along_append] at hkeeps
  refine not_succeeds_of_awaitsApproval ?_ hop hnamed
  exact Run.exec_after (Q := AwaitsApproval requestId)
    (fun _ _ hs hl => awaitsApproval_next hs hl)
    (awaitsApproval_of_comesToNeed hkeeps.2.1 hcomes) hstill

/-- A triage before the landlord decides is covered by the decision. -/
theorem approvals_cover_facts_triage_first :
    ApprovalsCoverFacts [residentCreates 0 "Tap", managerTriages 1, managerAssignsProvider 2] :=
  approvals_cover_facts _ (by decide +kernel)

/-- The landlord approves, the triage then declares an upgrade, and the request is
assigned all the same. -/
theorem approvals_do_not_cover_facts :
    ¬ ApprovalsCoverFacts [residentCreates 0 "Tap", managerRequires 1, landlordApproves 2,
      managerTriages 3, managerAssignsProvider 4] := by
  intro h
  refine h "request" [residentCreates 0 "Tap", managerRequires 1, landlordApproves 2]
    (managerTriages 3) [] (managerAssignsProvider 4) rfl ?_ trivial trivial rfl ?_
  · decide +kernel
  · decide +kernel

end CostFacts

end Towerdesk.Maintenance
