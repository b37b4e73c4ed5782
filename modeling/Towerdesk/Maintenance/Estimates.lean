import Towerdesk.Maintenance.Gate

/-!
# Estimates

What a submitted estimate leaves behind: either the owner is asked, or the request passes
the execution gate. The decision is taken on the facts as they were merged, the gate looks
at the facts as they were stored. An estimate that was asked for cannot be called off: the
provider is only taken off a request that passes the gate.
-/

namespace Towerdesk.Maintenance

section Submission

namespace MaintenanceRequest

variable (r : MaintenanceRequest)

def AwaitsOwner : Prop := r.ownerApprovalStatus = .PENDING ∧ r.ownerApprovalRequestedAt.isSome

def Released : Prop := r.ownerApprovalStatus = .NOT_REQUIRED ∧ r.assertExecutionUnlocked = .ok ()

end MaintenanceRequest

variable {env : Env} {db db' : Db} {op : Operation} {r : MaintenanceRequest} {w : Write}
  {dto : SubmitRequestEstimateDto} {triage : TriageUpdate} {columns : TriageColumns}

def Operation.SubmitsEstimate (op : Operation) (requestId : Id) (dto : SubmitRequestEstimateDto) :
    Prop :=
  (∃ user buildingId, op = .submitRequestEstimate user buildingId requestId dto) ∨
    ∃ user, op = .submitProviderRequestEstimate user requestId dto

theorem Operation.SubmitsEstimate.planned (hop : op.SubmitsEstimate r.id dto)
    (hr : r ∈ db.maintenanceRequests) (h : plan env db op = .ok w) :
    ∃ actorUserId, submitRequestEstimateInTx env r actorUserId dto = .ok w := by
  obtain ⟨user, buildingId, rfl⟩ | ⟨user, rfl⟩ := hop
  · obtain ⟨request, hmem, hid, actorUserId, hsubmit⟩ := submitRequestEstimate_ok h
    obtain rfl := Table.eq_of_key_eq hmem hr hid
    exact ⟨actorUserId, hsubmit⟩
  · obtain ⟨request, hmem, hid, actorUserId, hsubmit⟩ := submitProviderRequestEstimate_ok h
    obtain rfl := Table.eq_of_key_eq hmem hr hid
    exact ⟨actorUserId, hsubmit⟩

theorem isEmergencyCase_of_stored (hcolumns : triage.toColumns = .ok columns) :
    isEmergencyCase (columns.set r).policyInput =
      isEmergencyCase (triage.overlay r.policyInput) := by
  obtain ⟨hemergency, -⟩ := TriageUpdate.toColumns_ok hcolumns
  unfold isEmergencyCase TriageUpdate.overlay
  rw [hemergency]
  rfl

/-- Rounding moves no amount over the threshold, so the stored facts need no approval where
the merged ones needed none. -/
theorem costRoute_of_stored {r' : MaintenanceRequest} (hcolumns : triage.toColumns = .ok columns)
    (hset : columns.set r' = r')
    (h : costRoute (triage.overlay r.policyInput) ≠ .OWNER_APPROVAL_REQUIRED) :
    costRoute r'.policyInput ≠ .OWNER_APPROVAL_REQUIRED := by
  obtain ⟨-, hamount, hlike, hupgrade, hmajor, hdisputed⟩ := TriageUpdate.toColumns_ok hcolumns
  refine mt (fun hstored => ?_) h
  rw [← hset, costRoute_eq_ownerApproval] at hstored
  rw [costRoute_eq_ownerApproval]
  simp only [MaintenanceRequest.policyInput, TriageColumns.set, hlike, hupgrade, hmajor, hdisputed,
    hamount] at hstored
  obtain hflags | hlike' | ⟨amount, hrounded, hover⟩ := hstored
  · exact .inl hflags
  · exact .inr (.inl hlike')
  · obtain ⟨merged, hmerged, rfl⟩ := Option.map_eq_some_iff.mp hrounded
    refine .inr (.inr ⟨merged, hmerged, ?_⟩)
    by_contra hle
    exact absurd (roundCents_le (n := 1000) (by simpa using hle)) (by simpa using hover)

theorem estimateRoute_eq : estimateRoute r triage =
    if isEmergencyCase (triage.overlay r.policyInput) then .EMERGENCY_DISPATCH
      else costRoute (triage.overlay r.policyInput) :=
  route_of_notRequired (by simp) rfl

theorem unlocked_of_settled {now : Date} {userId : Id} (hcolumns : triage.toColumns = .ok columns)
    (hroute : estimateRoute r triage ≠ .OWNER_APPROVAL_REQUIRED) :
    ((touched (estimateSettledData now userId columns) now).apply r).ExecutionUnlocked := by
  refine ⟨OwnerApprovalStatus.noConfusion, OwnerApprovalStatus.noConfusion,
    EstimateStatus.noConfusion, ?_⟩
  rw [MaintenanceRequest.route, route_of_notRequired (by
    simp [MaintenanceRequest.policyInput, touched, estimateSettledData]) rfl]
  have hcase : isEmergencyCase
      ((touched (estimateSettledData now userId columns) now).apply r).policyInput =
        isEmergencyCase (triage.overlay r.policyInput) :=
    isEmergencyCase_of_stored hcolumns
  rw [estimateRoute_eq] at hroute
  rw [hcase]
  split_ifs at hroute ⊢ with hemergency
  · exact hroute
  · exact costRoute_of_stored hcolumns rfl hroute

theorem estimate_settles_request (env : Env) (db db' : Db) (op : Operation)
    (r : MaintenanceRequest) (dto : SubmitRequestEstimateDto) (hop : op.SubmitsEstimate r.id dto)
    (hr : r ∈ db.maintenanceRequests) (hunit : (truthy r.unitId).isSome)
    (h : step env op db = .ok db') :
    ∃ triage columns, buildPolicyTriageUpdateData dto.toPolicyTriageFieldsDto r
        (some (r.estimatedCurrency.getD "AED")) = .ok triage ∧ triage.toColumns = .ok columns ∧
      ∃ r' ∈ db'.maintenanceRequests, r'.id = r.id ∧ columns.set r' = r' ∧
        r'.estimateStatus = .SUBMITTED ∧ (r'.AwaitsOwner ∨ r'.Released) ∧
        (r'.AwaitsOwner ↔ estimateRoute r triage = .OWNER_APPROVAL_REQUIRED) := by
  obtain ⟨w, hplan, hcommit⟩ := step_eq_ok.mp h
  obtain ⟨actorUserId, hsubmit⟩ := hop.planned hr hplan
  obtain ⟨-, triage, columns, userId, htriage, hcolumns, hw⟩ :=
    submitRequestEstimateInTx_cases hsubmit
  refine ⟨triage, columns, htriage, hcolumns, ?_⟩
  obtain ⟨hroute, -, requestedBy, deadlineAt, event, rfl⟩ | ⟨hroute, rfl⟩ := hw
  · obtain ⟨request, hmem, hid, rfl⟩ := commit_update.mp hcommit
    obtain rfl := Table.eq_of_key_eq hmem hr hid
    have hawaits : ((touched (estimatePendingData env.now userId columns (requiredReason dto)
        (if hadRequestedApproval request then request.ownerApprovalRequestedAt else some env.now)
          requestedBy deadlineAt) env.now).apply request).AwaitsOwner := by
      refine ⟨rfl, ?_⟩
      simp only [touched, estimatePendingData]
      split_ifs with hrequested
      · exact (Bool.and_eq_true_iff.mp hrequested).2
      · rfl
    exact ⟨_, Table.mem_modify.mpr (.inl ⟨request, hmem, rfl, rfl⟩), rfl, rfl, rfl, .inl hawaits,
      iff_of_true hawaits hroute⟩
  · obtain ⟨request, hmem, hid, rfl⟩ := commit_update.mp hcommit
    obtain rfl := Table.eq_of_key_eq hmem hr hid
    have hroute : estimateRoute request triage ≠ .OWNER_APPROVAL_REQUIRED :=
      fun hrequired => hroute ⟨hrequired, hunit⟩
    have hunlocked : ((touched (estimateSettledData env.now userId columns) env.now).apply
        request).ExecutionUnlocked := unlocked_of_settled hcolumns hroute
    refine ⟨_, Table.mem_modify.mpr (.inl ⟨request, hmem, rfl, rfl⟩), rfl, rfl, rfl,
      .inr ⟨rfl, MaintenanceRequest.assertExecutionUnlocked_ok.mpr hunlocked⟩, ?_⟩
    exact iff_of_false (fun hawaits => OwnerApprovalStatus.noConfusion hawaits.1) hroute

def priced (amount : ℚ) : SubmitRequestEstimateDto :=
  { PolicyTriageFieldsDto.none with
    estimatedAmount := .value amount
    approvalRequiredReason := .undefined
    ownerApprovalDeadlineAt := .undefined }

def managerSubmits (now : Date) (amount : ℚ) : Env × Operation :=
  act now (.submitRequestEstimate (manager "org") "building" "request" (priced amount))

/-- An amount over the threshold by less than half a cent: the owner is asked although the
column then holds the threshold itself. -/
theorem estimate_settles_close_call :
    ∃ r triage, estimateRoute r triage = .OWNER_APPROVAL_REQUIRED ∧
      ∃ r' ∈ (run .empty [residentCreates 0 "Tap", managerSubmits 1 (1000004 / 1000)]).maintenanceRequests,
        r'.id = r.id ∧ r'.estimatedAmount = some 1000 ∧ r'.AwaitsOwner := by
  have hok : ∃ r ∈ (run .empty [residentCreates 0 "Tap"]).maintenanceRequests,
      r.id = "request" ∧ (truthy r.unitId).isSome ∧
        Succeeds (managerSubmits 1 (1000004 / 1000)).1 (managerSubmits 1 (1000004 / 1000)).2
          (run .empty [residentCreates 0 "Tap"]) := by decide +kernel
  obtain ⟨r, hr, hid, hunit, db', h⟩ := hok
  obtain ⟨triage, columns, -, -, r', hr', hid', -, -, hcases, hiff⟩ :=
    estimate_settles_request _ _ _ _ r (priced (1000004 / 1000))
      (.inl ⟨manager "org", "building", by rw [hid]; rfl⟩) hr hunit h
  have hstored : ∀ r' ∈ (run .empty [residentCreates 0 "Tap",
      managerSubmits 1 (1000004 / 1000)]).maintenanceRequests,
        r'.estimatedAmount = some 1000 ∧ r'.ownerApprovalStatus = .PENDING := by decide +kernel
  have hdb : run .empty [residentCreates 0 "Tap", managerSubmits 1 (1000004 / 1000)] = db' :=
    congrArg (Outcome.orElseKeep _) h
  rw [← hdb] at hr'
  obtain ⟨hamount, hpending⟩ := hstored r' hr'
  have hawaits : r'.AwaitsOwner :=
    hcases.resolve_right fun hreleased => by cases hpending.symm.trans hreleased.1
  exact ⟨r, triage, hiff.mp hawaits, r', hr', hid', hamount, hawaits⟩

end Submission

section Unassignment

/-- The request as it was before a provider was asked for a price. -/
structure MaintenanceRequest.Unasked (r : MaintenanceRequest) : Prop where
  serviceProviderId : r.serviceProviderId = none
  serviceProviderAssignedUserId : r.serviceProviderAssignedUserId = none
  estimateStatus : r.estimateStatus = .NOT_REQUESTED
  estimateRequestedAt : r.estimateRequestedAt = none
  estimateRequestedByUserId : r.estimateRequestedByUserId = none
  estimateDueAt : r.estimateDueAt = none
  estimateReminderSentAt : r.estimateReminderSentAt = none
  estimateSubmittedAt : r.estimateSubmittedAt = none
  estimateSubmittedByUserId : r.estimateSubmittedByUserId = none
  estimatedAmount : r.estimatedAmount = none
  estimatedCurrency : r.estimatedCurrency = none
  assignedAt : r.assignedAt = none
  status : r.status = .OPEN

/-- `unassignProvider` succeeds and calls the estimate off. -/
def UnassignUndoes (env : Env) (user : Option AuthenticatedUser) (buildingId requestId : Id)
    (db : Db) : Prop :=
  ∃ db', step env (.unassignProvider user buildingId requestId) db = .ok db' ∧
    ∃ r ∈ db'.maintenanceRequests, r.id = requestId ∧ r.Unasked

/-- The branch written for it would do so. -/
theorem unassignEstimateData_unasked (now : Date) (r : MaintenanceRequest) :
    ((touched unassignEstimateData now).apply r).Unasked := by
  constructor <;> rfl

variable {env : Env} {db db' : Db} {user : Option AuthenticatedUser} {buildingId requestId : Id}

theorem requested_of_requestEstimate {serviceProviderId : Id}
    (h : step env (.requestEstimateFromProvider user buildingId requestId serviceProviderId) db =
      .ok db') :
    ∃ r ∈ db'.maintenanceRequests, r.id = requestId ∧ r.estimateStatus = .REQUESTED := by
  obtain ⟨w, hplan, hcommit⟩ := step_eq_ok.mp h
  obtain ⟨r, hr, rfl, -, -, -, providerId, userId, actorUserId, rfl⟩ :=
    requestEstimateFromProvider_ok hplan
  obtain ⟨r₀, hr₀, hid, rfl⟩ := commit_update.mp hcommit
  exact ⟨_, Table.mem_modify.mpr (.inl ⟨r₀, hr₀, hid, rfl⟩), hid, rfl⟩

theorem unassign_refused {serviceProviderId : Id}
    (h : step env (.requestEstimateFromProvider user buildingId requestId serviceProviderId) db =
      .ok db') (env' : Env) {db'' : Db} :
    step env' (.unassignProvider user buildingId requestId) db' ≠ .ok db'' := by
  intro hundone
  obtain ⟨r, hr, hid, hrequested⟩ := requested_of_requestEstimate h
  obtain ⟨w, hplan, -⟩ := step_eq_ok.mp hundone
  obtain ⟨r', hr', hid', -, hunlocked, -⟩ := unassignProvider_ok hplan
  obtain rfl := Table.eq_of_key_eq hr hr' (hid.trans hid'.symm)
  exact hunlocked.not_requested hrequested

/-- However the provider is taken off right after the estimate was asked for, it fails. -/
theorem requested_estimate_never_undone (env : Env) (db db' : Db)
    (user : Option AuthenticatedUser) (buildingId requestId serviceProviderId : Id)
    (h : step env (.requestEstimateFromProvider user buildingId requestId serviceProviderId) db =
      .ok db') (env' : Env) : ¬ UnassignUndoes env' user buildingId requestId db' :=
  fun ⟨_, hundone, _⟩ => unassign_refused h env' hundone

def managerUnassigns (now : Date) : Env × Operation :=
  act now (.unassignProvider (manager "org") "building" "request")

theorem asked_provider_stays :
    ¬ UnassignUndoes (managerUnassigns 2).1 (manager "org") "building" "request"
      (run .empty [residentCreates 0 "Tap", managerRequestsEstimate 1]) := by
  have hok : Succeeds (managerRequestsEstimate 1).1 (managerRequestsEstimate 1).2
      (run .empty [residentCreates 0 "Tap"]) := by decide +kernel
  obtain ⟨db', h⟩ := hok
  have hdb : run .empty [residentCreates 0 "Tap", managerRequestsEstimate 1] = db' :=
    congrArg (Outcome.orElseKeep (run .empty [residentCreates 0 "Tap"])) h
  rw [hdb]
  exact requested_estimate_never_undone _ _ _ _ _ _ _ h _

/-- The manager of the scene asks the provider for a price and is then refused. -/
theorem unassign_does_not_undo :
    ¬ ∀ env now db db' user buildingId requestId serviceProviderId,
      step env (.requestEstimateFromProvider user buildingId requestId serviceProviderId) db =
          .ok db' →
        UnassignUndoes { env with now } user buildingId requestId db' := by
  intro hundoes
  have hok : Succeeds (managerRequestsEstimate 1).1 (managerRequestsEstimate 1).2
      (run .empty [residentCreates 0 "Tap"]) := by decide +kernel
  obtain ⟨db', h⟩ := hok
  obtain ⟨db'', hundone, -⟩ := hundoes _ 2 _ _ _ _ _ _ h
  exact unassign_refused h _ hundone

end Unassignment

end Towerdesk.Maintenance
