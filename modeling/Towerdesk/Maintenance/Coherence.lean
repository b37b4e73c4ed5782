import Towerdesk.Maintenance.Scene

/-!
# Assignment coherence

The assignment, estimate and status columns are written by nine operations, each
writing its own part of them. They fit together in every run in which no status
update hands out an open request; such an update is accepted by the transition table
and leaves the request assigned to nobody.
-/

namespace Towerdesk.Maintenance

/-- The assignment columns of a request fit its status and its estimate. -/
structure AssignmentCoherent (r : MaintenanceRequest) : Prop where
  execution : r.status.IsExecution →
    Xor (r.assignedToUserId ≠ none) (r.serviceProviderId ≠ none) ∧ r.assignedAt ≠ none
  unassigned : r.status = .OPEN → r.assignedToUserId = none
  worker : r.serviceProviderAssignedUserId ≠ none → r.serviceProviderId ≠ none
  requested : r.estimateStatus = .REQUESTED →
    r.serviceProviderId ≠ none ∧ r.estimateRequestedAt ≠ none ∧ r.estimateDueAt ≠ none ∧
      (r.status = .OPEN ∨ r.status = .CANCELED)

/-- A status update does not take an open request to ASSIGNED. -/
def AssignsByAssignment : Operation → MaintenanceRequest → Prop
  | .updateRequestStatus _ _ _ status, r => ¬ (r.status = .OPEN ∧ status = .ASSIGNED)
  | .updateProviderRequestStatus _ _ status, r => ¬ (r.status = .OPEN ∧ status = .ASSIGNED)
  | _, _ => True

instance : ∀ op r, Decidable (AssignsByAssignment op r) := by
  rintro ⟨⟩ r <;> first | exact inferInstanceAs (Decidable (¬ (_ ∧ _))) | exact isTrue trivial

variable {env : Env} {db : Db} {op : Operation} {r : MaintenanceRequest} {u : RowUpdate}

theorem assignsByAssignment_of_leavesRequest (h : op.LeavesRequest) : AssignsByAssignment op r := by
  cases op <;> first | exact h.elim | exact trivial

section Steps

theorem assignmentCoherent_new (env : Env) (entry : ResidentEntry)
    (dto : CreateResidentRequestDto) : AssignmentCoherent (newRequest env entry dto) where
  execution h := absurd h MaintenanceRequestStatus.open_not_isExecution
  unassigned _ := rfl
  worker h := absurd rfl h
  requested h := by cases h

theorem AssignmentCoherent.assignedToUserId_eq (h : AssignmentCoherent r)
    (hstatus : r.status = .OPEN ∨ r.status = .ASSIGNED) (hprovider : r.serviceProviderId ≠ none) :
    r.assignedToUserId = none := by
  rcases hstatus with hstatus | hstatus
  · exact h.unassigned hstatus
  · rcases (h.execution (.inl hstatus)).1 with ⟨-, hnone⟩ | ⟨-, hnone⟩
    · exact absurd hprovider hnone
    · exact not_not.mp hnone

theorem isExecution_of_transition {s t : MaintenanceRequestStatus}
    (h : t ∈ MAINTENANCE_STATUS_TRANSITIONS s) (hs : ¬ (s = .OPEN ∧ t = .ASSIGNED)) :
    s.IsExecution ∧ t ≠ .OPEN := by
  cases s <;> simp_all [MAINTENANCE_STATUS_TRANSITIONS, MaintenanceRequestStatus.IsExecution]

theorem assignmentCoherent_updateStatus {now : Date} {status : MaintenanceRequestStatus}
    (h : AssignmentCoherent r) (htransition : status ∈ MAINTENANCE_STATUS_TRANSITIONS r.status)
    (hunlocked : r.ExecutionUnlocked) (hopen : ¬ (r.status = .OPEN ∧ status = .ASSIGNED)) :
    AssignmentCoherent ((touched (updateStatusData now r status) now).apply r) := by
  obtain ⟨hexec, hne⟩ := isExecution_of_transition htransition hopen
  exact {
    execution := fun _ => h.execution hexec
    unassigned := fun ho => absurd ho hne
    worker := h.worker
    requested := fun hr => absurd hr hunlocked.not_requested }

theorem Change.assignmentCoherent (hchange : Change env r op u) (h : AssignmentCoherent r)
    (hop : AssignsByAssignment op r) :
    AssignmentCoherent ((touched u.data env.now).apply r) := by
  cases hchange with
  | cancelResidentRequest _ | cancelBuildingRequest _ =>
    exact {
      execution := fun hc => absurd hc MaintenanceRequestStatus.canceled_not_isExecution
      unassigned := fun hc => by cases hc
      worker := h.worker
      requested := fun hr => by
        obtain ⟨hprovider, hat, hdue, -⟩ := h.requested hr
        exact ⟨hprovider, hat, hdue, .inr rfl⟩ }
  | assignRequest _ hunlocked =>
    exact {
      execution := fun _ => ⟨.inl ⟨Option.some_ne_none _, fun hn => hn rfl⟩, Option.some_ne_none _⟩
      unassigned := fun ho => by cases ho
      worker := fun hw => absurd rfl hw
      requested := fun hr => absurd hr hunlocked.not_requested }
  | assignProvider _ hunlocked =>
    exact {
      execution := fun _ => ⟨.inr ⟨Option.some_ne_none _, fun hn => hn rfl⟩, Option.some_ne_none _⟩
      unassigned := fun ho => by cases ho
      worker := fun hw => absurd rfl hw
      requested := fun hr => absurd hr hunlocked.not_requested }
  | requestEstimateFromProvider _ _ _ =>
    exact {
      execution := fun ho => absurd ho MaintenanceRequestStatus.open_not_isExecution
      unassigned := fun _ => rfl
      worker := fun hw => absurd rfl hw
      requested := fun _ =>
        ⟨Option.some_ne_none _, Option.some_ne_none _, Option.some_ne_none _, .inl rfl⟩ }
  | assignProviderWorker _ hunlocked hprovider
  | assignProviderWorkerFromProvider _ hunlocked hprovider =>
    exact {
      execution := fun _ => ⟨.inr ⟨hprovider, fun hn => hn rfl⟩, Option.some_ne_none _⟩
      unassigned := fun ho => by cases ho
      worker := fun _ => hprovider
      requested := fun hr => absurd hr hunlocked.not_requested }
  | unassignProvider hopen hunlocked hprovider =>
    exact {
      execution := fun ho => absurd ho MaintenanceRequestStatus.open_not_isExecution
      unassigned := fun _ => h.assignedToUserId_eq hopen hprovider
      worker := fun hw => absurd rfl hw
      requested := fun hr => absurd hr hunlocked.not_requested }
  | updateRequestStatus htransition hunlocked =>
    exact assignmentCoherent_updateStatus h htransition hunlocked hop
  | updateProviderRequestStatus htransition hunlocked =>
    exact assignmentCoherent_updateStatus h htransition hunlocked hop
  | submitRequestEstimatePending _ | submitRequestEstimateSettled _
  | submitProviderRequestEstimatePending _ | submitProviderRequestEstimateSettled _ =>
    exact ⟨h.execution, h.unassigned, h.worker, fun hr => by cases hr⟩
  | _ => exact ⟨h.execution, h.unassigned, h.worker, h.requested⟩

theorem assignmentCoherent_reminded (now : Date) (h : AssignmentCoherent r) :
    AssignmentCoherent ((reminderSent now).apply r) := by
  simp only [reminderSent]
  split_ifs
  · exact ⟨h.execution, h.unassigned, h.worker, h.requested⟩
  · exact h

end Steps

section Open

def OpenHasNoAssignedAt (r : MaintenanceRequest) : Prop := r.status = .OPEN → r.assignedAt = none

theorem Change.openHasNoAssignedAt (hchange : Change env r op u) (h : OpenHasNoAssignedAt r) :
    OpenHasNoAssignedAt ((touched u.data env.now).apply r) := by
  cases hchange with
  | cancelResidentRequest _ | cancelBuildingRequest _ => exact fun hs => by cases hs
  | assignRequest _ _ | assignProvider _ _ | assignProviderWorker _ _ _
  | assignProviderWorkerFromProvider _ _ _ => exact fun hs => by cases hs
  | requestEstimateFromProvider _ _ _ | unassignProvider _ _ _ => exact fun _ => rfl
  | updateRequestStatus htransition _ | updateProviderRequestStatus htransition _ =>
    refine fun hs => ?_
    obtain rfl := hs
    cases hstatus : r.status <;> simp [MAINTENANCE_STATUS_TRANSITIONS, hstatus] at htransition
  | _ => exact h

theorem openHasNoAssignedAt_reminded (now : Date) (h : OpenHasNoAssignedAt r) :
    OpenHasNoAssignedAt ((reminderSent now).apply r) := by
  simp only [reminderSent]
  split_ifs <;> exact h

theorem Change.not_assignmentCoherent (hchange : Change env r op u) (h : OpenHasNoAssignedAt r)
    (hop : ¬ AssignsByAssignment op r) :
    ¬ AssignmentCoherent ((touched u.data env.now).apply r) := by
  cases hchange with
  | updateRequestStatus _ _ | updateProviderRequestStatus _ _ =>
    obtain ⟨hopen, rfl⟩ := not_not.mp hop
    exact fun hc => (hc.execution (.inl rfl)).2 (h hopen)
  | _ => exact absurd trivial hop

end Open

section Runs

variable {ls : List (Env × Operation)}

theorem openHasNoAssignedAt_run (ls : List (Env × Operation)) :
    ∀ r ∈ (run .empty ls).maintenanceRequests, OpenHasNoAssignedAt r :=
  run_forall (g := fun _ _ => True) (fun _ _ _ _ => rfl)
    (fun _ _ _ _ h _ hc => hc.openHasNoAssignedAt h)
    (fun _ _ h => openHasNoAssignedAt_reminded _ h)
    (Run.along_of_split fun _ _ _ _ _ _ _ _ => trivial)

/-- Assignment coherence holds at every point of a run exactly when no status update of
the run hands out an open request. -/
theorem assignment_coherence (ls : List (Env × Operation)) :
    (∀ ms ns, ls = ms ++ ns →
      ∀ r ∈ (run .empty ms).maintenanceRequests, AssignmentCoherent r) ↔
    Run.Along next (OnNamed AssignsByAssignment) .empty ls := by
  constructor
  · intro h
    refine Run.along_of_split fun ms l ns hls r hr hnamed hok => ?_
    by_contra hop
    obtain ⟨r₀, hr₀, hid, u, hchange, hmem⟩ := hok.change (hnamed ▸ Option.some_ne_none _)
      fun hleaves => hop (assignsByAssignment_of_leavesRequest hleaves)
    obtain rfl := Table.eq_of_key_eq hr hr₀ (Option.some.inj (hnamed.symm.trans hid))
    refine hchange.not_assignmentCoherent (openHasNoAssignedAt_run ms _ hr) hop ?_
    refine h (ms ++ [l]) ns (by rw [hls, List.append_cons]) _ ?_
    rwa [run, Run.exec_concat]
  · rintro hg ms ns rfl
    rw [Run.along_append] at hg
    exact run_forall assignmentCoherent_new (fun _ _ _ _ h hop hc => hc.assignmentCoherent h hop)
      (fun _ _ h => assignmentCoherent_reminded _ h) hg.1

/-- A manager sets the status of a fresh request to ASSIGNED. -/
theorem status_update_assigns_nobody :
    ∃ r ∈ (run .empty [residentCreates 0 "Light bulb",
        managerSetsStatus 1 .ASSIGNED]).maintenanceRequests,
      r.status = .ASSIGNED ∧ r.assignedToUserId = none ∧ r.serviceProviderId = none ∧
        ¬ AssignmentCoherent r := by
  have hrow : ∃ r ∈ (run .empty [residentCreates 0 "Light bulb",
        managerSetsStatus 1 .ASSIGNED]).maintenanceRequests,
      r.status = .ASSIGNED ∧ r.assignedToUserId = none ∧ r.serviceProviderId = none := by
    decide +kernel
  obtain ⟨r, hr, hstatus, hassigned, hprovider⟩ := hrow
  refine ⟨r, hr, hstatus, hassigned, hprovider, fun h => ?_⟩
  rcases (h.execution (.inl hstatus)).1 with ⟨hne, -⟩ | ⟨hne, -⟩
  · exact hne hassigned
  · exact hne hprovider

end Runs

end Towerdesk.Maintenance
