import Towerdesk.Maintenance.Operation

/-!
# What a step does

A planned update is a `Change` of the request the operation names. From that, a step
is followed on one request: left as it was, changed, or marked as reminded, together
with the audit rows the request gains.
-/

namespace Towerdesk.Maintenance

/-- The operations on threads and attachments, and the reminder of the estimate monitor. -/
def Operation.LeavesRequest : Operation → Prop
  | .addResidentComment .. | .addBuildingComment .. | .listBuildingComments ..
  | .addProviderComment .. | .listProviderComments .. | .addAccessibleRequestComment ..
  | .listAccessibleRequestComments .. | .addBuildingAttachments .. | .addProviderAttachments ..
  | .remindEstimate .. => True
  | _ => False

inductive Planned (env : Env) (db : Db) (op : Operation) : Write → Prop
  | create {user dto entry attachments event} (hop : op = .createResidentRequest user dto)
      (horg : entry.orgId ≠ "") :
      Planned env db op (.create (newRequest env entry dto) attachments event)
  | update {r : MaintenanceRequest} {u : RowUpdate} (hmem : r ∈ db.maintenanceRequests)
      (hid : op.requestId = some r.id) (hchange : Change env r op u) : Planned env db op (.update u)
  | remind {requestId event} (hop : op = .remindEstimate requestId) :
      Planned env db op (.remind requestId env.now event)
  | other {w : Write} (hop : op.LeavesRequest) (hcreate : ∀ r as e, w ≠ .create r as e)
      (hupdate : ∀ u, w ≠ .update u) (hremind : ∀ i n e, w ≠ .remind i n e) : Planned env db op w

variable {env : Env} {db db' : Db} {op : Operation} {w : Write} {r r' : MaintenanceRequest}
  {u : RowUpdate}

theorem planned_comment {c : CommentPost} (hop : op.LeavesRequest) :
    Planned env db op (.comment c) :=
  .other hop (by simp) (by simp) (by simp)

theorem planned_markRead {s : Option CommentReadState} {o : Option OwnerRequestCommentReadState}
    (hop : op.LeavesRequest) : Planned env db op (.markRead s o) :=
  .other hop (by simp) (by simp) (by simp)

theorem planned_attach {as : List Attachment} (hop : op.LeavesRequest) :
    Planned env db op (.attach as) :=
  .other hop (by simp) (by simp) (by simp)

theorem plan_planned (h : plan env db op = .ok w) : Planned env db op w := by
  cases op with
  | createResidentRequest user dto =>
    obtain ⟨entry, attachments, event, horg, rfl⟩ := createResidentRequest_ok h
    exact .create rfl horg
  | updateResidentRequest user requestId dto =>
    obtain ⟨r, hmem, rfl, hopen, rfl⟩ := updateResidentRequest_ok h
    exact .update hmem rfl (.updateResidentRequest hopen)
  | cancelResidentRequest user requestId =>
    obtain ⟨r, hmem, rfl, hopen, userId, rfl⟩ := cancelResidentRequest_ok h
    exact .update hmem rfl (.cancelResidentRequest hopen)
  | cancelBuildingRequest user buildingId requestId =>
    obtain ⟨r, hmem, rfl, hopen, userId, rfl⟩ := cancelBuildingRequest_ok h
    exact .update hmem rfl (.cancelBuildingRequest hopen)
  | assignRequest user buildingId requestId staffUserId =>
    obtain ⟨r, hmem, rfl, hopen, hunlocked, staffId, userId, rfl⟩ := assignRequest_ok h
    exact .update hmem rfl (.assignRequest hopen hunlocked)
  | assignProvider user buildingId requestId serviceProviderId =>
    obtain ⟨r, hmem, rfl, hopen, hunlocked, providerId, userId, rfl⟩ := assignProvider_ok h
    exact .update hmem rfl (.assignProvider hopen hunlocked)
  | requestEstimateFromProvider user buildingId requestId serviceProviderId =>
    obtain ⟨r, hmem, rfl, hopen, hpending, hroute, providerId, userId, actorUserId, rfl⟩ :=
      requestEstimateFromProvider_ok h
    exact .update hmem rfl (.requestEstimateFromProvider hopen hpending hroute)
  | assignProviderWorker user buildingId requestId workerUserId =>
    obtain ⟨r, hmem, rfl, hopen, hunlocked, hprovider, workerId, userId, rfl⟩ :=
      assignProviderWorker_ok h
    exact .update hmem rfl (.assignProviderWorker hopen hunlocked hprovider)
  | unassignProvider user buildingId requestId =>
    obtain ⟨r, hmem, rfl, hopen, hunlocked, hprovider, userId, rfl⟩ := unassignProvider_ok h
    exact .update hmem rfl (.unassignProvider hopen hunlocked hprovider)
  | updateRequestStatus user buildingId requestId status =>
    obtain ⟨r, hmem, rfl, htransition, hunlocked, event, rfl⟩ := updateRequestStatus_ok h
    exact .update hmem rfl (.updateRequestStatus htransition hunlocked)
  | updateProviderRequestStatus user requestId status =>
    obtain ⟨r, hmem, rfl, htransition, hunlocked, event, rfl⟩ := updateProviderRequestStatus_ok h
    exact .update hmem rfl (.updateProviderRequestStatus htransition hunlocked)
  | assignProviderWorkerFromProvider user requestId workerUserId =>
    obtain ⟨r, hmem, rfl, hopen, hunlocked, hprovider, workerId, userId, rfl⟩ :=
      assignProviderWorkerFromProvider_ok h
    exact .update hmem rfl (.assignProviderWorkerFromProvider hopen hunlocked hprovider)
  | requireOwnerApproval user buildingId requestId dto =>
    obtain ⟨r, hmem, rfl, hopen, columns, deadlineAt, userId, rfl⟩ := requireOwnerApproval_ok h
    exact .update hmem rfl (.requireOwnerApproval hopen)
  | requestOwnerApprovalNow user buildingId requestId dto =>
    obtain ⟨r, hmem, rfl, hopen, columns, deadlineAt, userId, actorUserId, event, rfl⟩ :=
      requestOwnerApprovalNow_ok h
    exact .update hmem rfl (.requestOwnerApprovalNow hopen)
  | requestOwnerApproval user buildingId requestId =>
    obtain ⟨r, hmem, rfl, hpending, userId, actorUserId, event, rfl⟩ :=
      markOwnerApprovalRequested_ok h
    exact .update hmem rfl (.requestOwnerApproval hpending)
  | resendOwnerApprovalRequest user buildingId requestId =>
    obtain ⟨r, hmem, rfl, hpending, userId, actorUserId, event, rfl⟩ :=
      markOwnerApprovalRequested_ok h
    exact .update hmem rfl (.resendOwnerApprovalRequest hpending)
  | updateRequestPolicyTriage user buildingId requestId dto =>
    obtain ⟨r, hmem, rfl, hopen, columns, hcolumns, rfl⟩ := updateRequestPolicyTriage_ok h
    exact .update hmem rfl (.updateRequestPolicyTriage hopen hcolumns)
  | submitRequestEstimate user buildingId requestId dto =>
    obtain ⟨r, hmem, rfl, actorUserId, h⟩ := submitRequestEstimate_ok h
    obtain ⟨hopen, columns, userId, ⟨_, _, _, _, rfl⟩ | rfl⟩ := submitRequestEstimateInTx_ok h
    · exact .update hmem rfl (.submitRequestEstimatePending hopen)
    · exact .update hmem rfl (.submitRequestEstimateSettled hopen)
  | submitProviderRequestEstimate user requestId dto =>
    obtain ⟨r, hmem, rfl, actorUserId, h⟩ := submitProviderRequestEstimate_ok h
    obtain ⟨hopen, columns, userId, ⟨_, _, _, _, rfl⟩ | rfl⟩ := submitRequestEstimateInTx_ok h
    · exact .update hmem rfl (.submitProviderRequestEstimatePending hopen)
    · exact .update hmem rfl (.submitProviderRequestEstimateSettled hopen)
  | overrideOwnerApproval user buildingId requestId dto =>
    obtain ⟨r, hmem, rfl, hpending, userId, actorUserId, event, rfl⟩ := overrideOwnerApproval_ok h
    exact .update hmem rfl (.overrideOwnerApproval hpending)
  | approveAccessibleRequest userId requestId approvalReason =>
    obtain ⟨r, hmem, rfl, hpending, decidedByUserId, event, rfl⟩ := decideAccessibleRequest_ok h
    exact .update hmem rfl (.approveAccessibleRequest hpending)
  | rejectAccessibleRequest userId requestId approvalReason =>
    obtain ⟨r, hmem, rfl, hpending, decidedByUserId, event, rfl⟩ := decideAccessibleRequest_ok h
    exact .update hmem rfl (.rejectAccessibleRequest hpending)
  | addResidentComment user requestId message =>
    simp only [plan, addResidentComment, Outcome.bind_eq_ok, Outcome.pure_eq_ok] at h
    obtain ⟨entry, -, request, -, -, -, rfl⟩ := h
    exact planned_comment trivial
  | addBuildingComment user buildingId requestId dto =>
    simp only [plan, addBuildingComment, Outcome.bind_eq_ok, Outcome.pure_eq_ok] at h
    obtain ⟨entry, -, request, -, -, -, rfl⟩ := h
    exact planned_comment trivial
  | listBuildingComments user buildingId requestId =>
    simp only [plan, listBuildingComments, Outcome.bind_eq_ok, Outcome.pure_eq_ok] at h
    obtain ⟨entry, -, request, -, -, -, rfl⟩ := h
    exact planned_markRead trivial
  | addProviderComment user requestId message =>
    simp only [plan, addProviderComment, Outcome.bind_eq_ok, Outcome.pure_eq_ok] at h
    obtain ⟨entry, -, request, -, -, -, -, -, rfl⟩ := h
    exact planned_comment trivial
  | listProviderComments user requestId =>
    simp only [plan, listProviderComments, Outcome.bind_eq_ok, Outcome.pure_eq_ok] at h
    obtain ⟨entry, -, request, -, rfl⟩ := h
    exact planned_markRead trivial
  | addAccessibleRequestComment userId requestId message =>
    simp only [plan, addAccessibleRequestComment, Outcome.bind_eq_ok] at h
    obtain ⟨⟨request, unit⟩, -, h⟩ := h
    obtain rfl := Outcome.pure_eq_ok.mp h
    exact planned_comment trivial
  | listAccessibleRequestComments userId requestId =>
    simp only [plan, listAccessibleRequestComments, Outcome.bind_eq_ok] at h
    obtain ⟨⟨request, unit⟩, -, h⟩ := h
    obtain rfl := Outcome.pure_eq_ok.mp h
    exact planned_markRead trivial
  | addBuildingAttachments user buildingId requestId attachments =>
    simp only [plan, addBuildingAttachments, Outcome.bind_eq_ok, Outcome.pure_eq_ok] at h
    obtain ⟨entry, -, request, -, -, -, -, -, rfl⟩ := h
    exact planned_attach trivial
  | addProviderAttachments user requestId attachments =>
    simp only [plan, addProviderAttachments, Outcome.bind_eq_ok, Outcome.pure_eq_ok] at h
    obtain ⟨entry, -, request, -, -, -, -, -, rfl⟩ := h
    exact planned_attach trivial
  | remindEstimate requestId =>
    obtain rfl := Except.ok.inj h
    unfold remindEstimate
    split
    · next request hfind =>
      obtain ⟨-, hp⟩ := Table.findFirst_some hfind
      rw [← (of_decide_eq_true hp).1]
      exact .remind rfl
    · exact .other trivial (by simp) (by simp) (by simp)

section Step

def Succeeds (env : Env) (op : Operation) (db : Db) : Prop := ∃ db', step env op db = .ok db'

instance (env : Env) (op : Operation) (db : Db) : Decidable (Succeeds env op db) :=
  match h : step env op db with
  | .ok db' => isTrue ⟨db', h⟩
  | .error _ => isFalse fun ⟨_, h'⟩ => by simp [h] at h'

/-- The inversion of a step that returned. -/
inductive Stepped (env : Env) (db : Db) (op : Operation) : Db → Prop
  | created {user dto entry} {t : Table MaintenanceRequest.id} {attachments : List Attachment}
      {event : Event} (hop : op = .createResidentRequest user dto) (horg : entry.orgId ≠ "")
      (hinsert : db.maintenanceRequests.insert (newRequest env entry dto) = some t) :
      Stepped env db op { db with
        maintenanceRequests := t
        attachments := db.attachments ++ attachments
        events := db.events ++ [event] }
  | updated {r : MaintenanceRequest} {u : RowUpdate} (hmem : r ∈ db.maintenanceRequests)
      (hid : op.requestId = some r.id) (hchange : Change env r op u) :
      Stepped env db op (db.applyUpdate env.now u ((touched u.data env.now).apply r))
  | reminded {requestId : Id} {event : Event} (hop : op = .remindEstimate requestId) :
      Stepped env db op { db with
        maintenanceRequests := db.maintenanceRequests.modify requestId (reminderSent env.now)
        events := db.events ++ [event] }
  | kept {db' : Db} (hrequests : db'.maintenanceRequests = db.maintenanceRequests)
      (haudits : db'.ownerApprovalAudits = db.ownerApprovalAudits) : Stepped env db op db'

theorem Change.requestId_eq (h : Change env r op u) : u.requestId = r.id := by
  cases h <;> rfl

theorem step_eq_ok :
    step env op db = .ok db' ↔ ∃ w, plan env db op = .ok w ∧ commit env w db = .ok db' :=
  Outcome.bind_eq_ok

theorem step_stepped (h : step env op db = .ok db') : Stepped env db op db' := by
  obtain ⟨w, hplan, hcommit⟩ := step_eq_ok.mp h
  cases plan_planned hplan with
  | create hop horg =>
    obtain ⟨t, ht, rfl⟩ := commit_create.mp hcommit
    exact .created hop horg ht
  | update hmem hid hchange =>
    obtain ⟨r, hr, hrid, rfl⟩ := commit_update.mp hcommit
    rw [hchange.requestId_eq] at hrid
    obtain rfl := Table.eq_of_key_eq hr hmem hrid
    exact .updated hmem hid hchange
  | @remind requestId event hop =>
    simp only [commit] at hcommit
    split_ifs at hcommit
    · obtain rfl := Except.ok.inj hcommit
      exact .reminded hop
    · obtain rfl := Except.ok.inj hcommit
      exact .kept rfl rfl
  | other _ hcreate hupdate hremind =>
    obtain ⟨hrequests, haudits⟩ := commit_requests_eq hcommit hcreate hupdate hremind
    exact .kept hrequests haudits

theorem plan_change (h : plan env db op = .ok w) (hnamed : op.requestId ≠ none)
    (hop : ¬ op.LeavesRequest) :
    ∃ r ∈ db.maintenanceRequests, op.requestId = some r.id ∧
      ∃ u, w = .update u ∧ Change env r op u := by
  cases plan_planned h with
  | create hcreate => exact absurd (by rw [hcreate]; rfl) hnamed
  | update hmem hid hchange => exact ⟨_, hmem, hid, _, rfl, hchange⟩
  | remind hremind => exact absurd (by rw [hremind]; exact trivial) hop
  | other hleaves => exact absurd hleaves hop

theorem Succeeds.change (h : Succeeds env op db) (hnamed : op.requestId ≠ none)
    (hop : ¬ op.LeavesRequest) :
    ∃ r ∈ db.maintenanceRequests, op.requestId = some r.id ∧ ∃ u, Change env r op u ∧
      (touched u.data env.now).apply r ∈ (next (env, op) db).maintenanceRequests := by
  obtain ⟨db', h⟩ := h
  rw [next, h, Outcome.orElseKeep_ok]
  obtain ⟨w, hplan, hcommit⟩ := step_eq_ok.mp h
  obtain ⟨r, hmem, hid, u, rfl, hchange⟩ := plan_change hplan hnamed hop
  obtain ⟨r₀, hr₀, hrid, rfl⟩ := commit_update.mp hcommit
  refine ⟨r, hmem, hid, u, hchange, ?_⟩
  exact Table.mem_modify.mpr (.inl ⟨r, hmem, hchange.requestId_eq.symm, rfl⟩)

/-- A step followed on one request: what becomes of the row, and the audit rows it
gains. -/
inductive RowStep (env : Env) (op : Operation) (r : MaintenanceRequest) :
    MaintenanceRequest → List OwnerApprovalAudit → Prop
  | unchanged : RowStep env op r r []
  | changed {u : RowUpdate} (hid : op.requestId = some r.id) (hchange : Change env r op u) :
      RowStep env op r ((touched u.data env.now).apply r)
        (u.audits.map (·.toRow env.now ((touched u.data env.now).apply r)))
  | reminded (hop : op = .remindEstimate r.id) :
      RowStep env op r ((reminderSent env.now).apply r) []

theorem RowStep.id_eq {as : List OwnerApprovalAudit} (h : RowStep env op r r' as) :
    r'.id = r.id := by
  cases h with
  | unchanged => rfl
  | @changed u _ _ => exact (touched u.data env.now).key_apply r
  | reminded _ => exact (reminderSent env.now).key_apply r

def Db.auditsOf (db : Db) (requestId : Id) : List OwnerApprovalAudit :=
  db.ownerApprovalAudits.filter (·.requestId = requestId)

theorem auditsOf_applyUpdate {id : Id} {now : Date} {updated : MaintenanceRequest} :
    (db.applyUpdate now u updated).auditsOf id =
      db.auditsOf id ++ if updated.id = id then u.audits.map (·.toRow now updated) else [] := by
  simp only [Db.auditsOf, Db.applyUpdate, List.filter_append, List.append_cancel_left_eq]
  split_ifs with hid
  · rw [List.filter_eq_self]
    intro a ha
    obtain ⟨d, -, rfl⟩ := List.mem_map.mp ha
    exact decide_eq_true hid
  · rw [List.filter_eq_nil_iff]
    intro a ha
    obtain ⟨d, -, rfl⟩ := List.mem_map.mp ha
    exact fun h => hid (of_decide_eq_true h)

theorem step_row (h : step env op db = .ok db') (hr' : r' ∈ db'.maintenanceRequests) :
    (∃ user dto entry, op = .createResidentRequest user dto ∧ entry.orgId ≠ "" ∧
        r' = newRequest env entry dto ∧ (∀ r ∈ db.maintenanceRequests, r.id ≠ r'.id) ∧
        db'.auditsOf r'.id = db.auditsOf r'.id) ∨
      ∃ r ∈ db.maintenanceRequests, ∃ as, RowStep env op r r' as ∧
        db'.auditsOf r.id = db.auditsOf r.id ++ as := by
  cases step_stepped h with
  | @created user dto entry _ _ _ hop horg hinsert =>
    rcases (Table.mem_insert hinsert).mp hr' with hr' | rfl
    · exact .inr ⟨r', hr', [], .unchanged, (List.append_nil _).symm⟩
    · exact .inl ⟨user, dto, entry, hop, horg, rfl, fun r hr => Table.fresh_of_insert hinsert hr, rfl⟩
  | @updated r u hmem hid hchange =>
    have hr'' : r' ∈ db.maintenanceRequests.modify r.id (touched u.data env.now) :=
      hchange.requestId_eq ▸ hr'
    have hupdated : ((touched u.data env.now).apply r).id = r.id :=
      (touched u.data env.now).key_apply r
    rcases (Table.mem_modify_iff hmem).mp hr'' with rfl | ⟨hr', hne⟩
    · refine .inr ⟨r, hmem, _, .changed hid hchange, ?_⟩
      rw [auditsOf_applyUpdate, if_pos hupdated]
    · refine .inr ⟨r', hr', [], .unchanged, ?_⟩
      rw [auditsOf_applyUpdate, if_neg (by rw [hupdated]; exact hne.symm)]
  | reminded hop =>
    rcases Table.mem_modify.mp hr' with ⟨r, hr, rfl, rfl⟩ | ⟨hr', -⟩
    · exact .inr ⟨r, hr, [], .reminded hop, (List.append_nil _).symm⟩
    · exact .inr ⟨r', hr', [], .unchanged, (List.append_nil _).symm⟩
  | kept hrequests haudits =>
    refine .inr ⟨r', hrequests ▸ hr', [], .unchanged, ?_⟩
    rw [Db.auditsOf, haudits, List.append_nil, Db.auditsOf]

theorem step_keeps (h : step env op db = .ok db') (hr : r ∈ db.maintenanceRequests) :
    ∃ r' ∈ db'.maintenanceRequests, r'.id = r.id := by
  cases step_stepped h with
  | created _ _ hinsert => exact ⟨r, (Table.mem_insert hinsert).mpr (.inl hr), rfl⟩
  | @updated r₀ u hmem hid hchange =>
    by_cases heq : r.id = u.requestId
    · refine ⟨(touched u.data env.now).apply r, ?_, (touched u.data env.now).key_apply r⟩
      exact Table.mem_modify.mpr (.inl ⟨r, hr, heq, rfl⟩)
    · exact ⟨r, Table.mem_modify_of_ne hr heq, rfl⟩
  | @reminded requestId event hop =>
    by_cases heq : r.id = requestId
    · refine ⟨(reminderSent env.now).apply r, ?_, (reminderSent env.now).key_apply r⟩
      exact Table.mem_modify.mpr (.inl ⟨r, hr, heq, rfl⟩)
    · exact ⟨r, Table.mem_modify_of_ne hr heq, rfl⟩
  | kept hrequests _ => exact ⟨r, hrequests ▸ hr, rfl⟩

theorem step_audit (h : step env op db = .ok db') {a : OwnerApprovalAudit}
    (ha : a ∈ db'.ownerApprovalAudits) :
    a ∈ db.ownerApprovalAudits ∨ ∃ r ∈ db'.maintenanceRequests, r.id = a.requestId := by
  cases step_stepped h with
  | created _ _ _ => exact .inl ha
  | @updated r u hmem hid hchange =>
    rcases List.mem_append.mp ha with ha | ha
    · exact .inl ha
    · obtain ⟨d, -, rfl⟩ := List.mem_map.mp ha
      refine .inr ⟨_, ?_, rfl⟩
      exact Table.mem_modify.mpr (.inl ⟨r, hmem, hchange.requestId_eq.symm, rfl⟩)
  | reminded _ => exact .inl ha
  | kept _ haudits => exact .inl (haudits ▸ ha)

theorem step_row_forward (h : step env op db = .ok db') (hr : r ∈ db.maintenanceRequests) :
    ∃ r' ∈ db'.maintenanceRequests, ∃ as, RowStep env op r r' as ∧
      db'.auditsOf r.id = db.auditsOf r.id ++ as := by
  obtain ⟨r', hr', hid⟩ := step_keeps h hr
  rcases step_row h hr' with ⟨_, _, _, _, _, _, hfresh, _⟩ | ⟨r₀, hr₀, as, hrow, haudits⟩
  · exact absurd hid.symm (hfresh r hr)
  · obtain rfl := Table.eq_of_key_eq hr₀ hr (hrow.id_eq.symm.trans hid)
    exact ⟨r', hr', as, hrow, haudits⟩

theorem next_row (l : Env × Operation) (hr : r ∈ db.maintenanceRequests) :
    ∃ r' ∈ (next l db).maintenanceRequests, ∃ as, RowStep l.1 l.2 r r' as ∧
      (next l db).auditsOf r.id = db.auditsOf r.id ++ as ∧
      (r' = r ∨ Succeeds l.1 l.2 db) := by
  rcases Outcome.orElseKeep_cases db (step l.1 l.2 db) with hkeep | hstep
  · refine ⟨r, ?_, [], .unchanged, ?_, .inl rfl⟩
    · rw [next, hkeep]
      exact hr
    · rw [next, hkeep, List.append_nil]
  · obtain ⟨r', hr', as, hrow, haudits⟩ := step_row_forward hstep hr
    exact ⟨r', hr', as, hrow, haudits, .inr ⟨_, hstep⟩⟩

end Step

section Rules

variable {P : MaintenanceRequest → Prop} {g : Operation → MaintenanceRequest → Prop}

/-- A condition on the operations that succeed, tested on the row they name. -/
def OnNamed (g : Operation → MaintenanceRequest → Prop) (l : Env × Operation) (db : Db) : Prop :=
  ∀ r ∈ db.maintenanceRequests, l.2.requestId = some r.id → Succeeds l.1 l.2 db → g l.2 r

instance decidableOnNamed [∀ op r, Decidable (g op r)] (l : Env × Operation) (db : Db) :
    Decidable (OnNamed g l db) :=
  inferInstanceAs (Decidable (∀ r ∈ db.maintenanceRequests,
    l.2.requestId = some r.id → Succeeds l.1 l.2 db → g l.2 r))

/-- The rule for invariants of rows: they hold of a new request and survive each change
the guard allows, and the reminder. -/
theorem next_forall {l : Env × Operation}
    (hnew : ∀ env entry dto, P (newRequest env entry dto))
    (hchange : ∀ env op r u, P r → g op r → Change env r op u →
      P ((touched u.data env.now).apply r))
    (hremind : ∀ now r, P r → P ((reminderSent now).apply r))
    (hP : ∀ r ∈ db.maintenanceRequests, P r) (hg : OnNamed g l db) :
    ∀ r ∈ (next l db).maintenanceRequests, P r := by
  rcases Outcome.orElseKeep_cases db (step l.1 l.2 db) with h | h
  · rw [next, h]
    exact hP
  · intro r' hr'
    rcases step_row h hr' with ⟨_, dto, entry, _, _, rfl, _⟩ | ⟨r, hr, as, hrow, -⟩
    · exact hnew _ _ _
    · cases hrow with
      | unchanged => exact hP _ hr
      | changed hid hc => exact hchange _ _ _ _ (hP _ hr) (hg _ hr hid ⟨_, h⟩) hc
      | reminded _ => exact hremind _ _ (hP _ hr)

theorem run_forall {ls : List (Env × Operation)}
    (hnew : ∀ env entry dto, P (newRequest env entry dto))
    (hchange : ∀ env op r u, P r → g op r → Change env r op u →
      P ((touched u.data env.now).apply r))
    (hremind : ∀ now r, P r → P ((reminderSent now).apply r))
    (hg : Run.Along next (OnNamed g) .empty ls) :
    ∀ r ∈ (run .empty ls).maintenanceRequests, P r :=
  Run.exec_inv_along (I := fun db => ∀ r ∈ db.maintenanceRequests, P r)
    (fun _ _ hs hl => next_forall hnew hchange hremind hs hl)
    (fun r hr => absurd hr (Table.not_mem_empty r)) hg

end Rules

end Towerdesk.Maintenance
