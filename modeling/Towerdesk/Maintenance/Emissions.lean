import Towerdesk.Maintenance.EventRecipients

/-!
# Who causes an event

Every operation signs what it emits with its caller. The reminder of the estimate monitor has
no caller: it alone carries its name, and it alone is signed by the system.
-/

namespace Towerdesk.Maintenance

open Outcome (Yields)

def Operation.caller : Operation → Option Id
  | .createResidentRequest user _ | .updateResidentRequest user _ _
  | .cancelResidentRequest user _ | .cancelBuildingRequest user _ _
  | .assignRequest user _ _ _ | .assignProvider user _ _ _
  | .requestEstimateFromProvider user _ _ _ | .assignProviderWorker user _ _ _
  | .unassignProvider user _ _ | .updateRequestStatus user _ _ _
  | .updateProviderRequestStatus user _ _ | .assignProviderWorkerFromProvider user _ _
  | .requireOwnerApproval user _ _ _ | .requestOwnerApprovalNow user _ _ _
  | .requestOwnerApproval user _ _ | .resendOwnerApprovalRequest user _ _
  | .updateRequestPolicyTriage user _ _ _ | .submitRequestEstimate user _ _ _
  | .submitProviderRequestEstimate user _ _ | .overrideOwnerApproval user _ _ _
  | .addResidentComment user _ _ | .addBuildingComment user _ _ _
  | .listBuildingComments user _ _ | .addProviderComment user _ _
  | .listProviderComments user _ | .addBuildingAttachments user _ _ _
  | .addProviderAttachments user _ _ => user.map (·.sub)
  | .approveAccessibleRequest userId _ _ | .rejectAccessibleRequest userId _ _
  | .addAccessibleRequestComment userId _ _ | .listAccessibleRequestComments userId _ => some userId
  | .remindEstimate _ => none

/-- An event of this name and actor is one that `caller` causes; without a caller, the reminder. -/
def CausedBy (caller : Option Id) (name : EventName) (actorUserId : Id) : Prop :=
  match caller with
  | some userId => name ≠ .ESTIMATE_REMINDER ∧ actorUserId = userId
  | none => name = .ESTIMATE_REMINDER ∧ actorUserId = SYSTEM_ACTOR_USER_ID

/-- What the events of a write are called, and by whom they are caused. -/
def Write.Emits (P : EventName → Id → Prop) : Write → Prop
  | .create _ _ event | .remind _ _ event => P event.name event.actorUserId
  | .update u => ∀ e, u.event = some e → P e.name e.actorUserId
  | .comment c => ∀ e, c.event = some e → P e.name e.actorUserId
  | .attach _ | .markRead _ _ | .skip => True

section Entries

variable {env : Env} {user : Option AuthenticatedUser} {buildingId : Id}

theorem assertUserId_yields :
    Yields (fun userId => user.map (·.sub) = some userId) (assertUserId user) :=
  Outcome.yields_orThrow fun _ h => (truthy_eq_some.mp h).1

theorem enterBuilding_yields :
    Yields (fun entry => user.map (·.sub) = some entry.userId)
      (enterBuilding env user buildingId) :=
  fun _ h => (enterBuilding_caller h).1

theorem enterAsManager_yields {staffMessage : String} :
    Yields (fun entry => user.map (·.sub) = some entry.userId)
      (enterAsManager env user buildingId staffMessage) :=
  enterBuilding_yields.bind fun _ h => .after fun _ => .pure h

theorem enterResident_yields :
    Yields (fun entry => user.map (·.sub) = some entry.userId) (enterResident env user) :=
  .after fun _ => assertUserId_yields.bind fun _ h => .after fun _ => .pure h

theorem enterProvider_yields :
    Yields (fun entry => user.map (·.sub) = some entry.userId) (enterProvider env user) :=
  assertUserId_yields.bind fun _ h => .after fun _ => .pure h

end Entries

section Writes

variable {env : Env} {db db' : Db} {caller : Option Id} {name : EventName} {userId requestId : Id}
  {r : MaintenanceRequest} {w : Write} {P : EventName → Id → Prop}

theorem causedBy_of_caller (hcaller : caller = some userId) (hname : name ≠ .ESTIMATE_REMINDER) :
    CausedBy caller name userId := by
  rw [hcaller]
  exact ⟨hname, rfl⟩

theorem Write.Emits.imp {P' : EventName → Id → Prop} (h : w.Emits P)
    (himp : ∀ name actor, P name actor → P' name actor) : w.Emits P' := by
  cases w with
  | create request attachments event => exact himp _ _ h
  | remind requestId now event => exact himp _ _ h
  | update u => exact fun e he => himp _ _ (h e he)
  | comment c => exact fun e he => himp _ _ (h e he)
  | _ => trivial

theorem emits_silent {data : RequestPatch} {audits : List AuditData} :
    (Write.update ⟨requestId, data, audits, none⟩).Emits P :=
  fun _ h => by cases h

theorem emits_one {data : RequestPatch} {audits : List AuditData}
    {snapshot : MaintenanceRequest → MaintenanceRequestSnapshot}
    {previousRequest : Option MaintenanceRequestSnapshot} (h : P name userId) :
    (Write.update ⟨requestId, data, audits, some ⟨name, snapshot, previousRequest, userId⟩⟩).Emits
      P := by
  rintro _ ⟨⟩
  exact h

theorem assignedWrite_emits {data : RequestPatch} (hcaller : caller = some userId)
    (hname : name ≠ .ESTIMATE_REMINDER) :
    (assignedWrite env r data name userId).Emits (CausedBy caller) :=
  emits_one (causedBy_of_caller hcaller hname)

theorem commentedEvent_causedBy {comment : Comment} {request : MaintenanceRequestSnapshot}
    {actorIsResident : Bool} (hcaller : caller = some comment.authorUserId) :
    CausedBy caller (commentedEvent request comment actorIsResident).name
      (commentedEvent request comment actorIsResident).actorUserId :=
  causedBy_of_caller hcaller nofun

theorem commentedEvent_emits {comment : Comment} {readState : Option CommentReadState}
    {ownerReadState : Option OwnerRequestCommentReadState} {request : MaintenanceRequestSnapshot}
    {actorIsResident : Bool} (hcaller : caller = some comment.authorUserId) :
    (Write.comment ⟨comment, readState, ownerReadState,
      some (commentedEvent request comment actorIsResident)⟩).Emits (CausedBy caller) := by
  rintro _ ⟨⟩
  exact commentedEvent_causedBy hcaller

theorem submitRequestEstimateInTx_emits {dto : SubmitRequestEstimateDto}
    (hcaller : caller = some userId) : Yields (Write.Emits (CausedBy caller))
      (submitRequestEstimateInTx env r userId dto) := by
  unfold submitRequestEstimateInTx
  refine .after fun _ => .after fun triage => .after fun columns => .after fun submittedBy => ?_
  refine .ite (.after fun requestedBy => .after fun deadlineAt => .pure ?_) (.pure emits_silent)
  split_ifs
  · exact emits_silent
  · exact emits_one (causedBy_of_caller hcaller (by decide))

theorem decideAccessibleRequest_emits {status : OwnerApprovalStatus}
    {action : OwnerApprovalAuditAction} {approvalReason : Option String}
    (hname : name ≠ .ESTIMATE_REMINDER) : Yields (Write.Emits (CausedBy (some userId)))
      (decideAccessibleRequest env db userId requestId status action name approvalReason) := by
  unfold decideAccessibleRequest
  refine .after fun ⟨request, unit⟩ => .after fun _ => .after fun decidedBy => .pure ?_
  exact emits_one ⟨hname, rfl⟩

theorem markOwnerApprovalRequested_emits {user : Option AuthenticatedUser} {buildingId : Id}
    {action : OwnerApprovalAuditAction} {existing : Bool} :
    Yields (Write.Emits (CausedBy (user.map (·.sub))))
      (markOwnerApprovalRequested env db user buildingId requestId action existing) := by
  unfold markOwnerApprovalRequested
  refine enterAsManager_yields.bind fun entry hentry => .after fun request => ?_
  refine .after fun _ => .after fun _ => .after fun _ => .after fun requestedBy => .pure ?_
  refine emits_one (causedBy_of_caller hentry ?_)
  split <;> decide

theorem remindEstimate_emits :
    (remindEstimate env db requestId).Emits (CausedBy none) := by
  unfold remindEstimate
  split
  · exact ⟨rfl, rfl⟩
  · trivial

theorem plan_emits (op : Operation) :
    Yields (Write.Emits (CausedBy op.caller)) (plan env db op) := by
  cases op with
  | createResidentRequest user dto =>
    exact enterResident_yields.bind fun _ h => .pure (causedBy_of_caller h nofun)
  | updateResidentRequest user requestId dto =>
    exact .after fun _ => .after fun _ => .after fun _ => .after fun _ => .pure emits_silent
  | cancelResidentRequest user requestId =>
    refine enterResident_yields.bind fun _ h => .after fun _ => .after fun _ => .pure ?_
    exact emits_one (causedBy_of_caller h (by decide))
  | cancelBuildingRequest user buildingId requestId =>
    refine enterBuilding_yields.bind fun _ h => .after fun _ => .after fun _ => ?_
    refine .after fun _ => .after fun _ => .pure ?_
    exact emits_one (causedBy_of_caller h (by decide))
  | assignRequest user buildingId requestId staffUserId =>
    refine enterAsManager_yields.bind fun _ h => .after fun _ => .after fun _ => ?_
    refine .after fun _ => .after fun _ => .after fun _ => .after fun _ => .pure ?_
    exact assignedWrite_emits h (by decide)
  | assignProvider user buildingId requestId serviceProviderId =>
    refine enterAsManager_yields.bind fun _ h => .after fun _ => .after fun _ => ?_
    exact .after fun _ => .after fun _ => .pure (assignedWrite_emits h (by decide))
  | requestEstimateFromProvider user buildingId requestId serviceProviderId =>
    refine enterAsManager_yields.bind fun _ h => .after fun _ => .after fun _ => ?_
    refine .after fun _ => .after fun _ => .after fun _ => .after fun _ => .pure ?_
    exact assignedWrite_emits h (by decide)
  | assignProviderWorker user buildingId requestId workerUserId =>
    refine enterAsManager_yields.bind fun _ h => .after fun _ => .after fun _ => ?_
    refine .after fun _ => .after fun _ => .after fun _ => .after fun _ => .pure ?_
    exact assignedWrite_emits h (by decide)
  | unassignProvider user buildingId requestId =>
    refine enterAsManager_yields.bind fun _ h => .after fun _ => .after fun _ => ?_
    exact .after fun _ => .after fun _ => .pure (assignedWrite_emits h (by decide))
  | updateRequestStatus user buildingId requestId status =>
    refine enterBuilding_yields.bind fun _ h => .after fun _ => .after fun _ => ?_
    refine .after fun _ => .after fun _ => .pure ?_
    exact emits_one (causedBy_of_caller h (by decide))
  | updateProviderRequestStatus user requestId status =>
    refine enterProvider_yields.bind fun _ h => .after fun _ => .after fun _ => ?_
    exact .after fun _ => .after fun _ => .pure (assignedWrite_emits h (by decide))
  | assignProviderWorkerFromProvider user requestId workerUserId =>
    refine enterProvider_yields.bind fun _ h => .after fun _ => .after fun _ => ?_
    refine .after fun _ => .after fun _ => .after fun _ => .after fun _ => .pure ?_
    exact assignedWrite_emits h (by decide)
  | requireOwnerApproval user buildingId requestId dto =>
    refine .after fun _ => .after fun _ => .after fun _ => .after fun _ => ?_
    exact .after fun _ => .after fun _ => .after fun _ => .pure emits_silent
  | requestOwnerApprovalNow user buildingId requestId dto =>
    refine enterAsManager_yields.bind fun _ h => .after fun _ => .after fun _ => ?_
    refine .after fun _ => .after fun _ => .after fun _ => .after fun _ => ?_
    refine .after fun _ => .after fun _ => .pure ?_
    exact emits_one (causedBy_of_caller h (by decide))
  | requestOwnerApproval user buildingId requestId => exact markOwnerApprovalRequested_emits
  | resendOwnerApprovalRequest user buildingId requestId => exact markOwnerApprovalRequested_emits
  | updateRequestPolicyTriage user buildingId requestId dto =>
    refine .after fun _ => .after fun _ => .after fun _ => .after fun _ => ?_
    exact .after fun _ => .after fun _ => .pure emits_silent
  | submitRequestEstimate user buildingId requestId dto =>
    exact enterAsManager_yields.bind fun _ h => .after fun _ => submitRequestEstimateInTx_emits h
  | submitProviderRequestEstimate user requestId dto =>
    refine enterProvider_yields.bind fun _ h => .after fun _ => .after fun _ => ?_
    exact submitRequestEstimateInTx_emits h
  | overrideOwnerApproval user buildingId requestId dto =>
    refine .after fun _ => assertUserId_yields.bind fun _ h => .after fun _ => .after fun _ => ?_
    refine .after fun _ => .after fun _ => .after fun _ => .after fun _ => .pure ?_
    exact emits_one (causedBy_of_caller h (by decide))
  | approveAccessibleRequest userId requestId approvalReason =>
    exact decideAccessibleRequest_emits (by decide)
  | rejectAccessibleRequest userId requestId approvalReason =>
    exact decideAccessibleRequest_emits (by decide)
  | addResidentComment user requestId message =>
    refine enterResident_yields.bind fun _ h => .after fun _ => .after fun _ => .pure ?_
    exact commentedEvent_emits h
  | addBuildingComment user buildingId requestId dto =>
    refine enterBuilding_yields.bind fun _ h => .after fun _ => .after fun _ => .pure ?_
    intro e he
    dsimp only at he
    split_ifs at he
    cases he
    exact commentedEvent_causedBy h
  | listBuildingComments user buildingId requestId =>
    exact .after fun _ => .after fun _ => .after fun _ => .pure trivial
  | addProviderComment user requestId message =>
    refine enterProvider_yields.bind fun _ h => .after fun _ => .after fun _ => .after fun _ => ?_
    exact .pure (commentedEvent_emits h)
  | listProviderComments user requestId =>
    exact .after fun _ => .after fun _ => .pure trivial
  | addAccessibleRequestComment userId requestId message =>
    exact .after fun ⟨request, unit⟩ => .pure (commentedEvent_emits rfl)
  | listAccessibleRequestComments userId requestId =>
    exact .after fun ⟨request, unit⟩ => .pure trivial
  | addBuildingAttachments user buildingId requestId attachments =>
    exact .after fun _ => .after fun _ => .after fun _ => .after fun _ => .pure trivial
  | addProviderAttachments user requestId attachments =>
    exact .after fun _ => .after fun _ => .after fun _ => .after fun _ => .pure trivial
  | remindEstimate requestId =>
    exact .pure remindEstimate_emits

end Writes

section Runs

variable {env : Env} {db db' : Db} {w : Write} {P : EventName → Id → Prop}

theorem commit_events (h : commit env w db = .ok db') (hw : w.Emits P) :
    ∃ es, db'.events = db.events ++ es ∧ ∀ e ∈ es, P e.name e.actorUserId := by
  cases w with
  | create request attachments event =>
    obtain ⟨t, -, rfl⟩ := commit_create.mp h
    refine ⟨[event], rfl, fun e he => ?_⟩
    obtain rfl := List.mem_singleton.mp he
    exact hw
  | update u =>
    obtain ⟨request, -, -, rfl⟩ := commit_update.mp h
    refine ⟨_, rfl, fun e he => ?_⟩
    obtain ⟨update, hupdate, rfl⟩ := Option.map_eq_some_iff.mp (Option.mem_toList.mp he)
    exact hw update hupdate
  | remind requestId now event =>
    simp only [commit] at h
    split_ifs at h
    · obtain rfl := Except.ok.inj h
      refine ⟨[event], rfl, fun e he => ?_⟩
      obtain rfl := List.mem_singleton.mp he
      exact hw
    · obtain rfl := Except.ok.inj h
      exact ⟨[], by simp, by simp⟩
  | comment c =>
    obtain rfl := Except.ok.inj h
    exact ⟨c.event.toList, rfl, fun e he => hw e (Option.mem_toList.mp he)⟩
  | attach attachments =>
    obtain rfl := Except.ok.inj h
    exact ⟨[], by simp, by simp⟩
  | markRead readState ownerReadState =>
    obtain rfl := Except.ok.inj h
    obtain ⟨t, u, hmarks⟩ := upsertReadStates_eq db readState ownerReadState
    exact ⟨[], by rw [hmarks, List.append_nil], by simp⟩
  | skip =>
    obtain rfl := Except.ok.inj h
    exact ⟨[], by simp, by simp⟩

theorem next_caused (env : Env) (op : Operation) (db : Db) :
    ∀ e ∈ (next (env, op) db).events,
      e ∈ db.events ∨ CausedBy op.caller e.name e.actorUserId := by
  intro e he
  rcases Outcome.orElseKeep_cases db (step env op db) with hkept | hstep
  · exact .inl (hkept ▸ he)
  · obtain ⟨w, hplan, hcommit⟩ := step_eq_ok.mp hstep
    obtain ⟨es, hes, hcaused⟩ := commit_events hcommit (plan_emits op w hplan)
    rw [next, hes] at he
    exact (List.mem_append.mp he).imp_right (hcaused e)

theorem run_caused (db : Db) (ls : List (Env × Operation)) :
    ∀ e ∈ (run db ls).events,
      e ∈ db.events ∨ ∃ l ∈ ls, CausedBy l.2.caller e.name e.actorUserId := by
  induction ls generalizing db with
  | nil => exact fun e he => .inl he
  | cons l ls ih =>
    intro e he
    rcases ih (next l db) e he with he | ⟨l', hl', hcaused⟩
    · rcases next_caused l.1 l.2 db e he with he | hcaused
      · exact .inl he
      · exact .inr ⟨l, List.mem_cons_self, hcaused⟩
    · exact .inr ⟨l', List.mem_cons_of_mem l hl', hcaused⟩

theorem run_signed (ls : List (Env × Operation)) : ∀ e ∈ (run .empty ls).events,
    (e.name = .ESTIMATE_REMINDER → e.actorUserId = SYSTEM_ACTOR_USER_ID) ∧
    (e.name ≠ .ESTIMATE_REMINDER → ∃ l ∈ ls, l.2.caller = some e.actorUserId) := by
  intro e he
  rcases run_caused .empty ls e he with he | ⟨l, hl, hcaused⟩
  · cases he
  · unfold CausedBy at hcaused
    split at hcaused
    · next userId hcaller =>
      refine ⟨fun hname => absurd hname hcaused.1, fun _ => ⟨l, hl, ?_⟩⟩
      rw [hcaller, hcaused.2]
    · exact ⟨fun _ => hcaused.2, fun hname => absurd hcaused.1 hname⟩

/-- With callers that are users, an event of a run refers to users when its snapshots do. -/
theorem run_refersToUsers {ls : List (Env × Operation)} {world : World}
    (hcallers : ∀ l ∈ ls, ∀ id, l.2.caller = some id → world.IsUser id) {e : Event}
    (he : e ∈ (run .empty ls).events) (hrequest : e.request.RefersToUsers world)
    (hprevious : ∀ previous, e.previousRequest = some previous → previous.RefersToUsers world) :
    e.RefersToUsers world where
  request := hrequest
  previousRequest := hprevious
  actor hname := by
    obtain ⟨l, hl, hcaller⟩ := (run_signed ls e he).2 hname
    exact hcallers l hl _ hcaller
  system := (run_signed ls e he).1

end Runs

end Towerdesk.Maintenance
