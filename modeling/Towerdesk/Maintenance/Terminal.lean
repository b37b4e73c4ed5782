import Towerdesk.Maintenance.Scene

/-!
# Terminal states under concurrency

Ten operations write the status, each after testing the status it read. A completion
or cancellation committed after that read is not seen by the write, which is by
identifier alone. Terminal states are absorbing exactly in the schedules in which no
such write asks for another status.
-/

namespace Towerdesk.Maintenance

open ReadWrite

def Operation.targetStatus : Operation → Option MaintenanceRequestStatus
  | .cancelResidentRequest .. | .cancelBuildingRequest .. => some .CANCELED
  | .assignRequest .. | .assignProvider .. | .assignProviderWorker ..
  | .assignProviderWorkerFromProvider .. => some .ASSIGNED
  | .unassignProvider .. | .requestEstimateFromProvider .. => some .OPEN
  | .updateRequestStatus _ _ _ status | .updateProviderRequestStatus _ _ status => some status
  | _ => none

structure StatusWriter (requestId : Id) where
  call : Call
  target : MaintenanceRequestStatus
  writes : call.operation.targetStatus = some target
  named : call.operation.requestId = some requestId

def statusWriters {requestId : Id} : Machine (StatusWriter requestId) Write Db HttpException :=
  machine.comap StatusWriter.call

inductive StatusWrite (requestId : Id) (t : MaintenanceRequestStatus) : Write → Prop
  | mk {u : RowUpdate} (hid : u.requestId = requestId)
      (hstatus : ∀ now r, ((touched u.data now).apply r).status = t) :
      StatusWrite requestId t (.update u)

/-- The completion and cancellation times agree with the status. -/
structure TimesFit (r : MaintenanceRequest) : Prop where
  completed : r.completedAt ≠ none → r.status = .COMPLETED
  canceled : r.canceledAt ≠ none → r.status = .CANCELED

theorem TimesFit.not_both {r : MaintenanceRequest} (h : TimesFit r) :
    ¬ (r.completedAt ≠ none ∧ r.canceledAt ≠ none) := by
  rintro ⟨hcompleted, hcanceled⟩
  cases (h.completed hcompleted).symm.trans (h.canceled hcanceled)

def StampsOnly (t : MaintenanceRequestStatus) (w : Write) : Prop :=
  ∀ u, w = .update u → ∀ now r,
    (((touched u.data now).apply r).completedAt ≠ none → t = .COMPLETED ∨ r.completedAt ≠ none) ∧
    (((touched u.data now).apply r).canceledAt ≠ none → t = .CANCELED ∨ r.canceledAt ≠ none)

section Changes

variable {env : Env} {db db' : Db} {op : Operation} {r r' : MaintenanceRequest} {u : RowUpdate}
  {requestId : Id} {t : MaintenanceRequestStatus} {w : Write}

theorem Change.statusWrite (h : Change env r op u) (ht : op.targetStatus = some t) :
    ¬ r.status.IsClosed ∧ StatusWrite r.id t (.update u) := by
  have hopen : r.status = .OPEN ∨ r.status = .ASSIGNED → ¬ r.status.IsClosed := by
    rintro (hs | hs) <;> simp [MaintenanceRequestStatus.IsClosed, hs]
  cases h with
  | cancelResidentRequest hs | cancelBuildingRequest hs =>
    obtain rfl := Option.some.inj ht
    exact ⟨hs, .mk rfl fun _ _ => rfl⟩
  | assignRequest hs _ | assignProvider hs _ | requestEstimateFromProvider hs _ _
  | assignProviderWorker hs _ _ | assignProviderWorkerFromProvider hs _ _
  | unassignProvider hs _ _ =>
    obtain rfl := Option.some.inj ht
    exact ⟨hopen hs, .mk rfl fun _ _ => rfl⟩
  | updateRequestStatus htransition _ | updateProviderRequestStatus htransition _ =>
    obtain rfl := Option.some.inj ht
    exact ⟨MaintenanceRequestStatus.not_isClosed_of_transition htransition,
      .mk rfl fun _ _ => rfl⟩
  | _ => cases ht

theorem TimesFit.of_not_closed (h : TimesFit r) (hopen : ¬ r.status.IsClosed) :
    r.completedAt = none ∧ r.canceledAt = none := by
  constructor
  · by_contra hne
    exact hopen (.inl (h.completed hne))
  · by_contra hne
    exact hopen (.inr (h.canceled hne))

/-- A status update also writes back the completion time it read, which an open request
does not have. -/
theorem Change.stampsOnly (h : Change env r op u) (ht : op.targetStatus = some t)
    (hfit : TimesFit r) : StampsOnly t (.update u) := by
  have hnone := (hfit.of_not_closed (h.statusWrite ht).1).1
  rintro _ ⟨⟩ now r₂
  cases h with
  | cancelResidentRequest _ | cancelBuildingRequest _ =>
    obtain rfl := Option.some.inj ht
    exact ⟨.inr, fun _ => .inl rfl⟩
  | assignRequest _ _ | assignProvider _ _ | requestEstimateFromProvider _ _ _
  | assignProviderWorker _ _ _ | assignProviderWorkerFromProvider _ _ _
  | unassignProvider _ _ _ => exact ⟨.inr, .inr⟩
  | updateRequestStatus _ _ | updateProviderRequestStatus _ _ =>
    obtain rfl := Option.some.inj ht
    refine ⟨fun hcompleted => .inl ?_, .inr⟩
    by_contra hne
    refine hcompleted ?_
    exact (if_neg hne).trans hnone
  | _ => cases ht

theorem Change.timesFit (h : Change env r op u) (hfit : TimesFit r) :
    TimesFit ((touched u.data env.now).apply r) := by
  cases ht : op.targetStatus with
  | some t =>
    obtain ⟨hopen, hw⟩ := h.statusWrite ht
    obtain ⟨hcompleted, hcanceled⟩ := hfit.of_not_closed hopen
    obtain ⟨hc, hx⟩ := h.stampsOnly ht hfit u rfl env.now r
    cases hw with
    | mk _ hstatus =>
      refine ⟨fun hne => ?_, fun hne => ?_⟩
      · rw [hstatus]
        exact (hc hne).resolve_right fun hr => hr hcompleted
      · rw [hstatus]
        exact (hx hne).resolve_right fun hr => hr hcanceled
  | none =>
    cases h with
    | cancelResidentRequest _ | cancelBuildingRequest _ | assignRequest _ _ | assignProvider _ _
    | requestEstimateFromProvider _ _ _ | assignProviderWorker _ _ _
    | assignProviderWorkerFromProvider _ _ _ | unassignProvider _ _ _
    | updateRequestStatus _ _ | updateProviderRequestStatus _ _ => cases ht
    | _ => exact ⟨hfit.completed, hfit.canceled⟩

theorem timesFit_reminded (now : Date) (hfit : TimesFit r) :
    TimesFit ((reminderSent now).apply r) := by
  simp only [reminderSent]
  split_ifs
  · exact ⟨hfit.completed, hfit.canceled⟩
  · exact hfit

theorem timesFit_run (ls : List (Env × Operation)) :
    ∀ r ∈ (run .empty ls).maintenanceRequests, TimesFit r :=
  run_forall (g := fun _ _ => True)
    (fun _ _ _ => ⟨fun hne => absurd rfl hne, fun hne => absurd rfl hne⟩)
    (fun _ _ _ _ h _ hc => hc.timesFit h) (fun _ _ h => timesFit_reminded _ h)
    (Run.along_of_split fun _ _ _ _ _ _ _ _ => trivial)

theorem plan_status (h : plan env db op = .ok w) (ht : op.targetStatus = some t)
    (hnamed : op.requestId = some requestId) :
    ∃ r ∈ db.maintenanceRequests, r.id = requestId ∧ ¬ r.status.IsClosed ∧
      StatusWrite requestId t w ∧ (TimesFit r → StampsOnly t w) := by
  have hleaves : ¬ op.LeavesRequest := by cases op <;> first | exact id | cases ht
  obtain ⟨r, hr, hid, u, rfl, hchange⟩ := plan_change h (hnamed ▸ Option.some_ne_none _) hleaves
  obtain rfl := Option.some.inj (hid.symm.trans hnamed)
  obtain ⟨hopen, hw⟩ := hchange.statusWrite ht
  exact ⟨r, hr, rfl, hopen, hw, hchange.stampsOnly ht⟩

end Changes

section Schedules

variable {π : Type*} [DecidableEq π] {requestId : Id} (op : π → StatusWriter requestId)

def KeepsTerminal (m : Move π) (c : Config π Write Db) : Prop :=
  ∀ r ∈ c.cell.maintenanceRequests,
    ∀ r' ∈ (ReadWrite.next statusWriters op m c).cell.maintenanceRequests,
    r.id = requestId → r'.id = requestId → r.status.IsClosed → r'.status = r.status

instance (m : Move π) (c : Config π Write Db) : Decidable (KeepsTerminal op m c) :=
  inferInstanceAs (Decidable (∀ r ∈ c.cell.maintenanceRequests,
    ∀ r' ∈ (ReadWrite.next statusWriters op m c).cell.maintenanceRequests, _ → _ → _ → _))

/-- No step of the schedule changes a terminal status, and the two times are never both
set. -/
structure TerminalAbsorbing (db : Db) (ms : List (Move π)) : Prop where
  absorbing : Run.Along (ReadWrite.next statusWriters op) (KeepsTerminal op) (.start db) ms
  never_both : ∀ ms₁ ms₂, ms = ms₁ ++ ms₂ →
    ∀ r ∈ (Run.exec (ReadWrite.next statusWriters op) (.start db) ms₁).cell.maintenanceRequests,
    r.id = requestId → ¬ (r.completedAt ≠ none ∧ r.canceledAt ≠ none)

/-- At a write step, no operation committed since the read has completed or canceled the
request, unless this one asks for the same status. -/
def SeesClosing : Move π → Config π Write Db → Prop :=
  AtWrite op fun i _ missed _ => ∀ e ∈ missed, (op e.1).target.IsClosed → (op e.1).target = i.target

def Fits (requestId : Id) (db : Db) : Prop :=
  ∀ r ∈ db.maintenanceRequests, r.id = requestId → TimesFit r

/-- A plan writes its status and stamps only for it, and if the request is closed by now,
the plan has missed the operation that closed it. -/
structure PlannedStatus (i : StatusWriter requestId) (w : Write)
    (missed : List (π × Write)) (db : Db) : Prop where
  write : StatusWrite requestId i.target w
  stamps : StampsOnly i.target w
  closed : ∀ r ∈ db.maintenanceRequests, r.id = requestId → r.status.IsClosed →
    ∃ e ∈ missed, (op e.1).target = r.status

variable {db db' : Db} {env : Env} {w : Write} {t : MaintenanceRequestStatus}
  {i : StatusWriter requestId} {missed : List (π × Write)}

theorem commit_status (hw : StatusWrite requestId t w) (h : commit env w db = .ok db') :
    ∃ r ∈ db.maintenanceRequests, r.id = requestId ∧
      (∃ r' ∈ db'.maintenanceRequests, r'.id = requestId) ∧
      ∀ r' ∈ db'.maintenanceRequests, r'.id = requestId → r'.status = t ∧
        (StampsOnly t w →
          (r'.completedAt ≠ none → t = .COMPLETED ∨ r.completedAt ≠ none) ∧
          (r'.canceledAt ≠ none → t = .CANCELED ∨ r.canceledAt ≠ none)) := by
  cases hw with
  | @mk u hid hstatus =>
    obtain ⟨r, hr, hrid, rfl⟩ := commit_update.mp h
    refine ⟨r, hr, hrid.trans hid, ⟨_, Table.mem_modify.mpr (.inl ⟨r, hr, hrid, rfl⟩),
      ((touched u.data env.now).key_apply r).trans (hrid.trans hid)⟩, fun r' hr' hid' => ?_⟩
    rcases Table.mem_modify.mp hr' with ⟨r₀, hr₀, hrid₀, rfl⟩ | ⟨-, hne⟩
    · obtain rfl := Table.eq_of_key_eq hr₀ hr (hrid₀.trans hrid.symm)
      exact ⟨hstatus _ _, fun hstamps => hstamps u rfl _ _⟩
    · exact absurd (hid'.trans hid.symm) hne

omit [DecidableEq π] in
theorem plannedStatus_plan (hfit : Fits requestId db) (h : statusWriters.plan i db = .ok w) :
    PlannedStatus op i w [] db := by
  obtain ⟨r, hr, hid, hopen, hw, hstamps⟩ := plan_status h i.writes i.named
  refine ⟨hw, hstamps (hfit r hr hid), fun r' hr' hid' hclosed => ?_⟩
  obtain rfl := Table.eq_of_key_eq hr' hr (hid'.trans hid.symm)
  exact absurd hclosed hopen

variable {op}

omit [DecidableEq π] in
theorem PlannedStatus.target_eq (h : PlannedStatus op i w missed db)
    (hsees : ∀ e ∈ missed, (op e.1).target.IsClosed → (op e.1).target = i.target)
    {r : MaintenanceRequest} (hr : r ∈ db.maintenanceRequests) (hid : r.id = requestId)
    (hclosed : r.status.IsClosed) : i.target = r.status := by
  obtain ⟨e, he, htarget⟩ := h.closed r hr hid hclosed
  exact (hsees e he (htarget ▸ hclosed)).symm.trans htarget

omit [DecidableEq π] in
theorem PlannedStatus.fits (h : PlannedStatus op i w missed db) (hfit : Fits requestId db)
    (hsees : ∀ e ∈ missed, (op e.1).target.IsClosed → (op e.1).target = i.target)
    (hcommit : statusWriters.commit i w db = .ok db') : Fits requestId db' := by
  obtain ⟨r, hr, hid, -, hafter⟩ := commit_status h.write hcommit
  intro r' hr' hid'
  obtain ⟨hstatus, htimes⟩ := hafter r' hr' hid'
  obtain ⟨hcompleted, hcanceled⟩ := htimes h.stamps
  have hr_fit := hfit r hr hid
  refine ⟨fun hne => ?_, fun hne => ?_⟩
  · rcases hcompleted hne with ht | hne
    · exact hstatus.trans ht
    · have hs := hr_fit.completed hne
      rw [hstatus, h.target_eq hsees hr hid (.inl hs), hs]
  · rcases hcanceled hne with ht | hne
    · exact hstatus.trans ht
    · have hs := hr_fit.canceled hne
      rw [hstatus, h.target_eq hsees hr hid (.inr hs), hs]

omit [DecidableEq π] in
theorem PlannedStatus.other {q : π} {w' : Write} (h : PlannedStatus op i w missed db)
    (hq : StatusWrite requestId (op q).target w')
    (hcommit : statusWriters.commit (op q) w' db = .ok db') :
    PlannedStatus op i w (missed ++ [(q, w')]) db' := by
  obtain ⟨r₀, -, -, -, hafter⟩ := commit_status hq hcommit
  refine ⟨h.write, h.stamps, fun r' hr' hid' _ => ?_⟩
  exact ⟨(q, w'), by simp, (hafter r' hr' hid').1.symm⟩

theorem coherent_of_sees {ms : List (Move π)} (hfit : Fits requestId db)
    (hsees : Run.Along (ReadWrite.next statusWriters op) (SeesClosing op) (.start db) ms) :
    Coherent op (Fits requestId) (PlannedStatus op)
      (Run.exec (ReadWrite.next statusWriters op) (.start db) ms) :=
  coherent_exec (fun _ _ _ hs hplan => plannedStatus_plan op hs hplan)
    (fun _ _ _ _ _ hs hp hg hcommit => hp.fits hs hg hcommit)
    (fun _ _ _ _ _ _ _ _ _ hp hq _ hcommit => hp.other hq.write hcommit)
    (coherent_start hfit) hsees

theorem keepsTerminal_of_sees {m : Move π} {c : Config π Write Db}
    (hc : Coherent op (Fits requestId) (PlannedStatus op) c) (hsees : SeesClosing op m c) :
    KeepsTerminal op m c := by
  intro r hr r' hr' hid hid' hclosed
  have hsame : r' ∈ c.cell.maintenanceRequests → r'.status = r.status := fun hmem => by
    rw [Table.eq_of_key_eq hmem hr (hid'.trans hid.symm)]
  cases m with
  | read p =>
    rcases readStep_cases statusWriters op p c with hstep | ⟨w, -, -, hstep⟩ | ⟨-, hstep⟩ <;>
      rw [ReadWrite.next, hstep] at hr' <;> exact hsame hr'
  | write p =>
    rcases writeStep_cases statusWriters op p c with
      hstep | ⟨w, n, s, hp, hcommit, hstep⟩ | ⟨w, n, e, -, -, hstep⟩
    · rw [ReadWrite.next, hstep] at hr'
      exact hsame hr'
    · rw [ReadWrite.next, hstep] at hr'
      have hplanned := (hc.planned p w n hp).2
      obtain ⟨r₀, -, -, -, hafter⟩ := commit_status hplanned.write hcommit
      rw [(hafter r' hr' hid').1, hplanned.target_eq (hsees w n hp) hr hid hclosed]
    · rw [ReadWrite.next, hstep] at hr'
      exact hsame hr'

/-- While terminal states are kept, the log explains them: what it has closed is closed
with that status. -/
structure ClosedByLog (op : π → StatusWriter requestId) (c : Config π Write Db) : Prop where
  planned : ∀ p w n, c.phase p = .planned w n →
    (∃ r ∈ c.cell.maintenanceRequests, r.id = requestId) ∧ StatusWrite requestId (op p).target w
  logged : ∀ e ∈ c.log, (op e.1).target.IsClosed →
    ∀ r ∈ c.cell.maintenanceRequests, r.id = requestId → r.status = (op e.1).target

omit [DecidableEq π] in
theorem closedByLog_start : ClosedByLog op (.start db) :=
  ⟨fun p w n h => by simp [Config.start] at h, fun e he => absurd he List.not_mem_nil⟩

theorem ClosedByLog.update {c : Config π Write Db} (h : ClosedByLog op c) {p : π}
    {x : Phase Write} (hx : ∀ w n, x = .planned w n →
      (∃ r ∈ c.cell.maintenanceRequests, r.id = requestId) ∧
        StatusWrite requestId (op p).target w) :
    ClosedByLog op { c with phase := Function.update c.phase p x } := by
  refine ⟨fun q w n hq => ?_, h.logged⟩
  by_cases hqp : q = p
  · subst hqp
    exact hx w n (by simpa using hq)
  · exact h.planned q w n (by simpa [hqp] using hq)

theorem closedByLog_next {m : Move π} {c : Config π Write Db} (h : ClosedByLog op c)
    (hkeeps : KeepsTerminal op m c) :
    ClosedByLog op (ReadWrite.next statusWriters op m c) := by
  cases m with
  | read p =>
    rcases readStep_cases statusWriters op p c with hstep | ⟨w, -, hplan, hstep⟩ | ⟨-, hstep⟩
    · rwa [ReadWrite.next, hstep]
    · rw [ReadWrite.next, hstep]
      refine h.update fun w' n hwn => ?_
      obtain ⟨rfl, rfl⟩ := Phase.planned.inj hwn
      obtain ⟨r, hr, hid, -, hw, -⟩ := plan_status hplan (op p).writes (op p).named
      exact ⟨⟨r, hr, hid⟩, hw⟩
    · rw [ReadWrite.next, hstep]
      exact h.update fun _ _ hwn => by cases hwn
  | write p =>
    rcases writeStep_cases statusWriters op p c with
      hstep | ⟨w, n, s, hp, hcommit, hstep⟩ | ⟨w, n, e, -, -, hstep⟩
    · rwa [ReadWrite.next, hstep]
    · obtain ⟨r, hr, hid, hexists, hafter⟩ := commit_status (h.planned p w n hp).2 hcommit
      unfold KeepsTerminal at hkeeps
      rw [ReadWrite.next, hstep] at hkeeps ⊢
      refine ⟨fun q w' n' hq => ?_, fun e he hclosed r' hr' hid' => ?_⟩
      · by_cases hqp : q = p
        · subst hqp
          simp at hq
        · exact ⟨hexists, (h.planned q w' n' (by simpa [hqp] using hq)).2⟩
      · rcases List.mem_append.mp he with he | he
        · have hs := h.logged e he hclosed r hr hid
          rw [hkeeps r hr r' hr' hid hid' (hs ▸ hclosed), hs]
        · rw [List.mem_singleton.mp he]
          exact (hafter r' hr' hid').1
    · rw [ReadWrite.next, hstep]
      exact h.update fun _ _ hwn => by cases hwn

theorem sees_of_keepsTerminal {m : Move π} {c : Config π Write Db} (h : ClosedByLog op c)
    (hkeeps : KeepsTerminal op m c) : SeesClosing op m c := by
  cases m with
  | read p => exact trivial
  | write p =>
    intro w n hp e he hclosed
    obtain ⟨⟨r₀, hr₀, hid₀⟩, hw⟩ := h.planned p w n hp
    cases hw with
    | @mk u hid hstatus =>
      have hcommit : statusWriters.commit (op p) (.update u) c.cell = .ok _ :=
        commit_update.mpr ⟨r₀, hr₀, hid₀.trans hid.symm, rfl⟩
      obtain ⟨r, hr, hrid, ⟨r', hr', hid'⟩, hafter⟩ := commit_status (.mk hid hstatus) hcommit
      have hs := h.logged e (List.mem_of_mem_drop he) hclosed r hr hrid
      have hstep := writeStep_of_commit statusWriters op hp hcommit
      have hkept := hkeeps r hr r' (by rwa [ReadWrite.next, hstep]) hrid hid' (hs ▸ hclosed)
      rw [← hs, ← hkept, (hafter r' hr' hid').1]

/-- Terminal states are absorbing, and the two times never both set, exactly in the
schedules whose writes have all seen a completion or cancellation committed before them
or ask for the same status. -/
theorem terminal_absorbing_iff (ls : List (Env × Operation)) (requestId : Id)
    (op : π → StatusWriter requestId) (ms : List (Move π)) :
    TerminalAbsorbing op (run .empty ls) ms ↔
      Run.Along (ReadWrite.next statusWriters op) (SeesClosing op) (.start (run .empty ls)) ms := by
  have hfit : Fits requestId (run .empty ls) := fun r hr _ => timesFit_run ls r hr
  constructor
  · intro h
    refine Run.along_of_split fun ms₁ m ms₂ hms => ?_
    obtain ⟨hbefore, hkeeps⟩ := (hms ▸ h.absorbing).at_split
    have hlog : ClosedByLog op
        (Run.exec (ReadWrite.next statusWriters op) (.start (run .empty ls)) ms₁) :=
      Run.exec_inv_along (I := ClosedByLog op) (fun _ _ hs hl => closedByLog_next hs hl)
        closedByLog_start hbefore
    exact sees_of_keepsTerminal hlog hkeeps
  · intro h
    refine ⟨Run.along_of_split fun ms₁ m ms₂ hms => ?_, fun ms₁ ms₂ hms r hr hid => ?_⟩
    · obtain ⟨hbefore, hsees⟩ := (hms ▸ h).at_split
      exact keepsTerminal_of_sees (coherent_of_sees hfit hbefore) hsees
    · rw [hms] at h
      exact ((coherent_of_sees hfit (Run.along_append.mp h).1).cell r hr hid).not_both

end Schedules

section Races

def cancelOrAssign : Bool → StatusWriter "request"
  | true => ⟨⟨sceneEnv "org" "building" 1, (residentCancels 1).2, sceneEnv "org" "building" 1⟩,
      .CANCELED, rfl, rfl⟩
  | false => ⟨⟨sceneEnv "org" "building" 1, (managerAssignsProvider 1).2,
      sceneEnv "org" "building" 1⟩, .ASSIGNED, rfl, rfl⟩

/-- The assignment, read before the cancellation and written after it, reopens the
canceled request. -/
theorem canceled_request_assigned :
    ¬ TerminalAbsorbing cancelOrAssign (run .empty [residentCreates 0 "Light bulb"])
      [.read false, .read true, .write true, .write false] :=
  fun h => absurd h.absorbing (by decide +kernel)

end Races

end Towerdesk.Maintenance
