import Towerdesk.Lib.Interleaving
import Towerdesk.Leases.OpenRequests

/-!
# Move-in requests under concurrency

Five calls write the move-in requests of a lease. Each reads and checks, then writes in
one transaction; nothing is locked in between, the reads of an execution not excepted,
which are in the transaction that writes. Cancelling an occupied contract moves it out
first. The requests stay in order exactly when no write finds its request decided, or an
approved one where it files its own.
-/

namespace Towerdesk.Leases

open Interleaving (Machine Config AtStep)

section Writes

def DbWrite.moveInWrite? : DbWrite → Option (Table.Write MoveRequest.id)
  | .moveRequest .MOVE_IN w => some w
  | _ => none

def moveInWrites (plan : Plan) : List (Table.Write MoveRequest.id) :=
  (Transaction.writes plan).filterMap DbWrite.moveInWrite?

variable {db db' : Db} {w : DbWrite} {plan : Plan} {raise : DbError → HttpException}

theorem apply_moveInRequests (h : w.apply db = .ok db') :
    (w.moveInWrite? = none → db'.moveInRequests.table = db.moveInRequests.table) ∧
      ∀ v, w.moveInWrite? = some v →
        v.apply db.moveInRequests.table = (.ok db'.moveInRequests.table : Except DbError _) := by
  cases w with
  | moveRequest kind v =>
    obtain ⟨t, ht, rfl⟩ := Outcome.map_eq_ok.mp h
    cases kind with
    | MOVE_IN =>
      refine ⟨nofun, fun v' hv => ?_⟩
      obtain rfl := Option.some.inj hv
      exact Constrained.write_eq_ok.mp ht
    | MOVE_OUT => exact ⟨fun _ => rfl, fun _ hv => by cases hv⟩
  | user v =>
    obtain ⟨users, -, h⟩ := Outcome.bind_eq_ok.mp h
    split at h
    · cases h
    · obtain rfl := Except.ok.inj h
      exact ⟨fun _ => rfl, fun _ hv => by cases hv⟩
  | lease v | occupancy v | accessCard v | parkingSticker v | parkingAllocation v | vehicle v =>
    obtain ⟨t, -, rfl⟩ := Outcome.map_eq_ok.mp h
    exact ⟨fun _ => rfl, fun _ hv => by cases hv⟩
  | upsertProfile p =>
    obtain rfl := Except.ok.inj h
    unfold Db.upsertProfile
    split <;> exact ⟨fun _ => rfl, fun _ hv => by cases hv⟩
  | clearTerms _ | term _ | history _ | changeSet _ _ _ _ | activity _ | replaceOccupants _ _
  | document _ | notification _ =>
    obtain rfl := Except.ok.inj h
    exact ⟨fun _ => rfl, fun _ hv => by cases hv⟩

theorem commit_moveInRequests (h : Transaction.commit DbWrite.apply raise plan db = .ok db') :
    (moveInWrites plan).foldlM (fun t v => v.apply t) db.moveInRequests.table =
      (.ok db'.moveInRequests.table : Except DbError _) := by
  induction plan generalizing db with
  | nil =>
    obtain rfl := Transaction.commit_nil.mp h
    rfl
  | cons st plan ih =>
    cases st with
    | require p e =>
      obtain ⟨-, h⟩ := Transaction.commit_require.mp h
      exact ih h
    | write w =>
      obtain ⟨db₁, hw, h⟩ := Transaction.commit_write.mp h
      obtain ⟨hnone, hsome⟩ := apply_moveInRequests hw
      unfold moveInWrites
      rw [Transaction.writes_write]
      cases hv : w.moveInWrite? with
      | none =>
        rw [List.filterMap_cons_none hv, ← hnone hv]
        exact ih h
      | some v =>
        rw [List.filterMap_cons_some hv, List.foldlM_cons]
        exact Outcome.bind_eq_ok.mpr ⟨_, hsome v hv, ih h⟩

theorem commit_moveIn_nil (hplan : moveInWrites plan = [])
    (h : Transaction.commit DbWrite.apply raise plan db = .ok db') :
    db'.moveInRequests.table = db.moveInRequests.table := by
  have hfold := commit_moveInRequests h
  rw [hplan] at hfold
  exact (Except.ok.inj hfold).symm

theorem commit_moveIn_single {v : Table.Write MoveRequest.id} (hplan : moveInWrites plan = [v])
    (h : Transaction.commit DbWrite.apply raise plan db = .ok db') :
    v.apply db.moveInRequests.table = (.ok db'.moveInRequests.table : Except DbError _) := by
  have hfold := commit_moveInRequests h
  rw [hplan, List.foldlM_cons] at hfold
  obtain ⟨t, ht, hfold⟩ := Outcome.bind_eq_ok.mp hfold
  rwa [show db'.moveInRequests.table = t from (Except.ok.inj hfold).symm]

end Writes

section Processes

inductive MoveInCall
  | createResidentMoveInRequest (user : Option AuthenticatedUser) (contractId : Id)
      (dto : CreateMoveRequestDto)
  | approveMoveInRequest (user : Option AuthenticatedUser) (requestId : Id)
  | rejectMoveInRequest (user : Option AuthenticatedUser) (requestId : Id)
      (dto : RejectMoveRequestDto)
  | executeApprovedMoveIn (user : Option AuthenticatedUser) (contractId : Id)
  | cancelContract (user : Option AuthenticatedUser) (contractId : Id) (reason : Option String)

def MoveInCall.operation : MoveInCall → Operation
  | .createResidentMoveInRequest user contractId dto =>
    .createResidentMoveInRequest user contractId dto
  | .approveMoveInRequest user requestId => .approveMoveInRequest user requestId
  | .rejectMoveInRequest user requestId dto => .rejectMoveInRequest user requestId dto
  | .executeApprovedMoveIn user contractId => .executeApprovedMoveIn user contractId
  | .cancelContract user contractId reason => .cancelContract user contractId reason

structure MoveInProcess where
  env : Env
  call : MoveInCall

/-- Where a call stands: before its reads, before the reads and the transaction of the
move-out that a cancellation makes first, and before its own transaction. -/
inductive Progress
  | idle
  | leaving (existing : Lease) (thenCancel : Plan)
  | movingOut (plan thenCancel : Plan)
  | planned (plan : Plan)
  | succeeded
  | failed

def Progress.ofPlan : Result Plan → Progress
  | .ok plan => .planned plan
  | .error _ => .failed

namespace MoveInProcess

variable (p : MoveInProcess)

def firstRead (db : Db) : Progress :=
  match p.call with
  | .createResidentMoveInRequest user contractId dto =>
    .ofPlan (createResidentMoveInRequest p.env db user contractId dto)
  | .approveMoveInRequest user requestId => .ofPlan (approveMoveInRequest p.env db user requestId)
  | .rejectMoveInRequest user requestId dto =>
    .ofPlan (rejectMoveInRequest p.env db user requestId dto)
  | .executeApprovedMoveIn user contractId =>
    .ofPlan (executeApprovedMoveIn p.env db user contractId)
  | .cancelContract user contractId reason =>
    match cancellableContract user contractId db with
    | .error _ => .failed
    | .ok existing =>
      if existing.status = .ACTIVE ∧ existing.occupancyId.isSome then
        .leaving existing (cancelContractStatements p.env user existing reason)
      else .planned (cancelContractStatements p.env user existing reason)

def user : Option AuthenticatedUser :=
  match p.call with
  | .createResidentMoveInRequest user _ _ | .approveMoveInRequest user _
  | .rejectMoveInRequest user _ _ | .executeApprovedMoveIn user _ | .cancelContract user _ _ => user

def leave (existing : Lease) (thenCancel : Plan) (db : Db) : Progress :=
  match moveOut p.env db p.user existing.buildingId existing.id (.at p.env.now) with
  | .ok plan => .movingOut plan thenCancel
  | .error _ => .failed

def attempt (plan : Plan) (done : Progress) (db : Db) : Progress × Db :=
  match Transaction.commit DbWrite.apply mapDbError plan db with
  | .ok db' => (done, db')
  | .error _ => (.failed, db)

def step : Progress → Db → Progress × Db
  | .idle, db => (p.firstRead db, db)
  | .leaving existing thenCancel, db => (p.leave existing thenCancel db, db)
  | .movingOut plan thenCancel, db => attempt plan (.planned thenCancel) db
  | .planned plan, db => attempt plan .succeeded db
  | .succeeded, db => (.succeeded, db)
  | .failed, db => (.failed, db)

theorem attempt_cases (plan : Plan) (done : Progress) (db : Db) :
    attempt plan done db = (.failed, db) ∨
      ∃ db', Transaction.commit DbWrite.apply mapDbError plan db = .ok db' ∧
        attempt plan done db = (done, db') := by
  unfold attempt
  cases Transaction.commit DbWrite.apply mapDbError plan db with
  | error e => exact .inl rfl
  | ok db' => exact .inr ⟨db', rfl, rfl⟩

end MoveInProcess

variable {π : Type*}

def moveInMachine (proc : π → MoveInProcess) : Machine π Unit Progress Db where
  step p _ l db := (proc p).step l db

inductive RequestPlan (plan : Plan) : Prop
  | create (r : MoveRequest) (hpending : r.status = .PENDING)
      (hplan : moveInWrites plan = [.create r])
  | update (k : Id) (p : Patch MoveRequest.id) (hlease : ∀ r, (p.apply r).leaseId = r.leaseId)
      (hplan : moveInWrites plan = [.update k p])
  | sweep (now : Date) (l : Lease) (hplan : moveInWrites plan = [cancelRequestsWrite now l])

def Progress.Sound : Progress → Prop
  | .leaving _ thenCancel => RequestPlan thenCancel
  | .movingOut plan thenCancel => moveInWrites plan = [] ∧ RequestPlan thenCancel
  | .planned plan => RequestPlan plan
  | .idle | .succeeded | .failed => True

theorem moveInWrites_quiet {plan : Plan} (h : Plan.IsQuiet plan) : moveInWrites plan = [] := by
  refine List.filterMap_eq_nil_iff.mpr fun w hw => ?_
  have hquiet := h w hw
  cases w with
  | moveRequest kind w => simp [DbWrite.isQuiet] at hquiet
  | _ => rfl

theorem moveInWrites_moveOut {env : Env} {user : Option AuthenticatedUser} {l : Lease}
    {occupancyId : Id} {endAt : Date} {settlement : MoveOutSettlement} {dto : MoveOutDto} :
    moveInWrites (moveOutStatements env user l occupancyId endAt settlement dto) = [] := by
  unfold moveInWrites moveOutStatements
  split_ifs <;> rfl

theorem requestPlan_review {env : Env} {subject : String} {user : Option AuthenticatedUser}
    {requestId : Id} {status : MoveRequestStatus} {rejectionReason : Option String}
    {action : LeaseActivityAction} {payload : List (String × JsonValue)} {db : Db} {plan : Plan}
    (h : reviewMoveRequest env db .MOVE_IN subject user requestId status rejectionReason action
      payload = .ok plan) : RequestPlan plan := by
  obtain ⟨r, -, -, -, row, rfl⟩ := reviewMoveRequest_ok h
  exact .update r.id _ (fun _ => rfl) rfl

theorem sound_ofPlan {r : Result Plan} (h : ∀ plan, r = .ok plan → RequestPlan plan) :
    (Progress.ofPlan r).Sound := by
  cases r with
  | error e => exact trivial
  | ok plan => exact h plan rfl

theorem sound_firstRead (p : MoveInProcess) (db : Db) : (p.firstRead db).Sound := by
  unfold MoveInProcess.firstRead
  cases p.call with
  | createResidentMoveInRequest user contractId dto =>
    refine sound_ofPlan fun plan hplan => ?_
    obtain ⟨l, -, -, -, -, userId, hplan⟩ := createResidentMoveInRequest_ok hplan
    obtain ⟨-, r, rest, -, -, -, -, hpending, hquiet, rfl⟩ := createMoveRequest_ok hplan
    refine .create r hpending ?_
    exact congrArg (Table.Write.create r :: ·) (moveInWrites_quiet hquiet)
  | approveMoveInRequest user requestId => exact sound_ofPlan fun _ => requestPlan_review
  | rejectMoveInRequest user requestId dto => exact sound_ofPlan fun _ => requestPlan_review
  | executeApprovedMoveIn user contractId =>
    refine sound_ofPlan fun plan hplan => ?_
    obtain ⟨l, -, -, -, -, residentUserId, -, r, -, -, -, -, row, rfl⟩ :=
      executeApprovedMoveIn_ok hplan
    exact .update r.id _ (fun _ => rfl) rfl
  | cancelContract user contractId reason =>
    dsimp only
    cases cancellableContract user contractId db with
    | error e => exact trivial
    | ok existing =>
      dsimp only
      split_ifs
      · exact .sweep p.env.now existing rfl
      · exact .sweep p.env.now existing rfl

theorem sound_attempt {plan : Plan} {done : Progress} (db : Db) (h : done.Sound) :
    (MoveInProcess.attempt plan done db).1.Sound := by
  obtain hfailed | ⟨db', -, hdone⟩ := MoveInProcess.attempt_cases plan done db
  · rw [hfailed]
    exact trivial
  · rw [hdone]
    exact h

theorem sound_step (p : MoveInProcess) {l : Progress} (db : Db) (h : l.Sound) :
    (p.step l db).1.Sound := by
  cases l with
  | idle => exact sound_firstRead p db
  | leaving existing thenCancel =>
    show (p.leave existing thenCancel db).Sound
    unfold MoveInProcess.leave
    cases hplan : moveOut p.env db p.user existing.buildingId existing.id (.at p.env.now) with
    | error e => exact trivial
    | ok plan =>
      obtain ⟨l, -, -, -, -, -, occupancyId, endAt, settlement, -, -, -, rfl⟩ := moveOut_ok hplan
      exact ⟨moveInWrites_moveOut, h⟩
  | movingOut plan thenCancel => exact sound_attempt db h.2
  | planned plan => exact sound_attempt db trivial
  | succeeded => exact trivial
  | failed => exact trivial

end Processes

section Alone

namespace MoveInProcess

variable (p : MoveInProcess) {db : Db}

def alone (db : Db) : ℕ → Progress × Db
  | 0 => (.idle, db)
  | n + 1 => p.step (alone db n).1 (alone db n).2

theorem attempt_final (plan : Plan) (done : Progress) (db : Db) :
    (attempt plan done db).2 = Transaction.final (transaction (fun _ => .ok plan) db) := by
  have hplan : (Except.ok plan >>= fun ss => Transaction.commit DbWrite.apply mapDbError ss db) =
      Transaction.commit DbWrite.apply mapDbError plan db := rfl
  unfold attempt transaction Transaction.transaction
  rw [hplan]
  cases Transaction.commit DbWrite.apply mapDbError plan db with
  | error e => rfl
  | ok db' => rfl

theorem alone_settled {n : ℕ} {l : Progress} {db' : Db} (h : p.alone db n = (l, db'))
    (hl : l = .succeeded ∨ l = .failed) (k : ℕ) : p.alone db (n + k) = (l, db') := by
  have hfixed : p.step l db' = (l, db') := by
    rcases hl with rfl | rfl <;> rfl
  exact Run.rest_of_fixed (fun r => p.step r.1 r.2) (fun _ => rfl) h hfixed k

theorem alone_attempt {n : ℕ} {plan : Plan} {db₁ : Db}
    (h : p.alone db n = (.planned plan, db₁)) (k : ℕ) :
    (p.alone db (n + 1 + k)).2 = Transaction.final (transaction (fun _ => .ok plan) db₁) := by
  have hstep : p.alone db (n + 1) = attempt plan .succeeded db₁ := by
    show p.step (p.alone db n).1 (p.alone db n).2 = attempt plan .succeeded db₁
    rw [h]
    rfl
  rw [← attempt_final plan .succeeded]
  obtain hattempt | ⟨db', -, hattempt⟩ := attempt_cases plan .succeeded db₁
  · rw [hattempt] at hstep ⊢
    rw [p.alone_settled hstep (.inr rfl)]
  · rw [hattempt] at hstep ⊢
    rw [p.alone_settled hstep (.inl rfl)]

theorem alone_planned {plan : Db → Result Plan} (hfirst : p.firstRead db = .ofPlan (plan db)) :
    (p.alone db 4).2 = Transaction.final (transaction plan db) := by
  have hone : p.alone db 1 = (.ofPlan (plan db), db) := congrArg (·, db) hfirst
  cases hplan : plan db with
  | error e =>
    rw [hplan] at hone
    rw [transaction, Transaction.transaction_of_refused (by rw [hplan]; rfl),
      p.alone_settled hone (.inr rfl) 3]
    rfl
  | ok ss =>
    rw [hplan] at hone
    have hcall : transaction plan db = transaction (fun _ => .ok ss) db := by
      unfold transaction Transaction.transaction
      rw [hplan]
    rw [hcall, ← p.alone_attempt hone 2]

theorem alone_cancel {user : Option AuthenticatedUser} {contractId : Id} {reason : Option String}
    (hcall : p.call = .cancelContract user contractId reason) :
    (p.alone db 4).2 = Transaction.final (cancelContract p.env user contractId reason db) := by
  have hone : p.alone db 1 = (p.firstRead db, db) := rfl
  unfold firstRead at hone
  rw [hcall] at hone
  unfold cancelContract
  cases hread : cancellableContract user contractId db with
  | error e =>
    simp only [hread] at hone
    rw [Transaction.read_bind_of_error hread, p.alone_settled hone (.inr rfl) 3]
    rfl
  | ok existing =>
    simp only [hread] at hone
    rw [Transaction.read_bind_of_ok hread]
    by_cases hoccupied : existing.status = .ACTIVE ∧ existing.occupancyId.isSome
    · rw [if_pos hoccupied] at hone
      have htwo : p.alone db 2 =
          (p.leave existing (cancelContractStatements p.env user existing reason) db, db) := by
        rw [alone, hone]
        rfl
      have huser : p.user = user := by simp [MoveInProcess.user, hcall]
      unfold leave at htwo
      rw [huser] at htwo
      simp only [if_pos hoccupied]
      cases hplan : moveOut p.env db user existing.buildingId existing.id (.at p.env.now) with
      | error e =>
        rw [hplan] at htwo
        rw [transaction, Transaction.transaction_bind_of_refused (by rw [hplan]; rfl),
          p.alone_settled htwo (.inr rfl) 2]
        rfl
      | ok plan =>
        rw [hplan] at htwo
        have hthree : p.alone db 3 = attempt plan
            (.planned (cancelContractStatements p.env user existing reason)) db := by
          rw [alone, htwo]
          rfl
        unfold attempt at hthree
        cases hcommit : Transaction.commit DbWrite.apply mapDbError plan db with
        | error e =>
          rw [hcommit] at hthree
          rw [transaction, Transaction.transaction_bind_of_refused (by rw [hplan]; exact hcommit),
            p.alone_settled hthree (.inr rfl) 1]
          rfl
        | ok db₁ =>
          rw [hcommit] at hthree
          rw [transaction, Transaction.transaction_bind_of_commit hplan hcommit,
            p.alone_attempt hthree 0]
    · rw [if_neg hoccupied] at hone
      simp only [if_neg hoccupied]
      rw [p.alone_attempt hone 2]

/-- A process with nobody in between does what its call does. -/
theorem alone_next : (p.alone db 4).2 = next (p.env, p.call.operation) db := by
  unfold next
  cases hcall : p.call with
  | createResidentMoveInRequest user contractId dto =>
    exact p.alone_planned (by simp only [firstRead, hcall])
  | approveMoveInRequest user requestId => exact p.alone_planned (by simp only [firstRead, hcall])
  | rejectMoveInRequest user requestId dto =>
    exact p.alone_planned (by simp only [firstRead, hcall])
  | executeApprovedMoveIn user contractId =>
    exact p.alone_planned (by simp only [firstRead, hcall])
  | cancelContract user contractId reason => exact p.alone_cancel hcall

end MoveInProcess

end Alone

section Order

variable {π : Type*}

/-- At most one move-in request of a lease is pending or approved. -/
def OneOpen (t : Table MoveRequest.id) : Prop :=
  ∀ r ∈ t, ∀ s ∈ t, r.isOpen → s.isOpen → r.leaseId = s.leaseId → r = s

/-- A request that is rejected, cancelled or completed stays so. -/
def KeepsDecided (t t' : Table MoveRequest.id) : Prop :=
  ∀ r ∈ t, ¬ r.isOpen → ∀ r' ∈ t', r'.id = r.id → r'.status = r.status

section Schedule

variable [DecidableEq π] (proc : π → MoveInProcess)

def raceNext : π × Unit → Config π Progress Db → Config π Progress Db :=
  Interleaving.next (moveInMachine proc)

structure RequestsInOrder (db : Db) (ms : List (π × Unit)) : Prop where
  one_open : ∀ ms', ms' <+: ms →
    OneOpen (Run.exec (raceNext proc) (.start db .idle) ms').shared.moveInRequests.table
  decided : Run.Along (raceNext proc) (fun m c => KeepsDecided c.shared.moveInRequests.table
    (raceNext proc m c).shared.moveInRequests.table) (.start db .idle) ms

end Schedule

/-- The write finds no approved request where it files its own, and the request it updates
undecided or decided as it decides. -/
def FindsUndecided : Table.Write MoveRequest.id → Table MoveRequest.id → Prop
  | .create r, t => ∀ s ∈ t, s.leaseId = r.leaseId → s.status ≠ .APPROVED
  | .update k p, t => ∀ r ∈ t, r.id = k → r.isOpen ∨ (p.apply r).status = r.status
  | .updateMany _ _, _ => True

/-- So do the writes of a transaction that is about to commit. -/
def CommitsUndecided (_ : π) (_ : Unit) : Progress → Db → Prop
  | .planned plan, db => ∀ db', Transaction.commit DbWrite.apply mapDbError plan db = .ok db' →
      ∀ v ∈ moveInWrites plan, FindsUndecided v db.moveInRequests.table
  | _, _ => True

instance (v : Table.Write MoveRequest.id) (t : Table MoveRequest.id) :
    Decidable (FindsUndecided v t) :=
  match v with
  | .create r => inferInstanceAs (Decidable (∀ s ∈ t, s.leaseId = r.leaseId → s.status ≠ .APPROVED))
  | .update k p => inferInstanceAs
      (Decidable (∀ r ∈ t, r.id = k → r.isOpen = true ∨ (p.apply r).status = r.status))
  | .updateMany _ _ => isTrue trivial

instance (p : π) (u : Unit) (l : Progress) (db : Db) : Decidable (CommitsUndecided p u l db) :=
  match l with
  | .planned plan =>
    match h : Transaction.commit DbWrite.apply mapDbError plan db with
    | .ok _ => decidable_of_iff (∀ v ∈ moveInWrites plan, FindsUndecided v db.moveInRequests.table)
        ⟨fun hfinds _ _ => hfinds, fun hcommits => hcommits _ h⟩
    | .error _ => isTrue fun _ hok => nomatch h.symm.trans hok
  | .idle | .leaving _ _ | .movingOut _ _ | .succeeded | .failed => isTrue trivial

section Writes

variable {t t' : Table MoveRequest.id} {plan : Plan} {db db' : Db}

theorem oneOpen_iff : OneOpen t ↔ t.UniqueOn openLease := by
  unfold OneOpen Table.UniqueOn openLease
  constructor
  · intro h r hr s hs hne heq
    by_cases hropen : r.isOpen
    · by_cases hsopen : s.isOpen
      · rw [if_pos hropen, if_pos hsopen] at heq
        rw [h r hr s hs hropen hsopen (Option.some.inj heq)]
      · rw [if_pos hropen, if_neg hsopen] at heq
        cases heq
    · exact absurd (if_neg hropen) hne
  · intro h r hr s hs hropen hsopen heq
    exact Table.eq_of_key_eq hr hs (h r hr s hs (by simp [hropen]) (by simp [hropen, hsopen, heq]))

theorem isOpen_of_pending {r : MoveRequest} (h : r.status = .PENDING) : r.isOpen = true := by
  simp [MoveRequest.isOpen, h]

theorem isOpen_of_approved {r : MoveRequest} (h : r.status = .APPROVED) : r.isOpen = true := by
  simp [MoveRequest.isOpen, h]

theorem isOpen_congr {r s : MoveRequest} (h : r.status = s.status) : r.isOpen = s.isOpen := by
  simp [MoveRequest.isOpen, h]

theorem oneOpen_create {r : MoveRequest} (hone : OneOpen t) (hpending : r.status = .PENDING)
    (hinsert : t.insert r = some t') (hunique : t'.UniqueOn pendingLease)
    (hnone : ∀ s ∈ t, s.leaseId = r.leaseId → s.status ≠ .APPROVED) : OneOpen t' := by
  rw [oneOpen_iff] at hone ⊢
  refine hone.insert hinsert fun s hs => .inr fun heq => ?_
  by_cases hopen : s.isOpen
  · simp only [openLease, hopen, isOpen_of_pending hpending, if_true, Option.some.injEq] at heq
    have hstatus : s.status = .PENDING ∨ s.status = .APPROVED := by
      simpa [MoveRequest.isOpen] using hopen
    have hspending := hstatus.resolve_right (hnone s hs heq)
    refine Table.fresh_of_insert hinsert hs (hunique s ((Table.mem_insert hinsert).mpr (.inl hs)) r
      ((Table.mem_insert hinsert).mpr (.inr rfl)) ?_ ?_)
    · simp [pendingLease, hspending]
    · simp [pendingLease, hspending, hpending, heq]
  · simp [openLease, hopen, isOpen_of_pending hpending] at heq

theorem oneOpen_update {k : Id} {p : Patch MoveRequest.id} (hone : OneOpen t)
    (hlease : ∀ r, (p.apply r).leaseId = r.leaseId) (hk : ∃ r ∈ t, r.id = k)
    (hfinds : ∀ r ∈ t, r.id = k → r.isOpen ∨ (p.apply r).status = r.status) :
    OneOpen (t.modify k p) := by
  obtain ⟨r, hr, rfl⟩ := hk
  rw [oneOpen_iff] at hone ⊢
  refine hone.modify_of_le hr ?_
  by_cases hopen' : (p.apply r).isOpen
  · have hopen : r.isOpen := by
      rcases hfinds r hr rfl with hopen | hsame
      · exact hopen
      · rwa [isOpen_congr hsame] at hopen'
    exact .inr (by simp [openLease, hopen, hopen', hlease])
  · exact .inl (by simp [openLease, hopen'])

theorem keepsDecided_refl : KeepsDecided t t := fun r hr _ r' hr' hid => by
  rw [Table.eq_of_key_eq hr' hr hid]

theorem keepsDecided_create {r : MoveRequest} (hinsert : t.insert r = some t') :
    KeepsDecided t t' := by
  intro s hs _ s' hs' hid
  rcases (Table.mem_insert hinsert).mp hs' with hs' | rfl
  · rw [Table.eq_of_key_eq hs' hs hid]
  · exact absurd hid.symm (Table.fresh_of_insert hinsert hs)

theorem keepsDecided_update_iff {k : Id} {p : Patch MoveRequest.id} :
    KeepsDecided t (t.modify k p) ↔
      ∀ r ∈ t, r.id = k → r.isOpen ∨ (p.apply r).status = r.status := by
  constructor
  · rintro h r hr rfl
    by_cases hopen : r.isOpen
    · exact .inl hopen
    · exact .inr (h r hr hopen _ (Table.apply_mem_modify hr) (p.key_apply r))
  · intro h r hr hclosed r' hr' hid
    rcases Table.mem_modify.mp hr' with ⟨x, hx, hk, rfl⟩ | ⟨hr', -⟩
    · obtain rfl := Table.eq_of_key_eq hx hr ((p.key_apply x).symm.trans hid)
      exact (h x hx hk).resolve_left hclosed
    · rw [Table.eq_of_key_eq hr' hr hid]

theorem keepsDecided_sweep {now : Date} {l : Lease} :
    KeepsDecided t (cancelOpen now l t) := by
  intro r hr hclosed r' hr' hid
  rcases Table.mem_modifyWhere.mp hr' with ⟨x, hx, hq, rfl⟩ | ⟨hr', -⟩
  · obtain rfl := Table.eq_of_key_eq hx hr hid
    exact absurd (of_decide_eq_true hq).2.2 hclosed
  · rw [Table.eq_of_key_eq hr' hr hid]

theorem oneOpen_sweep {now : Date} {l : Lease} (hone : OneOpen t) :
    OneOpen (cancelOpen now l t) := by
  rw [oneOpen_iff] at hone ⊢
  exact hone.modifyWhere_of_le fun _ _ _ => .inl rfl

theorem RequestPlan.in_order_iff (h : RequestPlan plan)
    (hcommit : Transaction.commit DbWrite.apply mapDbError plan db = .ok db')
    (hone : OneOpen db.moveInRequests.table) :
    (OneOpen db'.moveInRequests.table ∧
        KeepsDecided db.moveInRequests.table db'.moveInRequests.table) ↔
      ∀ v ∈ moveInWrites plan, FindsUndecided v db.moveInRequests.table := by
  cases h with
  | create r hpending hplan =>
    have hinsert := Table.apply_create.mp (commit_moveIn_single hplan hcommit)
    simp only [hplan, List.mem_singleton, forall_eq, FindsUndecided]
    constructor
    · rintro ⟨hone', -⟩ s hs hlease happroved
      have hsr := hone' s ((Table.mem_insert hinsert).mpr (.inl hs)) r
        ((Table.mem_insert hinsert).mpr (.inr rfl)) (isOpen_of_approved happroved)
        (isOpen_of_pending hpending) hlease
      exact Table.fresh_of_insert hinsert hs (congrArg MoveRequest.id hsr)
    · intro hnone
      exact ⟨oneOpen_create hone hpending hinsert db'.moveInRequests.pending_unique hnone,
        keepsDecided_create hinsert⟩
  | update k p hlease hplan =>
    obtain ⟨hk, hmodify⟩ := Table.apply_update.mp (commit_moveIn_single hplan hcommit)
    simp only [hplan, List.mem_singleton, forall_eq, FindsUndecided, hmodify,
      keepsDecided_update_iff]
    exact ⟨And.right, fun hfinds => ⟨oneOpen_update hone hlease hk hfinds, hfinds⟩⟩
  | sweep now l hplan =>
    have hsweep := Table.apply_updateMany.mp (commit_moveIn_single hplan hcommit)
    simp only [hplan, List.mem_singleton, forall_eq, FindsUndecided, cancelRequestsWrite, hsweep,
      iff_true]
    exact ⟨oneOpen_sweep hone, keepsDecided_sweep⟩

end Writes

section Steps

variable {db : Db} {l : Progress}

theorem step_in_order_iff (p : MoveInProcess) (q : π) (u : Unit) (hl : l.Sound)
    (hone : OneOpen db.moveInRequests.table) :
    (OneOpen (p.step l db).2.moveInRequests.table ∧
        KeepsDecided db.moveInRequests.table (p.step l db).2.moveInRequests.table) ↔
      CommitsUndecided q u l db := by
  cases l with
  | idle | leaving _ _ | succeeded | failed => exact iff_of_true ⟨hone, keepsDecided_refl⟩ trivial
  | movingOut plan thenCancel =>
    refine iff_of_true ?_ trivial
    obtain hfailed | ⟨db', hcommit, hdone⟩ :=
      MoveInProcess.attempt_cases plan (.planned thenCancel) db
    · rw [MoveInProcess.step, hfailed]
      exact ⟨hone, keepsDecided_refl⟩
    · rw [MoveInProcess.step, hdone, commit_moveIn_nil hl.1 hcommit]
      exact ⟨hone, keepsDecided_refl⟩
  | planned plan =>
    unfold CommitsUndecided
    cases hcommit : Transaction.commit DbWrite.apply mapDbError plan db with
    | error e =>
      have hstep : (p.step (.planned plan) db).2 = db := by
        simp [MoveInProcess.step, MoveInProcess.attempt, hcommit]
      rw [hstep]
      exact iff_of_true ⟨hone, keepsDecided_refl⟩ fun _ hok => by cases hcommit.symm.trans hok
    | ok db' =>
      have hstep : (p.step (.planned plan) db).2 = db' := by
        simp [MoveInProcess.step, MoveInProcess.attempt, hcommit]
      rw [hstep, RequestPlan.in_order_iff hl hcommit hone]
      simp [hcommit]

variable [DecidableEq π] (proc : π → MoveInProcess)

theorem sound_exec (db : Db) (ms : List (π × Unit)) (p : π) :
    ((Run.exec (raceNext proc) (.start db .idle) ms).locals p).Sound :=
  Interleaving.locals_exec (M := moveInMachine proc) (c := .start db .idle)
    (J := fun _ => Progress.Sound) (fun p _ _ db h => sound_step (proc p) db h)
    (fun _ => trivial) ms p

theorem coherent_exec {ms : List (π × Unit)} (hstart : OneOpen db.moveInRequests.table)
    (h : Run.Along (raceNext proc) (AtStep CommitsUndecided) (.start db .idle) ms) :
    Interleaving.Coherent (fun db => OneOpen db.moveInRequests.table) (fun _ l _ => l.Sound)
      (Run.exec (raceNext proc) (.start db .idle) ms) := by
  refine Interleaving.coherent_exec (fun p u l db hone hl hcommits => ⟨?_, ?_⟩)
    (fun _ _ _ _ _ _ _ _ _ _ hk => hk) ⟨hstart, fun _ => trivial⟩ h
  · exact ((step_in_order_iff (proc p) p u hl hone).mpr hcommits).1
  · exact sound_step (proc p) db hl

/-- The requests of every lease are in order throughout a schedule exactly when every
transaction that commits finds them undecided. -/
theorem requests_in_order_iff (proc : π → MoveInProcess) (db : Db)
    (hstart : OneOpen db.moveInRequests.table) (ms : List (π × Unit)) :
    RequestsInOrder proc db ms ↔
      Run.Along (raceNext proc) (AtStep CommitsUndecided) (.start db .idle) ms := by
  constructor
  · intro h
    refine Run.along_of_split fun ms₁ m ms₂ hms => ?_
    have hone := h.one_open ms₁ ⟨m :: ms₂, hms.symm⟩
    have hnext := h.one_open (ms₁ ++ [m])
      ⟨ms₂, by rw [hms, List.append_assoc, List.singleton_append]⟩
    have hdecided := (hms ▸ h.decided).at_split.2
    rw [Run.exec_concat] at hnext
    exact (step_in_order_iff (proc m.1) m.1 m.2 (sound_exec proc db ms₁ m.1) hone).mp
      ⟨hnext, hdecided⟩
  · intro h
    have hone : ∀ ms₁, ms₁ <+: ms →
        OneOpen (Run.exec (raceNext proc) (.start db .idle) ms₁).shared.moveInRequests.table := by
      rintro ms₁ ⟨ms₂, rfl⟩
      exact (coherent_exec proc hstart (Run.along_append.mp h).1).shared
    refine ⟨hone, Run.along_of_split fun ms₁ m ms₂ hms => ?_⟩
    have hcommits := (hms ▸ h).at_split.2
    exact ((step_in_order_iff (proc m.1) m.1 m.2 (sound_exec proc db ms₁ m.1)
      (hone ms₁ ⟨m :: ms₂, hms.symm⟩)).mpr hcommits).2

end Steps

section Races

def approveOrCancel : Bool → MoveInProcess
  | true => ⟨(managerApprovesIn 4 "request").1, .approveMoveInRequest manager "request"⟩
  | false => ⟨(managerCancels 4 "contract").1, .cancelContract manager "contract" none⟩

def askedContract : Db :=
  Run.exec next (Db.start sceneDirectory) [managerDrafts 1 "contract" "101" "ann",
    managerActivates 2 "contract", residentAsksIn 3 "request" "contract" "ann"]

theorem requests_in_order_in_turn :
    OneOpen askedContract.moveInRequests.table ∧ RequestsInOrder approveOrCancel askedContract
      [(true, ()), (true, ()), (false, ()), (false, ())] := by
  have hstart : OneOpen askedContract.moveInRequests.table := by
    unfold OneOpen
    decide +kernel
  exact ⟨hstart, (requests_in_order_iff approveOrCancel askedContract hstart
    [(true, ()), (true, ()), (false, ()), (false, ())]).mpr (by decide +kernel)⟩

/-- The approval reads, the contract is cancelled with its request, and the approval is
written over the cancellation. -/
theorem cancelled_request_approved :
    ¬ ∀ (proc : Bool → MoveInProcess) (db : Db), OneOpen db.moveInRequests.table →
      ∀ ms, RequestsInOrder proc db ms := by
  intro h
  have hstart : OneOpen askedContract.moveInRequests.table := by
    unfold OneOpen
    decide +kernel
  have hkept := (h approveOrCancel askedContract hstart
    [(true, ()), (false, ()), (false, ()), (true, ())]).decided
  revert hkept
  unfold KeepsDecided
  decide +kernel

end Races

end Order

end Towerdesk.Leases
