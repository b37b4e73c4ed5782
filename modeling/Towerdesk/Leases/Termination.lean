import Towerdesk.Lib.Faults
import Towerdesk.Leases.Scene

/-!
# Terminating a contract on a failing database

Cancelling a contract and executing a move-out, step by step over a database that may
lose any one of the steps. Both commit the move-out in a transaction of its own, and
both read the contract once more at the end.
-/

namespace Towerdesk.Leases

open Faults (World Misses after steps EndsIn)

inductive Termination
  | cancelContract (user : Option AuthenticatedUser) (contractId : Id) (reason : Option String)
  | executeApprovedMoveOut (user : Option AuthenticatedUser) (contractId : Id)

def Termination.operation : Termination → Operation
  | .cancelContract user contractId reason => .cancelContract user contractId reason
  | .executeApprovedMoveOut user contractId => .executeApprovedMoveOut user contractId

section Steps

variable (env : Env)

def databaseError : HttpException := .internal "Can't reach database server"

abbrev StepwiseService (α : Type) := EStateM HttpException (World Db) α

def readStep {α : Type} (f : Db → Result α) : StepwiseService α := Faults.read databaseError f

def transactionSteps (plan : Plan) : StepwiseService Unit :=
  Faults.transaction DbWrite.apply mapDbError databaseError plan

def contractOf (user : Option AuthenticatedUser) (contractId : Id) (db : Db) : Result Lease := do
  let orgId ← assertOrgScope user
  findContractOrThrow db orgId contractId

def moveOutSteps (user : Option AuthenticatedUser) (buildingId leaseId : Id) (dto : MoveOutDto) :
    StepwiseService Unit := do
  let plan ← readStep fun db => moveOut env db user buildingId leaseId dto
  transactionSteps plan

def cancelContractSteps (user : Option AuthenticatedUser) (contractId : Id)
    (reason : Option String) : StepwiseService Lease := do
  let existing ← readStep (cancellableContract user contractId)
  if existing.status = .ACTIVE ∧ existing.occupancyId.isSome then
    moveOutSteps env user existing.buildingId existing.id (.at env.now)
  transactionSteps (cancelContractStatements env user existing reason)
  readStep (contractOf user contractId)

def executeApprovedMoveOutSteps (user : Option AuthenticatedUser) (contractId : Id) :
    StepwiseService Lease := do
  let (contract, approvedRequest) ← readStep (approvedMoveOut env user contractId)
  moveOutSteps env user contract.buildingId contract.id (.at approvedRequest.requestedMoveAt)
  transactionSteps (completeMoveOutStatements env user contract approvedRequest)
  readStep (contractOf user contractId)

def terminate : Termination → StepwiseService Lease
  | .cancelContract user contractId reason => cancelContractSteps env user contractId reason
  | .executeApprovedMoveOut user contractId => executeApprovedMoveOutSteps env user contractId

end Steps

section Atomicity

variable (env : Env) (t : Termination)

structure Untouched (db db' : Db) : Prop where
  leases : db'.leases.table = db.leases.table
  occupancies : db'.occupancies.table = db.occupancies.table
  accessCards : db'.accessCards = db.accessCards
  parkingStickers : db'.parkingStickers = db.parkingStickers
  parkingAllocations : db'.parkingAllocations = db.parkingAllocations
  moveRequests : ∀ kind, (db'.moveRequests kind).table = (db.moveRequests kind).table
  history : db'.history = db.history
  activity : db'.activity = db.activity

/-- Nothing is changed, and what could be executed before can be executed again. -/
structure Undone (db db' : Db) : Prop where
  untouched : Untouched db db'
  repeatable : returned (terminate env t ⟨db, none⟩) = true →
    returned (terminate env t ⟨db', none⟩) = true

/-- If the call throws, wherever a step was lost, it has done nothing. -/
def Atomic (db : Db) (failsIn : Option ℕ) : Prop :=
  returned (terminate env t ⟨db, failsIn⟩) = false →
    Undone env t db (Transaction.final (terminate env t ⟨db, failsIn⟩)).state

/-- The step `n` of a call that nothing refuses comes after its first commit. -/
def FailsAfterCommit (db : Db) (n : ℕ) : Termination → Prop
  | .cancelContract user contractId reason =>
    ∃ l, cancellableContract user contractId db = .ok l ∧
      if l.status = .ACTIVE ∧ l.occupancyId.isSome then
        ∃ plan, moveOut env db user l.buildingId l.id (.at env.now) = .ok plan ∧
          2 + steps plan ≤ n ∧
          n ≤ 2 + steps plan + steps (cancelContractStatements env user l reason)
      else n = 1 + steps (cancelContractStatements env user l reason)
  | .executeApprovedMoveOut user contractId =>
    ∃ l r, approvedMoveOut env user contractId db = .ok (l, r) ∧
      ∃ plan, moveOut env db user l.buildingId l.id (.at r.requestedMoveAt) = .ok plan ∧
        2 + steps plan ≤ n ∧ n ≤ 2 + steps plan + steps (completeMoveOutStatements env user l r)

variable {env t} {db db' : Db}

theorem Undone.refl (db : Db) : Undone env t db db :=
  ⟨⟨rfl, rfl, rfl, rfl, rfl, fun _ => rfl, rfl, rfl⟩, id⟩

theorem not_undone (h : db.activity.length < db'.activity.length) : ¬ Undone env t db db' := by
  intro hundone
  rw [hundone.untouched.activity] at h
  exact lt_irrefl _ h

theorem atomic_iff_endsIn {failsIn : Option ℕ} :
    Atomic env t db failsIn ↔
      EndsIn (Undone env t db) (fun _ _ => True) (terminate env t ⟨db, failsIn⟩) := by
  unfold Atomic
  cases terminate env t ⟨db, failsIn⟩ with
  | ok a w => simp [returned, EndsIn, Transaction.Ends]
  | error e w => simp [returned, EndsIn, Transaction.Ends, Transaction.final]

section Phases

variable {user : Option AuthenticatedUser} {throws : Db → Prop} {plan ss : Plan}
  {failsIn : Option ℕ} {db₁ db₂ : Db} {contractId : Id} {l x : Lease} {endAt : Date}

theorem exists_contractOf {orgId : Id} (horg : assertOrgScope user = .ok orgId)
    (hl : ∃ l ∈ db.books.leases, l.id = contractId ∧ l.orgId = orgId) :
    ∃ x, contractOf user contractId db = .ok x := by
  obtain ⟨l, hl, hid, hlorg⟩ := hl
  refine Outcome.exists_bind_ok horg ⟨l, Outcome.orThrow_eq_ok.mpr ?_⟩
  refine Table.findFirst_eq_some hl (by simp [hid, hlorg]) fun b hb => ?_
  rw [(of_decide_eq_true hb).1, hid]

section Rules

variable {α β : Type} {returns : β → World Db → Prop} {g : Db → Result α} {a : α} {e : HttpException}

theorem endsIn_readStep_bind {k : α → StepwiseService β} (hg : g db = .ok a) :
    EndsIn throws returns ((readStep g >>= k) ⟨db, failsIn⟩) ↔
      (Misses failsIn 1 → EndsIn throws returns (k a ⟨db, after failsIn 1⟩)) ∧
        (¬ Misses failsIn 1 → throws db) :=
  Faults.endsIn_read_bind hg

theorem endsIn_readStep_bind_of_error {k : α → StepwiseService β} (hg : g db = .error e) :
    EndsIn throws returns ((readStep g >>= k) ⟨db, failsIn⟩) ↔ throws db :=
  Faults.endsIn_read_bind_of_error hg

theorem endsIn_readStep {returns : α → World Db → Prop} (hg : g db = .ok a) :
    EndsIn throws returns (readStep g ⟨db, failsIn⟩) ↔
      (Misses failsIn 1 → returns a ⟨db, after failsIn 1⟩) ∧ (¬ Misses failsIn 1 → throws db) :=
  Faults.endsIn_read hg

theorem endsIn_transactionSteps_bind {k : Unit → StepwiseService β}
    (hcommit : Transaction.commit DbWrite.apply mapDbError ss db = .ok db₁) :
    EndsIn throws returns ((transactionSteps ss >>= k) ⟨db, failsIn⟩) ↔
      (Misses failsIn (steps ss) → EndsIn throws returns (k () ⟨db₁, after failsIn (steps ss)⟩)) ∧
        (¬ Misses failsIn (steps ss) → throws db) :=
  Faults.endsIn_transaction_bind hcommit

end Rules

theorem endsIn_finish (hcommit : Transaction.commit DbWrite.apply mapDbError ss db₁ = .ok db₂)
    (hread : contractOf user contractId db₂ = .ok x) :
    EndsIn throws (fun _ _ => True) ((do
      transactionSteps ss
      readStep (contractOf user contractId) : StepwiseService Lease) ⟨db₁, failsIn⟩) ↔
    (¬ Misses failsIn (steps ss) → throws db₁) ∧
      (Misses failsIn (steps ss) → ¬ Misses (after failsIn (steps ss)) 1 → throws db₂) := by
  rw [endsIn_transactionSteps_bind hcommit, endsIn_readStep hread]
  simp only [implies_true, true_and]
  exact and_comm

theorem endsIn_moveOut_refused {β : Type} {returns : β → World Db → Prop}
    {k : Unit → StepwiseService β} {e : HttpException} (hdb : throws db)
    (hplan : moveOut env db user l.buildingId l.id (.at endAt) = .error e) :
    EndsIn throws returns
      ((moveOutSteps env user l.buildingId l.id (.at endAt) >>= k) ⟨db, failsIn⟩) := by
  unfold moveOutSteps
  rw [bind_assoc]
  exact (endsIn_readStep_bind_of_error hplan).mpr hdb

/-- A move-out that nothing refuses and what follows it: only a step lost after the
first commit leaves something behind. -/
theorem endsIn_moveOut_finish
    (hplan : moveOut env db user l.buildingId l.id (.at endAt) = .ok plan)
    (hcommit₁ : Transaction.commit DbWrite.apply mapDbError plan db = .ok db₁)
    (hcommit₂ : Transaction.commit DbWrite.apply mapDbError ss db₁ = .ok db₂)
    (hread : contractOf user contractId db₂ = .ok x) (hdb : throws db) (hdb₁ : ¬ throws db₁)
    (hdb₂ : ¬ throws db₂) :
    EndsIn throws (fun _ _ => True) ((do
      moveOutSteps env user l.buildingId l.id (.at endAt)
      transactionSteps ss
      readStep (contractOf user contractId) : StepwiseService Lease) ⟨db, failsIn⟩) ↔
    ∀ n ∈ failsIn, ¬ (1 + steps plan ≤ n ∧ n ≤ 1 + steps plan + steps ss) := by
  unfold moveOutSteps
  rw [bind_assoc]
  refine (endsIn_readStep_bind hplan).trans ?_
  rw [endsIn_transactionSteps_bind hcommit₁, endsIn_finish hcommit₂ hread]
  simp only [hdb, hdb₁, hdb₂, implies_true, and_true, imp_false, not_not]
  cases failsIn with
  | none => simp
  | some n =>
    simp only [Faults.misses_some, Faults.after_some, Option.mem_def, Option.some.injEq,
      forall_eq']
    omega

theorem not_range_succ (p q : ℕ) :
    (Misses failsIn 1 → ∀ n ∈ after failsIn 1, ¬ (1 + p ≤ n ∧ n ≤ 1 + p + q)) ↔
      ∀ n ∈ failsIn, ¬ (2 + p ≤ n ∧ n ≤ 2 + p + q) := by
  cases failsIn with
  | none => simp
  | some n =>
    simp only [Faults.misses_some, Faults.after_some, Option.mem_def, Option.some.injEq,
      forall_eq']
    omega

end Phases

section Kept

variable {user : Option AuthenticatedUser} {l : Lease} {occupancyId orgId contractId : Id}
  {endAt : Date}

def HasContract (orgId contractId : Id) (t : Table Lease.id) : Prop :=
  ∃ l ∈ t, l.id = contractId ∧ l.orgId = orgId

theorem HasContract.modify {t : Table Lease.id} {k : Id} {p : Patch Lease.id}
    (hp : ∀ l, (p.apply l).orgId = l.orgId) (h : HasContract orgId contractId t) :
    HasContract orgId contractId (t.modify k p) := by
  obtain ⟨l, hl, hid, horg⟩ := h
  by_cases hk : l.id = k
  · subst hk
    exact ⟨p.apply l, Table.apply_mem_modify hl, (p.key_apply l).trans hid, (hp l).trans horg⟩
  · exact ⟨l, Table.mem_modify_of_ne hl hk, hid, horg⟩

theorem MovesOut.hasContract (h : MovesOut env user l occupancyId endAt db db') :
    HasContract l.orgId l.id db'.books.leases := by
  obtain ⟨settlement, hbooks⟩ := h.books
  have hl : HasContract l.orgId l.id db.books.leases := ⟨l, h.mem, rfl, rfl⟩
  rw [hbooks]
  exact hl.modify fun _ => rfl

theorem Cancels.hasContract (h : Cancels env l db db')
    (hl : HasContract orgId contractId db.books.leases) :
    HasContract orgId contractId db'.books.leases := by
  rw [h.books]
  exact hl.modify fun _ => rfl

theorem Completes.hasContract {r : MoveRequest} (h : Completes env l r db db')
    (hl : HasContract orgId contractId db.books.leases) :
    HasContract orgId contractId db'.books.leases := by
  rw [h.books]
  show HasContract orgId contractId (if r.requestedMoveAt < l.leaseEndDate then _ else _)
  split_ifs
  · exact hl.modify fun _ => rfl
  · exact hl

theorem moveOut_commits {plan : Plan} (hl : l ∈ db.books.leases)
    (hplan : moveOut env db user l.buildingId l.id (.at endAt) = .ok plan) :
    ∃ db₁ occupancyId, Transaction.commit DbWrite.apply mapDbError plan db = .ok db₁ ∧
      MovesOut env user l occupancyId endAt db db₁ ∧
        db.activity.length < db₁.activity.length := by
  obtain ⟨x, hx, hid, -, -, -, occupancyId, date, settlement, -, -, -, rfl⟩ := moveOut_ok hplan
  obtain ⟨db₁, hcommit⟩ := @exists_commit_moveOut env db user mapDbError x occupancyId date
    settlement (.at endAt) hx
  obtain ⟨occupancyId', hout⟩ := moveOut_same hl hplan hcommit
  have hrecords : ∃ row, DbWrite.activity row ∈ Transaction.writes
      (moveOutStatements env user x occupancyId date settlement (.at endAt)) := by
    rw [moveOutStatements, Transaction.writes_append]
    exact ⟨_, List.mem_append_right _ (.tail _ (.tail _ (.tail _ (.tail _ (.head _)))))⟩
  exact ⟨db₁, occupancyId', hcommit, hout, commit_activity_lt hrecords hcommit⟩

theorem cancel_finishes (env : Env) (reason : Option String)
    (horg : assertOrgScope user = .ok l.orgId) (hl : HasContract l.orgId l.id db.books.leases) :
    ∃ db' x, Transaction.commit DbWrite.apply mapDbError
        (cancelContractStatements env user l reason) db = .ok db' ∧
      contractOf user l.id db' = .ok x := by
  have hexists : ∃ x ∈ db.books.leases, x.id = l.id := by
    obtain ⟨x, hx, hid, -⟩ := hl
    exact ⟨x, hx, hid⟩
  obtain ⟨db', hcommit⟩ := @exists_commit_cancel env db user mapDbError l reason hexists
  obtain ⟨x, hread⟩ := exists_contractOf horg ((commit_cancel hcommit).hasContract hl)
  exact ⟨db', x, hcommit, hread⟩

theorem complete_finishes {db₁ : Db} {r : MoveRequest} (horg : assertOrgScope user = .ok l.orgId)
    (hout : MovesOut env user l occupancyId endAt db db₁)
    (hr : r ∈ db.books.requests .MOVE_OUT) :
    ∃ db' x, Transaction.commit DbWrite.apply mapDbError
        (completeMoveOutStatements env user l r) db₁ = .ok db' ∧
      contractOf user l.id db' = .ok x := by
  have hrequest : r ∈ db₁.books.requests .MOVE_OUT := by
    obtain ⟨settlement, hbooks⟩ := hout.books
    rw [hbooks]
    exact hr
  obtain ⟨db', hcommit⟩ :=
    @exists_commit_complete env db₁ user mapDbError l r hout.exists_mem hrequest
  obtain ⟨x, hread⟩ :=
    exists_contractOf horg ((commit_complete hcommit).hasContract hout.hasContract)
  exact ⟨db', x, hcommit, hread⟩

end Kept

section Faultless

variable {user : Option AuthenticatedUser} {db₁ db₂ : Db} {ss : Plan}

def Agrees {α β : Type} (r : EStateM.Result HttpException (World Db) α)
    (r' : EStateM.Result HttpException Db β) : Prop :=
  returned r = returned r' ∧ (Transaction.final r).state = Transaction.final r'

theorem agrees_read_bind {α β γ : Type} {g : Db → Result α} {k : α → StepwiseService β}
    {k' : α → EStateM HttpException Db γ}
    (h : ∀ a, g db = .ok a → Agrees (k a ⟨db, none⟩) (k' a db)) :
    Agrees ((readStep g >>= k) ⟨db, none⟩) ((Transaction.read g >>= k') db) := by
  cases hg : g db with
  | error e =>
    have hsteps : (readStep g >>= k) ⟨db, none⟩ = .error e ⟨db, none⟩ := by
      simp [readStep, Faults.read, Faults.step, Faults.eval, bind, EStateM.bind, hg]
    rw [hsteps, Transaction.read_bind_of_error hg]
    exact ⟨rfl, rfl⟩
  | ok a =>
    have hsteps : (readStep g >>= k) ⟨db, none⟩ = k a ⟨db, none⟩ := by
      simp [readStep, Faults.read, Faults.step, Faults.eval, bind, EStateM.bind, hg]
    rw [hsteps, Transaction.read_bind_of_ok hg]
    exact h a hg

theorem transactionSteps_bind {β : Type} {k : Unit → StepwiseService β}
    (hcommit : Transaction.commit DbWrite.apply mapDbError ss db = .ok db₁) :
    (transactionSteps ss >>= k) ⟨db, none⟩ = k () ⟨db₁, none⟩ := by
  have hrun : transactionSteps ss ⟨db, none⟩ = .ok () ⟨db₁, none⟩ :=
    Faults.transaction_eq_ok.mpr ⟨Faults.misses_none _, hcommit, rfl⟩
  simp [bind, EStateM.bind, hrun]

theorem agrees_finish {contractId : Id} {x : Lease}
    (hcommit : Transaction.commit DbWrite.apply mapDbError ss db₁ = .ok db₂)
    (hread : contractOf user contractId db₂ = .ok x) :
    Agrees ((do
      transactionSteps ss
      readStep (contractOf user contractId) : StepwiseService Lease) ⟨db₁, none⟩)
      (transaction (fun _ => .ok ss) db₁) := by
  have hlast : readStep (contractOf user contractId) ⟨db₂, none⟩ = .ok x ⟨db₂, none⟩ := by
    simp [readStep, Faults.read, Faults.step, Faults.eval, bind, EStateM.bind, hread]
  have hcall : transaction (fun _ => .ok ss) db₁ = .ok () db₂ :=
    Transaction.transaction_of_commit rfl hcommit
  rw [transactionSteps_bind hcommit, hlast, hcall]
  exact ⟨rfl, rfl⟩

theorem agrees_moveOut_bind {β γ : Type} {l : Lease} {endAt : Date}
    {k : Unit → StepwiseService β} {k' : Unit → EStateM HttpException Db γ}
    (hl : l ∈ db.books.leases)
    (h : ∀ occupancyId db₁, MovesOut env user l occupancyId endAt db db₁ →
      Agrees (k () ⟨db₁, none⟩) (k' () db₁)) :
    Agrees ((moveOutSteps env user l.buildingId l.id (.at endAt) >>= k) ⟨db, none⟩)
      ((transaction (fun db => moveOut env db user l.buildingId l.id (.at endAt)) >>= k') db) := by
  unfold moveOutSteps
  rw [bind_assoc]
  cases hplan : moveOut env db user l.buildingId l.id (.at endAt) with
  | error e =>
    have hsteps : ((readStep fun db => moveOut env db user l.buildingId l.id (.at endAt)) >>=
        fun plan => transactionSteps plan >>= k) ⟨db, none⟩ = .error e ⟨db, none⟩ := by
      simp [readStep, Faults.read, Faults.step, Faults.eval, bind, EStateM.bind, hplan]
    rw [hsteps, transaction, Transaction.transaction_bind_of_refused (by rw [hplan]; rfl)]
    exact ⟨rfl, rfl⟩
  | ok plan =>
    obtain ⟨db₁, occupancyId, hcommit, hout, -⟩ := moveOut_commits hl hplan
    have hsteps : ((readStep fun db => moveOut env db user l.buildingId l.id (.at endAt)) >>=
        fun plan => transactionSteps plan >>= k) ⟨db, none⟩ = k () ⟨db₁, none⟩ := by
      refine Eq.trans ?_ (transactionSteps_bind hcommit)
      simp [readStep, Faults.read, Faults.step, Faults.eval, bind, EStateM.bind, hplan]
    rw [hsteps, transaction, Transaction.transaction_bind_of_commit hplan hcommit]
    exact h occupancyId db₁ hout

/-- On a database that loses nothing these are the calls of the system. -/
theorem terminate_faultless (env : Env) (t : Termination) (db : Db) :
    Agrees (terminate env t ⟨db, none⟩) (call env t.operation db) := by
  cases t with
  | cancelContract user contractId reason =>
    refine agrees_read_bind fun l hread => ?_
    obtain ⟨hl, rfl, horg, -⟩ := cancellableContract_ok hread
    by_cases hoccupied : l.status = .ACTIVE ∧ l.occupancyId.isSome
    · simp only [if_pos hoccupied]
      refine agrees_moveOut_bind hl fun occupancyId db₁ hout => ?_
      obtain ⟨db₂, x, hcommit, hread'⟩ := cancel_finishes env reason horg hout.hasContract
      exact agrees_finish hcommit hread'
    · simp only [if_neg hoccupied]
      obtain ⟨db₁, x, hcommit, hread'⟩ := cancel_finishes env reason horg ⟨l, hl, rfl, rfl⟩
      exact agrees_finish hcommit hread'
  | executeApprovedMoveOut user contractId =>
    refine agrees_read_bind ?_
    rintro ⟨l, r⟩ hread
    obtain ⟨hl, rfl, horg, hfound⟩ := approvedMoveOut_ok hread
    obtain ⟨hr, -, -, -⟩ := findApprovedRequest_some hfound
    refine agrees_moveOut_bind hl fun occupancyId db₁ hout => ?_
    obtain ⟨db₂, x, hcommit, hread'⟩ := complete_finishes horg hout hr
    exact agrees_finish hcommit hread'

end Faultless

section Claims

variable {user : Option AuthenticatedUser} {contractId : Id} {failsIn : Option ℕ}

theorem cancelContract_atomic_iff {reason : Option String} :
    Atomic env (.cancelContract user contractId reason) db failsIn ↔
      ∀ n ∈ failsIn, ¬ FailsAfterCommit env db n (.cancelContract user contractId reason) := by
  rw [atomic_iff_endsIn]
  have hsame : Undone env (.cancelContract user contractId reason) db db := .refl db
  cases hread : cancellableContract user contractId db with
  | error e =>
    refine (endsIn_readStep_bind_of_error hread).trans (iff_of_true hsame ?_)
    simp [FailsAfterCommit, hread]
  | ok l =>
    obtain ⟨hl, rfl, horg, -⟩ := cancellableContract_ok hread
    refine (endsIn_readStep_bind hread).trans ?_
    simp only [FailsAfterCommit, hread, Except.ok.injEq, exists_eq_left']
    by_cases hoccupied : l.status = .ACTIVE ∧ l.occupancyId.isSome
    · simp only [if_pos hoccupied]
      cases hplan : moveOut env db user l.buildingId l.id (.at env.now) with
      | error e =>
        refine iff_of_true ⟨fun _ => endsIn_moveOut_refused hsame hplan, fun _ => hsame⟩ ?_
        simp
      | ok plan =>
        obtain ⟨db₁, occupancyId, hcommit₁, hout, hlonger⟩ := moveOut_commits hl hplan
        obtain ⟨db₂, x, hcommit₂, hread'⟩ := cancel_finishes env reason horg hout.hasContract
        have hlonger₂ := lt_of_lt_of_le hlonger (commit_activity_grows hcommit₂).length_le
        rw [endsIn_moveOut_finish hplan hcommit₁ hcommit₂ hread' hsame (not_undone hlonger)
          (not_undone hlonger₂)]
        simp only [hsame, implies_true, and_true, Except.ok.injEq, exists_eq_left', not_range_succ]
    · simp only [if_neg hoccupied]
      obtain ⟨db₁, x, hcommit, hread'⟩ := cancel_finishes env reason horg ⟨l, hl, rfl, rfl⟩
      have hlonger : db.activity.length < db₁.activity.length :=
        commit_activity_lt ⟨_, .tail _ (.tail _ (.tail _ (.head _)))⟩ hcommit
      rw [endsIn_finish hcommit hread']
      simp only [hsame, not_undone hlonger, implies_true, true_and, and_true, imp_false, not_not]
      cases failsIn with
      | none => simp
      | some n =>
        simp only [Faults.misses_some, Faults.after_some, Option.mem_def, Option.some.injEq,
          forall_eq']
        omega

theorem executeApprovedMoveOut_atomic_iff :
    Atomic env (.executeApprovedMoveOut user contractId) db failsIn ↔
      ∀ n ∈ failsIn, ¬ FailsAfterCommit env db n (.executeApprovedMoveOut user contractId) := by
  rw [atomic_iff_endsIn]
  have hsame : Undone env (.executeApprovedMoveOut user contractId) db db := .refl db
  cases hread : approvedMoveOut env user contractId db with
  | error e =>
    refine (endsIn_readStep_bind_of_error hread).trans (iff_of_true hsame ?_)
    simp [FailsAfterCommit, hread]
  | ok lr =>
    obtain ⟨l, r⟩ := lr
    obtain ⟨hl, rfl, horg, hfound⟩ := approvedMoveOut_ok hread
    obtain ⟨hr, -, -, -⟩ := findApprovedRequest_some hfound
    refine (endsIn_readStep_bind hread).trans ?_
    simp only [FailsAfterCommit, hread, Except.ok.injEq, Prod.mk.injEq]
    cases hplan : moveOut env db user l.buildingId l.id (.at r.requestedMoveAt) with
    | error e =>
      refine iff_of_true ⟨fun _ => endsIn_moveOut_refused hsame hplan, fun _ => hsame⟩ ?_
      rintro n - ⟨l, r, ⟨rfl, rfl⟩, plan, hok, -⟩
      rw [hplan] at hok
      cases hok
    | ok plan =>
      obtain ⟨db₁, occupancyId, hcommit₁, hout, hlonger⟩ := moveOut_commits hl hplan
      obtain ⟨db₂, x, hcommit₂, hread'⟩ := complete_finishes horg hout hr
      have hlonger₂ := lt_of_lt_of_le hlonger (commit_activity_grows hcommit₂).length_le
      rw [endsIn_moveOut_finish hplan hcommit₁ hcommit₂ hread' hsame (not_undone hlonger)
        (not_undone hlonger₂), not_range_succ]
      simp only [hsame, implies_true, and_true]
      refine forall₂_congr fun n _ => not_congr ⟨fun h => ⟨l, r, ⟨rfl, rfl⟩, plan, hplan, h⟩, ?_⟩
      rintro ⟨l, r, ⟨rfl, rfl⟩, plan', hok, h⟩
      obtain rfl := Except.ok.inj (hplan.symm.trans hok)
      exact h

/-- A call that throws has done nothing exactly when the step it lost is not one that
follows its first commit. -/
theorem termination_atomic_iff (env : Env) (t : Termination) (db : Db) (failsIn : Option ℕ) :
    Atomic env t db failsIn ↔ ∀ n ∈ failsIn, ¬ FailsAfterCommit env db n t := by
  cases t with
  | cancelContract user contractId reason => exact cancelContract_atomic_iff
  | executeApprovedMoveOut user contractId => exact executeApprovedMoveOut_atomic_iff

/-- The move-out of an approved request loses the begin of its second transaction. -/
theorem lease_ended_by_failed_move_out :
    ¬ ∀ (env : Env) (t : Termination) (db : Db) (failsIn : Option ℕ), Atomic env t db failsIn := by
  intro h
  let db := Run.exec next (Db.start sceneDirectory) (occupiedContract ++
    [residentAsksOut 6 "leaving" "contract" "ann", managerApprovesOut 7 "leaving"])
  let env := (managerMovesOut 8 "contract").1
  have hundone := h env (.executeApprovedMoveOut manager "contract") db (some 11) (by decide +kernel)
  have hactivity := congrArg List.length hundone.untouched.activity
  revert hactivity
  decide +kernel

end Claims

end Atomicity

end Towerdesk.Leases
