import Towerdesk.Maintenance.Scene

/-!
# Several deciders

Co-owners and a manager decide on one pending request at the same time. Each finds it
pending at its read step and writes by identifier alone, so the decisions that read
before the first one is committed all go through. There is one decision exactly in the
schedules that never let such a late write happen.
-/

namespace Towerdesk.Maintenance

open ReadWrite

def OwnerApprovalAuditAction.IsDecision (a : OwnerApprovalAuditAction) : Prop :=
  a = .APPROVED ∨ a = .REJECTED ∨ a = .OVERRIDDEN

def Operation.Decides : Operation → Prop
  | .approveAccessibleRequest .. | .rejectAccessibleRequest .. | .overrideOwnerApproval .. => True
  | _ => False

structure Decider (requestId : Id) where
  call : Call
  decides : call.operation.Decides
  named : call.operation.requestId = some requestId

def deciders {requestId : Id} : Machine (Decider requestId) Write Db HttpException :=
  machine.comap Decider.call

/-- A decision as planned: one audit row, and no longer pending wherever it is applied. -/
inductive DecisionWrite (requestId : Id) : Write → Prop
  | mk {u : RowUpdate} {d : AuditData} (hid : u.requestId = requestId) (haudits : u.audits = [d])
      (haction : d.action.IsDecision)
      (hdata : ∀ now r, ((touched u.data now).apply r).ownerApprovalStatus ≠ .PENDING) :
      DecisionWrite requestId (.update u)

section Plans

variable {env : Env} {db db' : Db} {op : Operation} {r : MaintenanceRequest} {u : RowUpdate}
  {requestId : Id} {w : Write}

theorem Change.decisionWrite (h : Change env r op u) (hop : op.Decides) :
    r.ownerApprovalStatus = .PENDING ∧ DecisionWrite r.id (.update u) := by
  cases h with
  | approveAccessibleRequest hpending =>
    exact ⟨hpending, .mk rfl rfl (.inl rfl) fun _ _ => OwnerApprovalStatus.noConfusion⟩
  | rejectAccessibleRequest hpending =>
    exact ⟨hpending, .mk rfl rfl (.inr (.inl rfl)) fun _ _ => OwnerApprovalStatus.noConfusion⟩
  | overrideOwnerApproval hpending =>
    exact ⟨hpending, .mk rfl rfl (.inr (.inr rfl)) fun _ _ => OwnerApprovalStatus.noConfusion⟩
  | _ => exact hop.elim

theorem plan_decision (h : plan env db op = .ok w) (hop : op.Decides)
    (hnamed : op.requestId = some requestId) :
    ∃ r ∈ db.maintenanceRequests, r.id = requestId ∧ r.ownerApprovalStatus = .PENDING ∧
      DecisionWrite requestId w := by
  have hleaves : ¬ op.LeavesRequest := by cases op <;> first | exact hop.elim | exact id
  obtain ⟨r, hr, hid, u, rfl, hchange⟩ := plan_change h (hnamed ▸ Option.some_ne_none _) hleaves
  obtain rfl := Option.some.inj (hid.symm.trans hnamed)
  obtain ⟨hpending, hw⟩ := hchange.decisionWrite hop
  exact ⟨r, hr, rfl, hpending, hw⟩

end Plans

section Schedules

variable {π : Type*} [DecidableEq π] {db : Db} {requestId : Id}

/-- What holds in every schedule: a logged decision has been applied and audited, and
plans were all made before the first of them. -/
structure Deciding (db : Db) (requestId : Id) (c : Config π Write Db) : Prop where
  row : ∃ r ∈ c.cell.maintenanceRequests, r.id = requestId
  decided : c.log ≠ [] → ∀ r ∈ c.cell.maintenanceRequests, r.id = requestId →
    r.ownerApprovalStatus ≠ .PENDING
  audits : ∃ as, c.cell.auditsOf requestId = db.auditsOf requestId ++ as ∧
    as.length = c.log.length ∧ ∀ a ∈ as, a.action.IsDecision
  planned : ∀ p w n, c.phase p = .planned w n → n = 0 ∧ DecisionWrite requestId w

omit [DecidableEq π] in
theorem deciding_start (h : ∃ r ∈ db.maintenanceRequests, r.id = requestId) :
    Deciding db requestId (Config.start db : Config π Write Db) where
  row := h
  decided h := absurd rfl h
  audits := ⟨[], (List.append_nil _).symm, rfl, fun _ ha => absurd ha List.not_mem_nil⟩
  planned p w n h := by simp [Config.start] at h

theorem Deciding.update {c : Config π Write Db} (h : Deciding db requestId c) {p : π}
    {x : Phase Write} (hx : ∀ w n, x = .planned w n → n = 0 ∧ DecisionWrite requestId w) :
    Deciding db requestId { c with phase := Function.update c.phase p x } := by
  refine ⟨h.row, h.decided, h.audits, fun q w n hq => ?_⟩
  by_cases hqp : q = p
  · subst hqp
    exact hx w n (by simpa using hq)
  · exact h.planned q w n (by simpa [hqp] using hq)

omit [DecidableEq π] in
theorem Deciding.commit {c : Config π Write Db} (h : Deciding db requestId c) (env : Env)
    {w : Write} (hw : DecisionWrite requestId w) : ∃ s, commit env w c.cell = .ok s := by
  cases hw with
  | @mk u d hid _ _ _ =>
    obtain ⟨r, hr, hrid⟩ := h.row
    exact ⟨_, commit_update.mpr ⟨r, hr, hrid.trans hid.symm, rfl⟩⟩

theorem Deciding.write {c : Config π Write Db} (h : Deciding db requestId c) {env : Env} {p : π}
    {w : Write} {s : Db} (hw : DecisionWrite requestId w)
    (hcommit : Maintenance.commit env w c.cell = .ok s) :
    Deciding db requestId
      ⟨s, c.log ++ [(p, w)], Function.update c.phase p .succeeded⟩ := by
  cases hw with
  | @mk u d hid haudits haction hdata =>
    obtain ⟨r, hr, hrid, rfl⟩ := commit_update.mp hcommit
    have hr' : r.id = requestId := hrid.trans hid
    have hupdated : ((touched u.data env.now).apply r).id = requestId :=
      ((touched u.data env.now).key_apply r).trans hr'
    refine ⟨⟨_, ?_, hupdated⟩, fun _ r₂ hr₂ hid₂ => ?_, ?_, fun q w n hq => ?_⟩
    · exact Table.mem_modify.mpr (.inl ⟨r, hr, hrid, rfl⟩)
    · rcases Table.mem_modify.mp hr₂ with ⟨r₀, _, _, rfl⟩ | ⟨_, hne⟩
      · exact hdata _ _
      · exact absurd (hid₂.trans hid.symm) hne
    · obtain ⟨as, has, hlen, hdecisions⟩ := h.audits
      refine ⟨as ++ [d.toRow env.now ((touched u.data env.now).apply r)], ?_, ?_, fun a ha => ?_⟩
      · rw [auditsOf_applyUpdate, if_pos hupdated, haudits, has, List.append_assoc]
        rfl
      · simp [hlen]
      · rcases List.mem_append.mp ha with ha | ha
        · exact hdecisions a ha
        · rw [List.mem_singleton.mp ha]
          exact haction
    · by_cases hqp : q = p
      · subst hqp
        simp at hq
      · exact h.planned q w n (by simpa [hqp] using hq)

variable {op : π → Decider requestId}

theorem deciding_next (m : Move π) {c : Config π Write Db} (h : Deciding db requestId c) :
    Deciding db requestId (ReadWrite.next deciders op m c) := by
  cases m with
  | read p =>
    rcases readStep_cases deciders op p c with hc | ⟨w, -, hplan, hc⟩ | ⟨-, hc⟩
    · rwa [ReadWrite.next, hc]
    · rw [ReadWrite.next, hc]
      refine h.update fun w' n hwn => ?_
      obtain ⟨rfl, rfl⟩ := Phase.planned.inj hwn
      obtain ⟨r, hr, hid, hpending, hw⟩ := plan_decision hplan (op p).decides (op p).named
      refine ⟨?_, hw⟩
      by_contra hlog
      exact h.decided (fun hnil => hlog (by rw [hnil]; rfl)) r hr hid hpending
    · rw [ReadWrite.next, hc]
      exact h.update fun _ _ hwn => by cases hwn
  | write p =>
    rcases writeStep_cases deciders op p c with
      hc | ⟨w, n, s, hp, hcommit, hc⟩ | ⟨w, n, e, -, -, hc⟩
    · rwa [ReadWrite.next, hc]
    · rw [ReadWrite.next, hc]
      exact h.write (h.planned p w n hp).2 hcommit
    · rw [ReadWrite.next, hc]
      exact h.update fun _ _ hwn => by cases hwn

/-- At most one decider has succeeded, and the request has gained that decision's audit
row and no other. -/
structure OneDecision (db : Db) (requestId : Id) (c : Config π Write Db) : Prop where
  at_most_one : ∀ p q, c.phase p = .succeeded → c.phase q = .succeeded → p = q
  audited : ∃ as, c.cell.auditsOf requestId = db.auditsOf requestId ++ as ∧
    (∀ a ∈ as, a.action.IsDecision) ∧ as.length ≤ 1 ∧
    ((∃ p, c.phase p = .succeeded) ↔ as.length = 1)

omit [DecidableEq π] in
theorem oneDecision_iff {c : Config π Write Db} (hlogged : Logged c)
    (h : Deciding db requestId c) : OneDecision db requestId c ↔ c.log.length ≤ 1 := by
  refine ⟨fun hone => hlogged.subsingleton_iff.mp hone.at_most_one, fun hlen => ?_⟩
  refine ⟨hlogged.subsingleton_iff.mpr hlen, ?_⟩
  obtain ⟨as, has, haslen, hdecisions⟩ := h.audits
  refine ⟨as, has, hdecisions, haslen ▸ hlen, ?_⟩
  rw [hlogged.exists_succeeded_iff, haslen]
  omega

/-- At a write step, no decision has been committed since the decider read. -/
def FreshWrite (op : π → Decider requestId) : Move π → Config π Write Db → Prop :=
  AtWrite op fun _ _ missed _ => missed = []

instance (op : π → Decider requestId) (m : Move π) (c : Config π Write Db) :
    Decidable (FreshWrite op m c) :=
  decidableAtWrite _ _ m c

theorem log_le_one_of_fresh {m : Move π} {c : Config π Write Db} (h : Deciding db requestId c)
    (hlen : c.log.length ≤ 1) (hm : FreshWrite op m c) :
    (ReadWrite.next deciders op m c).log.length ≤ 1 := by
  cases m with
  | read p =>
    rcases readStep_cases deciders op p c with hc | ⟨w, -, -, hc⟩ | ⟨-, hc⟩ <;>
      rw [ReadWrite.next, hc] <;> exact hlen
  | write p =>
    rcases writeStep_cases deciders op p c with
      hc | ⟨w, n, s, hp, -, hc⟩ | ⟨w, n, e, -, -, hc⟩
    · rwa [ReadWrite.next, hc]
    · obtain ⟨rfl, -⟩ := h.planned p w n hp
      have hnil : c.log = [] := hm w 0 hp
      rw [ReadWrite.next, hc, hnil]
      exact Nat.le_refl 1
    · rwa [ReadWrite.next, hc]

theorem two_le_log_of_stale {p : π} {c : Config π Write Db} (h : Deciding db requestId c)
    (hp : ¬ FreshWrite op (.write p) c) (ms : List (Move π)) :
    2 ≤ (Run.exec (ReadWrite.next deciders op) c (.write p :: ms)).log.length := by
  simp only [FreshWrite, AtWrite, not_forall] at hp
  obtain ⟨w, n, hp, hmissed⟩ := hp
  obtain ⟨rfl, hw⟩ := h.planned p w n hp
  obtain ⟨s, hs⟩ := h.commit (op p).call.writeEnv hw
  have hlog : 0 < c.log.length := List.length_pos_of_ne_nil hmissed
  have hmono := log_le_exec deciders op (ReadWrite.next deciders op (.write p) c) ms
  have hnext : ReadWrite.next deciders op (.write p) c = ⟨s, c.log ++ [(p, w)],
    Function.update c.phase p .succeeded⟩ :=
    writeStep_of_commit deciders op hp hs
  rw [hnext, List.length_append, List.length_singleton] at hmono
  rw [Run.exec_cons, hnext]
  omega

/-- Exactly one decision takes effect in the schedules in which no decider writes over a
decision committed since it read, and in no others. -/
theorem one_decision_iff (db : Db) (requestId : Id)
    (hr : ∃ r ∈ db.maintenanceRequests, r.id = requestId) (op : π → Decider requestId)
    (ms : List (Move π)) :
    OneDecision db requestId (Run.exec (ReadWrite.next deciders op) (.start db) ms) ↔
      Run.Along (ReadWrite.next deciders op) (FreshWrite op) (.start db) ms := by
  have hdeciding : ∀ ms, Deciding db requestId
      (Run.exec (ReadWrite.next deciders op) (.start db) ms) := fun ms =>
    Run.exec_inv (fun m _ h => deciding_next m h) ms (deciding_start hr)
  rw [oneDecision_iff (logged_exec db ms) (hdeciding ms)]
  constructor
  · intro hlen
    refine Run.along_of_split fun ms₁ m ms₂ hms => ?_
    cases m with
    | read p => exact trivial
    | write p =>
      by_contra hstale
      have htwo := two_le_log_of_stale (hdeciding ms₁) hstale ms₂
      rw [hms, Run.exec_append] at hlen
      omega
  · intro hfresh
    refine (Run.exec_inv_along (I := fun c => Deciding db requestId c ∧ c.log.length ≤ 1)
      (fun m c h hm => ⟨deciding_next m h.1, ?_⟩) ⟨deciding_start hr, Nat.zero_le _⟩ hfresh).2
    exact log_le_one_of_fresh h.1 h.2 hm

end Schedules

section TwoDeciders

def sceneDecider (now : Date) (op : Operation) (hop : op.Decides)
    (hnamed : op.requestId = some "request") : Decider "request" :=
  ⟨⟨sceneEnv "org" "building" now, op, sceneEnv "org" "building" now⟩, hop, hnamed⟩

def landlordOrManager : Bool → Decider "request"
  | true => sceneDecider 2 (.rejectAccessibleRequest "landlord" "request" "No") trivial rfl
  | false => sceneDecider 2 (.overrideOwnerApproval (manager "org") "building" "request"
      ⟨.EMERGENCY_OVERRIDE, "Emergency"⟩) trivial rfl

def pendingDb : Db := run .empty [residentCreates 0 "Tap", managerRequires 1]

theorem pendingDb_row : ∃ r ∈ pendingDb.maintenanceRequests, r.id = "request" := by decide +kernel

theorem one_decision_in_turn :
    OneDecision pendingDb "request"
      (Run.exec (ReadWrite.next deciders landlordOrManager) (.start pendingDb)
        [.read true, .write true, .read false, .write false]) :=
  (one_decision_iff pendingDb "request" pendingDb_row landlordOrManager _).mpr (by decide +kernel)

/-- Both read before either writes, and both decisions are recorded. -/
theorem two_decisions :
    ¬ OneDecision pendingDb "request"
      (Run.exec (ReadWrite.next deciders landlordOrManager) (.start pendingDb)
        [.read true, .read false, .write true, .write false]) := by
  intro h
  have hlen : (Run.exec (ReadWrite.next deciders landlordOrManager)
      (.start pendingDb) [.read true, .read false, .write true, .write false]).log.length = 2 := by
    decide +kernel
  have hone := (logged_exec pendingDb _).subsingleton_iff.mp h.at_most_one
  omega

end TwoDeciders

end Towerdesk.Maintenance
