import Towerdesk.Lib.Ledger
import Towerdesk.Maintenance.Scene

/-!
# The owner-approval audit trail

Every operation that asks the owner or decides leaves rows that record the change;
an estimate asked for, or one that turns out to need no approval, takes the status
back to NOT_REQUIRED and leaves none. The rows of a request therefore form a ledger
of its approval status with silent resets.
-/

namespace Towerdesk.Maintenance

variable {env : Env} {db db' : Db} {op : Operation} {r r' : MaintenanceRequest} {u : RowUpdate}
  {l : Env × Operation} {ls : List (Env × Operation)}

/-- The operations that may take the approval status back without a row. -/
def Operation.ResetsApproval : Operation → Prop
  | .requestEstimateFromProvider .. | .submitRequestEstimate ..
  | .submitProviderRequestEstimate .. => True
  | _ => False

section Changes

def AuditData.Records (a b : OwnerApprovalStatus) (ds : List AuditData) : Prop :=
  Ledger.Records AuditData.fromStatus AuditData.toStatus a b ds

theorem records_required {s : OwnerApprovalStatus} {ds : List AuditData} {userId : Id}
    {reason : String} (hds : ∀ d ∈ ds, d.fromStatus = .PENDING ∧ d.toStatus = .PENDING) :
    AuditData.Records s .PENDING (requiredAudit userId s reason ++ ds) := by
  by_cases hs : s = .PENDING
  · subst hs
    cases ds with
    | nil => exact rfl
    | cons d ds =>
      obtain ⟨hfrom, hto⟩ := hds d List.mem_cons_self
      exact ⟨hfrom, hto, fun e he => hds e (List.mem_cons_of_mem d he)⟩
  · rw [requiredAudit, if_neg hs]
    exact ⟨rfl, rfl, hds⟩

theorem records_estimateAudits {actorUserId : Id} {dto : SubmitRequestEstimateDto} :
    AuditData.Records r.ownerApprovalStatus .PENDING (estimateAudits r actorUserId dto) := by
  refine records_required fun d hd => ?_
  split_ifs at hd
  · cases hd
  · rw [List.mem_singleton.mp hd]
    exact ⟨rfl, rfl⟩

theorem Change.records (h : Change env r op u) :
    AuditData.Records r.ownerApprovalStatus
        ((touched u.data env.now).apply r).ownerApprovalStatus u.audits ∨
      (op.ResetsApproval ∧ u.audits = [] ∧
        ((touched u.data env.now).apply r).ownerApprovalStatus = .NOT_REQUIRED) := by
  cases h with
  | requestEstimateFromProvider _ _ _ => exact .inr ⟨trivial, rfl, rfl⟩
  | submitRequestEstimateSettled _ => exact .inr ⟨trivial, rfl, rfl⟩
  | submitProviderRequestEstimateSettled _ => exact .inr ⟨trivial, rfl, rfl⟩
  | submitRequestEstimatePending _ => exact .inl records_estimateAudits
  | submitProviderRequestEstimatePending _ => exact .inl records_estimateAudits
  | requireOwnerApproval _ => exact .inl ⟨rfl, rfl, by simp⟩
  | requestOwnerApprovalNow _ => exact .inl (records_required (by simp [requestedAudit]))
  | requestOwnerApproval hpending => exact .inl ⟨hpending.symm, hpending.symm, by simp⟩
  | resendOwnerApprovalRequest hpending => exact .inl ⟨hpending.symm, hpending.symm, by simp⟩
  | overrideOwnerApproval hpending => exact .inl ⟨hpending.symm, rfl, by simp⟩
  | approveAccessibleRequest hpending => exact .inl ⟨hpending.symm, rfl, by simp⟩
  | rejectAccessibleRequest hpending => exact .inl ⟨hpending.symm, rfl, by simp⟩
  | _ => exact .inl rfl

end Changes

section Trail

/-- The rows of a request account for its approval status. -/
def AuditsAccount (resets : Prop) (db : Db) (r : MaintenanceRequest) : Prop :=
  Ledger.Accounts OwnerApprovalAudit.fromStatus (fun a => some a.toStatus) resets
    (some .NOT_REQUIRED) (db.auditsOf r.id) (some r.ownerApprovalStatus)

structure Audited (resets : Prop) (db : Db) : Prop where
  no_orphans : ∀ a ∈ db.ownerApprovalAudits, ∃ r ∈ db.maintenanceRequests, r.id = a.requestId
  accounts : ∀ r ∈ db.maintenanceRequests, AuditsAccount resets db r

theorem audited_empty (resets : Prop) : Audited resets .empty :=
  ⟨fun _ ha => absurd ha List.not_mem_nil, fun _ hr => absurd hr (Table.not_mem_empty _)⟩

theorem auditsOf_eq_nil {id : Id} (h : ∀ a ∈ db.ownerApprovalAudits, a.requestId ≠ id) :
    db.auditsOf id = [] :=
  List.filter_eq_nil_iff.mpr fun a ha => by simpa using h a ha

theorem RowStep.records {as : List OwnerApprovalAudit} (h : RowStep env op r r' as) :
    Ledger.Records OwnerApprovalAudit.fromStatus (fun a => some a.toStatus)
        (some r.ownerApprovalStatus) (some r'.ownerApprovalStatus) as ∨
      (op.ResetsApproval ∧ as = [] ∧ r'.ownerApprovalStatus = .NOT_REQUIRED) := by
  cases h with
  | unchanged => exact .inl rfl
  | changed _ hchange =>
    rcases hchange.records with hrecords | ⟨hop, has, hreset⟩
    · exact .inl (hrecords.map (fun _ => rfl) fun _ => rfl)
    · exact .inr ⟨hop, by rw [has]; rfl, hreset⟩
  | reminded _ =>
    refine .inl ?_
    simp only [reminderSent]
    split_ifs <;> exact rfl

def NeverResets (l : Env × Operation) (db : Db) : Prop :=
  ∀ r ∈ db.maintenanceRequests, ∀ r' ∈ (next l db).maintenanceRequests, r'.id = r.id →
    r'.ownerApprovalStatus = .NOT_REQUIRED → r.ownerApprovalStatus = .NOT_REQUIRED

theorem audited_next {resets : Prop} (h : Audited resets db) (hl : resets ∨ NeverResets l db) :
    Audited resets (next l db) := by
  rcases Outcome.orElseKeep_cases db (step l.1 l.2 db) with hkeep | hstep
  · rw [next, hkeep]
    exact h
  refine ⟨fun a ha => ?_, fun r' hr' => ?_⟩
  · rcases step_audit hstep ha with ha | hex
    · obtain ⟨r, hr, hid⟩ := h.no_orphans a ha
      obtain ⟨r', hr', hid'⟩ := step_keeps hstep hr
      exact ⟨r', hr', hid'.trans hid⟩
    · exact hex
  · rcases step_row hstep hr' with ⟨_, _, _, _, _, rfl, hfresh, haudits⟩ | ⟨r, hr, as, hrow, haudits⟩
    · unfold AuditsAccount
      rw [next, haudits, auditsOf_eq_nil fun a ha heq => ?_]
      · exact Ledger.accounts_nil
      · obtain ⟨r, hr, hid⟩ := h.no_orphans a ha
        exact hfresh r hr (hid.trans heq)
    · have hacc := h.accounts r hr
      unfold AuditsAccount at hacc ⊢
      rw [hrow.id_eq, next, haudits]
      rcases hrow.records with hrecords | ⟨-, rfl, hreset⟩
      · exact hacc.append hrecords
      · rw [List.append_nil, hreset]
        rcases hl with hl | hl
        · exact hacc.reset hl
        · rwa [hl r hr r' hr' hrow.id_eq hreset] at hacc

theorem audited_run (ls : List (Env × Operation)) : Audited True (run .empty ls) :=
  Run.exec_inv (fun _ _ hs => audited_next hs (.inl trivial)) ls (audited_empty True)

/-- The rows of every request link up to its approval status, with silent resets; every
change but a reset is recorded by a row of its own; without resets the rows explain the
status completely. -/
theorem approval_audit_trail (ls : List (Env × Operation)) :
    (∀ r ∈ (run .empty ls).maintenanceRequests, AuditsAccount True (run .empty ls) r) ∧
    (∀ l, ∀ r ∈ (run .empty ls).maintenanceRequests,
      ∀ r' ∈ (run .empty (ls ++ [l])).maintenanceRequests, r'.id = r.id →
      r'.ownerApprovalStatus ≠ r.ownerApprovalStatus →
      ∃ as, (run .empty (ls ++ [l])).auditsOf r.id = (run .empty ls).auditsOf r.id ++ as ∧
        ((∃ a ∈ as, a.fromStatus = some r.ownerApprovalStatus ∧
            a.toStatus = r'.ownerApprovalStatus) ∨
          (l.2.ResetsApproval ∧ as = [] ∧ r'.ownerApprovalStatus = .NOT_REQUIRED))) ∧
    (Run.Along next NeverResets .empty ls →
      ∀ r ∈ (run .empty ls).maintenanceRequests, AuditsAccount False (run .empty ls) r) := by
  refine ⟨(audited_run ls).accounts, fun l r hr r' hr' hid hne => ?_, fun hl => ?_⟩
  · have hrun : run .empty (ls ++ [l]) = next l (run .empty ls) := Run.exec_append _ _ _ _
    rw [hrun] at hr' ⊢
    obtain ⟨r₂, hr₂, as, hrow, haudits, -⟩ := next_row l hr
    obtain rfl := Table.eq_of_key_eq hr₂ hr' (hrow.id_eq.trans hid.symm)
    refine ⟨as, haudits, ?_⟩
    rcases hrow.records with hrecords | hreset
    · obtain ⟨a, ha, hfrom, hto⟩ := hrecords.exists_of_ne fun heq => hne (Option.some.inj heq).symm
      exact .inl ⟨a, ha, hfrom, Option.some.inj hto⟩
    · exact .inr hreset
  · exact (Run.exec_inv_along (I := Audited False) (fun _ _ hs hl => audited_next hs (.inr hl))
      (audited_empty False) hl).accounts

/-- An estimate asked for after a rejection takes the status back, and the rows still
end at the rejection. -/
theorem rejected_then_estimate_not_audited :
    let db := run .empty [residentCreates 0 "Tap", managerRequires 1, landlordRejects 2,
      managerRequestsEstimate 3]
    ∃ r ∈ db.maintenanceRequests, r.ownerApprovalStatus = .NOT_REQUIRED ∧
      (db.auditsOf r.id).map (fun a => (a.fromStatus, a.toStatus)) =
        [(some .NOT_REQUIRED, .PENDING), (some .PENDING, .REJECTED)] ∧
      ¬ AuditsAccount False db r := by
  intro db
  have hrows : ∃ r ∈ db.maintenanceRequests, r.ownerApprovalStatus = .NOT_REQUIRED ∧
      (db.auditsOf r.id).map (fun a => (a.fromStatus, a.toStatus)) =
        [(some .NOT_REQUIRED, .PENDING), (some .PENDING, .REJECTED)] := by decide +kernel
  obtain ⟨r, hr, hstatus, haudits⟩ := hrows
  refine ⟨r, hr, hstatus, haudits, fun h => ?_⟩
  have hlast : ((db.auditsOf r.id).map (fun a => (a.fromStatus, a.toStatus))).getLast? =
      some (some .PENDING, .REJECTED) := by rw [haudits]; rfl
  rw [List.getLast?_map] at hlast
  obtain ⟨a, ha, heq⟩ := Option.map_eq_some_iff.mp hlast
  rcases h.current with hcurrent | ⟨hfalse, -⟩
  · simp [ha, hstatus, (Prod.mk.inj heq).2] at hcurrent
  · exact hfalse

end Trail

end Towerdesk.Maintenance
