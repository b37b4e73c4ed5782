import Towerdesk.Leases.Scene

/-!
# The Ejari lock

The legal fields of an active contract with an Ejari id are locked, by a guard in the
contract endpoint. The lease endpoint edits six of them without it, and the guard takes
an empty id for none. No other operation touches a legal field.
-/

namespace Towerdesk.Leases

structure LegalFields extends ContractSnapshot where
  leaseStartDate : Date
  leaseEndDate : Date
  annualRent : ℚ
  paymentFrequency : PaymentFrequency
  numberOfCheques : Option ℤ
  securityDepositAmount : ℚ
deriving DecidableEq

def legalFields (l : Lease) : LegalFields where
  toContractSnapshot := l.toContractSnapshot
  leaseStartDate := l.leaseStartDate
  leaseEndDate := l.leaseEndDate
  annualRent := l.annualRent
  paymentFrequency := l.paymentFrequency
  numberOfCheques := l.numberOfCheques
  securityDepositAmount := l.securityDepositAmount

def sendsLegalTerm (dto : UpdateLeaseDto) : Bool :=
  dto.leaseStartDate.isSome || dto.leaseEndDate.isSome || dto.annualRent.isSome ||
    dto.paymentFrequency.isSome || !dto.numberOfCheques.isUndefined ||
    dto.securityDepositAmount.isSome

def Operation.changesLegal (leaseId : Id) : Operation → Bool
  | .updateContract _ contractId dto => contractId = leaseId && sendsLegalField dto
  | .updateLease _ id dto => id = leaseId && sendsLegalTerm dto
  | _ => false

/-- The legal fields of the lease stay, and a request to change one is rejected. -/
structure EjariLocked (env : Env) (op : Operation) (db : Db) (l : Lease) : Prop where
  unchanged : ∃ x ∈ (next (env, op) db).leases.table, x.id = l.id ∧ legalFields x = legalFields l
  rejected : op.changesLegal l.id → ¬ Succeeds env op db

/-- No other contract of the organisation has the Ejari id the edit leaves. -/
def IjariFree (env : Env) (db : Db) (l : Lease) (data : ContractData) : Prop :=
  ∀ x ∈ db.leases.table, x.id ≠ l.id →
    leaseIjari ((leaseEdited env.now data).apply l) = none ∨
      leaseIjari x ≠ leaseIjari ((leaseEdited env.now data).apply l)

/-- An edit of a legal field that no check turns away: through the lease endpoint, or
through the contract endpoint when the Ejari id is the empty string. -/
def EditsUnlocked (env : Env) (db : Db) (l : Lease) : Operation → Prop
  | .updateContract user contractId dto => contractId = l.id ∧ l.ijariId = some "" ∧
    sendsLegalField dto ∧ ∃ data, ContractEditable env user dto l data ∧ IjariFree env db l data
  | .updateLease user leaseId dto => leaseId = l.id ∧ sendsLegalTerm dto ∧
    ∃ data columns, LeaseEditable env user dto l data ∧ data.columns = .ok columns
  | _ => False

section Edits

variable {env : Env} {user : Option AuthenticatedUser} {l : Lease}

theorem isUndefined_iff {α : Type} {f : Field α} : f.isUndefined = true ↔ f = .undefined := by
  cases f <;> simp [Field.isUndefined]

theorem legalFields_leaseEdited {dto : UpdateContractDto} {data : ContractData}
    (h : contractData env dto = .ok data) (hsends : sendsLegalField dto = false) :
    legalFields ((leaseEdited env.now data).apply l) = legalFields l := by
  simp only [sendsLegalField, Bool.not_eq_false', Bool.and_eq_true, isUndefined_iff] at hsends
  simp only [contractData, hsends, dateSent, requiredSent, nullableSent, sent, Field.isUndefined,
    if_true, Outcome.bind_eq_ok, Outcome.pure_eq_ok, Except.ok.injEq, exists_eq_left'] at h
  subst h
  rfl

theorem legalFields_leaseUpdated {dto : UpdateLeaseDto} {data : LeaseUpdate JsDate ℚ}
    {columns : LeaseUpdate Date ℤ} (h : buildUpdateData env dto = .ok data)
    (hcolumns : data.columns = .ok columns) (hsends : sendsLegalTerm dto = false) :
    legalFields ((leaseUpdated env.now columns).apply l) = legalFields l := by
  simp only [sendsLegalTerm, Bool.or_eq_false_iff, Option.isSome_eq_false_iff,
    Option.isNone_iff_eq_none, Bool.not_eq_false', isUndefined_iff] at hsends
  simp only [buildUpdateData, hsends, sent, Outcome.bind_eq_ok, Outcome.pure_eq_ok,
    Option.mapM_none, exists_eq_left'] at h
  obtain ⟨first, -, deposit, -, rfl⟩ := h
  simp only [LeaseUpdate.columns, Outcome.bind_eq_ok, Outcome.pure_eq_ok, Option.mapM_none,
    exists_eq_left'] at hcolumns
  obtain ⟨-, -, -, -, -, -, -, -, rfl⟩ := hcolumns
  rfl

end Edits

section Accepted

variable {env : Env} {db db' : Db} {user : Option AuthenticatedUser} {l : Lease}

theorem updateLease_succeeds {dto : UpdateLeaseDto} {data : LeaseUpdate JsDate ℚ}
    {columns : LeaseUpdate Date ℤ} (hl : l ∈ db.books.leases)
    (h : LeaseEditable env user dto l data) (hcolumns : data.columns = .ok columns) :
    Succeeds env (.updateLease user l.id dto) db := by
  have hfind : (db.leases.table.findFirst fun x => x.id = l.id ∧ x.orgId = l.orgId) = some l :=
    Table.findFirst_eq_some hl (by simp) fun x hx => (of_decide_eq_true hx).1
  have hread : leaseToUpdate env user l.id dto db = .ok (l, data) := by
    simp only [leaseToUpdate, checkedUpdate, Outcome.bind_eq_ok, Outcome.pure_eq_ok,
      Outcome.throwIf_eq_ok, Outcome.orThrow_eq_ok]
    exact ⟨l.orgId, h.org, l, hfind, data, ⟨data, h.sent, (), h.nonempty, (), h.ordered, rfl⟩, rfl⟩
  have hplan : updateLeaseForOrg env l data db = .ok [.write (.lease (.updateMany
      (fun x => x.id = l.id ∧ x.orgId = l.orgId) (leaseUpdated env.now columns)))] := by
    simp only [updateLeaseForOrg, Outcome.bind_eq_ok, Outcome.pure_eq_ok, Outcome.throwIf_eq_ok,
      not_not]
    exact ⟨columns, hcolumns, (), ⟨l, hl, rfl, rfl⟩, rfl⟩
  obtain ⟨hoccupancy, hijari⟩ := leaseCheck_eq_none.mp db.leases.valid
  have hcheck : leaseCheck (db.leases.table.modifyWhere
      (fun x => x.id = l.id ∧ x.orgId = l.orgId) (leaseUpdated env.now columns)) = none :=
    leaseCheck_eq_none.mpr ⟨hoccupancy.modifyWhere_of_le fun _ _ _ => .inr rfl,
      hijari.modifyWhere_of_le fun _ _ _ => .inr rfl⟩
  obtain ⟨db₁, hwrite⟩ := exists_lease_write (Table.apply_updateMany.mpr rfl) hcheck
  have hcommit := (@Transaction.commit_write _ _ _ _ DbWrite.apply mapDbError [] db db₁ _).mpr
    ⟨db₁, hwrite, rfl⟩
  unfold Succeeds call updateLease
  simp only []
  rw [Transaction.read_bind_of_ok hread]
  dsimp only
  unfold transaction
  rw [Transaction.transaction_bind_of_commit hplan hcommit]
  rfl

theorem updateContract_succeeds {dto : UpdateContractDto} {data : ContractData}
    (hl : l ∈ db.books.leases) (h : ContractEditable env user dto l data)
    (hfree : IjariFree env db l data) : Succeeds env (.updateContract user l.id dto) db := by
  have hfind : findContractOrThrow db l.orgId l.id = .ok l :=
    Outcome.orThrow_eq_ok.mpr (Table.findFirst_eq_some hl (by simp) fun x hx =>
      (of_decide_eq_true hx).1)
  have hplan : updateContract env db user l.id dto = .ok
      [.write (.lease (.update l.id (leaseEdited env.now data))),
        .write (.changeSet l .UPDATED (user.map (·.sub)) env.now)] := by
    simp only [updateContract, Outcome.bind_eq_ok, Outcome.pure_eq_ok, Outcome.throwIf_eq_ok]
    exact ⟨l.orgId, h.org, l, hfind, (), h.unlocked, (), h.ordered, data, h.columns, rfl⟩
  obtain ⟨hoccupancy, hijari⟩ := leaseCheck_eq_none.mp db.leases.valid
  have hcheck : leaseCheck (db.leases.table.modify l.id (leaseEdited env.now data)) = none :=
    leaseCheck_eq_none.mpr ⟨hoccupancy.modify_of_le hl (.inr rfl), hijari.modify hl hfree⟩
  obtain ⟨db₁, hwrite⟩ :=
    exists_lease_write (Table.apply_update.mpr ⟨⟨l, hl, rfl⟩, rfl⟩) hcheck
  obtain ⟨db₂, hcommit⟩ := @Transaction.exists_commit_write _ _ _ _ DbWrite.apply mapDbError
    [.write (.changeSet l .UPDATED (user.map (·.sub)) env.now)] db _ _ hwrite
    (Transaction.exists_commit_write rfl ⟨_, rfl⟩)
  unfold Succeeds call transaction
  simp only []
  rw [Transaction.transaction_of_commit hplan hcommit]
  rfl

theorem ijariFree_of_books {data : ContractData} (hl : l ∈ db.books.leases)
    (hbooks : db'.books.leases = db.books.leases.modify l.id (leaseEdited env.now data)) :
    IjariFree env db l data := by
  intro x hx hne
  have hunique : (db.books.leases.modify l.id (leaseEdited env.now data)).UniqueOn leaseIjari := by
    rw [← hbooks]
    exact (leaseCheck_eq_none.mp db'.leases.valid).2
  by_contra hclash
  rw [not_or, not_not] at hclash
  obtain ⟨hsome, hsame⟩ := hclash
  have hid := hunique _ (Table.apply_mem_modify hl) x (Table.mem_modify_of_ne hx hne) hsome
    hsame.symm
  exact hne hid.symm

end Accepted

section Step

variable {env : Env} {op : Operation} {db db' : Db} {user : Option AuthenticatedUser} {l : Lease}

def KeepsLegal (leases leases' : Table Lease.id) (l : Lease) : Prop :=
  l ∈ leases → ∃ x ∈ leases', x.id = l.id ∧ legalFields x = legalFields l

theorem KeepsLegal.of_eq {leases leases' : Table Lease.id} (h : leases' = leases) :
    KeepsLegal leases leases' l := by
  intro hl
  exact ⟨l, h ▸ hl, rfl, rfl⟩

theorem KeepsLegal.insert {leases leases' : Table Lease.id} {x : Lease}
    (h : leases.insert x = some leases') : KeepsLegal leases leases' l := by
  intro hl
  exact ⟨l, (Table.mem_insert h).mpr (.inl hl), rfl, rfl⟩

theorem KeepsLegal.modify {leases : Table Lease.id} {k : Id} {p : Patch Lease.id}
    (hp : l.id = k → legalFields (p.apply l) = legalFields l) :
    KeepsLegal leases (leases.modify k p) l := by
  intro hl
  by_cases hk : l.id = k
  · exact ⟨p.apply l, hk ▸ Table.apply_mem_modify hl, p.key_apply l, hp hk⟩
  · exact ⟨l, Table.mem_modify_of_ne hl hk, rfl, rfl⟩

theorem KeepsLegal.modify_twice {leases : Table Lease.id} {k k' : Id} {p q : Patch Lease.id}
    (hp : ∀ x, legalFields (p.apply x) = legalFields x)
    (hq : ∀ x, legalFields (q.apply x) = legalFields x) :
    KeepsLegal leases ((leases.modify k p).modify k' q) l := by
  intro hl
  obtain ⟨x, hx, hid, hlegal⟩ := KeepsLegal.modify (fun _ => hp l) hl
  obtain ⟨y, hy, hid', hlegal'⟩ := KeepsLegal.modify (fun _ => hq x) hx
  exact ⟨y, hy, hid'.trans hid, hlegal'.trans hlegal⟩

theorem Effect.keepsLegal (he : Effect env db db' op)
    (hchanges : ¬ op.changesLegal l.id) : KeepsLegal db.books.leases db'.books.leases l := by
  cases he with
  | draft building unit resident x leases hlease hperiod hleases hbooks =>
    rw [hbooks]
    exact .insert hleases
  | @editContract user dto x data hx hchecked hbooks =>
    rw [hbooks]
    refine .modify fun hid => ?_
    have hsends : ¬ sendsLegalField dto := fun hs =>
      hchanges (by simp [Operation.changesLegal, hid, hs])
    exact legalFields_leaseEdited hchecked.columns (Bool.eq_false_iff.mpr hsends)
  | @editLease user dto x data columns hx hchecked hcolumns hbooks =>
    rw [hbooks]
    refine .modify fun hid => ?_
    have hsends : ¬ sendsLegalTerm dto := fun hs =>
      hchanges (by simp [Operation.changesLegal, hid, hs])
    exact legalFields_leaseUpdated hchecked.sent hcolumns (Bool.eq_false_iff.mpr hsends)
  | replaceTerms hbooks => exact .of_eq (by rw [hbooks])
  | activated x hx hactive hbooks => exact .of_eq (by rw [hbooks])
  | activate x hx hended hactive hbooks hrecorded =>
    rw [hbooks]
    exact .modify fun _ => rfl
  | cancel x hx hended hvacant hcancel =>
    rw [hcancel.books]
    exact .modify fun _ => rfl
  | moveOutAndCancel x occupancyId db₁ hout hcancel =>
    obtain ⟨settlement, hbooks⟩ := hout.books
    rw [hcancel.books, hbooks]
    exact .modify_twice (fun _ => rfl) fun _ => rfl
  | ask kind hop x r requests hx hactive hunlinked hnone hlease horg hpending hrequests hbooks =>
    exact .of_eq (by rw [hbooks, Books.leases_withRequests])
  | review kind hop r status reviewerId rejectionReason hr hpending hstatus hbooks =>
    exact .of_eq (by rw [hbooks, Books.leases_withRequests])
  | executeMoveIn x residentUserId r occupancies hx hactive hunlinked hr horg hlease happroved
      hoccupancies hbooks =>
    rw [hbooks]
    exact .modify fun _ => rfl
  | executeMoveOut x r occupancyId db₁ hfound hout hcomplete =>
    obtain ⟨settlement, hbooks⟩ := hout.books
    rw [hcomplete.books, hbooks]
    dsimp only
    split_ifs
    · exact .modify_twice (fun _ => rfl) fun _ => rfl
    · exact .modify fun _ => rfl
  | moveIn residentUserId x leases occupancies parkingAllocations hlease hoccupancies hleases
      hallocations hbooks =>
    rw [hbooks]
    exact .insert hleases
  | moveOut x occupancyId endAt hend hout =>
    obtain ⟨settlement, hbooks⟩ := hout.books
    rw [hbooks]
    exact .modify fun _ => rfl

theorem Effect.editsUnlocked (he : Effect env db db' op) (hl : l ∈ db.books.leases)
    (hactive : l.status = .ACTIVE) (hijari : l.ijariId ≠ none)
    (hchanges : op.changesLegal l.id) : EditsUnlocked env db l op := by
  cases he with
  | editContract x data hx hchecked hbooks =>
    simp only [Operation.changesLegal, Bool.and_eq_true, decide_eq_true_eq] at hchanges
    obtain ⟨hid, hsends⟩ := hchanges
    obtain rfl := Table.eq_of_key_eq hx hl hid
    have hempty : x.ijariId = some "" := by
      obtain ⟨ijariId, hsome⟩ := Option.ne_none_iff_exists'.mp hijari
      by_contra hne
      refine hchecked.unlocked ⟨hactive, ?_, hsends⟩
      have hnonempty : ijariId ≠ "" := fun heq => hne (by rw [hsome, heq])
      rw [Option.isSome_iff_exists]
      exact ⟨ijariId, truthy_eq_some.mpr ⟨hsome, hnonempty⟩⟩
    exact ⟨rfl, hempty, hsends, data, hchecked, ijariFree_of_books hl (by rw [hbooks])⟩
  | editLease x data columns hx hchecked hcolumns hbooks =>
    simp only [Operation.changesLegal, Bool.and_eq_true, decide_eq_true_eq] at hchanges
    obtain ⟨hid, hsends⟩ := hchanges
    obtain rfl := Table.eq_of_key_eq hx hl hid
    exact ⟨rfl, hsends, data, columns, hchecked, hcolumns⟩
  | ask kind hop => cases op <;> first | exact absurd hchanges Bool.false_ne_true | cases hop
  | review kind hop => cases op <;> first | exact absurd hchanges Bool.false_ne_true | cases hop
  | _ => simp [Operation.changesLegal] at hchanges

theorem EditsUnlocked.succeeds (h : EditsUnlocked env db l op) (hl : l ∈ db.books.leases) :
    op.changesLegal l.id ∧ Succeeds env op db := by
  cases op with
  | updateContract user contractId dto =>
    obtain ⟨rfl, -, hsends, data, hchecked, hfree⟩ := h
    exact ⟨by simp [Operation.changesLegal, hsends], updateContract_succeeds hl hchecked hfree⟩
  | updateLease user leaseId dto =>
    obtain ⟨rfl, hsends, data, columns, hchecked, hcolumns⟩ := h
    exact ⟨by simp [Operation.changesLegal, hsends], updateLease_succeeds hl hchecked hcolumns⟩
  | _ => exact h.elim

/-- The lock holds of a call exactly when the call is not an edit that escapes it. -/
theorem ejari_lock_iff (env : Env) (op : Operation) (db : Db) (l : Lease)
    (hl : l ∈ db.leases.table) (hactive : l.status = .ACTIVE) (hijari : l.ijariId ≠ none) :
    EjariLocked env op db l ↔ ¬ EditsUnlocked env db l op := by
  constructor
  · intro h hunlocked
    obtain ⟨hchanges, hs⟩ := hunlocked.succeeds hl
    exact h.rejected hchanges hs
  · intro h
    have hrejected : op.changesLegal l.id → ¬ Succeeds env op db := fun hchanges hs =>
      h ((next_of_succeeds hs).editsUnlocked hl hactive hijari hchanges)
    refine ⟨?_, hrejected⟩
    by_cases hs : Succeeds env op db
    · exact (next_of_succeeds hs).keepsLegal (fun hchanges => hrejected hchanges hs) hl
    · rw [next_of_fails hs]
      exact ⟨l, hl, rfl, rfl⟩

def ejariScene : Db :=
  Run.exec next (Db.start sceneDirectory)
    [managerDraftsEjari 1 "contract" "101" "ann" "ejari", managerActivates 2 "contract"]

theorem ejari_lock_move_in_request :
    ∃ l ∈ ejariScene.leases.table, l.status = .ACTIVE ∧ l.ijariId ≠ none ∧
      EjariLocked (residentAsksIn 3 "request" "contract" "ann").1
        (residentAsksIn 3 "request" "contract" "ann").2 ejariScene l := by
  obtain ⟨l, hl, hactive, hijari⟩ : ∃ l ∈ ejariScene.leases.table,
      l.status = .ACTIVE ∧ l.ijariId ≠ none := by decide +kernel
  exact ⟨l, hl, hactive, hijari,
    (ejari_lock_iff _ _ ejariScene l hl hactive hijari).mpr fun hunlocked => hunlocked⟩

/-- The payment frequency is edited through the lease endpoint. -/
theorem locked_contract_edited :
    ¬ ∀ (env : Env) (op : Operation) (db : Db), ∀ l ∈ db.leases.table, l.status = .ACTIVE →
      l.ijariId ≠ none → EjariLocked env op db l := by
  intro h
  obtain ⟨l, hl, hactive, hijari, hchanges⟩ : ∃ l ∈ ejariScene.leases.table,
      l.status = .ACTIVE ∧ l.ijariId ≠ none ∧
        (managerEditsLease 3 "contract" (frequencyForm .MONTHLY)).2.changesLegal l.id := by
    decide +kernel
  have hlocked := h (managerEditsLease 3 "contract" (frequencyForm .MONTHLY)).1
    (managerEditsLease 3 "contract" (frequencyForm .MONTHLY)).2 ejariScene l hl hactive hijari
  exact hlocked.rejected hchanges (by decide +kernel)

end Step

end Towerdesk.Leases
