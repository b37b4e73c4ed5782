import Towerdesk.Leases.Scene

/-!
# The period of a lease

Drafting a contract and editing one or its lease compare the end of the period with its
start; moving a resident in directly does not, and an edit that sends `null` for a date
is not compared with what it stores. Every lease has its dates in order exactly when the
requests that escape the comparison happen to keep them so.
-/

namespace Towerdesk.Leases

def PeriodsOrdered (db : Db) : Prop := ∀ l ∈ db.leases.table, l.leaseStartDate < l.leaseEndDate

instance (db : Db) : Decidable (PeriodsOrdered db) :=
  inferInstanceAs (Decidable (∀ l ∈ db.leases.table, _))

/-- The date a contract edit leaves: `null` is stored as the epoch. -/
def datePut (sentDate : Field JsDate) (before : Date) : JsDate :=
  if sentDate.isUndefined then some before else newDate sentDate

/-- The dates of a direct move-in are in order, and so are those of a contract after an
edit that sends `null` for one of them. -/
def KeepsPeriod : Operation → Db → Prop
  | .moveIn _ _ dto, _ => ¬ dto.leaseEndDate.le dto.leaseStartDate
  | .updateContract _ contractId dto, db =>
    dto.contractPeriodFrom = .null ∨ dto.contractPeriodTo = .null →
      ∀ l ∈ db.leases.table, l.id = contractId →
        ¬ (datePut dto.contractPeriodTo l.leaseEndDate).le
          (datePut dto.contractPeriodFrom l.leaseStartDate)
  | _, _ => True

instance : ∀ op db, Decidable (KeepsPeriod op db) := by
  rintro ⟨⟩ db <;>
    first
    | exact inferInstanceAs (Decidable (_ ∨ _ → ∀ l ∈ db.leases.table, _))
    | exact inferInstanceAs (Decidable (¬ _))
    | exact isTrue trivial

def KeepsPeriodIfSuccessful (c : Env × Operation) (db : Db) : Prop :=
  Succeeds c.1 c.2 db → KeepsPeriod c.2 db

instance (c : Env × Operation) (db : Db) : Decidable (KeepsPeriodIfSuccessful c db) :=
  inferInstanceAs (Decidable (Succeeds _ _ _ → _))

section Dates

variable {d e : JsDate} {start stop : Date}

theorem toDateColumn_ok {date : Date} (h : toDateColumn d = .ok date) : d = some date :=
  Outcome.orThrow_eq_ok.mp h

theorem lt_iff_of_columns (hstart : toDateColumn d = .ok start) (hstop : toDateColumn e = .ok stop) :
    ¬ e.le d ↔ start < stop := by
  rw [toDateColumn_ok hstart, toDateColumn_ok hstop]
  simp [JsDate.le]

theorem dateSent_ok {sentDate : Field JsDate} {put : Option Date} (before : Date)
    (h : dateSent sentDate = .ok put) : datePut sentDate before = some (put.getD before) := by
  unfold dateSent at h
  unfold datePut
  split_ifs at h ⊢
  · obtain rfl := Except.ok.inj h
    rfl
  · obtain ⟨date, hdate, rfl⟩ := Outcome.map_eq_ok.mp h
    rw [toDateColumn_ok hdate]
    rfl

/-- The comparison made before an edit is the one of the dates it leaves, but for `null`. -/
theorem datePut_eq_dateOr {sentDate : Field JsDate} (h : sentDate ≠ .null) (before : Date) :
    datePut sentDate before = dateOr sentDate before := by
  cases sentDate with
  | undefined => rfl
  | null => exact absurd rfl h
  | value d => rfl

theorem contractData_dates {env : Env} {dto : UpdateContractDto} {data : ContractData}
    (h : contractData env dto = .ok data) :
    dateSent dto.contractPeriodFrom = .ok data.leaseStartDate ∧
      dateSent dto.contractPeriodTo = .ok data.leaseEndDate := by
  simp only [contractData, Outcome.bind_eq_ok, Outcome.pure_eq_ok] at h
  obtain ⟨start, hstart, stop, hstop, -, -, -, -, -, -, -, -, -, -, -, -, -, -, rfl⟩ := h
  exact ⟨hstart, hstop⟩

theorem mapM_column {put : Option JsDate} {column : Option Date}
    (h : put.mapM toDateColumn = .ok column) (before : Date) :
    put.getD (some before) = some (column.getD before) := by
  cases put with
  | none =>
    obtain rfl := Except.ok.inj h
    rfl
  | some d =>
    obtain ⟨date, hdate, rfl⟩ := Outcome.map_eq_ok.mp h
    simp [toDateColumn_ok hdate]

theorem columns_dates {data : LeaseUpdate JsDate ℚ} {columns : LeaseUpdate Date ℤ}
    (h : data.columns = .ok columns) :
    data.leaseStartDate.mapM toDateColumn = .ok columns.leaseStartDate ∧
      data.leaseEndDate.mapM toDateColumn = .ok columns.leaseEndDate := by
  simp only [LeaseUpdate.columns, Outcome.bind_eq_ok, Outcome.pure_eq_ok] at h
  obtain ⟨start, hstart, stop, hstop, -, -, -, -, -, -, -, -, -, -, -, -, -, -, rfl⟩ := h
  exact ⟨hstart, hstop⟩

end Dates

section Edits

variable {env : Env} {user : Option AuthenticatedUser} {l : Lease}

theorem leaseEdited_period {dto : UpdateContractDto} {data : ContractData}
    (h : contractData env dto = .ok data) :
    ¬ (datePut dto.contractPeriodTo l.leaseEndDate).le
        (datePut dto.contractPeriodFrom l.leaseStartDate) ↔
      ((leaseEdited env.now data).apply l).leaseStartDate <
        ((leaseEdited env.now data).apply l).leaseEndDate := by
  obtain ⟨hstart, hstop⟩ := contractData_dates h
  rw [dateSent_ok _ hstart, dateSent_ok _ hstop]
  simp [JsDate.le, leaseEdited, ContractData.terms]

theorem ContractEditable.period {dto : UpdateContractDto} {data : ContractData}
    (h : ContractEditable env user dto l data) (hl : l.leaseStartDate < l.leaseEndDate)
    (hnull : dto.contractPeriodFrom = .null ∨ dto.contractPeriodTo = .null →
      ¬ (datePut dto.contractPeriodTo l.leaseEndDate).le
        (datePut dto.contractPeriodFrom l.leaseStartDate)) :
    ((leaseEdited env.now data).apply l).leaseStartDate <
      ((leaseEdited env.now data).apply l).leaseEndDate := by
  rw [← leaseEdited_period h.columns]
  by_cases hsome : dto.contractPeriodFrom = .null ∨ dto.contractPeriodTo = .null
  · exact hnull hsome
  · rw [not_or] at hsome
    rw [datePut_eq_dateOr hsome.1, datePut_eq_dateOr hsome.2]
    intro hle
    refine h.ordered ⟨?_, hle⟩
    -- a request that sends neither date leaves the stored ones, which are in order
    by_contra hnone
    rw [not_or, Option.not_isSome_iff_eq_none, Option.not_isSome_iff_eq_none] at hnone
    have hback : l.leaseEndDate ≤ l.leaseStartDate := by
      simpa [dateOr, hnone.1, hnone.2, JsDate.le] using hle
    exact absurd hl (not_lt.mpr hback)

theorem LeaseEditable.period {dto : UpdateLeaseDto} {data : LeaseUpdate JsDate ℚ}
    {columns : LeaseUpdate Date ℤ} (h : LeaseEditable env user dto l data)
    (hcolumns : data.columns = .ok columns) :
    ((leaseUpdated env.now columns).apply l).leaseStartDate <
      ((leaseUpdated env.now columns).apply l).leaseEndDate := by
  obtain ⟨hstart, hstop⟩ := columns_dates hcolumns
  have hordered := h.ordered
  rw [mapM_column hstart, mapM_column hstop] at hordered
  simpa [JsDate.le, leaseUpdated, LeaseUpdate.terms] using hordered

end Edits

section Step

variable {env : Env} {op : Operation} {db db' : Db} {user : Option AuthenticatedUser} {l : Lease}

def LeasesOrdered (leases : Table Lease.id) : Prop := ∀ l ∈ leases, l.leaseStartDate < l.leaseEndDate

theorem LeasesOrdered.modify {leases : Table Lease.id} {p : Patch Lease.id}
    (h : LeasesOrdered leases) (hl : l ∈ leases)
    (hp : (p.apply l).leaseStartDate < (p.apply l).leaseEndDate) :
    LeasesOrdered (leases.modify l.id p) := by
  intro x hx
  rcases (Table.mem_modify_iff hl).mp hx with rfl | ⟨hx, -⟩
  · exact hp
  · exact h x hx

theorem LeasesOrdered.insert {leases leases' : Table Lease.id} (h : LeasesOrdered leases)
    (hinsert : leases.insert l = some leases') (hl : l.leaseStartDate < l.leaseEndDate) :
    LeasesOrdered leases' := by
  intro x hx
  rcases (Table.mem_insert hinsert).mp hx with hx | rfl
  · exact h x hx
  · exact hl

theorem LeasesOrdered.keep {leases : Table Lease.id} {p : Patch Lease.id} {k : Id}
    (h : LeasesOrdered leases) (hp : ∀ x, (p.apply x).leaseStartDate = x.leaseStartDate ∧
      (p.apply x).leaseEndDate = x.leaseEndDate) : LeasesOrdered (leases.modify k p) := by
  refine Table.forall_modify h fun x hx _ => ?_
  rw [(hp x).1, (hp x).2]
  exact h x hx

theorem MovesOut.ordered {occupancyId : Id} {endAt : Date}
    (hout : MovesOut env user l occupancyId endAt db db') (h : LeasesOrdered db.books.leases) :
    LeasesOrdered db'.books.leases := by
  obtain ⟨settlement, hbooks⟩ := hout.books
  rw [hbooks]
  exact h.keep fun _ => ⟨rfl, rfl⟩

theorem Cancels.ordered (hcancel : Cancels env l db db') (h : LeasesOrdered db.books.leases) :
    LeasesOrdered db'.books.leases := by
  rw [hcancel.books]
  exact h.keep fun _ => ⟨rfl, rfl⟩

theorem Completes.ordered {r : MoveRequest} (hcomplete : Completes env l r db db')
    (h : LeasesOrdered db.books.leases) : LeasesOrdered db'.books.leases := by
  rw [hcomplete.books]
  dsimp only
  split_ifs
  · exact h.keep fun _ => ⟨rfl, rfl⟩
  · exact h

theorem Effect.ordered (he : Effect env db db' op) (hkeeps : KeepsPeriod op db)
    (h : LeasesOrdered db.books.leases) : LeasesOrdered db'.books.leases := by
  cases he with
  | draft building unit resident l leases hlease hperiod hleases hbooks =>
    obtain ⟨-, -, -, hstart, hstop⟩ := draftLease_ok hlease
    rw [hbooks]
    exact h.insert hleases ((lt_iff_of_columns hstart hstop).mp hperiod)
  | editContract l data hl hchecked hbooks =>
    rw [hbooks]
    exact h.modify hl (hchecked.period (h l hl) fun hnull => hkeeps hnull l hl rfl)
  | editLease l data columns hl hchecked hcolumns hbooks =>
    rw [hbooks]
    exact h.modify hl (hchecked.period hcolumns)
  | replaceTerms hbooks => rwa [hbooks]
  | activated l hl hactive hbooks => rwa [hbooks]
  | activate l hl hended hactive hbooks hrecorded =>
    rw [hbooks]
    exact h.keep fun _ => ⟨rfl, rfl⟩
  | cancel l hl hended hvacant hcancel => exact hcancel.ordered h
  | moveOutAndCancel l occupancyId db₁ hout hcancel => exact hcancel.ordered (hout.ordered h)
  | ask kind hop l r requests hl hactive hunlinked hnone hlease horg hpending hrequests hbooks =>
    rwa [hbooks, Books.leases_withRequests]
  | review kind hop r status reviewerId rejectionReason hr hpending hstatus hbooks =>
    rwa [hbooks, Books.leases_withRequests]
  | executeMoveIn l residentUserId r occupancies hl hactive hunlinked hr horg hlease happroved
      hoccupancies hbooks =>
    rw [hbooks]
    exact h.keep fun _ => ⟨rfl, rfl⟩
  | executeMoveOut l r occupancyId db₁ hfound hout hcomplete =>
    exact hcomplete.ordered (hout.ordered h)
  | moveIn residentUserId l leases occupancies parkingAllocations hlease hoccupancies hleases
      hallocations hbooks =>
    obtain ⟨-, -, -, -, hstart, hstop, -⟩ := moveInLease_ok hlease
    rw [hbooks]
    exact h.insert hleases ((lt_iff_of_columns hstart hstop).mp hkeeps)
  | moveOut l occupancyId endAt hend hout => exact hout.ordered h

theorem next_ordered (c : Env × Operation) (db : Db) (h : PeriodsOrdered db)
    (hg : KeepsPeriodIfSuccessful c db) : PeriodsOrdered (next c db) := by
  obtain ⟨env, op⟩ := c
  by_cases hs : Succeeds env op db
  · exact (next_of_succeeds hs).ordered (hg hs) h
  · rwa [next_of_fails hs]

theorem not_ordered_of_not_keeps (hs : Succeeds env op db) (hkeeps : ¬ KeepsPeriod op db) :
    ¬ PeriodsOrdered (next (env, op) db) := by
  intro hordered
  have heffect := next_of_succeeds hs
  have hleases : LeasesOrdered (next (env, op) db).books.leases := hordered
  cases op with
  | moveIn user buildingId dto =>
    cases heffect with
    | moveIn residentUserId l leases occupancies parkingAllocations hlease hoccupancies hinsert
        hallocations hbooks =>
      obtain ⟨-, -, -, -, hstart, hstop, -⟩ := moveInLease_ok hlease
      rw [hbooks] at hleases
      have hl := hleases l ((Table.mem_insert hinsert).mpr (.inr rfl))
      exact hkeeps ((lt_iff_of_columns hstart hstop).mpr hl)
    | ask kind hop => cases hop
    | review kind hop => cases hop
  | updateContract user contractId dto =>
    simp only [KeepsPeriod, not_forall, not_not] at hkeeps
    obtain ⟨-, x, hx, hid, hle⟩ := hkeeps
    cases heffect with
    | editContract l data hl hchecked hbooks =>
      obtain rfl := Table.eq_of_key_eq hx hl hid
      rw [hbooks] at hleases
      have hx' := hleases _ (Table.apply_mem_modify hl)
      exact (leaseEdited_period hchecked.columns).mpr hx' hle
    | ask kind hop => cases hop
    | review kind hop => cases hop
  | _ => exact hkeeps trivial

end Step

section Runs

variable {db : Db}

theorem run_ordered (hempty : db.leases.table.rows = []) {cs : List (Env × Operation)}
    (hg : Run.Along next KeepsPeriodIfSuccessful db cs) : PeriodsOrdered (Run.exec next db cs) := by
  refine Run.exec_inv_along (fun c db h hg => next_ordered c db h hg) ?_ hg
  intro l hl
  rw [Table.mem_rows, hempty] at hl
  cases hl

/-- Every lease of every state of a run ends after it starts exactly when the direct
move-ins that return do, and the contract edits that send `null` leave it so. -/
theorem periods_ordered_iff (db : Db) (hempty : db.leases.table.rows = [])
    (cs : List (Env × Operation)) :
    (∀ ms, ms <+: cs → PeriodsOrdered (Run.exec next db ms)) ↔
      Run.Along next KeepsPeriodIfSuccessful db cs := by
  refine Run.forall_exec_iff_along ?_ ?_
  · intro c db hordered hs
    by_contra hkeeps
    exact not_ordered_of_not_keeps hs hkeeps hordered
  · intro ms hg
    exact run_ordered hempty hg

theorem periods_ordered_drafted :
    (Db.start sceneDirectory).leases.table.rows = [] ∧
      ∀ ms, ms <+: [managerDrafts 1 "contract" "101" "ann", managerActivates 2 "contract"] →
        PeriodsOrdered (Run.exec next (Db.start sceneDirectory) ms) :=
  ⟨rfl, (periods_ordered_iff (Db.start sceneDirectory) rfl
    [managerDrafts 1 "contract" "101" "ann", managerActivates 2 "contract"]).mpr
      (by decide +kernel)⟩

/-- A direct move-in for a period that ends before it starts. -/
theorem move_in_backwards :
    ¬ ∀ db : Db, db.leases.table.rows = [] → ∀ cs ms, ms <+: cs →
      PeriodsOrdered (Run.exec next db ms) := by
  intro h
  have hordered := h (Db.start sceneDirectory) rfl
    [managerMovesInDirectly 1 "lease" "101" "ann" 1000 0] _ (List.prefix_refl _)
  revert hordered
  decide +kernel

end Runs

end Towerdesk.Leases
