import Towerdesk.Leases.Plans

/-!
# What a call does

A call that throws leaves everything as it was; one that returns has a single effect
on the books, described here with what its checks have established. The calls that
commit twice are no exception: their second transaction cannot fail.
-/

namespace Towerdesk.Leases

structure Tenancy where
  leases : LeaseTable
  occupancies : OccupancyTable

def Db.tenancy (db : Db) : Tenancy := ⟨db.leases, db.occupancies⟩

def Recorded (db : Db) (leaseId : Id) (action : LeaseActivityAction) : Prop :=
  ∃ row ∈ db.activity, row.leaseId = leaseId ∧ row.action = action

/-- A move-out ends the lease, the occupancy linked to it and its open allocations. -/
structure MovesOut (env : Env) (user : Option AuthenticatedUser) (l : Lease) (occupancyId : Id)
    (endAt : Date) (db db' : Db) : Prop where
  mem : l ∈ db.books.leases
  active : l.status = .ACTIVE
  linked : l.occupancyId = some occupancyId
  books : ∃ settlement, db'.books = { db.books with
    leases := db.books.leases.modify l.id (leaseEnded env.now settlement)
    occupancies := db.books.occupancies.modify occupancyId (occupancyEnded env.now endAt)
    parkingAllocations := db.books.parkingAllocations.modifyWhere
      (fun a => a.orgId = l.orgId ∧ a.occupancyId = some occupancyId ∧ a.endDate = none)
      (allocationEnded endAt)
    history := db.books.history ++
      historyRows l ((leaseEnded env.now settlement).apply l) .MOVED_OUT user env.now }
  activity : db.activity ⊆ db'.activity

theorem MovesOut.exists_ended {env : Env} {user : Option AuthenticatedUser} {l : Lease}
    {occupancyId : Id} {endAt : Date} {db db' : Db}
    (h : MovesOut env user l occupancyId endAt db db') :
    ∃ x ∈ db'.books.leases, x.id = l.id ∧ x.status = .ENDED := by
  obtain ⟨settlement, hbooks⟩ := h.books
  rw [hbooks]
  exact ⟨_, Table.apply_mem_modify h.mem, rfl, rfl⟩

def cancelOpen (now : Date) (l : Lease) (t : Table MoveRequest.id) : Table MoveRequest.id :=
  t.modifyWhere (fun r => r.orgId = l.orgId ∧ r.leaseId = l.id ∧ r.isOpen)
    (requestStatusSet now .CANCELLED)

structure Cancels (env : Env) (l : Lease) (db db' : Db) : Prop where
  books : db'.books = { db.books with
    leases := db.books.leases.modify l.id (leaseStatusSet env.now .CANCELLED)
    moveInRequests := cancelOpen env.now l db.books.moveInRequests
    moveOutRequests := cancelOpen env.now l db.books.moveOutRequests }
  activity : db.activity ⊆ db'.activity
  recorded : Recorded db' l.id .CONTRACT_CANCELLED

/-- The request is completed and, after an early move-out, the contract cancelled. -/
structure Completes (env : Env) (l : Lease) (r : MoveRequest) (db db' : Db) : Prop where
  books : db'.books = { db.books with
    leases := if r.requestedMoveAt < l.leaseEndDate then
      db.books.leases.modify l.id (leaseStatusSet env.now .CANCELLED) else db.books.leases
    moveOutRequests := db.books.moveOutRequests.modify r.id (requestStatusSet env.now .COMPLETED) }
  activity : db.activity ⊆ db'.activity
  recorded : r.requestedMoveAt < l.leaseEndDate → Recorded db' l.id .CONTRACT_CANCELLED

def Operation.asks : Operation → Option MoveRequestKind
  | .createResidentMoveInRequest _ _ _ => some .MOVE_IN
  | .createResidentMoveOutRequest _ _ _ => some .MOVE_OUT
  | _ => none

/-- The contract a resident asks about. -/
def Operation.asksAbout : Operation → Option Id
  | .createResidentMoveInRequest _ contractId _ | .createResidentMoveOutRequest _ contractId _ =>
    some contractId
  | _ => none

def Operation.reviews : Operation → Option MoveRequestKind
  | .approveMoveInRequest _ _ | .rejectMoveInRequest _ _ _ => some .MOVE_IN
  | .approveMoveOutRequest _ _ | .rejectMoveOutRequest _ _ _ => some .MOVE_OUT
  | _ => none

/-- What a call that returns has done. -/
inductive Effect (env : Env) (db db' : Db) : Operation → Prop
  | draft {user : Option AuthenticatedUser} {buildingId : Id} {dto : CreateContractDto}
      (building : Building) (unit : UnitRow) (resident : User) (l : Lease) (leases : Table Lease.id)
      (hlease : draftLease env l.orgId building unit resident dto = .ok l)
      (hperiod : ¬ dto.contractPeriodTo.le dto.contractPeriodFrom)
      (hleases : db.books.leases.insert l = some leases)
      (hbooks : db'.books = { db.books with
        leases
        history := db.books.history ++ [createdRow env user l] }) :
      Effect env db db' (.createDraftContract user buildingId dto)
  | editContract {user : Option AuthenticatedUser} {dto : UpdateContractDto} (l : Lease)
      (data : ContractData) (hl : l ∈ db.books.leases)
      (hchecked : ContractEditable env user dto l data)
      (hbooks : db'.books = { db.books with
        leases := db.books.leases.modify l.id (leaseEdited env.now data)
        history := db.books.history ++
          historyRows l ((leaseEdited env.now data).apply l) .UPDATED user env.now }) :
      Effect env db db' (.updateContract user l.id dto)
  | editLease {user : Option AuthenticatedUser} {dto : UpdateLeaseDto} (l : Lease)
      (data : LeaseUpdate JsDate ℚ) (columns : LeaseUpdate Date ℤ) (hl : l ∈ db.books.leases)
      (hchecked : LeaseEditable env user dto l data) (hcolumns : data.columns = .ok columns)
      (hbooks : db'.books = { db.books with
        leases := db.books.leases.modify l.id (leaseUpdated env.now columns)
        history := db.books.history ++
          historyRows l ((leaseUpdated env.now columns).apply l) .UPDATED user env.now }) :
      Effect env db db' (.updateLease user l.id dto)
  | replaceTerms {user : Option AuthenticatedUser} {contractId : Id} {terms : List String}
      (hbooks : db'.books = db.books) :
      Effect env db db' (.replaceAdditionalTerms user contractId terms)
  | activated {user : Option AuthenticatedUser} (l : Lease) (hl : l ∈ db.books.leases)
      (hactive : l.status = .ACTIVE) (hbooks : db'.books = db.books) :
      Effect env db db' (.activateContract user l.id)
  | activate {user : Option AuthenticatedUser} (l : Lease) (hl : l ∈ db.books.leases)
      (hended : l.status ≠ .ENDED) (hactive : l.status ≠ .ACTIVE)
      (hbooks : db'.books = { db.books with
        leases := db.books.leases.modify l.id (leaseStatusSet env.now .ACTIVE) })
      (hrecorded : Recorded db' l.id .CONTRACT_ACTIVATED) :
      Effect env db db' (.activateContract user l.id)
  | cancel {user : Option AuthenticatedUser} {reason : Option String} (l : Lease)
      (hl : l ∈ db.books.leases) (hended : l.status ≠ .ENDED)
      (hvacant : ¬ (l.status = .ACTIVE ∧ l.occupancyId.isSome)) (hcancel : Cancels env l db db') :
      Effect env db db' (.cancelContract user l.id reason)
  | moveOutAndCancel {user : Option AuthenticatedUser} {reason : Option String} (l : Lease)
      (occupancyId : Id) (db₁ : Db) (hout : MovesOut env user l occupancyId env.now db db₁)
      (hcancel : Cancels env l db₁ db') : Effect env db db' (.cancelContract user l.id reason)
  | ask {op : Operation} (kind : MoveRequestKind) (hop : op.asks = some kind) (l : Lease)
      (r : MoveRequest) (requests : Table MoveRequest.id) (hl : l ∈ db.books.leases)
      (hactive : l.status = .ACTIVE) (hunlinked : kind = .MOVE_IN → l.occupancyId = none)
      (hnone : NoneOpen db.books kind l) (hlease : r.leaseId = l.id) (horg : r.orgId = l.orgId)
      (hpending : r.status = .PENDING)
      (hrequests : (db.books.requests kind).insert r = some requests)
      (hbooks : db'.books = db.books.withRequests kind requests)
      (hcontract : op.asksAbout = some l.id)
      (hnew : r.id = env.ids.request ∧ r.createdAt = env.now) :
      Effect env db db' op
  | review {op : Operation} (kind : MoveRequestKind) (hop : op.reviews = some kind)
      (r : MoveRequest) (status : MoveRequestStatus) (reviewerId : Option Id)
      (rejectionReason : Option String) (hr : r ∈ db.books.requests kind)
      (hpending : r.status = .PENDING) (hstatus : status = .APPROVED ∨ status = .REJECTED)
      (hbooks : db'.books = db.books.withRequests kind ((db.books.requests kind).modify r.id
        (requestReviewed env.now status reviewerId rejectionReason))) : Effect env db db' op
  | executeMoveIn {user : Option AuthenticatedUser} (l : Lease) (residentUserId : Id)
      (r : MoveRequest) (occupancies : Table Occupancy.id) (hl : l ∈ db.books.leases)
      (hactive : l.status = .ACTIVE) (hunlinked : l.occupancyId = none)
      (hr : r ∈ db.books.requests .MOVE_IN) (horg : r.orgId = l.orgId) (hlease : r.leaseId = l.id)
      (happroved : r.status = .APPROVED)
      (hoccupancies : db.books.occupancies.insert
        (moveInOccupancy env l.buildingId l.unitId residentUserId env.now) = some occupancies)
      (hbooks : db'.books = { db.books with
        occupancies
        leases := db.books.leases.modify l.id (leaseMovedIn env.now env.ids.occupancy)
        moveInRequests :=
          db.books.moveInRequests.modify r.id (requestStatusSet env.now .COMPLETED) })
      (hresident : l.residentUserId = some residentUserId) :
      Effect env db db' (.executeApprovedMoveIn user l.id)
  | executeMoveOut {user : Option AuthenticatedUser} (l : Lease) (r : MoveRequest)
      (occupancyId : Id) (db₁ : Db) (hfound : findApprovedRequest db .MOVE_OUT l = some r)
      (hout : MovesOut env user l occupancyId r.requestedMoveAt db db₁)
      (hcomplete : Completes env l r db₁ db') :
      Effect env db db' (.executeApprovedMoveOut user l.id)
  | moveIn {user : Option AuthenticatedUser} {buildingId : Id} {dto : MoveInDto}
      (residentUserId : Id) (l : Lease) (leases : Table Lease.id) (occupancies : Table Occupancy.id)
      (parkingAllocations : Table ParkingAllocation.id)
      (hlease : moveInLease env l.orgId buildingId dto.unitId dto = .ok l)
      (hoccupancies : db.books.occupancies.insert
        (moveInOccupancy env buildingId dto.unitId residentUserId l.leaseStartDate) =
          some occupancies)
      (hleases : db.books.leases.insert l = some leases)
      (hallocations : ∀ a ∈ parkingAllocations, a ∈ db.books.parkingAllocations ∨ a.endDate = none)
      (hbooks : db'.books = { db.books with
        leases
        occupancies
        parkingAllocations
        history := db.books.history ++ [createdRow env user l] }) :
      Effect env db db' (.moveIn user buildingId dto)
  | moveOut {user : Option AuthenticatedUser} {dto : MoveOutDto} (l : Lease) (occupancyId : Id)
      (endAt : Date) (hend : toDateColumn dto.actualMoveOutDate = .ok endAt)
      (hout : MovesOut env user l occupancyId endAt db db') :
      Effect env db db' (.moveOut user l.buildingId l.id dto)

section Commits

variable {env : Env} {db db' : Db} {user : Option AuthenticatedUser} {plan rest : Plan}
  {raise : DbError → HttpException}

theorem commit_leaseChange {l : Lease} {p : Patch Lease.id} {action : LeaseHistoryAction}
    (hl : l ∈ db.books.leases)
    (h : Transaction.commit DbWrite.apply raise (.write (.lease (.update l.id p)) ::
      .write (.changeSet l action (user.map (·.sub)) env.now) :: rest) db = .ok db') :
    ∃ db₁, db₁.books = { db.books with
        leases := db.books.leases.modify l.id p
        history := db.books.history ++ historyRows l (p.apply l) action user env.now } ∧
      Transaction.commit DbWrite.apply raise rest db₁ = .ok db' := by
  obtain ⟨db₁, hwrite, h⟩ := Transaction.commit_write.mp h
  obtain ⟨leases, hleases, hbooks⟩ := books_lease hwrite
  obtain ⟨-, rfl⟩ := Table.apply_update.mp hleases
  obtain ⟨db₂, hset, h⟩ := Transaction.commit_write.mp h
  have hafter : db₁.books.leases.findUnique l.id = some (p.apply l) := by
    rw [hbooks]
    exact Table.findUnique_modify hl
  refine ⟨db₂, ?_, h⟩
  rw [books_changeSet hafter hset, hbooks]

theorem recorded_of_commit {row : LeaseActivity}
    (h : Transaction.commit DbWrite.apply raise [.write (.activity row)] db = .ok db') :
    Recorded db' row.leaseId row.action := by
  obtain ⟨db₁, hwrite, h⟩ := Transaction.commit_write.mp h
  obtain rfl := Transaction.commit_nil.mp h
  obtain rfl := Except.ok.inj hwrite
  exact ⟨row, by simp, rfl, rfl⟩

theorem books_moveOut {l : Lease} {occupancyId : Id} {endAt : Date}
    {settlement : MoveOutSettlement} {dto : MoveOutDto} (hl : l ∈ db.books.leases)
    (h : Transaction.commit DbWrite.apply raise
      (moveOutStatements env user l occupancyId endAt settlement dto) db = .ok db') :
    db'.books = { db.books with
      leases := db.books.leases.modify l.id (leaseEnded env.now settlement)
      occupancies := db.books.occupancies.modify occupancyId (occupancyEnded env.now endAt)
      parkingAllocations := db.books.parkingAllocations.modifyWhere
        (fun a => a.orgId = l.orgId ∧ a.occupancyId = some occupancyId ∧ a.endDate = none)
        (allocationEnded endAt)
      history := db.books.history ++
        historyRows l ((leaseEnded env.now settlement).apply l) .MOVED_OUT user env.now } := by
  obtain ⟨db₁, hitems, h⟩ := Transaction.commit_append.mp h
  have hquiet : db₁.books = db.books := by
    refine commit_quiet ?_ hitems
    refine Plan.isQuiet_append ?_ ?_
    · split_ifs
      · exact Plan.isQuiet_nil
      · exact Plan.isQuiet_write rfl Plan.isQuiet_nil
    · split_ifs
      · exact Plan.isQuiet_nil
      · exact Plan.isQuiet_write rfl Plan.isQuiet_nil
  obtain ⟨db₂, hallocation, h⟩ := Transaction.commit_write.mp h
  obtain ⟨allocations, hallocations, hbooks₂⟩ := books_parkingAllocation hallocation
  obtain rfl := Table.apply_updateMany.mp hallocations
  obtain ⟨db₃, hoccupancy, h⟩ := Transaction.commit_write.mp h
  obtain ⟨occupancies, hoccupancies, hbooks₃⟩ := books_occupancy hoccupancy
  obtain rfl := Table.apply_updateMany.mp hoccupancies
  have hsame : ∀ o ∈ db₂.books.occupancies, decide (o.id = occupancyId) = true ↔
      o.id = occupancyId := fun o _ => decide_eq_true_iff
  rw [Table.modifyWhere_eq_modify hsame] at hbooks₃
  have hl₃ : l ∈ db₃.books.leases := by rwa [hbooks₃, hbooks₂, hquiet]
  obtain ⟨db₄, hbooks₄, h⟩ := commit_leaseChange hl₃ h
  have hactivity : db'.books = db₄.books :=
    commit_quiet (Plan.isQuiet_write rfl Plan.isQuiet_nil) h
  rw [hactivity, hbooks₄, hbooks₃, hbooks₂, hquiet]

theorem commit_moveOut {l : Lease} {occupancyId : Id} {endAt : Date}
    {settlement : MoveOutSettlement} {dto : MoveOutDto} (hl : l ∈ db.books.leases)
    (hactive : l.status = .ACTIVE) (hlinked : l.occupancyId = some occupancyId)
    (h : Transaction.commit DbWrite.apply raise
      (moveOutStatements env user l occupancyId endAt settlement dto) db = .ok db') :
    MovesOut env user l occupancyId endAt db db' :=
  ⟨hl, hactive, hlinked, ⟨settlement, books_moveOut hl h⟩, commit_activity h⟩

theorem commit_cancelRequests {kind : MoveRequestKind} {l : Lease}
    (h : Transaction.commit DbWrite.apply raise
      (.write (.moveRequest kind (cancelRequestsWrite env.now l)) :: rest) db = .ok db') :
    ∃ db₁, db₁.books = db.books.withRequests kind (cancelOpen env.now l (db.books.requests kind)) ∧
      Transaction.commit DbWrite.apply raise rest db₁ = .ok db' := by
  obtain ⟨db₁, hwrite, h⟩ := Transaction.commit_write.mp h
  obtain ⟨requests, hrequests, hbooks⟩ := books_moveRequest hwrite
  obtain rfl := Table.apply_updateMany.mp hrequests
  exact ⟨db₁, hbooks, h⟩

theorem commit_leaseUpdate {k : Id} {p : Patch Lease.id}
    (h : Transaction.commit DbWrite.apply raise (.write (.lease (.update k p)) :: rest) db =
      .ok db') :
    ∃ db₁, db₁.books = { db.books with leases := db.books.leases.modify k p } ∧
      Transaction.commit DbWrite.apply raise rest db₁ = .ok db' := by
  obtain ⟨db₁, hwrite, h⟩ := Transaction.commit_write.mp h
  obtain ⟨leases, hleases, hbooks⟩ := books_lease hwrite
  obtain ⟨-, rfl⟩ := Table.apply_update.mp hleases
  exact ⟨db₁, hbooks, h⟩

theorem commit_requestUpdate {kind : MoveRequestKind} {k : Id} {p : Patch MoveRequest.id}
    (h : Transaction.commit DbWrite.apply raise (.write (.moveRequest kind (.update k p)) :: rest)
      db = .ok db') :
    ∃ db₁, db₁.books = db.books.withRequests kind ((db.books.requests kind).modify k p) ∧
      Transaction.commit DbWrite.apply raise rest db₁ = .ok db' := by
  obtain ⟨db₁, hwrite, h⟩ := Transaction.commit_write.mp h
  obtain ⟨requests, hrequests, hbooks⟩ := books_moveRequest hwrite
  obtain ⟨-, rfl⟩ := Table.apply_update.mp hrequests
  exact ⟨db₁, hbooks, h⟩

theorem commit_activityOnly {row : LeaseActivity}
    (h : Transaction.commit DbWrite.apply raise [.write (.activity row)] db = .ok db') :
    db'.books = db.books :=
  commit_quiet (Plan.isQuiet_write rfl Plan.isQuiet_nil) h

theorem commit_cancel {l : Lease} {reason : Option String}
    (h : Transaction.commit DbWrite.apply raise (cancelContractStatements env user l reason) db =
      .ok db') : Cancels env l db db' := by
  have hrows := commit_activity h
  obtain ⟨db₁, hbooks₁, h⟩ := commit_cancelRequests h
  obtain ⟨db₂, hbooks₂, h⟩ := commit_cancelRequests h
  obtain ⟨db₃, hbooks₃, h⟩ := commit_leaseUpdate h
  refine ⟨?_, hrows, recorded_of_commit h⟩
  rw [commit_activityOnly h, hbooks₃, hbooks₂, hbooks₁]
  rfl

theorem commit_complete {l : Lease} {r : MoveRequest}
    (h : Transaction.commit DbWrite.apply raise (completeMoveOutStatements env user l r) db =
      .ok db') : Completes env l r db db' := by
  have hrows := commit_activity h
  obtain ⟨db₁, hbooks₁, h⟩ := commit_requestUpdate h
  by_cases hearly : r.requestedMoveAt < l.leaseEndDate
  · rw [if_pos hearly] at h
    obtain ⟨db₂, hbooks₂, h⟩ := commit_leaseUpdate h
    refine ⟨?_, hrows, fun _ => recorded_of_commit h⟩
    rw [commit_activityOnly h, hbooks₂, hbooks₁, if_pos hearly]
    rfl
  · rw [if_neg hearly] at h
    refine ⟨?_, hrows, fun hlt => absurd hlt hearly⟩
    rw [← Transaction.commit_nil.mp h, hbooks₁, if_neg hearly]
    rfl

theorem commit_extras (hextra : Plan.IsExtra plan)
    (h : Transaction.commit DbWrite.apply raise plan db = .ok db') :
    ∃ parkingAllocations : Table ParkingAllocation.id,
      (∀ a ∈ parkingAllocations, a ∈ db.books.parkingAllocations ∨ a.endDate = none) ∧
        db'.books = { db.books with parkingAllocations } := by
  refine Transaction.commit_rel (R := fun db db' : Db =>
    ∃ parkingAllocations : Table ParkingAllocation.id,
      (∀ a ∈ parkingAllocations, a ∈ db.books.parkingAllocations ∨ a.endDate = none) ∧
        db'.books = { db.books with parkingAllocations })
    (fun db => ⟨_, fun a ha => .inl ha, rfl⟩) ?_ ?_ h
  · rintro a b c ⟨t, ht, hb⟩ ⟨u, hu, hc⟩
    refine ⟨u, fun x hx => ?_, by rw [hc, hb]⟩
    rcases hu x hx with hx | hx
    · rw [hb] at hx
      exact ht x hx
    · exact .inr hx
  · intro w hw s s' happly
    rcases DbWrite.isExtra_cases (hextra w hw) with ⟨a, rfl, hopen⟩ | hquiet
    · obtain ⟨t, ht, hbooks⟩ := books_parkingAllocation happly
      refine ⟨t, fun x hx => ?_, hbooks⟩
      rcases (Table.mem_insert (Table.apply_create.mp ht)).mp hx with hx | rfl
      · exact .inl hx
      · exact .inr hopen
    · exact ⟨_, fun a ha => .inl ha, books_quiet hquiet happly⟩

end Commits

section Certain

variable {env : Env} {db : Db} {user : Option AuthenticatedUser} {raise : DbError → HttpException}

theorem exists_lease_write {w : Table.Write Lease.id} {t : Table Lease.id}
    (happly : w.apply db.leases.table = (.ok t : Except DbError _)) (hcheck : leaseCheck t = none) :
    ∃ db', (DbWrite.lease w).apply db = .ok db' := by
  obtain ⟨leases, hwrite⟩ := Constrained.exists_write happly hcheck
  exact ⟨{ db with leases }, Outcome.map_eq_ok.mpr ⟨leases, hwrite, rfl⟩⟩

theorem exists_moveRequest_write {kind : MoveRequestKind} {w : Table.Write MoveRequest.id}
    {t : Table MoveRequest.id}
    (happly : w.apply (db.moveRequests kind).table = (.ok t : Except DbError _))
    (hcheck : moveRequestCheck t = none) :
    ∃ db', (DbWrite.moveRequest kind w).apply db = .ok db' := by
  obtain ⟨requests, hwrite⟩ := Constrained.exists_write happly hcheck
  exact ⟨db.withMoveRequests kind requests, Outcome.map_eq_ok.mpr ⟨requests, hwrite, rfl⟩⟩

theorem exists_leaseStatusSet {k : Id} {status : LeaseStatus}
    (hl : ∃ l ∈ db.books.leases, l.id = k) :
    ∃ db', (DbWrite.lease (.update k (leaseStatusSet env.now status))).apply db = .ok db' := by
  obtain ⟨l, hl, rfl⟩ := hl
  obtain ⟨hoccupancy, hijari⟩ := leaseCheck_eq_none.mp db.leases.valid
  have hcheck : leaseCheck (db.leases.table.modify l.id (leaseStatusSet env.now status)) = none :=
    leaseCheck_eq_none.mpr ⟨hoccupancy.modify_of_le hl (.inr rfl),
      hijari.modify_of_le hl (.inr rfl)⟩
  exact exists_lease_write (Table.apply_update.mpr ⟨⟨l, hl, rfl⟩, rfl⟩) hcheck

theorem exists_cancelRequests (kind : MoveRequestKind) (l : Lease) :
    ∃ db', (DbWrite.moveRequest kind (cancelRequestsWrite env.now l)).apply db = .ok db' := by
  have hcheck : moveRequestCheck (cancelOpen env.now l (db.moveRequests kind).table) = none :=
    moveRequestCheck_eq_none.mpr
      ((db.moveRequests kind).pending_unique.modifyWhere_of_le fun _ _ _ => .inl rfl)
  exact exists_moveRequest_write (Table.apply_updateMany.mpr rfl) hcheck

theorem exists_completeRequest {kind : MoveRequestKind} {r : MoveRequest}
    (hr : r ∈ db.books.requests kind) :
    ∃ db', (DbWrite.moveRequest kind (.update r.id (requestStatusSet env.now .COMPLETED))).apply
      db = .ok db' := by
  rw [Db.requests_books] at hr
  have hcheck : moveRequestCheck ((db.moveRequests kind).table.modify r.id
      (requestStatusSet env.now .COMPLETED)) = none :=
    moveRequestCheck_eq_none.mpr
      ((db.moveRequests kind).pending_unique.modify_of_le hr (.inl rfl))
  exact exists_moveRequest_write (Table.apply_update.mpr ⟨⟨r, hr, rfl⟩, rfl⟩) hcheck

theorem exists_commit_activity {row : LeaseActivity} :
    ∃ db', Transaction.commit DbWrite.apply raise [.write (.activity row)] db = .ok db' :=
  Transaction.exists_commit_write rfl ⟨_, rfl⟩

theorem exists_occupancyEnded (k : Id) (endAt : Date) :
    ∃ db', (DbWrite.occupancy (.updateMany (fun o => o.id = k)
      (occupancyEnded env.now endAt))).apply db = .ok db' := by
  obtain ⟨hunit, hresident, hends⟩ := occupancyCheck_eq_none.mp db.occupancies.valid
  have hcheck : occupancyCheck (db.occupancies.table.modifyWhere (fun o => o.id = k)
      (occupancyEnded env.now endAt)) = none := by
    refine occupancyCheck_eq_none.mpr ⟨hunit.modifyWhere_of_le fun _ _ _ => .inl rfl,
      hresident.modifyWhere_of_le fun _ _ _ => .inl rfl, fun o ho => ?_⟩
    rcases Table.mem_modifyWhere.mp ho with ⟨x, hx, -, rfl⟩ | ⟨ho, -⟩
    · simp [occupancyEnded]
    · exact hends o ho
  obtain ⟨occupancies, hwrite⟩ := Constrained.exists_write (Table.apply_updateMany.mpr rfl) hcheck
  exact ⟨{ db with occupancies }, Outcome.map_eq_ok.mpr ⟨occupancies, hwrite, rfl⟩⟩

theorem exists_leaseEnded {l : Lease} (settlement : MoveOutSettlement)
    (hl : l ∈ db.books.leases) :
    ∃ db', (DbWrite.lease (.update l.id (leaseEnded env.now settlement))).apply db = .ok db' := by
  obtain ⟨hoccupancy, hijari⟩ := leaseCheck_eq_none.mp db.leases.valid
  have hcheck : leaseCheck (db.leases.table.modify l.id (leaseEnded env.now settlement)) = none :=
    leaseCheck_eq_none.mpr ⟨hoccupancy.modify_of_le hl (.inr rfl),
      hijari.modify_of_le hl (.inr rfl)⟩
  exact exists_lease_write (Table.apply_update.mpr ⟨⟨l, hl, rfl⟩, rfl⟩) hcheck

theorem exists_commit_moveOut {l : Lease} {occupancyId : Id} {endAt : Date}
    {settlement : MoveOutSettlement} {dto : MoveOutDto} (hl : l ∈ db.books.leases) :
    ∃ db', Transaction.commit DbWrite.apply raise
      (moveOutStatements env user l occupancyId endAt settlement dto) db = .ok db' := by
  have hitems : ∀ (flag : Option Bool) (write : Table.Write AccessItem.key → DbWrite)
      (hquiet : ∀ w, (write w).isQuiet = true)
      (hsure : ∀ db, ∃ db', (write (itemsReturnedWrite l.id env.now)).apply db = .ok db') (db : Db),
      ∃ db', Transaction.commit DbWrite.apply raise
        (if flag = some false then [] else [.write (write (itemsReturnedWrite l.id env.now))]) db =
          .ok db' ∧ db'.books = db.books := by
    intro flag write hquiet hsure db
    split_ifs
    · exact ⟨db, rfl, rfl⟩
    · obtain ⟨db', hwrite⟩ := hsure db
      exact ⟨db', Transaction.commit_write.mpr ⟨db', hwrite, rfl⟩, books_quiet (hquiet _) hwrite⟩
  obtain ⟨db₁, h₁, hbooks₁⟩ := hitems dto.markAllAccessCardsReturned .accessCard (fun _ => rfl)
    (fun db => ⟨_, rfl⟩) db
  obtain ⟨db₂, h₂, hbooks₂⟩ := hitems dto.markAllParkingStickersReturned .parkingSticker
    (fun _ => rfl) (fun db => ⟨_, rfl⟩) db₁
  refine Transaction.exists_commit_append (Transaction.commit_append.mpr ⟨db₁, h₁, h₂⟩) ?_
  obtain ⟨db₃, h₃⟩ : ∃ db₃, (DbWrite.parkingAllocation (.updateMany
      (fun a => a.orgId = l.orgId ∧ a.occupancyId = some occupancyId ∧ a.endDate = none)
      (allocationEnded endAt))).apply db₂ = .ok db₃ := ⟨_, rfl⟩
  obtain ⟨db₄, h₄⟩ := @exists_occupancyEnded env db₃ occupancyId endAt
  have hl₄ : l ∈ db₄.books.leases := by
    obtain ⟨allocations, -, hbooks₃⟩ := books_parkingAllocation h₃
    obtain ⟨occupancies, -, hbooks₄⟩ := books_occupancy h₄
    rw [hbooks₄, hbooks₃, hbooks₂, hbooks₁]
    exact hl
  obtain ⟨db₅, h₅⟩ := exists_leaseEnded settlement hl₄
  exact Transaction.exists_commit_write h₃ (Transaction.exists_commit_write h₄
    (Transaction.exists_commit_write h₅
      (Transaction.exists_commit_write rfl exists_commit_activity)))

theorem exists_commit_cancel {l : Lease} {reason : Option String}
    (hl : ∃ x ∈ db.books.leases, x.id = l.id) :
    ∃ db', Transaction.commit DbWrite.apply raise (cancelContractStatements env user l reason) db =
      .ok db' := by
  obtain ⟨db₁, h₁⟩ := @exists_cancelRequests env db .MOVE_IN l
  obtain ⟨db₂, h₂⟩ := @exists_cancelRequests env db₁ .MOVE_OUT l
  have hsame : db₂.books.leases = db.books.leases := by
    obtain ⟨t, -, hbooks₁⟩ := books_moveRequest h₁
    obtain ⟨u, -, hbooks₂⟩ := books_moveRequest h₂
    rw [hbooks₂, Books.leases_withRequests, hbooks₁, Books.leases_withRequests]
  obtain ⟨db₃, h₃⟩ := @exists_leaseStatusSet env db₂ l.id .CANCELLED (hsame ▸ hl)
  exact Transaction.exists_commit_write h₁ (Transaction.exists_commit_write h₂
    (Transaction.exists_commit_write h₃ exists_commit_activity))

theorem exists_commit_complete {l : Lease} {r : MoveRequest}
    (hl : ∃ x ∈ db.books.leases, x.id = l.id) (hr : r ∈ db.books.requests .MOVE_OUT) :
    ∃ db', Transaction.commit DbWrite.apply raise (completeMoveOutStatements env user l r) db =
      .ok db' := by
  obtain ⟨db₁, h₁⟩ := @exists_completeRequest env db .MOVE_OUT r hr
  refine Transaction.exists_commit_write h₁ ?_
  split_ifs
  · have hsame : db₁.books.leases = db.books.leases := by
      obtain ⟨t, -, hbooks⟩ := books_moveRequest h₁
      rw [hbooks, Books.leases_withRequests]
    obtain ⟨db₂, h₂⟩ := @exists_leaseStatusSet env db₁ l.id .CANCELLED (hsame ▸ hl)
    exact Transaction.exists_commit_write h₂ exists_commit_activity
  · exact ⟨_, rfl⟩

end Certain

section Calls

variable {env : Env} {op : Operation} {db : Db} {user : Option AuthenticatedUser}

/-- A call throws and changes nothing, or it returns and has its effect. -/
def Does (env : Env) (op : Operation) (db : Db) : EStateM.Result HttpException Db Unit → Prop :=
  Transaction.Ends (fun db' => db' = db) fun _ db' => Effect env db db' op

theorem createDraftContract_does (buildingId : Id) (dto : CreateContractDto) :
    Does env (.createDraftContract user buildingId dto) db
      (transaction (fun db => createDraftContract env db user buildingId dto) db) := by
  refine Transaction.ends_transaction rfl fun ss db' hplan h => ?_
  obtain ⟨building, unit, resident, l, terms, hlease, hperiod, hquiet, rfl⟩ :=
    createDraftContract_ok hplan
  obtain ⟨db₂, h₂, h⟩ := Transaction.commit_append.mp h
  obtain ⟨db₁, hwrite, hterms⟩ := Transaction.commit_write.mp h₂
  obtain ⟨leases, hleases, hbooks₁⟩ := books_lease hwrite
  have hbooks₂ := commit_quiet hquiet hterms
  obtain ⟨db₃, hhistory, h⟩ := Transaction.commit_write.mp h
  obtain rfl := Transaction.commit_nil.mp h
  refine .draft building unit resident l leases hlease hperiod (Table.apply_create.mp hleases) ?_
  rw [books_history hhistory, hbooks₂, hbooks₁]

theorem updateContract_does (contractId : Id) (dto : UpdateContractDto) :
    Does env (.updateContract user contractId dto) db
      (transaction (fun db => updateContract env db user contractId dto) db) := by
  refine Transaction.ends_transaction rfl fun ss db' hplan h => ?_
  obtain ⟨l, hl, rfl, data, hchecked, rfl⟩ := updateContract_ok hplan
  obtain ⟨db₁, hbooks, h⟩ := commit_leaseChange hl h
  obtain rfl := Transaction.commit_nil.mp h
  exact .editContract l data hl hchecked hbooks

theorem updateLease_does (leaseId : Id) (dto : UpdateLeaseDto) :
    Does env (.updateLease user leaseId dto) db (updateLease env user leaseId dto db) := by
  refine Transaction.ends_read_bind rfl ?_
  rintro ⟨l, data⟩ hread
  obtain ⟨hl, rfl, hchecked⟩ := leaseToUpdate_ok hread
  refine Transaction.ends_transaction_bind rfl fun ss db₁ hplan h₁ => ?_
  obtain ⟨columns, hcolumns, rfl⟩ := updateLeaseForOrg_ok hplan
  -- the id alone decides which row the update finds
  have hrow : ∀ x ∈ db.books.leases, decide (x.id = l.id ∧ x.orgId = l.orgId) = true ↔
      x.id = l.id := by
    intro x hx
    rw [decide_eq_true_iff]
    refine ⟨And.left, fun hid => ⟨hid, ?_⟩⟩
    rw [Table.eq_of_key_eq hx hl hid]
  obtain ⟨db₂, hwrite, h₁⟩ := Transaction.commit_write.mp h₁
  obtain rfl := Transaction.commit_nil.mp h₁
  obtain ⟨leases, hleases, hbooks⟩ := books_lease hwrite
  obtain rfl := Table.apply_updateMany.mp hleases
  rw [Table.modifyWhere_eq_modify hrow] at hbooks
  have hafter : db₂.books.leases.findUnique l.id =
      some ((leaseUpdated env.now columns).apply l) := by
    rw [hbooks]
    exact Table.findUnique_modify hl
  refine Transaction.ends_transaction_of_commits rfl
    (Transaction.exists_commit_write rfl ⟨_, rfl⟩) fun db' h => ?_
  obtain ⟨db₃, hset, h⟩ := Transaction.commit_write.mp h
  obtain rfl := Transaction.commit_nil.mp h
  refine .editLease l data columns hl hchecked hcolumns ?_
  rw [books_changeSet hafter hset, hbooks]

theorem replaceAdditionalTerms_does (contractId : Id) (terms : List String) :
    Does env (.replaceAdditionalTerms user contractId terms) db
      (transaction (fun db => replaceAdditionalTerms env db user contractId terms) db) :=
  Transaction.ends_transaction rfl fun _ _ hplan h =>
    .replaceTerms (commit_quiet (replaceAdditionalTerms_ok hplan) h)

theorem activateContract_does (contractId : Id) :
    Does env (.activateContract user contractId) db
      (transaction (fun db => activateContract env db user contractId) db) := by
  refine Transaction.ends_transaction rfl fun ss db' hplan h => ?_
  obtain ⟨l, hl, rfl, hended, rfl⟩ := activateContract_ok hplan
  by_cases hactive : l.status = .ACTIVE
  · rw [if_pos hactive] at h
    obtain rfl := Transaction.commit_nil.mp h
    exact .activated l hl hactive rfl
  · rw [if_neg hactive] at h
    obtain ⟨db₁, hbooks, h⟩ := commit_leaseUpdate h
    refine .activate l hl hended hactive ?_ (recorded_of_commit h)
    rw [commit_activityOnly h, hbooks]

theorem MovesOut.exists_mem {l : Lease} {occupancyId : Id} {endAt : Date} {db' : Db}
    (h : MovesOut env user l occupancyId endAt db db') : ∃ x ∈ db'.books.leases, x.id = l.id := by
  obtain ⟨settlement, hbooks⟩ := h.books
  rw [hbooks]
  exact ⟨_, Table.apply_mem_modify h.mem, rfl⟩

theorem moveOut_same {l : Lease} {endAt : Date} {db' : Db} {plan : Plan}
    {raise : DbError → HttpException} (hl : l ∈ db.books.leases)
    (hplan : moveOut env db user l.buildingId l.id (.at endAt) = .ok plan)
    (h : Transaction.commit DbWrite.apply raise plan db = .ok db') :
    ∃ occupancyId, MovesOut env user l occupancyId endAt db db' := by
  obtain ⟨x, hx, hid, -, -, hactive, occupancyId, date, settlement, hlinked, hend, -, rfl⟩ :=
    moveOut_ok hplan
  obtain rfl := Table.eq_of_key_eq hx hl hid
  obtain rfl : endAt = date := Option.some.inj (Outcome.orThrow_eq_ok.mp hend)
  exact ⟨occupancyId, commit_moveOut hx hactive hlinked h⟩

theorem cancelContract_does (contractId : Id) (reason : Option String) :
    Does env (.cancelContract user contractId reason) db
      (cancelContract env user contractId reason db) := by
  refine Transaction.ends_read_bind rfl fun l hread => ?_
  obtain ⟨hl, rfl, -, hended⟩ := cancellableContract_ok hread
  by_cases hoccupied : l.status = .ACTIVE ∧ l.occupancyId.isSome
  · rw [if_pos hoccupied]
    refine Transaction.ends_transaction_bind rfl fun ss db₁ hplan h₁ => ?_
    obtain ⟨occupancyId, hout⟩ := moveOut_same hl hplan h₁
    exact Transaction.ends_transaction_of_commits rfl (exists_commit_cancel hout.exists_mem)
      fun db' h => .moveOutAndCancel l occupancyId db₁ hout (commit_cancel h)
  · rw [if_neg hoccupied]
    exact Transaction.ends_transaction_of_commits rfl (exists_commit_cancel ⟨l, hl, rfl⟩)
      fun db' h => .cancel l hl hended hoccupied (commit_cancel h)

theorem createMoveRequest_does {kind : MoveRequestKind} {l : Lease} {userId : Id}
    {dto : CreateMoveRequestDto} {alreadyOpen : String} {action : LeaseActivityAction}
    {plan : Plan} {db' : Db} {raise : DbError → HttpException} (hop : op.asks = some kind)
    (hcontract : op.asksAbout = some l.id) (hl : l ∈ db.books.leases) (hactive : l.status = .ACTIVE)
    (hunlinked : kind = .MOVE_IN → l.occupancyId = none)
    (hplan : createMoveRequest env db kind l userId dto alreadyOpen action = .ok plan)
    (h : Transaction.commit DbWrite.apply raise plan db = .ok db') : Effect env db db' op := by
  obtain ⟨hnone, r, rest, hid, hcreated, hlease, horg, hpending, hquiet, rfl⟩ :=
    createMoveRequest_ok hplan
  obtain ⟨db₁, hwrite, h⟩ := Transaction.commit_write.mp h
  obtain ⟨requests, hrequests, hbooks⟩ := books_moveRequest hwrite
  refine .ask kind hop l r requests hl hactive hunlinked hnone hlease horg hpending
    (Table.apply_create.mp hrequests) ?_ hcontract ⟨hid, hcreated⟩
  rw [commit_quiet hquiet h, hbooks]

theorem createResidentMoveInRequest_does (contractId : Id) (dto : CreateMoveRequestDto) :
    Does env (.createResidentMoveInRequest user contractId dto) db
      (transaction (fun db => createResidentMoveInRequest env db user contractId dto) db) := by
  refine Transaction.ends_transaction rfl fun ss db' hplan h => ?_
  obtain ⟨l, hl, rfl, hactive, hunlinked, userId, hplan⟩ := createResidentMoveInRequest_ok hplan
  exact createMoveRequest_does rfl rfl hl hactive (fun _ => hunlinked) hplan h

theorem createResidentMoveOutRequest_does (contractId : Id) (dto : CreateMoveRequestDto) :
    Does env (.createResidentMoveOutRequest user contractId dto) db
      (transaction (fun db => createResidentMoveOutRequest env db user contractId dto) db) := by
  refine Transaction.ends_transaction rfl fun ss db' hplan h => ?_
  obtain ⟨l, hl, rfl, hactive, userId, hplan⟩ := createResidentMoveOutRequest_ok hplan
  exact createMoveRequest_does rfl rfl hl hactive (fun hkind => by cases hkind) hplan h

theorem reviewMoveRequest_does {kind : MoveRequestKind} {subject : String} {requestId : Id}
    {status : MoveRequestStatus} {rejectionReason : Option String} {action : LeaseActivityAction}
    {payload : List (String × JsonValue)} (hop : op.reviews = some kind)
    (hstatus : status = .APPROVED ∨ status = .REJECTED) :
    Does env op db (transaction (fun db => reviewMoveRequest env db kind subject user requestId
      status rejectionReason action payload) db) := by
  refine Transaction.ends_transaction rfl fun ss db' hplan h => ?_
  obtain ⟨r, hr, -, hpending, row, rfl⟩ := reviewMoveRequest_ok hplan
  obtain ⟨db₁, hbooks, h⟩ := commit_requestUpdate h
  refine .review kind hop r status (user.map (·.sub)) rejectionReason hr hpending hstatus ?_
  rw [commit_activityOnly h, hbooks]

theorem executeApprovedMoveIn_does (contractId : Id) :
    Does env (.executeApprovedMoveIn user contractId) db
      (transaction (fun db => executeApprovedMoveIn env db user contractId) db) := by
  refine Transaction.ends_transaction rfl fun ss db' hplan h => ?_
  obtain ⟨l, hl, rfl, hactive, hunlinked, residentUserId, hresident, r, hr, horg, hlease, happroved,
    row, rfl⟩ := executeApprovedMoveIn_ok hplan
  obtain ⟨db₁, hoccupancy, h⟩ := Transaction.commit_write.mp h
  obtain ⟨occupancies, hoccupancies, hbooks₁⟩ := books_occupancy hoccupancy
  obtain ⟨db₂, hbooks₂, h⟩ := commit_leaseUpdate h
  obtain ⟨db₃, hbooks₃, h⟩ := commit_requestUpdate h
  refine .executeMoveIn l residentUserId r occupancies hl hactive hunlinked hr horg hlease happroved
    (Table.apply_create.mp hoccupancies) ?_ hresident
  rw [commit_activityOnly h, hbooks₃, hbooks₂, hbooks₁]
  rfl

theorem executeApprovedMoveOut_does (contractId : Id) :
    Does env (.executeApprovedMoveOut user contractId) db
      (executeApprovedMoveOut env user contractId db) := by
  refine Transaction.ends_read_bind rfl ?_
  rintro ⟨l, r⟩ hread
  obtain ⟨hl, rfl, -, hfound⟩ := approvedMoveOut_ok hread
  obtain ⟨hr, -, -, -⟩ := findApprovedRequest_some hfound
  refine Transaction.ends_transaction_bind rfl fun ss db₁ hplan h₁ => ?_
  obtain ⟨occupancyId, hout⟩ := moveOut_same hl hplan h₁
  have hrequest : r ∈ db₁.books.requests .MOVE_OUT := by
    obtain ⟨settlement, hbooks⟩ := hout.books
    rw [hbooks]
    exact hr
  exact Transaction.ends_transaction_of_commits rfl (exists_commit_complete hout.exists_mem hrequest)
    fun db' h => .executeMoveOut l r occupancyId db₁ hfound hout (commit_complete h)

theorem moveIn_does (buildingId : Id) (dto : MoveInDto) :
    Does env (.moveIn user buildingId dto) db
      (Transaction.transaction DbWrite.apply (mapMoveInError dto)
        (fun db => moveIn env db user buildingId dto) db) := by
  refine Transaction.ends_transaction rfl fun ss db' hplan h => ?_
  obtain ⟨residentUserId, l, newUser, extras, hlease, hquiet, hextra, rfl⟩ := moveIn_ok hplan
  obtain ⟨db₁, hnew, h⟩ := Transaction.commit_append.mp h
  have hbooks₁ := commit_quiet hquiet hnew
  obtain ⟨db₂, hoccupancy, h⟩ := Transaction.commit_write.mp h
  obtain ⟨occupancies, hoccupancies, hbooks₂⟩ := books_occupancy hoccupancy
  obtain ⟨db₃, hwrite, h⟩ := Transaction.commit_write.mp h
  obtain ⟨leases, hleases, hbooks₃⟩ := books_lease hwrite
  obtain ⟨db₄, hhistory, h⟩ := Transaction.commit_write.mp h
  have hbooks₄ := books_history hhistory
  obtain ⟨parkingAllocations, hallocations, hbooks₅⟩ := commit_extras hextra h
  rw [hbooks₁] at hoccupancies
  rw [hbooks₂, hbooks₁] at hleases
  rw [hbooks₄, hbooks₃, hbooks₂, hbooks₁] at hallocations hbooks₅
  exact .moveIn residentUserId l leases occupancies parkingAllocations hlease
    (Table.apply_create.mp hoccupancies) (Table.apply_create.mp hleases) hallocations hbooks₅

theorem moveOut_does (buildingId leaseId : Id) (dto : MoveOutDto) :
    Does env (.moveOut user buildingId leaseId dto) db
      (transaction (fun db => moveOut env db user buildingId leaseId dto) db) := by
  refine Transaction.ends_transaction rfl fun ss db' hplan h => ?_
  obtain ⟨l, hl, rfl, rfl, -, hactive, occupancyId, endAt, settlement, hlinked, hend, -, rfl⟩ :=
    moveOut_ok hplan
  exact .moveOut l occupancyId endAt hend (commit_moveOut hl hactive hlinked h)

theorem call_does (env : Env) (op : Operation) (db : Db) : Does env op db (call env op db) := by
  cases op with
  | createDraftContract user buildingId dto => exact createDraftContract_does buildingId dto
  | updateContract user contractId dto => exact updateContract_does contractId dto
  | updateLease user leaseId dto => exact updateLease_does leaseId dto
  | replaceAdditionalTerms user contractId terms =>
    exact replaceAdditionalTerms_does contractId terms
  | activateContract user contractId => exact activateContract_does contractId
  | cancelContract user contractId reason => exact cancelContract_does contractId reason
  | createResidentMoveInRequest user contractId dto =>
    exact createResidentMoveInRequest_does contractId dto
  | createResidentMoveOutRequest user contractId dto =>
    exact createResidentMoveOutRequest_does contractId dto
  | approveMoveInRequest user requestId => exact reviewMoveRequest_does rfl (.inl rfl)
  | rejectMoveInRequest user requestId dto => exact reviewMoveRequest_does rfl (.inr rfl)
  | approveMoveOutRequest user requestId => exact reviewMoveRequest_does rfl (.inl rfl)
  | rejectMoveOutRequest user requestId dto => exact reviewMoveRequest_does rfl (.inr rfl)
  | executeApprovedMoveIn user contractId => exact executeApprovedMoveIn_does contractId
  | executeApprovedMoveOut user contractId => exact executeApprovedMoveOut_does contractId
  | moveIn user buildingId dto => exact moveIn_does buildingId dto
  | moveOut user buildingId leaseId dto => exact moveOut_does buildingId leaseId dto

theorem next_of_succeeds (h : Succeeds env op db) : Effect env db (next (env, op) db) op :=
  ends_of_returned (call_does env op db) h

theorem next_of_fails (h : ¬ Succeeds env op db) : next (env, op) db = db :=
  ends_of_thrown (call_does env op db) h

theorem next_cases (env : Env) (op : Operation) (db : Db) :
    next (env, op) db = db ∨ Effect env db (next (env, op) db) op := by
  by_cases h : Succeeds env op db
  · exact .inr (next_of_succeeds h)
  · exact .inl (next_of_fails h)

theorem call_activity (env : Env) (op : Operation) (db : Db) :
    Transaction.Ends (fun db' : Db => db.activity ⊆ db'.activity)
      (fun _ db' => db.activity ⊆ db'.activity) (call env op db) := by
  have hkeep : ∀ (raise : DbError → HttpException) (plan : Db → Result Plan) (db₁ : Db),
      db.activity ⊆ db₁.activity →
      Transaction.Ends (fun db' : Db => db.activity ⊆ db'.activity)
        (fun _ db' => db.activity ⊆ db'.activity)
        (Transaction.transaction DbWrite.apply raise plan db₁) :=
    fun raise plan db₁ h => Transaction.ends_transaction h fun ss db' _ hcommit =>
      List.Subset.trans h (commit_activity hcommit)
  have hrefl := List.Subset.refl db.activity
  cases op with
  | updateLease user leaseId dto =>
    refine Transaction.ends_read_bind hrefl ?_
    rintro ⟨l, data⟩ -
    exact Transaction.ends_transaction_bind hrefl fun ss db₁ _ hcommit =>
      hkeep _ _ db₁ (commit_activity hcommit)
  | cancelContract user contractId reason =>
    refine Transaction.ends_read_bind hrefl fun l _ => ?_
    split_ifs
    · exact Transaction.ends_transaction_bind hrefl fun ss db₁ _ hcommit =>
        hkeep _ _ db₁ (commit_activity hcommit)
    · exact hkeep _ _ db hrefl
  | executeApprovedMoveOut user contractId =>
    refine Transaction.ends_read_bind hrefl ?_
    rintro ⟨l, r⟩ -
    exact Transaction.ends_transaction_bind hrefl fun ss db₁ _ hcommit =>
      hkeep _ _ db₁ (commit_activity hcommit)
  | _ =>
    dsimp only [call]
    exact hkeep _ _ db hrefl

theorem next_activity (env : Env) (op : Operation) (db : Db) :
    db.activity ⊆ (next (env, op) db).activity := by
  have hends := call_activity env op db
  unfold next
  cases hcall : call env op db with
  | ok u db' =>
    rw [hcall] at hends
    exact hends
  | error e db' =>
    rw [hcall] at hends
    exact hends

theorem Effect.activated_row {contractId : Id} {l : Lease} {db' : Db}
    (h : Effect env db db' (.activateContract user contractId)) (hl : l ∈ db.books.leases)
    (hid : l.id = contractId) (hactive : l.status ≠ .ACTIVE) :
    db'.books.leases = db.books.leases.modify l.id (leaseStatusSet env.now .ACTIVE) := by
  cases h with
  | activated x hx hxactive hbooks =>
    exact absurd (Table.eq_of_key_eq hx hl hid.symm ▸ hxactive) hactive
  | activate x hx hended hxactive hbooks hrecorded => rw [hbooks, hid]
  | ask kind hop => cases hop
  | review kind hop => cases hop

end Calls

end Towerdesk.Leases
