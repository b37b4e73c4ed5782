import Towerdesk.Leases.Books

/-!
# The plans of the operations

For each operation, what its checks have established once it has a plan, and the plan.
-/

namespace Towerdesk.Leases

variable {env : Env} {db : Db} {user : Option AuthenticatedUser} {plan : Plan}

theorem findContractOrThrow_ok {orgId contractId : Id} {l : Lease}
    (h : findContractOrThrow db orgId contractId = .ok l) :
    l ∈ db.books.leases ∧ l.id = contractId ∧ l.orgId = orgId := by
  obtain ⟨hl, hp⟩ := Table.findFirst_some (Outcome.orThrow_eq_ok.mp h)
  exact ⟨hl, by simpa using hp⟩

section Quiet

@[simp] theorem isQuiet_moveInActivity (l : Lease) (action : LeaseActivityAction)
    (payload : List (String × JsonValue)) :
    (moveInActivity env user l action payload).isQuiet = true := rfl

def Plan.IsQuiet (plan : Plan) : Prop := ∀ w ∈ Transaction.writes plan, w.isQuiet = true

theorem Plan.isQuiet_map {α : Type} (as : List α) (f : α → DbWrite)
    (h : ∀ a, (f a).isQuiet = true) : Plan.IsQuiet (as.map fun a => .write (f a)) := by
  intro w hw
  rw [Transaction.writes_map] at hw
  obtain ⟨a, -, rfl⟩ := List.mem_map.mp hw
  exact h a

theorem Plan.isQuiet_append {p q : Plan} (hp : Plan.IsQuiet p) (hq : Plan.IsQuiet q) :
    Plan.IsQuiet (p ++ q) := by
  intro w hw
  rw [Transaction.writes_append] at hw
  rcases List.mem_append.mp hw with hw | hw
  · exact hp w hw
  · exact hq w hw

theorem Plan.isQuiet_nil : Plan.IsQuiet [] := by
  intro w hw
  simp at hw

theorem Plan.isQuiet_write {w : DbWrite} {p : Plan} (hw : w.isQuiet = true)
    (hp : Plan.IsQuiet p) : Plan.IsQuiet (.write w :: p) := by
  intro v hv
  rw [Transaction.writes_write] at hv
  rcases List.mem_cons.mp hv with rfl | hv
  · exact hw
  · exact hp v hv

end Quiet

section Draft

def createdRow (env : Env) (user : Option AuthenticatedUser) (l : Lease) : LeaseHistory :=
  ⟨l.orgId, l.id, .CREATED, user.map (·.sub), buildLeaseCreationChangeSet l, env.now⟩

theorem draftLease_ok {orgId : Id} {building : Building} {unit : UnitRow} {resident : User}
    {dto : CreateContractDto} {l : Lease}
    (h : draftLease env orgId building unit resident dto = .ok l) :
    l.orgId = orgId ∧ l.status = .DRAFT ∧ l.occupancyId = none ∧
      toDateColumn dto.contractPeriodFrom = .ok l.leaseStartDate ∧
      toDateColumn dto.contractPeriodTo = .ok l.leaseEndDate := by
  simp only [draftLease, Outcome.bind_eq_ok, Outcome.pure_eq_ok] at h
  obtain ⟨-, -, -, -, -, -, -, -, -, -, start, hstart, stop, hstop, -, -, rfl⟩ := h
  exact ⟨rfl, rfl, rfl, hstart, hstop⟩

theorem createDraftContract_ok {buildingId : Id} {dto : CreateContractDto}
    (h : createDraftContract env db user buildingId dto = .ok plan) :
    ∃ (building : Building) (unit : UnitRow) (resident : User) (l : Lease) (terms : Plan),
      draftLease env l.orgId building unit resident dto = .ok l ∧
      ¬ dto.contractPeriodTo.le dto.contractPeriodFrom ∧ Plan.IsQuiet terms ∧
      plan = .write (.lease (.create l)) :: terms ++ [.write (.history (createdRow env user l))] := by
  simp only [createDraftContract, Outcome.bind_eq_ok, Outcome.pure_eq_ok,
    Outcome.throwIf_eq_ok] at h
  obtain ⟨orgId, -, building, -, unit, -, resident, -, -, hperiod, -, -, l, hl, rfl⟩ := h
  obtain ⟨rfl, -⟩ := draftLease_ok hl
  exact ⟨building, unit, resident, l, _, hl, hperiod, Plan.isQuiet_map _ _ fun _ => rfl, rfl⟩

theorem replaceAdditionalTerms_ok {contractId : Id} {terms : List String}
    (h : replaceAdditionalTerms env db user contractId terms = .ok plan) : Plan.IsQuiet plan := by
  simp only [replaceAdditionalTerms, Outcome.bind_eq_ok, Outcome.pure_eq_ok] at h
  obtain ⟨orgId, -, l, -, rfl⟩ := h
  exact Plan.isQuiet_write rfl (Plan.isQuiet_map _ _ fun _ => rfl)

end Draft

section Edit

structure ContractEditable (env : Env) (user : Option AuthenticatedUser) (dto : UpdateContractDto)
    (l : Lease) (data : ContractData) : Prop where
  org : assertOrgScope user = .ok l.orgId
  unlocked : ¬ (l.status = .ACTIVE ∧ (truthy l.ijariId).isSome ∧ sendsLegalField dto)
  ordered : ¬ ((dto.contractPeriodFrom.toOption.isSome ∨ dto.contractPeriodTo.toOption.isSome) ∧
    (dateOr dto.contractPeriodTo l.leaseEndDate).le
      (dateOr dto.contractPeriodFrom l.leaseStartDate))
  columns : contractData env dto = .ok data

theorem updateContract_ok {contractId : Id} {dto : UpdateContractDto}
    (h : updateContract env db user contractId dto = .ok plan) :
    ∃ l ∈ db.books.leases, l.id = contractId ∧ ∃ data, ContractEditable env user dto l data ∧
      plan = [.write (.lease (.update l.id (leaseEdited env.now data))),
        .write (.changeSet l .UPDATED (user.map (·.sub)) env.now)] := by
  simp only [updateContract, Outcome.bind_eq_ok, Outcome.pure_eq_ok, Outcome.throwIf_eq_ok] at h
  obtain ⟨orgId, horg, l, hfind, -, hlock, -, hperiod, data, hdata, rfl⟩ := h
  obtain ⟨hl, hid, rfl⟩ := findContractOrThrow_ok hfind
  exact ⟨l, hl, hid, data, ⟨horg, hlock, hperiod, hdata⟩, rfl⟩

structure LeaseEditable (env : Env) (user : Option AuthenticatedUser) (dto : UpdateLeaseDto)
    (l : Lease) (data : LeaseUpdate JsDate ℚ) : Prop where
  org : assertOrgScope user = .ok l.orgId
  sent : buildUpdateData env dto = .ok data
  nonempty : data ≠ .empty
  ordered : ¬ (data.leaseEndDate.getD l.leaseEndDate).le (data.leaseStartDate.getD l.leaseStartDate)

theorem leaseToUpdate_ok {leaseId : Id} {dto : UpdateLeaseDto} {l : Lease}
    {data : LeaseUpdate JsDate ℚ}
    (h : leaseToUpdate env user leaseId dto db = .ok (l, data)) :
    l ∈ db.books.leases ∧ l.id = leaseId ∧ LeaseEditable env user dto l data := by
  simp only [leaseToUpdate, checkedUpdate, Outcome.bind_eq_ok, Outcome.pure_eq_ok,
    Outcome.throwIf_eq_ok, Outcome.orThrow_eq_ok, Prod.mk.injEq] at h
  obtain ⟨orgId, horg, l', hfind, data', ⟨data'', hdata, -, hempty, -, hperiod, rfl⟩, rfl, rfl⟩ := h
  obtain ⟨hl, hp⟩ := Table.findFirst_some hfind
  obtain ⟨hid, rfl⟩ := of_decide_eq_true hp
  exact ⟨hl, hid, horg, hdata, hempty, hperiod⟩

theorem updateLeaseForOrg_ok {l : Lease} {data : LeaseUpdate JsDate ℚ}
    (h : updateLeaseForOrg env l data db = .ok plan) :
    ∃ columns, data.columns = .ok columns ∧
      plan = [.write (.lease (.updateMany (fun x => x.id = l.id ∧ x.orgId = l.orgId)
        (leaseUpdated env.now columns)))] := by
  simp only [updateLeaseForOrg, Outcome.bind_eq_ok, Outcome.pure_eq_ok] at h
  obtain ⟨columns, hcolumns, -, -, rfl⟩ := h
  exact ⟨columns, hcolumns, rfl⟩

end Edit

section Status

theorem activateContract_ok {contractId : Id}
    (h : activateContract env db user contractId = .ok plan) :
    ∃ l ∈ db.books.leases, l.id = contractId ∧ l.status ≠ .ENDED ∧
      plan = if l.status = .ACTIVE then [] else
        [.write (.lease (.update l.id (leaseStatusSet env.now .ACTIVE))),
          .write (.activity ⟨l.orgId, l.id, .CONTRACT_ACTIVATED, user.map (·.sub),
            [("fromStatus", .text l.status.toText), ("toStatus", .text "ACTIVE")], env.now⟩)] := by
  simp only [activateContract, Outcome.bind_eq_ok, Outcome.pure_eq_ok, Outcome.throwIf_eq_ok] at h
  obtain ⟨orgId, -, l, hfind, -, hended, rfl⟩ := h
  obtain ⟨hl, hid, rfl⟩ := findContractOrThrow_ok hfind
  exact ⟨l, hl, hid, hended, rfl⟩

theorem cancellableContract_ok {contractId : Id} {l : Lease}
    (h : cancellableContract user contractId db = .ok l) :
    l ∈ db.books.leases ∧ l.id = contractId ∧ assertOrgScope user = .ok l.orgId ∧
      l.status ≠ .ENDED := by
  simp only [cancellableContract, Outcome.bind_eq_ok, Outcome.pure_eq_ok,
    Outcome.throwIf_eq_ok] at h
  obtain ⟨orgId, horg, l, hfind, -, hended, rfl⟩ := h
  obtain ⟨hl, hid, rfl⟩ := findContractOrThrow_ok hfind
  exact ⟨hl, hid, horg, hended⟩

end Status

section Requests

def NoneOpen (b : Books) (kind : MoveRequestKind) (l : Lease) : Prop :=
  ∀ r ∈ b.requests kind, r.orgId = l.orgId → r.leaseId = l.id → ¬ r.isOpen

theorem isQuiet_notifyMoveRequestCreated (kind : MoveRequestKind) (r : MoveRequest)
    (unitLabel residentName : Option String) :
    Plan.IsQuiet (notifyMoveRequestCreated env db kind r unitLabel residentName) := by
  unfold notifyMoveRequestCreated
  cases kind <;>
  · dsimp only
    split_ifs
    · exact Plan.isQuiet_nil
    · exact Plan.isQuiet_write rfl Plan.isQuiet_nil

theorem createMoveRequest_ok {kind : MoveRequestKind} {l : Lease} {userId : Id}
    {dto : CreateMoveRequestDto} {alreadyOpen : String} {action : LeaseActivityAction}
    (h : createMoveRequest env db kind l userId dto alreadyOpen action = .ok plan) :
    NoneOpen db.books kind l ∧ ∃ (r : MoveRequest) (rest : Plan), r.id = env.ids.request ∧
      r.createdAt = env.now ∧ r.leaseId = l.id ∧ r.orgId = l.orgId ∧ r.status = .PENDING ∧
      Plan.IsQuiet rest ∧ plan = .write (.moveRequest kind (.create r)) :: rest := by
  simp only [createMoveRequest, Outcome.bind_eq_ok, Outcome.pure_eq_ok,
    Outcome.throwIf_eq_ok] at h
  obtain ⟨-, hnone, requestedMoveAt, -, rfl⟩ := h
  refine ⟨fun r hr horg hlease hopen => ?_, _, _, rfl, rfl, rfl, rfl, rfl, ?_, rfl⟩
  · rw [Db.requests_books] at hr
    exact hnone ⟨r, hr, horg, hlease, hopen⟩
  · exact Plan.isQuiet_write rfl (isQuiet_notifyMoveRequestCreated _ _ _ _)

theorem createResidentMoveInRequest_ok {contractId : Id} {dto : CreateMoveRequestDto}
    (h : createResidentMoveInRequest env db user contractId dto = .ok plan) :
    ∃ l ∈ db.books.leases, l.id = contractId ∧ l.status = .ACTIVE ∧ l.occupancyId = none ∧
      ∃ userId, createMoveRequest env db .MOVE_IN l userId dto
        "A move-in request is already pending or approved" .MOVE_IN_REQUEST_CREATED = .ok plan := by
  simp only [createResidentMoveInRequest, Outcome.bind_eq_ok, Outcome.throwIf_eq_ok, not_not] at h
  obtain ⟨orgId, -, userId, -, l, hfind, -, -, -, hactive, -, hunlinked, h⟩ := h
  obtain ⟨hl, hid, -⟩ := findContractOrThrow_ok hfind
  exact ⟨l, hl, hid, hactive, by simpa using hunlinked, userId, h⟩

theorem createResidentMoveOutRequest_ok {contractId : Id} {dto : CreateMoveRequestDto}
    (h : createResidentMoveOutRequest env db user contractId dto = .ok plan) :
    ∃ l ∈ db.books.leases, l.id = contractId ∧ l.status = .ACTIVE ∧
      ∃ userId, createMoveRequest env db .MOVE_OUT l userId dto
        "A move-out request is already pending or approved" .MOVE_OUT_REQUEST_CREATED =
          .ok plan := by
  simp only [createResidentMoveOutRequest, Outcome.bind_eq_ok, Outcome.throwIf_eq_ok, not_not] at h
  obtain ⟨orgId, -, userId, -, l, hfind, -, -, -, hactive, -, -, h⟩ := h
  obtain ⟨hl, hid, -⟩ := findContractOrThrow_ok hfind
  exact ⟨l, hl, hid, hactive, userId, h⟩

theorem reviewMoveRequest_ok {kind : MoveRequestKind} {subject : String} {requestId : Id}
    {status : MoveRequestStatus} {rejectionReason : Option String} {action : LeaseActivityAction}
    {payload : List (String × JsonValue)}
    (h : reviewMoveRequest env db kind subject user requestId status rejectionReason action payload =
      .ok plan) :
    ∃ r ∈ db.books.requests kind, r.id = requestId ∧ r.status = .PENDING ∧ ∃ row,
      plan = [.write (.moveRequest kind (.update r.id
          (requestReviewed env.now status (user.map (·.sub)) rejectionReason))),
        .write (.activity row)] := by
  simp only [reviewMoveRequest, Outcome.bind_eq_ok, Outcome.pure_eq_ok, Outcome.throwIf_eq_ok,
    Outcome.orThrow_eq_ok, not_not] at h
  obtain ⟨orgId, -, r, hfind, -, -, -, hpending, rfl⟩ := h
  obtain ⟨hr, hp⟩ := Table.findFirst_some hfind
  rw [Db.requests_books]
  exact ⟨r, hr, (of_decide_eq_true hp).1, hpending, _, rfl⟩

theorem findApprovedRequest_some {kind : MoveRequestKind} {l : Lease} {r : MoveRequest}
    (h : findApprovedRequest db kind l = some r) :
    r ∈ db.books.requests kind ∧ r.orgId = l.orgId ∧ r.leaseId = l.id ∧ r.status = .APPROVED := by
  have hsorted := List.mem_of_mem_head? (Option.mem_def.mpr h)
  have hfilter := (List.mem_insertionSort _).mp hsorted
  obtain ⟨hr, hp⟩ := List.mem_filter.mp hfilter
  rw [Db.requests_books]
  exact ⟨hr, of_decide_eq_true hp⟩

theorem executeApprovedMoveIn_ok {contractId : Id}
    (h : executeApprovedMoveIn env db user contractId = .ok plan) :
    ∃ l ∈ db.books.leases, l.id = contractId ∧ l.status = .ACTIVE ∧ l.occupancyId = none ∧
      ∃ residentUserId, l.residentUserId = some residentUserId ∧
        ∃ r ∈ db.books.requests .MOVE_IN, r.orgId = l.orgId ∧ r.leaseId = l.id ∧
        r.status = .APPROVED ∧ ∃ row,
        plan = [.write (.occupancy (.create
            (moveInOccupancy env l.buildingId l.unitId residentUserId env.now))),
          .write (.lease (.update l.id (leaseMovedIn env.now env.ids.occupancy))),
          .write (.moveRequest .MOVE_IN (.update r.id (requestStatusSet env.now .COMPLETED))),
          .write (.activity row)] := by
  simp only [executeApprovedMoveIn, Outcome.bind_eq_ok, Outcome.pure_eq_ok, Outcome.throwIf_eq_ok,
    Outcome.orThrow_eq_ok, not_not] at h
  obtain ⟨orgId, -, l, hfind, -, -, -, hactive, -, hunlinked, residentUserId, hresident, r, hr,
    -, -, -, -, rfl⟩ := h
  obtain ⟨hl, hid, -⟩ := findContractOrThrow_ok hfind
  obtain ⟨hmem, horg, hlease, happroved⟩ := findApprovedRequest_some hr
  exact ⟨l, hl, hid, hactive, by simpa using hunlinked, residentUserId, hresident, r, hmem, horg,
    hlease, happroved, _, rfl⟩

theorem approvedMoveOut_ok {contractId : Id} {l : Lease} {r : MoveRequest}
    (h : approvedMoveOut env user contractId db = .ok (l, r)) :
    l ∈ db.books.leases ∧ l.id = contractId ∧ assertOrgScope user = .ok l.orgId ∧
      findApprovedRequest db .MOVE_OUT l = some r := by
  simp only [approvedMoveOut, Outcome.bind_eq_ok, Outcome.pure_eq_ok, Outcome.throwIf_eq_ok,
    Outcome.orThrow_eq_ok, Prod.mk.injEq] at h
  obtain ⟨orgId, horg, l, hfind, -, -, -, -, r, hr, rfl, rfl⟩ := h
  obtain ⟨hl, hid, rfl⟩ := findContractOrThrow_ok hfind
  exact ⟨hl, hid, horg, hr⟩

end Requests

section MoveIn

theorem moveInLease_ok {orgId buildingId unitId : Id} {dto : MoveInDto} {l : Lease}
    (h : moveInLease env orgId buildingId unitId dto = .ok l) :
    l.orgId = orgId ∧ l.status = .ACTIVE ∧ l.occupancyId = some env.ids.occupancy ∧
      l.unitId = unitId ∧ toDateColumn dto.leaseStartDate = .ok l.leaseStartDate ∧
      toDateColumn dto.leaseEndDate = .ok l.leaseEndDate ∧ l.residentUserId = none := by
  simp only [moveInLease, Outcome.bind_eq_ok, Outcome.pure_eq_ok] at h
  obtain ⟨-, -, -, -, -, -, -, -, start, hstart, stop, hstop, -, -, -, -, -, -, rfl⟩ := h
  exact ⟨rfl, rfl, rfl, rfl, hstart, hstop, rfl⟩

theorem resolveResidentUser_ok {orgId residentUserId : Id} {dto : MoveInDto}
    {newUser : Option DbWrite}
    (h : resolveResidentUser env db orgId dto = .ok (residentUserId, newUser)) :
    Plan.IsQuiet (newUser.map .write).toList := by
  unfold resolveResidentUser at h
  split at h
  · simp only [Outcome.bind_eq_ok, Outcome.pure_eq_ok, Prod.mk.injEq] at h
    obtain ⟨-, -, -, rfl⟩ := h
    exact Plan.isQuiet_nil
  · obtain ⟨resident, -, h⟩ := Outcome.bind_eq_ok.mp h
    dsimp only at h
    split at h
    · cases h
    · obtain ⟨-, rfl⟩ := Prod.mk.inj (Except.ok.inj h)
      exact Plan.isQuiet_write rfl Plan.isQuiet_nil

def DbWrite.isExtra : DbWrite → Bool
  | .parkingAllocation (.create a) => a.endDate = none
  | w => w.isQuiet

theorem DbWrite.isExtra_cases {w : DbWrite} (h : w.isExtra = true) :
    (∃ a : ParkingAllocation, w = .parkingAllocation (.create a) ∧ a.endDate = none) ∨
      w.isQuiet = true := by
  unfold DbWrite.isExtra at h
  split at h
  · exact .inl ⟨_, rfl, of_decide_eq_true h⟩
  · exact .inr h

def Plan.IsExtra (plan : Plan) : Prop := ∀ w ∈ Transaction.writes plan, w.isExtra = true

theorem Plan.isExtra_append {p q : Plan} (hp : Plan.IsExtra p) (hq : Plan.IsExtra q) :
    Plan.IsExtra (p ++ q) := by
  intro w hw
  rw [Transaction.writes_append] at hw
  rcases List.mem_append.mp hw with hw | hw
  · exact hp w hw
  · exact hq w hw

theorem Plan.IsQuiet.isExtra {p : Plan} (h : Plan.IsQuiet p) : Plan.IsExtra p := by
  intro w hw
  have hquiet := h w hw
  cases w with
  | parkingAllocation w => simp [DbWrite.isQuiet] at hquiet
  | _ => exact hquiet

theorem isExtra_allocateParkingSlots (orgId buildingId : Id) (slotIds : List Id)
    (startDate : Date) :
    Plan.IsExtra (allocateParkingSlots env orgId buildingId slotIds startDate) := by
  intro w hw
  unfold allocateParkingSlots at hw
  have hmap := Transaction.writes_map (σ := Db) (ε := HttpException) slotIds.zipIdx
    fun p => DbWrite.parkingAllocation (.create {
      id := env.ids.allocation p.2
      orgId
      buildingId
      parkingSlotId := p.1
      occupancyId := some env.ids.occupancy
      unitId := none
      startDate
      endDate := none })
  rw [Transaction.writes_append, Transaction.writes_require, Transaction.writes_require,
    Transaction.writes_nil, List.nil_append, hmap] at hw
  obtain ⟨p, -, rfl⟩ := List.mem_map.mp hw
  rfl

theorem isQuiet_issueItems {items : Db → Table AccessItem.key}
    {write : Table.Write AccessItem.key → DbWrite} (hwrite : ∀ w, (write w).isQuiet = true)
    (duplicate existing : String) (numbers : List String) :
    Plan.IsQuiet (issueItems env items write duplicate existing numbers) := by
  have hcreate := Plan.isQuiet_map (normalizeNames env numbers)
    (fun number => write (.create ⟨env.ids.lease, number, .ISSUED, none⟩)) fun _ => hwrite _
  exact hcreate

/-- The part of a direct move-in that allocates parking. -/
def allocationPlan (env : Env) (user : Option AuthenticatedUser) (l : Lease) (slotIds : List Id) :
    Plan :=
  if slotIds = [] then [] else
    allocateParkingSlots env l.orgId l.buildingId slotIds l.leaseStartDate ++
      [.write (moveInActivity env user l .PARKING_ALLOCATED
        [("slotIds", .texts slotIds), ("count", .number slotIds.length),
          ("occupancyId", .text env.ids.occupancy)])]

theorem isExtra_allocationPlan (l : Lease) (slotIds : List Id) :
    Plan.IsExtra (allocationPlan env user l slotIds) := by
  unfold allocationPlan
  split_ifs
  · exact Plan.isQuiet_nil.isExtra
  · exact Plan.isExtra_append (isExtra_allocateParkingSlots _ _ _ _)
      (Plan.isQuiet_write rfl Plan.isQuiet_nil).isExtra

theorem moveInExtras_split (l : Lease) (profile : Option ResidentProfile)
    (documents : List LeaseDocument) (dto : MoveInDto) :
    ∃ before after : Plan, Plan.IsQuiet before ∧ Plan.IsQuiet after ∧
      moveInExtras env user l profile documents dto =
        before ++ (allocationPlan env user l (dto.parkingSlotIds.getD []) ++ after) := by
  have hprofile : Plan.IsQuiet (profile.map fun p => .write (.upsertProfile p)).toList := by
    cases profile with
    | none => exact Plan.isQuiet_nil
    | some p => exact Plan.isQuiet_write rfl Plan.isQuiet_nil
  have hoccupants : Plan.IsQuiet (dto.occupantNames.map fun names =>
      .write (.replaceOccupants l.id (normalizeNames env names))).toList := by
    cases dto.occupantNames with
    | none => exact Plan.isQuiet_nil
    | some names => exact Plan.isQuiet_write rfl Plan.isQuiet_nil
  have hvehicles := Plan.isQuiet_map (dto.vehiclePlateNumbers.getD [])
    (fun plate => .vehicle (.create ⟨l.orgId, env.ids.occupancy, trimString plate⟩)) fun _ => rfl
  have hdocuments := Plan.isQuiet_map documents .document fun _ => rfl
  have hcards : Plan.IsQuiet (if dto.accessCardNumbers.getD [] = [] then [] else
      issueItems env Db.accessCards .accessCard "Duplicate access card numbers"
        "Access card already exists for lease" (dto.accessCardNumbers.getD [])) := by
    split_ifs
    · exact Plan.isQuiet_nil
    · exact isQuiet_issueItems (fun _ => rfl) _ _ _
  have hstickers : Plan.IsQuiet (if dto.parkingStickerNumbers.getD [] = [] then [] else
      issueItems env Db.parkingStickers .parkingSticker "Duplicate parking sticker numbers"
        "Parking sticker already exists" (dto.parkingStickerNumbers.getD [])) := by
    split_ifs
    · exact Plan.isQuiet_nil
    · exact isQuiet_issueItems (fun _ => rfl) _ _ _
  refine ⟨_, _, Plan.isQuiet_append hprofile hoccupants, Plan.isQuiet_append hvehicles
    (Plan.isQuiet_append hcards (Plan.isQuiet_append hstickers hdocuments)), ?_⟩
  simp only [moveInExtras, allocationPlan, List.append_assoc]

theorem moveIn_plan {buildingId : Id} {dto : MoveInDto}
    (h : moveIn env db user buildingId dto = .ok plan) :
    ∃ (residentUserId : Id) (l : Lease) (newUser before after : Plan),
      moveInLease env l.orgId buildingId dto.unitId dto = .ok l ∧ Plan.IsQuiet newUser ∧
      Plan.IsQuiet before ∧ Plan.IsQuiet after ∧
      plan = newUser ++ (.write (.occupancy (.create
          (moveInOccupancy env buildingId dto.unitId residentUserId l.leaseStartDate))) ::
        .write (.lease (.create l)) :: .write (.history (createdRow env user l)) ::
          (before ++ (allocationPlan env user l (dto.parkingSlotIds.getD []) ++ after))) := by
  simp only [moveIn, Outcome.bind_eq_ok, Outcome.pure_eq_ok, Outcome.orThrow_eq_ok] at h
  obtain ⟨orgId, -, building, -, unit, hunit, ⟨residentUserId, newUser⟩, hresident, -, -, -, -, l,
    hl, profile, -, documents, -, rfl⟩ := h
  obtain ⟨rfl, -⟩ := moveInLease_ok hl
  have hid : unit.id = dto.unitId := (of_decide_eq_true (Table.findFirst_some hunit).2).1
  rw [hid] at hl ⊢
  obtain ⟨before, after, hbefore, hafter, hextras⟩ :=
    @moveInExtras_split env user l profile documents dto
  have hmoved : Plan.IsQuiet (.write (moveInActivity env user l .MOVE_IN
      [("occupancyId", .text env.ids.occupancy), ("residentUserId", .text residentUserId),
        ("buildingId", .text buildingId), ("unitId", .text dto.unitId),
        ("leaseStartDate", .date l.leaseStartDate), ("leaseEndDate", .date l.leaseEndDate)]) ::
      before) := Plan.isQuiet_write rfl hbefore
  refine ⟨residentUserId, l, _, _, after, hl, resolveResidentUser_ok hresident, hmoved, hafter, ?_⟩
  rw [hextras, List.append_assoc]
  rfl

theorem moveIn_ok {buildingId : Id} {dto : MoveInDto}
    (h : moveIn env db user buildingId dto = .ok plan) :
    ∃ (residentUserId : Id) (l : Lease) (newUser extras : Plan),
      moveInLease env l.orgId buildingId dto.unitId dto = .ok l ∧ Plan.IsQuiet newUser ∧
      Plan.IsExtra extras ∧
      plan = newUser ++ (.write (.occupancy (.create
          (moveInOccupancy env buildingId dto.unitId residentUserId l.leaseStartDate))) ::
        .write (.lease (.create l)) :: .write (.history (createdRow env user l)) :: extras) := by
  obtain ⟨residentUserId, l, newUser, before, after, hl, hnew, hbefore, hafter, hplan⟩ :=
    moveIn_plan h
  exact ⟨residentUserId, l, newUser, _, hl, hnew, Plan.isExtra_append hbefore.isExtra
    (Plan.isExtra_append (isExtra_allocationPlan l _) hafter.isExtra), hplan⟩

end MoveIn

section MoveOut

theorem moveOut_ok {buildingId leaseId : Id} {dto : MoveOutDto}
    (h : moveOut env db user buildingId leaseId dto = .ok plan) :
    ∃ l ∈ db.books.leases, l.id = leaseId ∧ l.buildingId = buildingId ∧
      assertOrgScope user = .ok l.orgId ∧ l.status = .ACTIVE ∧ ∃ occupancyId endAt settlement,
        l.occupancyId = some occupancyId ∧ toDateColumn dto.actualMoveOutDate = .ok endAt ∧
        moveOutSettlement env l dto = .ok settlement ∧
        plan = moveOutStatements env user l occupancyId endAt settlement dto := by
  simp only [moveOut, Outcome.bind_eq_ok, Outcome.pure_eq_ok, Outcome.throwIf_eq_ok,
    Outcome.orThrow_eq_ok, not_not] at h
  obtain ⟨orgId, horg, building, -, l, hfind, -, hactive, occupancyId, hlinked, endAt, hend,
    settlement, hsettlement, rfl⟩ := h
  obtain ⟨hl, hp⟩ := Table.findFirst_some hfind
  obtain ⟨hid, rfl, hbuilding⟩ := of_decide_eq_true hp
  exact ⟨l, hl, hid, hbuilding, horg, hactive, occupancyId, endAt, settlement, hlinked, hend,
    hsettlement, rfl⟩

end MoveOut

end Towerdesk.Leases
