import Towerdesk.Parking.Allocations
import Towerdesk.Leases.Changes

/-!
# What is done to the allocations

Two services take slots, at the start of a lease or now, and take only slots that no
open allocation holds; whatever ends allocations ends open ones. A direct move-in is
described again here, with the slots it takes.
-/

namespace Towerdesk.Parking

open Leases (Db DbWrite DbError Plan ParkingAllocation MoveInDto allocationEnded
  allocateParkingSlots moveInExtras)

abbrev Allocations := Table ParkingAllocation.id

/-- Slots that were free are taken, each by one row that is open and starts at the instant. -/
structure Takes (t t' : Allocations) (slotIds : List Id) (start : Date)
    (rows : List ParkingAllocation) : Prop where
  slots : rows.map (·.parkingSlotId) = slotIds
  distinct : slotIds.Nodup
  free : ∀ a ∈ t, a.parkingSlotId ∈ slotIds → a.endDate ≠ none
  opened : ∀ a ∈ rows, a.startDate = start ∧ a.endDate = none
  mem : ∀ a, a ∈ t' ↔ a ∈ t ∨ a ∈ rows

section Commit

variable {db db' : Db} {plan : Plan} {raise : DbError → HttpException}

theorem commit_createAllocations {rows : List ParkingAllocation}
    (h : Transaction.commit DbWrite.apply raise
      (rows.map (fun a => .write (.parkingAllocation (.create a))) ++ plan) db = .ok db') :
    ∃ (db₁ : Db) (t : Allocations), db₁.books = { db.books with parkingAllocations := t } ∧
      (∀ a, a ∈ t ↔ a ∈ db.parkingAllocations ∨ a ∈ rows) ∧
      Transaction.commit DbWrite.apply raise plan db₁ = .ok db' := by
  induction rows generalizing db with
  | nil => exact ⟨db, db.parkingAllocations, rfl, fun a => by simp, h⟩
  | cons row rows ih =>
    obtain ⟨db₁, hwrite, h⟩ := Transaction.commit_write.mp h
    obtain ⟨t₁, hinsert, hbooks₁⟩ := Leases.books_parkingAllocation hwrite
    obtain ⟨db₂, t₂, hbooks₂, hmem, h⟩ := ih h
    have ht₁ : db₁.parkingAllocations = t₁ := congrArg (·.parkingAllocations) hbooks₁
    refine ⟨db₂, t₂, by rw [hbooks₂, hbooks₁], fun a => ?_, h⟩
    rw [hmem, ht₁, Table.mem_insert (Table.apply_create.mp hinsert), List.mem_cons, or_assoc]
    rfl

end Commit

section Selection

variable {env : Env} {db : Db} {orgId buildingId : Id}

theorem nodup_of_length_filter {t : Table Leases.ParkingSlot.id} {slotIds : List Id}
    {p : Leases.ParkingSlot → Bool} (hp : ∀ s, p s = true → s.id ∈ slotIds)
    (h : (t.rows.filter p).length = slotIds.length) : slotIds.Nodup := by
  have hnodup : ((t.rows.filter p).map (·.id)).Nodup :=
    t.nodup.sublist (List.filter_sublist.map _)
  have hsub : (t.rows.filter p).map (·.id) ⊆ slotIds := by
    intro id hid
    obtain ⟨s, hs, rfl⟩ := List.mem_map.mp hid
    exact hp s (List.mem_filter.mp hs).2
  have hperm := (hnodup.subperm hsub).perm_of_length_le (by rw [List.length_map, h])
  exact hperm.nodup_iff.mp hnodup

theorem selectSlots_ok {selection : SlotSelection} {slotIds : List Id}
    (h : selectSlots env db orgId buildingId selection = .ok slotIds) :
    slotIds.Nodup ∧ ∀ a ∈ db.parkingAllocations, a.parkingSlotId ∈ slotIds → a.endDate ≠ none := by
  cases selection with
  | ids ids =>
    simp only [selectSlots, Outcome.bind_eq_ok, Outcome.pure_eq_ok, Outcome.throwIf_eq_ok,
      not_not] at h
    obtain ⟨-, hfound, -, hfree, rfl⟩ := h
    refine ⟨nodup_of_length_filter (fun s hs => (of_decide_eq_true hs).1) hfound, ?_⟩
    intro a ha hslot hopen
    exact hfree (List.length_pos_of_mem
      (List.mem_filter.mpr ⟨ha, decide_eq_true ⟨hslot, hopen⟩⟩))
  | count count =>
    simp only [selectSlots, Outcome.bind_eq_ok, Outcome.pure_eq_ok] at h
    obtain ⟨-, -, rfl⟩ := h
    have hsorted := List.perm_insertionSort (fun s s' => slotBefore env s s' = true)
      (freeSlots db orgId buildingId)
    have hnodup : ((freeSlots db orgId buildingId).map (·.id)).Nodup :=
      db.parkingSlots.nodup.sublist (List.filter_sublist.map _)
    constructor
    · exact ((hsorted.map _).nodup_iff.mpr hnodup).sublist ((List.take_sublist _ _).map _)
    · intro a ha hslot hopen
      obtain ⟨s, hs, hid⟩ := List.mem_map.mp hslot
      have hfree := hsorted.subset ((List.take_sublist _ _).subset hs)
      exact (of_decide_eq_true (List.mem_filter.mp hfree).2).2.2.2 ⟨a, ha, hid.symm, hopen⟩

theorem createAllocations_slots {target : AllocationTarget} {slotIds : List Id} :
    (createAllocations env orgId buildingId target slotIds).map (·.parkingSlotId) = slotIds := by
  simp only [createAllocations, List.map_map]
  exact List.zipIdx_map_fst 0 slotIds

theorem mem_createAllocations {target : AllocationTarget} {slotIds : List Id}
    {a : ParkingAllocation} (h : a ∈ createAllocations env orgId buildingId target slotIds) :
    a.orgId = orgId ∧ a.occupancyId = target.occupancyId ∧ a.startDate = env.now ∧
      a.endDate = none := by
  obtain ⟨p, -, rfl⟩ := List.mem_map.mp h
  exact ⟨rfl, rfl, rfl, rfl⟩

end Selection

section Effects

def HasActiveLease (db : Db) (orgId occupancyId : Id) : Prop :=
  ∃ l ∈ db.books.leases, l.orgId = orgId ∧ l.occupancyId = some occupancyId ∧ l.status = .ACTIVE

def Operation.ends : Operation → Bool
  | .allocate _ _ _ => false
  | .endAllocation _ _ _ | .endAllForOccupancy _ _ _ | .endAllForUnit _ _ _ => true

/-- What a call that returns has done. -/
inductive Effect (env : Env) (db db' : Db) : Operation → Prop
  | allocate {user : Option AuthenticatedUser} {buildingId : Id} {dto : AllocateParkingSlotsDto}
      (orgId : Id) (target : AllocationTarget) (selection : SlotSelection) (slotIds : List Id)
      (t : Allocations) (horg : assertOrgScope user = .ok orgId)
      (hlease : ∀ id, target.occupancyId = some id → HasActiveLease db orgId id)
      (hselection : slotSelection dto = .ok selection)
      (hslots : selectSlots env db orgId buildingId selection = .ok slotIds)
      (htakes : Takes db.books.parkingAllocations t slotIds env.now
        (createAllocations env orgId buildingId target slotIds))
      (hbooks : db'.books = { db.books with parkingAllocations := t }) :
      Effect env db db' (.allocate user buildingId dto)
  | finish {op : Operation} (hop : op.ends = true) (q : ParkingAllocation → Bool) (endDate : Date)
      (hopen : ∀ a, q a = true → a.endDate = none)
      (hbooks : db'.books = { db.books with
        parkingAllocations := db.books.parkingAllocations.modifyWhere q (allocationEnded endDate) }) :
      Effect env db db' op

variable {env : Env} {db db' : Db} {user : Option AuthenticatedUser} {orgId buildingId : Id}
  {raise : DbError → HttpException} {plan : Plan}

theorem assertActiveLeaseContextForOccupancy_ok {occupancyId : Id} {context : Occupancy × Lease}
    (h : assertActiveLeaseContextForOccupancy db orgId occupancyId = .ok context) :
    HasActiveLease db orgId occupancyId := by
  simp only [assertActiveLeaseContextForOccupancy, Outcome.bind_eq_ok, Outcome.pure_eq_ok,
    Outcome.orThrow_eq_ok] at h
  obtain ⟨-, -, -, -, l, hl, -⟩ := h
  obtain ⟨hmem, hp⟩ := Table.findFirst_some hl
  exact ⟨l, hmem, of_decide_eq_true hp⟩

theorem targetLease_ok {target : AllocationTarget} {lease : Option Lease}
    (h : targetLease db orgId buildingId target = .ok lease) :
    ∀ id, target.occupancyId = some id → HasActiveLease db orgId id := by
  intro id hid
  cases target with
  | unit unitId => cases hid
  | occupancy occupancyId =>
    cases hid
    simp only [targetLease, Outcome.bind_eq_ok] at h
    obtain ⟨context, hcontext, -⟩ := h
    exact assertActiveLeaseContextForOccupancy_ok hcontext

theorem activityPlan_quiet (lease : Option Lease) (orgId : Id) (action : Leases.LeaseActivityAction)
    (payload : Lease → List (String × Leases.JsonValue)) :
    Leases.Plan.IsQuiet (lease.map fun lease => .write
      (createLeaseActivity env user orgId lease.id action (payload lease))).toList := by
  cases lease with
  | none => exact Leases.Plan.isQuiet_nil
  | some lease => exact Leases.Plan.isQuiet_write rfl Leases.Plan.isQuiet_nil

theorem commit_endWhere {q : ParkingAllocation → Bool} {endDate : Date} {rest : Plan}
    (hrest : Leases.Plan.IsQuiet rest)
    (h : Transaction.commit DbWrite.apply raise (.write (.parkingAllocation
      (.updateMany q (allocationEnded endDate))) :: rest) db = .ok db') :
    db'.books = { db.books with
      parkingAllocations := db.books.parkingAllocations.modifyWhere q (allocationEnded endDate) } := by
  obtain ⟨db₁, hwrite, h⟩ := Transaction.commit_write.mp h
  obtain ⟨t, ht, hbooks⟩ := Leases.books_parkingAllocation hwrite
  rw [Leases.commit_quiet hrest h, hbooks, Table.apply_updateMany.mp ht]

theorem allocate_ok {dto : AllocateParkingSlotsDto}
    (h : allocate env db user buildingId dto = .ok plan) :
    ∃ orgId target lease selection slotIds, assertOrgScope user = .ok orgId ∧
      targetLease db orgId buildingId target = .ok lease ∧ slotSelection dto = .ok selection ∧
        selectSlots env db orgId buildingId selection = .ok slotIds ∧
          (createAllocations env orgId buildingId target slotIds).map
              (fun a => .write (.parkingAllocation (.create a))) ++
            (lease.map fun lease => .write
              (allocationActivity env db user orgId buildingId target slotIds lease)).toList =
            plan := by
  simp only [allocate, Outcome.bind_eq_ok, Outcome.pure_eq_ok] at h
  obtain ⟨orgId, horg, -, -, target, -, lease, hlease, selection, hselection, slotIds, hslots,
    hplan⟩ := h
  exact ⟨orgId, target, lease, selection, slotIds, horg, hlease, hselection, hslots, hplan⟩

theorem allocate_does {dto : AllocateParkingSlotsDto}
    (hplan : allocate env db user buildingId dto = .ok plan)
    (h : Transaction.commit DbWrite.apply raise plan db = .ok db') :
    Effect env db db' (.allocate user buildingId dto) := by
  obtain ⟨orgId, target, lease, selection, slotIds, horg, hlease, hselection, hslots, rfl⟩ :=
    allocate_ok hplan
  obtain ⟨db₁, t, hbooks, hmem, h⟩ := commit_createAllocations h
  obtain ⟨hdistinct, hfree⟩ := selectSlots_ok hslots
  refine .allocate orgId target selection slotIds t horg (targetLease_ok hlease) hselection hslots
    ⟨createAllocations_slots, hdistinct, hfree, fun a ha => ?_, hmem⟩ ?_
  · exact (mem_createAllocations ha).2.2
  · rw [Leases.commit_quiet (activityPlan_quiet lease orgId _ _) h, hbooks]

theorem endAllocation_does {allocationId : Id} {dto : EndParkingAllocationDto}
    (hplan : endAllocation env db user allocationId dto = .ok plan)
    (h : Transaction.commit DbWrite.apply raise plan db = .ok db') :
    Effect env db db' (.endAllocation user allocationId dto) := by
  simp only [endAllocation, Outcome.bind_eq_ok, Outcome.pure_eq_ok, Outcome.throwIf_eq_ok,
    Outcome.orThrow_eq_ok, Option.not_isSome_iff_eq_none] at hplan
  obtain ⟨orgId, -, a, hfind, -, hopen, lease, -, endDate, -, rfl⟩ := hplan
  have ha := (Table.findFirst_some hfind).1
  obtain ⟨db₁, hwrite, h⟩ := Transaction.commit_write.mp h
  obtain ⟨t, ht, hbooks⟩ := Leases.books_parkingAllocation hwrite
  obtain ⟨-, rfl⟩ := Table.apply_update.mp ht
  have hrow : ∀ x ∈ db.parkingAllocations,
      decide (x.id = a.id ∧ x.endDate = none) = true ↔ x.id = a.id := by
    intro x hx
    rw [decide_eq_true_iff]
    exact ⟨And.left, fun hid => ⟨hid, Table.eq_of_key_eq hx ha hid ▸ hopen⟩⟩
  refine .finish rfl (fun x => x.id = a.id ∧ x.endDate = none) endDate
    (fun x hx => (of_decide_eq_true hx).2) ?_
  rw [Leases.commit_quiet (activityPlan_quiet lease orgId _ _) h, hbooks]
  exact congrArg (fun t => { db.books with parkingAllocations := t })
    (Table.modifyWhere_eq_modify hrow).symm

theorem endAllForOccupancy_does {occupancyId : Id} {dto : EndParkingAllocationDto}
    (hplan : endAllForOccupancy env db user occupancyId dto = .ok plan)
    (h : Transaction.commit DbWrite.apply raise plan db = .ok db') :
    Effect env db db' (.endAllForOccupancy user occupancyId dto) := by
  simp only [endAllForOccupancy, Outcome.bind_eq_ok, Outcome.pure_eq_ok] at hplan
  obtain ⟨orgId, -, ⟨occupancy, lease⟩, -, endDate, -, rfl⟩ := hplan
  refine .finish rfl _ endDate (fun a ha => (of_decide_eq_true ha).2.2) (commit_endWhere ?_ h)
  split
  · exact Leases.Plan.isQuiet_write rfl Leases.Plan.isQuiet_nil
  · exact Leases.Plan.isQuiet_nil

theorem endAllForUnit_does {unitId : Id} {dto : EndParkingAllocationDto}
    (hplan : endAllForUnit env db user unitId dto = .ok plan)
    (h : Transaction.commit DbWrite.apply raise plan db = .ok db') :
    Effect env db db' (.endAllForUnit user unitId dto) := by
  simp only [endAllForUnit, Outcome.bind_eq_ok, Outcome.pure_eq_ok] at hplan
  obtain ⟨orgId, -, -, -, endDate, -, rfl⟩ := hplan
  exact .finish rfl _ endDate (fun a ha => (of_decide_eq_true ha).2.2)
    (commit_endWhere Leases.Plan.isQuiet_nil h)

theorem call_does (env : Env) (op : Operation) (db : Db) :
    Transaction.Ends (fun db' => db' = db) (fun _ db' => Effect env db db' op) (call env op db) := by
  unfold call Leases.transaction
  refine Transaction.ends_transaction rfl fun plan db' hplan h => ?_
  cases op with
  | allocate user buildingId dto => exact allocate_does hplan h
  | endAllocation user allocationId dto => exact endAllocation_does hplan h
  | endAllForOccupancy user occupancyId dto => exact endAllForOccupancy_does hplan h
  | endAllForUnit user unitId dto => exact endAllForUnit_does hplan h

end Effects

section MoveIn

def moveInAllocations (env : Leases.Env) (l : Lease) (slotIds : List Id) :
    List ParkingAllocation :=
  slotIds.zipIdx.map fun (slotId, i) => {
    id := env.ids.allocation i
    orgId := l.orgId
    buildingId := l.buildingId
    parkingSlotId := slotId
    occupancyId := some env.ids.occupancy
    unitId := none
    startDate := l.leaseStartDate
    endDate := none }

/-- A direct move-in opens an occupancy, a lease linked to it and the allocations it asks for. -/
structure MovesIn (env : Leases.Env) (user : Option AuthenticatedUser) (buildingId : Id)
    (dto : MoveInDto) (l : Lease) (db db' : Db) : Prop where
  lease : Leases.moveInLease env l.orgId buildingId dto.unitId dto = .ok l
  books : ∃ (residentUserId : Id) (leases : Table Lease.id) (occupancies : Table Occupancy.id)
      (t : Allocations),
    db.books.occupancies.insert
      (Leases.moveInOccupancy env buildingId dto.unitId residentUserId l.leaseStartDate) =
        some occupancies ∧
    db.books.leases.insert l = some leases ∧
    Takes db.books.parkingAllocations t (dto.parkingSlotIds.getD []) l.leaseStartDate
      (moveInAllocations env l (dto.parkingSlotIds.getD [])) ∧
    db'.books = { db.books with
      leases
      occupancies
      parkingAllocations := t
      history := db.books.history ++ [Leases.createdRow env user l] }

variable {env : Leases.Env} {db db' : Db} {user : Option AuthenticatedUser} {buildingId : Id}
  {raise : DbError → HttpException} {plan : Plan} {l : Lease}

theorem moveInAllocations_slots {slotIds : List Id} :
    (moveInAllocations env l slotIds).map (·.parkingSlotId) = slotIds := by
  simp only [moveInAllocations, List.map_map]
  exact List.zipIdx_map_fst 0 slotIds

theorem mem_moveInAllocations {slotIds : List Id} {a : ParkingAllocation}
    (h : a ∈ moveInAllocations env l slotIds) :
    a.orgId = l.orgId ∧ a.occupancyId = some env.ids.occupancy ∧
      a.startDate = l.leaseStartDate ∧ a.endDate = none := by
  obtain ⟨p, -, rfl⟩ := List.mem_map.mp h
  exact ⟨rfl, rfl, rfl, rfl⟩

def slotsFound (l : Lease) (slotIds : List Id) (db : Db) : Bool :=
  (db.parkingSlots.rows.filter fun slot =>
    slot.id ∈ slotIds ∧ slot.orgId = l.orgId ∧ slot.buildingId = l.buildingId ∧
      slot.isActive).length = slotIds.length

def slotsFree (slotIds : List Id) (db : Db) : Bool :=
  ¬ ∃ a ∈ db.parkingAllocations, a.parkingSlotId ∈ slotIds ∧ a.endDate = none

theorem allocateParkingSlots_eq (env : Leases.Env) (l : Lease) (slotIds : List Id) :
    allocateParkingSlots env l.orgId l.buildingId slotIds l.leaseStartDate =
      .require (slotsFound l slotIds) (.notFound "Parking slot not found in org/building") ::
        .require (slotsFree slotIds) (.conflict "Parking slot already allocated") ::
          (moveInAllocations env l slotIds).map fun a => .write (.parkingAllocation (.create a)) := by
  simp only [allocateParkingSlots, moveInAllocations, List.map_map, List.cons_append,
    List.nil_append]
  rfl

theorem nodup_of_slotsFound {slotIds : List Id} (h : slotsFound l slotIds db = true) :
    slotIds.Nodup :=
  nodup_of_length_filter (fun _ hs => (of_decide_eq_true hs).1) (of_decide_eq_true h)

theorem commit_allocateParkingSlots {slotIds : List Id}
    (h : Transaction.commit DbWrite.apply raise
      (allocateParkingSlots env l.orgId l.buildingId slotIds l.leaseStartDate ++ plan) db = .ok db') :
    ∃ (db₁ : Db) (t : Allocations), db₁.books = { db.books with parkingAllocations := t } ∧
      Takes db.parkingAllocations t slotIds l.leaseStartDate (moveInAllocations env l slotIds) ∧
      Transaction.commit DbWrite.apply raise plan db₁ = .ok db' := by
  rw [allocateParkingSlots_eq] at h
  obtain ⟨hfound, h⟩ := Transaction.commit_require.mp h
  obtain ⟨hfree, h⟩ := Transaction.commit_require.mp h
  obtain ⟨db₁, t, hbooks, hmem, h⟩ := commit_createAllocations h
  refine ⟨db₁, t, hbooks, ⟨moveInAllocations_slots, nodup_of_slotsFound hfound,
    fun a ha hslot hopen => ?_, fun a ha => (mem_moveInAllocations ha).2.2, hmem⟩, h⟩
  exact of_decide_eq_true hfree ⟨a, ha, hslot, hopen⟩

theorem takes_nothing (t : Allocations) (start : Date) : Takes t t [] start [] where
  slots := rfl
  distinct := List.nodup_nil
  free _ _ hslot := absurd hslot List.not_mem_nil
  opened _ ha := absurd ha List.not_mem_nil
  mem a := by simp

theorem commit_allocationPlan {slotIds : List Id} {after : Plan}
    (hafter : Leases.Plan.IsQuiet after)
    (h : Transaction.commit DbWrite.apply raise
      (Leases.allocationPlan env user l slotIds ++ after) db = .ok db') :
    ∃ t : Allocations, db'.books = { db.books with parkingAllocations := t } ∧
      Takes db.parkingAllocations t slotIds l.leaseStartDate (moveInAllocations env l slotIds) := by
  unfold Leases.allocationPlan at h
  split at h
  · next hnone =>
    subst hnone
    exact ⟨db.parkingAllocations, Leases.commit_quiet hafter h, takes_nothing _ _⟩
  · rw [List.append_assoc] at h
    obtain ⟨db₁, t, hbooks, htakes, h⟩ := commit_allocateParkingSlots h
    refine ⟨t, ?_, htakes⟩
    rw [Leases.commit_quiet (Leases.Plan.isQuiet_write rfl hafter) h, hbooks]

theorem moveIn_moves {dto : MoveInDto} (hplan : Leases.moveIn env db user buildingId dto = .ok plan)
    (h : Transaction.commit DbWrite.apply raise plan db = .ok db') :
    ∃ l, MovesIn env user buildingId dto l db db' := by
  obtain ⟨residentUserId, l, newUser, before, after, hl, hnew, hbefore, hafter, rfl⟩ :=
    Leases.moveIn_plan hplan
  obtain ⟨db₁, hcreate, h⟩ := Transaction.commit_append.mp h
  have hbooks₁ := Leases.commit_quiet hnew hcreate
  obtain ⟨db₂, hoccupancy, h⟩ := Transaction.commit_write.mp h
  obtain ⟨occupancies, hoccupancies, hbooks₂⟩ := Leases.books_occupancy hoccupancy
  obtain ⟨db₃, hwrite, h⟩ := Transaction.commit_write.mp h
  obtain ⟨leases, hleases, hbooks₃⟩ := Leases.books_lease hwrite
  obtain ⟨db₄, hhistory, h⟩ := Transaction.commit_write.mp h
  have hbooks₄ := Leases.books_history hhistory
  obtain ⟨db₅, hquiet, h⟩ := Transaction.commit_append.mp h
  have hbooks₅ := Leases.commit_quiet hbefore hquiet
  obtain ⟨t, hbooks₆, htakes⟩ := commit_allocationPlan hafter h
  rw [hbooks₁] at hoccupancies
  rw [hbooks₂, hbooks₁] at hleases
  rw [hbooks₅, hbooks₄, hbooks₃, hbooks₂, hbooks₁] at hbooks₆
  have hsame : db₅.parkingAllocations = db.parkingAllocations := by
    have hbooks : db₅.books.parkingAllocations = db.books.parkingAllocations := by
      rw [hbooks₅, hbooks₄, hbooks₃, hbooks₂, hbooks₁]
    exact hbooks
  rw [hsame] at htakes
  exact ⟨l, hl, residentUserId, leases, occupancies, t, Table.apply_create.mp hoccupancies,
    Table.apply_create.mp hleases, htakes, hbooks₆⟩

theorem next_movesIn {dto : MoveInDto} (h : Leases.Succeeds env (.moveIn user buildingId dto) db) :
    ∃ l, MovesIn env user buildingId dto l db
      (Leases.next (env, .moveIn user buildingId dto) db) := by
  unfold Leases.Succeeds at h
  unfold Leases.next
  obtain ⟨e, he⟩ | ⟨plan, db', hplan, hcommit, hok⟩ :=
    @Transaction.transaction_cases _ _ _ _ DbWrite.apply (Leases.mapMoveInError dto)
      (fun db => Leases.moveIn env db user buildingId dto) db
  · rw [Leases.call, he] at h
    cases h
  · rw [Leases.call, hok]
    exact moveIn_moves hplan hcommit

end MoveIn

end Towerdesk.Parking
