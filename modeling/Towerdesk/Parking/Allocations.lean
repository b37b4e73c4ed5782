import Towerdesk.Leases.Contracts
import Mathlib.Data.List.Sort

/-!
# Parking allocations

Slots are allocated to an occupancy with an active lease or to a unit, the slots the
caller names or the first free ones by code. A slot is free when no allocation of it is
open. Allocations are ended one by one, for an occupancy or for a unit, at the date the
form gives.
-/

namespace Towerdesk.Parking

open Leases (Db DbWrite Plan ParkingSlot ParkingAllocation LeaseActivityAction JsonValue
  JsDate allocationEnded toDateColumn)

/-- A call also depends on how the database compares the codes of the slots. -/
structure Env extends Leases.Env where
  collate : String → String → Bool

structure AllocateParkingSlotsDto where
  occupancyId : Option Id
  unitId : Option Id
  slotIds : Option (List Id)
  count : Option ℕ
deriving DecidableEq, Repr

structure EndParkingAllocationDto where
  endDate : Option JsDate
deriving DecidableEq, Repr

inductive AllocationTarget
  | occupancy (occupancyId : Id)
  | unit (unitId : Id)
deriving DecidableEq, Repr

inductive SlotSelection
  | ids (slotIds : List Id)
  | count (count : ℕ)
deriving DecidableEq, Repr

namespace AllocationTarget

def occupancyId : AllocationTarget → Option Id
  | occupancy id => some id
  | unit _ => none

def unitId : AllocationTarget → Option Id
  | occupancy _ => none
  | unit id => some id

/-- `targetWhere`, as the filter of a query. -/
def Matches (target : AllocationTarget) (a : ParkingAllocation) : Prop :=
  match target with
  | occupancy id => a.occupancyId = some id
  | unit id => a.unitId = some id

instance (target : AllocationTarget) (a : ParkingAllocation) : Decidable (target.Matches a) := by
  cases target <;> exact inferInstanceAs (Decidable (_ = _))

end AllocationTarget

def allocationTarget (dto : AllocateParkingSlotsDto) : Result AllocationTarget :=
  match dto.occupancyId, dto.unitId with
  | some id, none => .ok (.occupancy id)
  | none, some id => .ok (.unit id)
  | _, _ => .error (.badRequest "Provide either occupancyId or unitId, but not both")

def slotSelection (dto : AllocateParkingSlotsDto) : Result SlotSelection :=
  match dto.slotIds, dto.count with
  | some slotIds, none => .ok (.ids slotIds)
  | none, some count => .ok (.count count)
  | _, _ => .error (.badRequest "Provide either slotIds or count, but not both")

section Queries

variable (env : Env) (db : Db)

def buildingOf (orgId buildingId : Id) : Result Building :=
  Outcome.orThrow (db.directory.buildings.findFirst fun b => b.id = buildingId ∧ b.orgId = orgId)
    (.notFound "Building not found")

def InOrg (orgId buildingId : Id) : Prop :=
  ∃ b ∈ db.directory.buildings, b.id = buildingId ∧ b.orgId = orgId

instance (orgId buildingId : Id) : Decidable (InOrg db orgId buildingId) :=
  inferInstanceAs (Decidable (∃ b ∈ db.directory.buildings, _))

def assertActiveLeaseContextForOccupancy (orgId occupancyId : Id) : Result (Occupancy × Lease) := do
  let occupancy ← Outcome.orThrow
    (db.occupancies.table.findFirst fun o => o.id = occupancyId ∧ InOrg db orgId o.buildingId)
    (.notFound "Occupancy not found")
  Outcome.throwIf (occupancy.status ≠ .ACTIVE) (.badRequest "Occupancy is not active")
  let lease ← Outcome.orThrow
    (db.leases.table.findFirst fun l =>
      l.orgId = orgId ∧ l.occupancyId = some occupancyId ∧ l.status = .ACTIVE)
    (.badRequest "Active lease not found for occupancy")
  return (occupancy, lease)

def findManyByIds (orgId buildingId : Id) (slotIds : List Id) : List ParkingSlot :=
  db.parkingSlots.rows.filter fun s =>
    s.id ∈ slotIds ∧ s.orgId = orgId ∧ s.buildingId = buildingId ∧ s.isActive

def findActiveAllocationsForSlots (slotIds : List Id) : List ParkingAllocation :=
  db.parkingAllocations.rows.filter fun a => a.parkingSlotId ∈ slotIds ∧ a.endDate = none

def Taken (slotId : Id) : Prop :=
  ∃ a ∈ db.parkingAllocations, a.parkingSlotId = slotId ∧ a.endDate = none

instance (slotId : Id) : Decidable (Taken db slotId) :=
  inferInstanceAs (Decidable (∃ a ∈ db.parkingAllocations, _))

/-- `orderBy: [{ code: 'asc' }, { createdAt: 'asc' }]`. -/
def slotBefore (s s' : ParkingSlot) : Bool :=
  env.collate s.code s'.code && (!env.collate s'.code s.code || s.createdAt ≤ s'.createdAt)

def freeSlots (orgId buildingId : Id) : List ParkingSlot :=
  db.parkingSlots.rows.filter fun s =>
    s.orgId = orgId ∧ s.buildingId = buildingId ∧ s.isActive ∧ ¬ Taken db s.id

def findAvailableSlots (orgId buildingId : Id) (take : ℕ) : List ParkingSlot :=
  ((freeSlots db orgId buildingId).insertionSort fun s s' => slotBefore env s s' = true).take take

/-- The slots a selection takes, each found free. -/
def selectSlots (orgId buildingId : Id) : SlotSelection → Result (List Id)
  | .ids slotIds => do
    Outcome.throwIf ((findManyByIds db orgId buildingId slotIds).length ≠ slotIds.length)
      (.notFound "One or more parking slots not found")
    Outcome.throwIf (0 < (findActiveAllocationsForSlots db slotIds).length)
      (.conflict "One or more slots are already allocated")
    return slotIds
  | .count count => do
    let available := findAvailableSlots env db orgId buildingId count
    Outcome.throwIf (available.length < count) (.conflict "Not enough available parking slots")
    return available.map (·.id)

/-- The lease whose activity records the allocation, when it is to an occupancy. -/
def targetLease (orgId buildingId : Id) : AllocationTarget → Result (Option Lease)
  | .occupancy occupancyId => do
    let (occupancy, lease) ← assertActiveLeaseContextForOccupancy db orgId occupancyId
    Outcome.throwIf (occupancy.buildingId ≠ buildingId) (.notFound "Occupancy not found")
    return some lease
  | .unit unitId => do
    let _ ← Outcome.orThrow
      (db.directory.units.findFirst fun u => u.id = unitId ∧ u.buildingId = buildingId)
      (.notFound "Unit not found")
    return none

end Queries

section Writes

variable (env : Env) (db : Db)

def createAllocations (orgId buildingId : Id) (target : AllocationTarget) (slotIds : List Id) :
    List ParkingAllocation :=
  slotIds.zipIdx.map fun (slotId, i) => {
    id := env.ids.allocation i
    orgId
    buildingId
    parkingSlotId := slotId
    occupancyId := target.occupancyId
    unitId := target.unitId
    startDate := env.now
    endDate := none }

def createLeaseActivity (user : Option AuthenticatedUser) (orgId leaseId : Id)
    (action : LeaseActivityAction) (payload : List (String × JsonValue)) : DbWrite :=
  .activity ⟨orgId, leaseId, action, user.map (·.sub), payload, env.now⟩

def slotCodes (allocations : List ParkingAllocation) : List String :=
  allocations.filterMap fun a => (db.parkingSlots.findUnique a.parkingSlotId).map (·.code)

/-- The allocations are read back by what they were written with, which may find more. -/
def allocationActivity (user : Option AuthenticatedUser) (orgId buildingId : Id)
    (target : AllocationTarget) (slotIds : List Id) (lease : Lease) : DbWrite :=
  let allocations := (db.parkingAllocations.rows ++
      createAllocations env orgId buildingId target slotIds).filter fun a =>
    a.orgId = orgId ∧ a.buildingId = buildingId ∧ target.Matches a ∧ a.parkingSlotId ∈ slotIds ∧
      a.startDate = env.now
  createLeaseActivity env user orgId lease.id .PARKING_ALLOCATED
    [("occupancyId", .ofOption .text target.occupancyId),
      ("allocationIds", .texts (allocations.map (·.id))),
      ("slotIds", .texts (allocations.map (·.parkingSlotId))),
      ("slotCodes", .texts (slotCodes db allocations)),
      ("count", .number allocations.length)]

/-- The context of an occupancy is asserted again in the transaction, where it is read. -/
def allocate (user : Option AuthenticatedUser) (buildingId : Id) (dto : AllocateParkingSlotsDto) :
    Result Plan := do
  let orgId ← assertOrgScope user
  let _ ← buildingOf db orgId buildingId
  let target ← allocationTarget dto
  let lease ← targetLease db orgId buildingId target
  let selection ← slotSelection dto
  let slotIds ← selectSlots env db orgId buildingId selection
  return (createAllocations env orgId buildingId target slotIds).map
      (fun a => .write (.parkingAllocation (.create a))) ++
    (lease.map fun lease =>
      .write (allocationActivity env db user orgId buildingId target slotIds lease)).toList

def endDateOf (dto : EndParkingAllocationDto) : Result Date :=
  toDateColumn (dto.endDate.getD (some env.now))

/-- The lease of the occupancy an allocation belongs to, which must be active. -/
def allocationLease (orgId : Id) (occupancyId : Option Id) : Result (Option Lease) :=
  match truthy occupancyId with
  | none => .ok none
  | some occupancyId => (fun context => some context.2) <$>
      assertActiveLeaseContextForOccupancy db orgId occupancyId

def endAllocation (user : Option AuthenticatedUser) (allocationId : Id)
    (dto : EndParkingAllocationDto) : Result Plan := do
  let orgId ← assertOrgScope user
  let allocation ← Outcome.orThrow
    (db.parkingAllocations.findFirst fun a => a.id = allocationId ∧ a.orgId = orgId)
    (.notFound "Allocation not found")
  Outcome.throwIf allocation.endDate.isSome (.badRequest "Allocation already ended")
  let lease ← allocationLease db orgId allocation.occupancyId
  let endDate ← endDateOf env dto
  return .write (.parkingAllocation (.update allocation.id (allocationEnded endDate))) ::
    (lease.map fun lease =>
      .write (createLeaseActivity env user orgId lease.id .PARKING_ALLOCATION_ENDED
        [("occupancyId", .ofOption .text allocation.occupancyId),
          ("allocationId", .text allocation.id),
          ("parkingSlotId", .text allocation.parkingSlotId),
          ("parkingSlotCode", .ofOption .text (slotCodes db [allocation]).head?),
          ("endDate", .date endDate)])).toList

def openForOccupancy (orgId occupancyId : Id) (a : ParkingAllocation) : Bool :=
  a.orgId = orgId ∧ a.occupancyId = some occupancyId ∧ a.endDate = none

def openForUnit (orgId unitId : Id) (a : ParkingAllocation) : Bool :=
  a.orgId = orgId ∧ a.unitId = some unitId ∧ a.endDate = none

def endAllForOccupancy (user : Option AuthenticatedUser) (occupancyId : Id)
    (dto : EndParkingAllocationDto) : Result Plan := do
  let orgId ← assertOrgScope user
  let (_, lease) ← assertActiveLeaseContextForOccupancy db orgId occupancyId
  let endDate ← endDateOf env dto
  let count := (db.parkingAllocations.rows.filter (openForOccupancy orgId occupancyId)).length
  return .write (.parkingAllocation
      (.updateMany (openForOccupancy orgId occupancyId) (allocationEnded endDate))) ::
    if 0 < count then
      [.write (createLeaseActivity env user orgId lease.id .PARKING_ALLOCATION_ENDED
        [("occupancyId", .text occupancyId), ("endedCount", .number count),
          ("endDate", .date endDate), ("scope", .text "ALL_ACTIVE_ALLOCATIONS")])]
    else []

def endAllForUnit (user : Option AuthenticatedUser) (unitId : Id) (dto : EndParkingAllocationDto) :
    Result Plan := do
  let orgId ← assertOrgScope user
  let _ ← Outcome.orThrow
    (db.directory.units.findFirst fun u => u.id = unitId ∧ InOrg db orgId u.buildingId)
    (.notFound "Unit not found")
  let endDate ← endDateOf env dto
  return [.write (.parkingAllocation
    (.updateMany (openForUnit orgId unitId) (allocationEnded endDate)))]

end Writes

inductive Operation
  | allocate (user : Option AuthenticatedUser) (buildingId : Id) (dto : AllocateParkingSlotsDto)
  | endAllocation (user : Option AuthenticatedUser) (allocationId : Id)
      (dto : EndParkingAllocationDto)
  | endAllForOccupancy (user : Option AuthenticatedUser) (occupancyId : Id)
      (dto : EndParkingAllocationDto)
  | endAllForUnit (user : Option AuthenticatedUser) (unitId : Id) (dto : EndParkingAllocationDto)

def Operation.plan (env : Env) (db : Db) : Operation → Result Plan
  | .allocate user buildingId dto => Parking.allocate env db user buildingId dto
  | .endAllocation user allocationId dto => Parking.endAllocation env db user allocationId dto
  | .endAllForOccupancy user occupancyId dto =>
    Parking.endAllForOccupancy env db user occupancyId dto
  | .endAllForUnit user unitId dto => Parking.endAllForUnit env db user unitId dto

def call (env : Env) (op : Operation) : Leases.Service := Leases.transaction fun db => op.plan env db

end Towerdesk.Parking
