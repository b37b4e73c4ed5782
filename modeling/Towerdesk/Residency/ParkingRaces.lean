import Towerdesk.Lib.ReadCommitted
import Towerdesk.Residency.Scene

/-!
# Allocating parking at once

Allocations and direct move-ins look for open allocations of the slots they want, write
their own and commit. Nothing keeps two of them from finding the same slot free, and no
index refuses a second open allocation: a slot has at most one exactly when no transaction
commits rows for a slot that another has taken since it looked. The lock a move-in takes on
its unit only rules out orders in which one unit is moved into twice.
-/

namespace Towerdesk.Residency

open Leases (Db DbWrite Plan ParkingAllocation)
open Interleaving (Config AtStep)
open ReadCommitted (AtCommit Progress machine replay)

inductive AllocatingCall
  | allocate (user : Option AuthenticatedUser) (buildingId : Id)
      (dto : Parking.AllocateParkingSlotsDto)
  | moveIn (user : Option AuthenticatedUser) (buildingId : Id) (dto : Leases.MoveInDto)

structure Allocator where
  env : Parking.Env
  call : AllocatingCall

def Allocator.plan (p : Allocator) (db : Db) : Result Plan :=
  match p.call with
  | .allocate user buildingId dto => Parking.allocate p.env db user buildingId dto
  | .moveIn user buildingId dto => Leases.moveIn p.env.toEnv db user buildingId dto

def OneOpenPerSlot (db : Db) : Prop :=
  ∀ a ∈ db.parkingAllocations, ∀ b ∈ db.parkingAllocations, a.parkingSlotId = b.parkingSlotId →
    a.endDate = none → b.endDate = none → a = b

instance (db : Db) : Decidable (OneOpenPerSlot db) :=
  inferInstanceAs (Decidable (∀ a ∈ db.parkingAllocations, _))

section Writes

def allocated : DbWrite → Option ParkingAllocation
  | .parkingAllocation (.create a) => some a
  | _ => none

def allocatedBy (written : List DbWrite) : List ParkingAllocation := written.filterMap allocated

/-- No slot of the rows is taken in what is committed. -/
def TakesFreeSlots (written : List DbWrite) (db : Db) : Prop :=
  ∀ a ∈ allocatedBy written, ¬ Parking.Taken db a.parkingSlotId

instance (written : List DbWrite) (db : Db) : Decidable (TakesFreeSlots written db) :=
  inferInstanceAs (Decidable (∀ a ∈ allocatedBy written, _))

/-- The only write on the allocations is to open one. -/
def OpensOnly : DbWrite → Prop
  | .parkingAllocation (.create a) => a.endDate = none
  | .parkingAllocation _ => False
  | _ => True

variable {db db' : Db} {w : DbWrite} {written : List DbWrite}

theorem OpensOnly.cases (h : OpensOnly w) :
    (∃ a, w = .parkingAllocation (.create a) ∧ a.endDate = none) ∨
      (allocated w = none ∧ ∀ db db', w.apply db = .ok db' →
        db'.parkingAllocations = db.parkingAllocations) := by
  cases w with
  | parkingAllocation w =>
    cases w with
    | create a => exact .inl ⟨a, rfl, h⟩
    | update k p => exact h.elim
    | updateMany q p => exact h.elim
  | user w =>
    refine .inr ⟨rfl, fun db db' h => ?_⟩
    obtain ⟨users, -, h⟩ := Outcome.bind_eq_ok.mp h
    split at h
    · cases h
    · exact (Except.ok.inj h) ▸ rfl
  | lease w | occupancy w | accessCard w | parkingSticker w | vehicle w =>
    refine .inr ⟨rfl, fun db db' h => ?_⟩
    obtain ⟨t, -, rfl⟩ := Outcome.map_eq_ok.mp h
    rfl
  | moveRequest kind w =>
    refine .inr ⟨rfl, fun db db' h => ?_⟩
    obtain ⟨t, -, rfl⟩ := Outcome.map_eq_ok.mp h
    cases kind <;> rfl
  | upsertProfile p =>
    refine .inr ⟨rfl, fun db db' h => ?_⟩
    obtain rfl := Except.ok.inj h
    unfold Db.upsertProfile
    split <;> rfl
  | clearTerms _ | term _ | activity _ | history _ | changeSet _ _ _ _ | replaceOccupants _ _
  | document _ | notification _ => exact .inr ⟨rfl, fun db db' h => (Except.ok.inj h) ▸ rfl⟩

theorem replay_allocations (hopens : ∀ w ∈ written, OpensOnly w)
    (h : replay DbWrite.apply written db = .ok db') :
    (∀ a, a ∈ db'.parkingAllocations ↔ a ∈ db.parkingAllocations ∨ a ∈ allocatedBy written) ∧
      ∀ b ∈ allocatedBy written, b.endDate = none ∧ ∀ a ∈ db.parkingAllocations, a.id ≠ b.id := by
  induction written generalizing db with
  | nil =>
    obtain rfl := Except.ok.inj h
    exact ⟨fun a => by simp [allocatedBy], fun b hb => absurd hb List.not_mem_nil⟩
  | cons w written ih =>
    obtain ⟨db₁, hw, h⟩ := ReadCommitted.replay_cons.mp h
    obtain ⟨hmem, hfresh⟩ := ih (fun v hv => hopens v (List.mem_cons_of_mem w hv)) h
    rcases (hopens w List.mem_cons_self).cases with ⟨a, rfl, hopen⟩ | ⟨hnone, hkept⟩
    · obtain ⟨t, hinsert, hbooks⟩ := Leases.books_parkingAllocation hw
      have hinsert := Table.apply_create.mp hinsert
      have ht : db₁.parkingAllocations = t := congrArg (·.parkingAllocations) hbooks
      have hrows : allocatedBy (.parkingAllocation (.create a) :: written) =
          a :: allocatedBy written := rfl
      rw [hrows]
      constructor
      · intro x
        rw [hmem, ht, Table.mem_insert hinsert, List.mem_cons, or_assoc]
        rfl
      · intro b hb
        rcases List.mem_cons.mp hb with rfl | hb
        · exact ⟨hopen, fun x hx => Table.fresh_of_insert hinsert hx⟩
        · refine ⟨(hfresh b hb).1, fun x hx => (hfresh b hb).2 x ?_⟩
          rw [ht]
          exact (Table.mem_insert hinsert).mpr (.inl hx)
    · have hrows : allocatedBy (w :: written) = allocatedBy written :=
        List.filterMap_cons_none hnone
      rw [hrows, ← hkept db db₁ hw]
      exact ⟨hmem, hfresh⟩

/-- A commit of distinct slots keeps every slot to one open allocation exactly when it takes
free ones. -/
theorem oneOpen_commit_iff (hopens : ∀ w ∈ written, OpensOnly w)
    (hdistinct : ((allocatedBy written).map (·.parkingSlotId)).Nodup) (hone : OneOpenPerSlot db)
    (h : replay DbWrite.apply written db = .ok db') :
    OneOpenPerSlot db' ↔ TakesFreeSlots written db := by
  obtain ⟨hmem, hnew⟩ := replay_allocations hopens h
  constructor
  · rintro hone' b hb ⟨a, ha, hslot, hopen⟩
    have hsame := hone' a ((hmem a).mpr (.inl ha)) b ((hmem b).mpr (.inr hb)) hslot hopen
      (hnew b hb).1
    exact (hnew b hb).2 a ha (congrArg (·.id) hsame)
  · intro hfree a ha b hb hslot hopen hopen'
    rcases (hmem a).mp ha with ha | ha
    · rcases (hmem b).mp hb with hb | hb
      · exact hone a ha b hb hslot hopen hopen'
      · exact absurd ⟨a, ha, hslot, hopen⟩ (hfree b hb)
    · rcases (hmem b).mp hb with hb | hb
      · exact absurd ⟨b, hb, hslot.symm, hopen'⟩ (hfree a ha)
      · exact List.inj_on_of_nodup_map hdistinct ha hb hslot

theorem allocated_of_quiet (hw : w.isQuiet = true) : allocated w = none := by
  cases w with
  | parkingAllocation w => cases hw
  | _ => rfl

theorem opensOnly_of_quiet (hw : w.isQuiet = true) : OpensOnly w := by
  cases w with
  | parkingAllocation w => cases hw
  | _ => exact trivial

end Writes

section Plans

/-- What the checks of a plan let through opens allocations, and of distinct slots in the end. -/
def OpensDistinct : List ParkingAllocation → Plan → Prop
  | rows, [] => (rows.map (·.parkingSlotId)).Nodup
  | rows, .require p _ :: rest => ∀ db, p db = true → OpensDistinct rows rest
  | rows, .write w :: rest => OpensOnly w ∧ OpensDistinct (rows ++ allocatedBy [w]) rest

def Proceeds (written : List DbWrite) (rest : Plan) : Prop :=
  (∀ w ∈ written, OpensOnly w) ∧ OpensDistinct (allocatedBy written) rest

variable {rows taken : List ParkingAllocation} {plan rest : Plan}

theorem opensDistinct_quiet (hplan : Plan.IsQuiet plan) (hrest : OpensDistinct rows rest) :
    OpensDistinct rows (plan ++ rest) := by
  induction plan with
  | nil => exact hrest
  | cons st plan ih =>
    cases st with
    | require p e =>
      intro db hp
      exact ih hplan
    | write w =>
      have hw : w.isQuiet = true := hplan w List.mem_cons_self
      have hnone : allocatedBy [w] = [] := List.filterMap_cons_none (allocated_of_quiet hw)
      have hrows : OpensDistinct rows (plan ++ rest) :=
        ih fun v hv => hplan v (List.mem_cons_of_mem w hv)
      rw [← List.append_nil rows, ← hnone] at hrows
      exact ⟨opensOnly_of_quiet hw, hrows⟩

theorem opensDistinct_create (hopen : ∀ a ∈ taken, a.endDate = none)
    (hrest : OpensDistinct (rows ++ taken) rest) :
    OpensDistinct rows
      (taken.map (fun a => .write (.parkingAllocation (.create a))) ++ rest) := by
  induction taken generalizing rows with
  | nil => rwa [List.append_nil] at hrest
  | cons a taken ih =>
    have hrows : rows ++ a :: taken = (rows ++ [a]) ++ taken := by simp
    rw [hrows] at hrest
    exact ⟨hopen a List.mem_cons_self,
      ih (fun b hb => hopen b (List.mem_cons_of_mem a hb)) hrest⟩

theorem opensDistinct_allocationPlan {env : Leases.Env} {user : Option AuthenticatedUser}
    {l : Lease} {slotIds : List Id} {after : Plan} (hafter : Plan.IsQuiet after) :
    OpensDistinct [] (Leases.allocationPlan env user l slotIds ++ after) := by
  have hnil : OpensDistinct [] ([] : Plan) := List.nodup_nil
  unfold Leases.allocationPlan
  split_ifs with hslots
  · rw [List.nil_append, ← List.append_nil after]
    exact opensDistinct_quiet hafter hnil
  · rw [Parking.allocateParkingSlots_eq, List.append_assoc, List.cons_append, List.cons_append]
    intro db hfound db' hfree
    refine opensDistinct_create (fun a ha => (Parking.mem_moveInAllocations ha).2.2.2) ?_
    have hquiet := Plan.isQuiet_append (p := [.write (Leases.moveInActivity env user l
      .PARKING_ALLOCATED [("slotIds", .texts slotIds), ("count", .number slotIds.length),
        ("occupancyId", .text env.ids.occupancy)])]) (Plan.isQuiet_write rfl Plan.isQuiet_nil)
      hafter
    rw [← List.append_nil (_ ++ after)]
    refine opensDistinct_quiet hquiet ?_
    change (List.map (·.parkingSlotId) (Parking.moveInAllocations env l slotIds)).Nodup
    rw [Parking.moveInAllocations_slots]
    exact Parking.nodup_of_slotsFound hfound

theorem Allocator.opensDistinct (p : Allocator) {db : Db} (h : p.plan db = .ok plan) :
    OpensDistinct [] plan := by
  obtain ⟨env, call⟩ := p
  cases call with
  | allocate user buildingId dto =>
    obtain ⟨orgId, target, lease, selection, slotIds, -, -, -, hslots, rfl⟩ := Parking.allocate_ok h
    refine opensDistinct_create (fun a ha => (Parking.mem_createAllocations ha).2.2.2) ?_
    rw [← List.append_nil (Option.toList _)]
    refine opensDistinct_quiet (Parking.activityPlan_quiet lease orgId _ _) ?_
    change (List.map (·.parkingSlotId)
      (Parking.createAllocations env orgId buildingId target slotIds)).Nodup
    rw [Parking.createAllocations_slots]
    exact (Parking.selectSlots_ok hslots).1
  | moveIn user buildingId dto =>
    obtain ⟨residentUserId, l, newUser, before, after, -, hnew, hbefore, hafter, rfl⟩ :=
      Leases.moveIn_plan h
    have hextras : OpensDistinct []
        (before ++ (Leases.allocationPlan env.toEnv user l (dto.parkingSlotIds.getD []) ++ after)) :=
      opensDistinct_quiet hbefore (opensDistinct_allocationPlan hafter)
    exact opensDistinct_quiet hnew ⟨trivial, trivial, trivial, hextras⟩

theorem proceeds_write {written : List DbWrite} {w : DbWrite}
    (h : Proceeds written (.write w :: rest)) : Proceeds (written ++ [w]) rest := by
  obtain ⟨hopens, hw, hdistinct⟩ := h
  refine ⟨List.forall_mem_append.mpr ⟨hopens, List.forall_mem_singleton.mpr hw⟩, ?_⟩
  unfold allocatedBy
  rw [List.filterMap_append]
  exact hdistinct

end Plans

section Checks

/-- Before it opens allocations a plan checks that their slots are free. -/
def ChecksFree : Plan → Prop
  | [] => True
  | .require p _ :: rest => ChecksFree rest ∨
      ∀ db, p db = true → TakesFreeSlots (Transaction.writes rest) db
  | .write w :: rest => OpensOnly w ∧ allocated w = none ∧ ChecksFree rest

/-- A transaction that has yet to look for the slots it wants. -/
structure Unchecked (written : List DbWrite) (rest : Plan) : Prop where
  opens : ∀ w ∈ written, OpensOnly w
  nothing : allocatedBy written = []
  checks : ChecksFree rest

/-- The slots that a transaction takes, now or later, were free. -/
def FoundFree (db : Db) (written : List DbWrite) (rest : Plan) : Prop :=
  TakesFreeSlots (written ++ Transaction.writes rest) db

variable {db db' : Db} {plan rest : Plan} {written : List DbWrite}

theorem checksFree_quiet (hplan : Plan.IsQuiet plan) (hrest : ChecksFree rest) :
    ChecksFree (plan ++ rest) := by
  induction plan with
  | nil => exact hrest
  | cons st plan ih =>
    cases st with
    | require p e => exact .inl (ih hplan)
    | write w =>
      have hw : w.isQuiet = true := hplan w List.mem_cons_self
      exact ⟨opensOnly_of_quiet hw, allocated_of_quiet hw,
        ih fun v hv => hplan v (List.mem_cons_of_mem w hv)⟩

theorem allocatedBy_quiet (hplan : Plan.IsQuiet plan) :
    allocatedBy (Transaction.writes plan) = [] :=
  List.filterMap_eq_nil_iff.mpr fun w hw => allocated_of_quiet (hplan w hw)

theorem allocatedBy_creates (rows : List ParkingAllocation) (hrest : Plan.IsQuiet rest) :
    allocatedBy (Transaction.writes
      (rows.map (fun a => .write (.parkingAllocation (.create a))) ++ rest)) = rows := by
  rw [Transaction.writes_append, Transaction.writes_map, allocatedBy, List.filterMap_append]
  have hquiet : List.filterMap allocated (Transaction.writes rest) = [] := allocatedBy_quiet hrest
  rw [hquiet, List.append_nil, List.filterMap_map]
  exact List.filterMap_some

theorem checksFree_allocationPlan {env : Leases.Env} {user : Option AuthenticatedUser}
    {l : Lease} {slotIds : List Id} {after : Plan} (hafter : Plan.IsQuiet after) :
    ChecksFree (Leases.allocationPlan env user l slotIds ++ after) := by
  unfold Leases.allocationPlan
  split_ifs with hslots
  · rw [List.nil_append, ← List.append_nil after]
    exact checksFree_quiet hafter trivial
  · rw [Parking.allocateParkingSlots_eq, List.append_assoc, List.cons_append, List.cons_append]
    refine .inl (.inr fun db hfree a ha => ?_)
    rintro ⟨b, hb, hslot, hopen⟩
    rw [allocatedBy_creates _ (Plan.isQuiet_append (Plan.isQuiet_write rfl Plan.isQuiet_nil)
      hafter)] at ha
    have hmem := List.mem_map_of_mem (f := (·.parkingSlotId)) ha
    rw [Parking.moveInAllocations_slots] at hmem
    exact of_decide_eq_true hfree ⟨b, hb, hslot ▸ hmem, hopen⟩

theorem Allocator.checks (p : Allocator) (h : p.plan db = .ok plan) :
    Unchecked [] plan ∨ FoundFree db [] plan := by
  obtain ⟨env, call⟩ := p
  cases call with
  | allocate user buildingId dto =>
    obtain ⟨orgId, target, lease, selection, slotIds, -, -, -, hslots, rfl⟩ := Parking.allocate_ok h
    refine .inr fun a ha => ?_
    rintro ⟨b, hb, hslot, hopen⟩
    have hquiet : Plan.IsQuiet (lease.map fun lease => .write
        (Parking.allocationActivity env db user orgId buildingId target slotIds lease)).toList :=
      Parking.activityPlan_quiet lease orgId _ _
    rw [List.nil_append, allocatedBy_creates _ hquiet] at ha
    have hmem := List.mem_map_of_mem (f := (·.parkingSlotId)) ha
    rw [Parking.createAllocations_slots] at hmem
    exact (Parking.selectSlots_ok hslots).2 b hb (hslot ▸ hmem) hopen
  | moveIn user buildingId dto =>
    obtain ⟨residentUserId, l, newUser, before, after, -, hnew, hbefore, hafter, rfl⟩ :=
      Leases.moveIn_plan h
    refine .inl ⟨fun w hw => absurd hw List.not_mem_nil, rfl, checksFree_quiet hnew ?_⟩
    exact ⟨trivial, rfl, trivial, rfl, trivial, rfl,
      checksFree_quiet hbefore (checksFree_allocationPlan hafter)⟩

theorem Unchecked.check {p : Db → Bool} {e : HttpException}
    (h : Unchecked written (.require p e :: rest))
    (hview : replay DbWrite.apply written db = .ok db') (hp : p db' = true) :
    Unchecked written rest ∨ FoundFree db written rest := by
  obtain ⟨hopens, hnothing, hchecks⟩ := h
  refine hchecks.imp (fun hchecks => ⟨hopens, hnothing, hchecks⟩) fun hfree a ha => ?_
  have hsame := (replay_allocations hopens hview).1
  rw [allocatedBy, List.filterMap_append, ← allocatedBy, hnothing, List.nil_append] at ha
  rintro ⟨b, hb, hslot, hopen⟩
  exact hfree db' hp a ha ⟨b, (hsame b).mpr (.inl hb), hslot, hopen⟩

theorem Unchecked.write {w : DbWrite} (h : Unchecked written (.write w :: rest)) :
    Unchecked (written ++ [w]) rest := by
  obtain ⟨hopens, hnothing, hw, hnone, hchecks⟩ := h
  refine ⟨List.forall_mem_append.mpr ⟨hopens, List.forall_mem_singleton.mpr hw⟩, ?_, hchecks⟩
  have hsingle : allocatedBy [w] = [] := List.filterMap_cons_none hnone
  rw [allocatedBy, List.filterMap_append, ← allocatedBy, ← allocatedBy, hnothing, hsingle]
  rfl

end Checks

section Runs

variable {π : Type} [DecidableEq π]

/-- What is committed after the transactions have taken their turns. -/
def committed (procs : π → Allocator) (db : Db) (ms : List (π × Unit)) : Db :=
  (Run.exec (Interleaving.next (machine DbWrite.apply fun i => (procs i).plan))
    (Config.start db .idle) ms).shared

/-- No slot has two open allocations, whatever the order of the steps, exactly when no
transaction commits one of a slot that is taken by then. -/
theorem one_open_per_slot_iff (db : Db) (hstart : OneOpenPerSlot db) (procs : π → Allocator)
    (ms : List (π × Unit)) :
    (∀ ns, ns <+: ms → OneOpenPerSlot (committed procs db ns)) ↔
      Run.Along (Interleaving.next (machine DbWrite.apply fun i => (procs i).plan))
        (AtStep fun _ _ l db => AtCommit DbWrite.apply TakesFreeSlots l db)
        (Config.start db .idle) ms := by
  refine ReadCommitted.forall_safe_iff (J := Proceeds) ?_ ?_ ?_ ?_ hstart ms
  · intro p db rest hplan
    exact ⟨fun w hw => absurd hw List.not_mem_nil, (procs p).opensDistinct hplan⟩
  · intro written p e rest db h hp
    exact ⟨h.1, h.2 db hp⟩
  · intro written w rest h
    exact proceeds_write h
  · intro written db db' h hone hcommit
    exact oneOpen_commit_iff h.1 h.2 hone hcommit

/-- What a transaction is about to commit it has found free in some state of the run, so that
a slot taken by then was taken after that. -/
theorem found_free (db : Db) (procs : π → Allocator) (ns : List (π × Unit)) (p : π)
    {written : List DbWrite}
    (h : (Run.exec (Interleaving.next (machine DbWrite.apply fun i => (procs i).plan))
      (Config.start db .idle) ns).locals p = .running written []) :
    ∃ ks, ks <+: ns ∧ TakesFreeSlots written (committed procs db ks) := by
  have hfound := ReadCommitted.found_exec (U := Unchecked) (F := FoundFree)
    (fun q db rest hplan => (procs q).checks hplan)
    (fun written check e rest db v hyet hview hv => hyet.check hview hv)
    (fun written w rest hyet => hyet.write) (fun written check e rest db hfound => hfound)
    (fun written w rest db hfound => by
      unfold FoundFree
      rw [List.append_assoc]
      exact hfound) db ns p h
  rcases hfound with hyet | ⟨ks, hks, hfound⟩
  · refine ⟨[], List.nil_prefix, fun a ha => ?_⟩
    rw [hyet.nothing] at ha
    cases ha
  · refine ⟨ks, hks, ?_⟩
    rw [FoundFree, Transaction.writes_nil, List.append_nil] at hfound
    exact hfound

theorem garage_oneOpen : OneOpenPerSlot garage :=
  fun a ha => absurd ha (Table.not_mem_empty a)

/-- The manager allocates a slot to each of the two units, in two transactions. -/
def twoAllocations (slotId : Bool → Id) (first : Bool) : Allocator where
  env := (managerAllocates 1 (if first then "first" else "second") "101" "slot").1
  call := .allocate Leases.manager "building"
    ⟨none, some (if first then "101" else "102"), some [slotId first], none⟩

theorem slots_of_their_own_one_open :
    OneOpenPerSlot garage ∧
      ∀ ns, ns <+: [(true, ()), (false, ()), (true, ()), (false, ()), (true, ()), (false, ())] →
        OneOpenPerSlot (committed (twoAllocations fun first => if first then "slot" else "corner")
          garage ns) :=
  ⟨garage_oneOpen, (one_open_per_slot_iff garage garage_oneOpen
    (twoAllocations fun first => if first then "slot" else "corner")
    [(true, ()), (false, ()), (true, ()), (false, ()), (true, ()), (false, ())]).mpr
      (by decide +kernel)⟩

/-- Both find the slot free before either commits. -/
theorem slot_allocated_twice_at_once :
    ¬ ∀ db : Db, OneOpenPerSlot db → ∀ (procs : Bool → Allocator) (ms ns : List (Bool × Unit)),
      ns <+: ms → OneOpenPerSlot (committed procs db ns) := by
  intro h
  have hone := h garage garage_oneOpen (twoAllocations fun _ => "slot")
    [(true, ()), (false, ()), (true, ()), (false, ()), (true, ()), (false, ())] _
    (List.prefix_refl _)
  revert hone
  decide +kernel

end Runs

end Towerdesk.Residency
