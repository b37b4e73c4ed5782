import Towerdesk.Lib.Span
import Towerdesk.Residency.Scene

/-!
# The calendar of a parking slot

A slot counts as free when none of its allocations is open. An allocation that is ended
at a later date still runs, though, and an allocation of a move-in starts with its lease,
which may be long ago. Two allocations of a slot never overlap exactly when no slot is
taken for a time that an ended allocation of it still covers.
-/

namespace Towerdesk.Residency

open Leases (Db ParkingAllocation MovesOut allocationEnded)
open Parking (Allocations)

def ParkingAllocation.span (a : ParkingAllocation) : Span Date := ⟨a.startDate, a.endDate⟩

/-- No slot is given out twice in time. -/
def AllocationsApart (t : Allocations) : Prop :=
  ∀ a ∈ t, ∀ b ∈ t, a.parkingSlotId = b.parkingSlotId → a.id ≠ b.id →
    (ParkingAllocation.span a).Apart (ParkingAllocation.span b)

/-- No ended allocation of the slot covers the instant or a later one. -/
def FreeFrom (t : Allocations) (slotId : Id) (start : Date) : Prop :=
  ∀ a ∈ t, a.parkingSlotId = slotId → ∀ e ∈ a.endDate, e ≤ start ∨ e ≤ a.startDate

instance (t : Allocations) (slotId : Id) (start : Date) : Decidable (FreeFrom t slotId start) :=
  inferInstanceAs (Decidable (∀ a ∈ t, _))

section Takes

variable {t t' : Allocations} {slotIds : List Id} {start : Date} {rows : List ParkingAllocation}

theorem apart_of_ended_first {a b : ParkingAllocation} {e : Date} (he : a.endDate = some e)
    (h : e ≤ b.startDate ∨ e ≤ a.startDate) :
    (ParkingAllocation.span a).Apart (ParkingAllocation.span b) := by
  rcases h with hbefore | hempty
  · exact Span.Before.apart ⟨e, he, hbefore⟩
  · exact Span.IsEmpty.apart ⟨e, he, hempty⟩

theorem Takes.apart (h : Parking.Takes t t' slotIds start rows) (hapart : AllocationsApart t)
    (hfree : ∀ slotId ∈ slotIds, FreeFrom t slotId start) : AllocationsApart t' := by
  have hslot : ∀ r ∈ rows, r.parkingSlotId ∈ slotIds := by
    intro r hr
    rw [← h.slots]
    exact List.mem_map_of_mem hr
  have hnew : ∀ r ∈ rows, ∀ a ∈ t, a.parkingSlotId = r.parkingSlotId →
      (ParkingAllocation.span a).Apart (ParkingAllocation.span r) := by
    intro r hr a ha hsame
    have hmem : a.parkingSlotId ∈ slotIds := hsame ▸ hslot r hr
    obtain ⟨e, he⟩ := Option.ne_none_iff_exists'.mp (h.free a ha hmem)
    refine apart_of_ended_first he ?_
    rw [(h.opened r hr).1]
    exact hfree _ hmem a ha rfl e he
  intro a ha b hb hsame hne
  rcases (h.mem a).mp ha with ha | ha
  · rcases (h.mem b).mp hb with hb | hb
    · exact hapart a ha b hb hsame hne
    · exact hnew b hb a ha hsame
  · rcases (h.mem b).mp hb with hb | hb
    · exact (hnew a ha b hb hsame.symm).symm
    · -- one call takes a slot only once
      have hinj := List.inj_on_of_nodup_map (h.slots ▸ h.distinct)
      exact absurd (congrArg (·.id) (hinj ha hb hsame)) hne

theorem Takes.freeFrom (h : Parking.Takes t t' slotIds start rows) (hapart : AllocationsApart t') :
    ∀ slotId ∈ slotIds, FreeFrom t slotId start := by
  intro slotId hslot a ha hsame e he
  rw [← h.slots] at hslot
  obtain ⟨r, hr, hrslot⟩ := List.mem_map.mp hslot
  obtain ⟨hstart, hopen⟩ := h.opened r hr
  have ha' := (h.mem a).mpr (.inl ha)
  have hr' := (h.mem r).mpr (.inr hr)
  have hne : a.id ≠ r.id := by
    intro hid
    rw [Table.eq_of_key_eq ha' hr' hid, hopen] at he
    cases he
  have hspans := hapart a ha' r hr' (hsame.trans hrslot.symm) hne
  rcases Span.apart_iff.mp hspans with ⟨x, hx, hle⟩ | ⟨x, hx, -⟩ | ⟨x, hx, hle⟩ | ⟨x, hx, -⟩
  · obtain rfl : e = x := Option.some.inj (he.symm.trans hx)
    exact .inr hle
  · exact absurd (hopen.symm.trans hx) (by simp)
  · obtain rfl : e = x := Option.some.inj (he.symm.trans hx)
    exact .inl (hstart ▸ hle)
  · exact absurd (hopen.symm.trans hx) (by simp)

end Takes

section Closes

/-- Open allocations are ended, all at one date. -/
def Closes (t t' : Allocations) : Prop :=
  ∃ (q : ParkingAllocation → Bool) (endDate : Date), (∀ a, q a = true → a.endDate = none) ∧
    t' = t.modifyWhere q (allocationEnded endDate)

variable {t t' : Allocations}

theorem Closes.refl (t : Allocations) : Closes t t :=
  ⟨fun _ => false, 0, fun _ h => absurd h Bool.false_ne_true,
    (Table.modifyWhere_eq_self fun _ _ => rfl).symm⟩

theorem Closes.row (h : Closes t t') {b : ParkingAllocation} (hb : b ∈ t') :
    ∃ a ∈ t, a.id = b.id ∧ a.parkingSlotId = b.parkingSlotId ∧
      ∀ instant, (ParkingAllocation.span b).Covers instant →
        (ParkingAllocation.span a).Covers instant := by
  obtain ⟨q, endDate, hopen, rfl⟩ := h
  rcases Table.mem_modifyWhere.mp hb with ⟨a, ha, hq, rfl⟩ | ⟨hkept, -⟩
  · exact ⟨a, ha, rfl, rfl, fun _ hc => Span.covers_of_covers_endAt (hopen a hq) hc⟩
  · exact ⟨b, hkept, rfl, rfl, fun _ hc => hc⟩

theorem Closes.apart (h : Closes t t') (hapart : AllocationsApart t) : AllocationsApart t' := by
  intro b hb b' hb' hsame hne
  obtain ⟨a, ha, hid, hslot, hcover⟩ := h.row hb
  obtain ⟨a', ha', hid', hslot', hcover'⟩ := h.row hb'
  have hspans := hapart a ha a' ha' (hslot.trans (hsame.trans hslot'.symm))
    (by rw [hid, hid']; exact hne)
  exact ((hspans.mono hcover).symm.mono hcover').symm

variable {env : Leases.Env} {db db' : Db} {op : Leases.Operation} {l : Lease}
  {user : Option AuthenticatedUser}

theorem MovesOut.closes {occupancyId : Id} {endAt : Date}
    (h : MovesOut env user l occupancyId endAt db db') :
    Closes db.books.parkingAllocations db'.books.parkingAllocations := by
  obtain ⟨settlement, hbooks⟩ := h.books
  rw [hbooks]
  exact ⟨_, endAt, fun a ha => (of_decide_eq_true ha).2.2, rfl⟩

theorem closes_of_eq (h : db'.books.parkingAllocations = db.books.parkingAllocations) :
    Closes db.books.parkingAllocations db'.books.parkingAllocations := by
  rw [h]
  exact Closes.refl _

theorem Effect.closes (he : Leases.Effect env db db' op)
    (hop : ∀ user buildingId dto, op ≠ .moveIn user buildingId dto) :
    Closes db.books.parkingAllocations db'.books.parkingAllocations := by
  cases he with
  | draft building unit resident l leases hlease hperiod hleases hbooks =>
    exact closes_of_eq (by rw [hbooks])
  | editContract l data hl hchecked hbooks => exact closes_of_eq (by rw [hbooks])
  | editLease l data columns hl hchecked hcolumns hbooks => exact closes_of_eq (by rw [hbooks])
  | replaceTerms hbooks => exact closes_of_eq (by rw [hbooks])
  | activated l hl hactive hbooks => exact closes_of_eq (by rw [hbooks])
  | activate l hl hended hactive hbooks hrecorded => exact closes_of_eq (by rw [hbooks])
  | cancel l hl hended hvacant hcancel => exact closes_of_eq (by rw [hcancel.books])
  | moveOutAndCancel l occupancyId db₁ hout hcancel =>
    have hcloses := MovesOut.closes hout
    rwa [show db₁.books.parkingAllocations = db'.books.parkingAllocations by
      rw [hcancel.books]] at hcloses
  | ask kind hop l r requests hl hactive hunlinked hnone hlease horg hpending hrequests hbooks =>
    exact closes_of_eq (by rw [hbooks, Leases.Books.parkingAllocations_withRequests])
  | review kind hop r status reviewerId rejectionReason hr hpending hstatus hbooks =>
    exact closes_of_eq (by rw [hbooks, Leases.Books.parkingAllocations_withRequests])
  | executeMoveIn l residentUserId r occupancies hl hactive hunlinked hr horg hlease happroved
      hoccupancies hbooks => exact closes_of_eq (by rw [hbooks])
  | executeMoveOut l r occupancyId db₁ hfound hout hcomplete =>
    have hcloses := MovesOut.closes hout
    rwa [show db₁.books.parkingAllocations = db'.books.parkingAllocations by
      rw [hcomplete.books]] at hcloses
  | moveIn residentUserId l leases occupancies parkingAllocations hlease hoccupancies hleases
      hallocations hbooks => exact absurd rfl (hop _ _ _)
  | moveOut l occupancyId endAt hend hout => exact MovesOut.closes hout

end Closes

section Runs

/-- The slots that an allocation takes: those it names, or the first free ones. -/
def slotsTaken (env : Parking.Env) (db : Db) (user : Option AuthenticatedUser) (buildingId : Id)
    (dto : Parking.AllocateParkingSlotsDto) : List Id :=
  match assertOrgScope user, Parking.slotSelection dto with
  | .ok orgId, .ok selection =>
    ((Parking.selectSlots env db orgId buildingId selection).toOption).getD []
  | _, _ => []

/-- No slot is taken for a time that an ended allocation of it still covers. -/
def TakesFreeTime (env : Parking.Env) (db : Db) : Operation → Prop
  | .lease (.moveIn _ _ dto) => ∀ start ∈ dto.leaseStartDate,
      ∀ slotId ∈ dto.parkingSlotIds.getD [], FreeFrom db.parkingAllocations slotId start
  | .parking (.allocate user buildingId dto) =>
      ∀ slotId ∈ slotsTaken env db user buildingId dto, FreeFrom db.parkingAllocations slotId env.now
  | _ => True

instance (env : Parking.Env) (db : Db) : ∀ op, Decidable (TakesFreeTime env db op)
  | .lease (.moveIn _ _ dto) =>
    inferInstanceAs (Decidable (∀ start ∈ dto.leaseStartDate, _))
  | .parking (.allocate user buildingId dto) =>
    inferInstanceAs (Decidable (∀ slotId ∈ slotsTaken env db user buildingId dto, _))
  | .lease (.createDraftContract _ _ _) | .lease (.updateContract _ _ _)
  | .lease (.updateLease _ _ _) | .lease (.replaceAdditionalTerms _ _ _)
  | .lease (.activateContract _ _) | .lease (.cancelContract _ _ _)
  | .lease (.createResidentMoveInRequest _ _ _) | .lease (.createResidentMoveOutRequest _ _ _)
  | .lease (.approveMoveInRequest _ _) | .lease (.rejectMoveInRequest _ _ _)
  | .lease (.approveMoveOutRequest _ _) | .lease (.rejectMoveOutRequest _ _ _)
  | .lease (.executeApprovedMoveIn _ _) | .lease (.executeApprovedMoveOut _ _)
  | .lease (.moveOut _ _ _ _) | .parking (.endAllocation _ _ _)
  | .parking (.endAllForOccupancy _ _ _) | .parking (.endAllForUnit _ _ _) | .provision _ =>
    isTrue trivial

def TakesFreeTimeIfSuccessful (c : Parking.Env × Operation) (db : Db) : Prop :=
  Succeeds c.1 c.2 db → TakesFreeTime c.1 db c.2

instance (c : Parking.Env × Operation) (db : Db) : Decidable (TakesFreeTimeIfSuccessful c db) :=
  inferInstanceAs (Decidable (Succeeds _ _ _ → _))

variable {env : Parking.Env} {db db' : Db} {user : Option AuthenticatedUser} {buildingId : Id}

theorem slotsTaken_eq {dto : Parking.AllocateParkingSlotsDto} {orgId : Id}
    {selection : Parking.SlotSelection} {slotIds : List Id}
    (horg : assertOrgScope user = .ok orgId) (hselection : Parking.slotSelection dto = .ok selection)
    (hslots : Parking.selectSlots env db orgId buildingId selection = .ok slotIds) :
    slotsTaken env db user buildingId dto = slotIds := by
  simp [slotsTaken, horg, hselection, hslots, Except.toOption]

theorem MovesIn.start {dto : Leases.MoveInDto} {l : Lease}
    (h : Parking.MovesIn env.toEnv user buildingId dto l db db') :
    dto.leaseStartDate = some l.leaseStartDate := by
  obtain ⟨-, -, -, -, hstart, -⟩ := Leases.moveInLease_ok h.lease
  exact Outcome.orThrow_eq_ok.mp hstart

theorem Provisions.allocations {params : Users.OrgUserProvisionParams} {userId : Id}
    (h : Provisions env.toEnv params userId db db') :
    db'.books.parkingAllocations = db.books.parkingAllocations := by
  obtain ⟨occupancies, hbooks, -⟩ := h.books
  rw [hbooks]

theorem next_apart (c : Parking.Env × Operation) (db : Db)
    (hapart : AllocationsApart db.parkingAllocations) (hg : TakesFreeTimeIfSuccessful c db) :
    AllocationsApart (next c db).parkingAllocations := by
  obtain ⟨env, op⟩ := c
  by_cases hs : Succeeds env op db
  · have hfree := hg hs
    cases op with
    | lease op =>
      by_cases hop : ∀ user buildingId dto, op ≠ .moveIn user buildingId dto
      · exact (Effect.closes (next_lease hs) hop).apart hapart
      · push Not at hop
        obtain ⟨user, buildingId, dto, rfl⟩ := hop
        obtain ⟨l, hmoves⟩ := next_moveIn hs
        obtain ⟨residentUserId, leases, occupancies, t, -, -, htakes, hbooks⟩ := hmoves.books
        change AllocationsApart (next _ db).books.parkingAllocations
        rw [hbooks]
        exact Takes.apart htakes hapart (hfree _ (MovesIn.start hmoves))
    | parking op =>
      cases next_parking hs with
      | allocate orgId target selection slotIds t horg hlease hselection hslots htakes hbooks =>
        change AllocationsApart (next _ db).books.parkingAllocations
        rw [hbooks]
        refine Takes.apart htakes hapart ?_
        rw [← slotsTaken_eq horg hselection hslots]
        exact hfree
      | finish hop q endDate hopen hbooks =>
        change AllocationsApart (next _ db).books.parkingAllocations
        rw [hbooks]
        exact Closes.apart ⟨q, endDate, hopen, rfl⟩ hapart
    | provision params =>
      obtain ⟨userId, hprovisions⟩ := next_provision hs
      change AllocationsApart (next _ db).books.parkingAllocations
      rw [Provisions.allocations hprovisions]
      exact hapart
  · rwa [next_of_fails hs]

theorem freeTime_of_apart (c : Parking.Env × Operation) (db : Db)
    (hapart : AllocationsApart (next c db).parkingAllocations) : TakesFreeTimeIfSuccessful c db := by
  obtain ⟨env, op⟩ := c
  intro hs
  cases op with
  | lease op =>
    cases op with
    | moveIn user buildingId dto =>
      obtain ⟨l, hmoves⟩ := next_moveIn hs
      obtain ⟨residentUserId, leases, occupancies, t, -, -, htakes, hbooks⟩ := hmoves.books
      change AllocationsApart (next _ db).books.parkingAllocations at hapart
      rw [hbooks] at hapart
      intro start hstart
      obtain rfl : l.leaseStartDate = start :=
        Option.some.inj ((MovesIn.start hmoves).symm.trans hstart)
      exact Takes.freeFrom htakes hapart
    | _ => trivial
  | parking op =>
    cases next_parking hs with
    | allocate orgId target selection slotIds t horg hlease hselection hslots htakes hbooks =>
      change AllocationsApart (next _ db).books.parkingAllocations at hapart
      rw [hbooks] at hapart
      intro slotId hslot
      rw [slotsTaken_eq horg hselection hslots] at hslot
      exact Takes.freeFrom htakes hapart slotId hslot
    | finish hop q endDate hopen hbooks =>
      cases op with
      | allocate user buildingId dto => cases hop
      | _ => trivial
  | provision params => trivial

/-- The allocations of a slot are apart in every state of a run exactly when every call that
returns takes its slots from a time they are free from. -/
theorem slot_calendar_iff (db : Db) (hstart : AllocationsApart db.parkingAllocations)
    (cs : List (Parking.Env × Operation)) :
    (∀ ms, ms <+: cs → AllocationsApart (Run.exec next db ms).parkingAllocations) ↔
      Run.Along next TakesFreeTimeIfSuccessful db cs := by
  refine Run.forall_exec_iff_along
    (I := fun db : Db => AllocationsApart db.parkingAllocations) ?_ ?_
  · exact fun c db hapart => freeTime_of_apart c db hapart
  · intro ms hg
    exact Run.exec_inv_along (I := fun db : Db => AllocationsApart db.parkingAllocations)
      (fun c db h hg => next_apart c db h hg) hstart hg

theorem garage_apart : AllocationsApart garage.parkingAllocations :=
  fun a ha => absurd ha (Table.not_mem_empty a)

theorem slot_given_again_after_its_end :
    AllocationsApart garage.parkingAllocations ∧
      ∀ ms, ms <+: [managerAllocates 1 "first" "101" "slot", managerEnds 2 "first" 2,
          managerAllocates 3 "second" "102" "slot"] →
        AllocationsApart (Run.exec next garage ms).parkingAllocations :=
  ⟨garage_apart, (slot_calendar_iff garage garage_apart
    [managerAllocates 1 "first" "101" "slot", managerEnds 2 "first" 2,
      managerAllocates 3 "second" "102" "slot"]).mpr (by decide +kernel)⟩

/-- An allocation that runs until 100 is no obstacle to another from 3 on. -/
theorem slot_given_out_twice :
    ¬ ∀ db : Db, AllocationsApart db.parkingAllocations → ∀ cs ms, ms <+: cs →
      AllocationsApart (Run.exec next db ms).parkingAllocations := by
  intro h
  have hapart := h garage garage_apart [managerAllocates 1 "first" "101" "slot",
    managerEnds 2 "first" 100, managerAllocates 3 "second" "102" "slot"] _ (List.prefix_refl _)
  have hfree := freeTime_of_apart (managerAllocates 3 "second" "102" "slot")
    (Run.exec next garage
      [managerAllocates 1 "first" "101" "slot", managerEnds 2 "first" 100]) hapart
  revert hfree
  decide +kernel

end Runs

end Towerdesk.Residency
