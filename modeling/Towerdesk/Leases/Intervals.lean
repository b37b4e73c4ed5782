import Towerdesk.Leases.Scene

/-!
# Ended intervals

A move-out ends the occupancy of its lease and the parking allocated to it at a date
that nothing compares with their start: a given date, the date a request asked for, or
the current time when an occupied contract is cancelled. Ended intervals run forwards
exactly when these dates do not come before the starts they meet.
-/

namespace Towerdesk.Leases

structure IntervalsForward (db : Db) : Prop where
  occupancies : ∀ o ∈ db.books.occupancies, o.status = .ENDED →
    ∃ endAt, o.endAt = some endAt ∧ o.startAt ≤ endAt
  allocations : ∀ a ∈ db.books.parkingAllocations, ∀ endDate, a.endDate = some endDate →
    a.startDate ≤ endDate

/-- The date is not before the start of anything a move-out of the lease ends. -/
structure NotBeforeStart (db : Db) (l : Lease) (endAt : Date) : Prop where
  occupancy : ∀ o ∈ db.books.occupancies, l.occupancyId = some o.id → o.startAt ≤ endAt
  allocations : ∀ a ∈ db.books.parkingAllocations,
    a.orgId = l.orgId ∧ l.occupancyId.isSome ∧ a.occupancyId = l.occupancyId ∧
      a.endDate = none → a.startDate ≤ endAt

instance (db : Db) (l : Lease) (endAt : Date) : Decidable (NotBeforeStart db l endAt) :=
  decidable_of_iff
    ((∀ o ∈ db.books.occupancies, l.occupancyId = some o.id → o.startAt ≤ endAt) ∧
      ∀ a ∈ db.books.parkingAllocations,
        a.orgId = l.orgId ∧ l.occupancyId.isSome ∧ a.occupancyId = l.occupancyId ∧
          a.endDate = none → a.startDate ≤ endAt)
    ⟨fun h => ⟨h.1, h.2⟩, fun h => ⟨h.occupancy, h.allocations⟩⟩

/-- Whatever the operation moves out of, it does not before it started. -/
def MovesOutForward (now : Date) : Operation → Db → Prop
  | .moveOut _ _ leaseId dto, db =>
    ∀ l ∈ db.leases.table, l.id = leaseId →
      ∀ endAt ∈ dto.actualMoveOutDate, NotBeforeStart db l endAt
  | .executeApprovedMoveOut _ contractId, db =>
    ∀ l ∈ db.leases.table, l.id = contractId →
      ∀ r ∈ findApprovedRequest db .MOVE_OUT l, NotBeforeStart db l r.requestedMoveAt
  | .cancelContract _ contractId _, db =>
    ∀ l ∈ db.leases.table, l.id = contractId → l.status = .ACTIVE → NotBeforeStart db l now
  | _, _ => True

instance : ∀ now op db, Decidable (MovesOutForward now op db) := by
  rintro now ⟨⟩ db <;>
    first
    | exact inferInstanceAs (Decidable (∀ l ∈ db.leases.table, _))
    | exact isTrue trivial

def MovesOutForwardIfSuccessful (c : Env × Operation) (db : Db) : Prop :=
  Succeeds c.1 c.2 db → MovesOutForward c.1.now c.2 db

instance (c : Env × Operation) (db : Db) : Decidable (MovesOutForwardIfSuccessful c db) :=
  inferInstanceAs (Decidable (Succeeds _ _ _ → _))

section Step

variable {env : Env} {op : Operation} {db db' db₁ : Db} {user : Option AuthenticatedUser}
  {l : Lease}

theorem IntervalsForward.of_eq (h : IntervalsForward db)
    (hoccupancies : db'.books.occupancies = db.books.occupancies)
    (hallocations : db'.books.parkingAllocations = db.books.parkingAllocations) :
    IntervalsForward db' where
  occupancies := by
    rw [hoccupancies]
    exact h.occupancies
  allocations := by
    rw [hallocations]
    exact h.allocations

theorem IntervalsForward.extend {o : Occupancy} (h : IntervalsForward db)
    (ho : o.status = .ACTIVE)
    (hoccupancies : db.books.occupancies.insert o = some db'.books.occupancies)
    (hallocations : ∀ a ∈ db'.books.parkingAllocations,
      a ∈ db.books.parkingAllocations ∨ a.endDate = none) : IntervalsForward db' where
  occupancies x hx hended := by
    rcases (Table.mem_insert hoccupancies).mp hx with hx | rfl
    · exact h.occupancies x hx hended
    · simp [ho] at hended
  allocations a ha endDate hend := by
    rcases hallocations a ha with ha | hopen
    · exact h.allocations a ha endDate hend
    · simp [hopen] at hend

theorem MovesOut.forward {occupancyId : Id} {endAt : Date}
    (hout : MovesOut env user l occupancyId endAt db db') (hstart : NotBeforeStart db l endAt)
    (h : IntervalsForward db) : IntervalsForward db' := by
  obtain ⟨settlement, hbooks⟩ := hout.books
  have hlinked := hout.linked
  constructor
  · rw [hbooks]
    refine Table.forall_modify h.occupancies fun o ho hid _ => ?_
    exact ⟨endAt, rfl, hstart.occupancy o ho (hid ▸ hlinked)⟩
  · rw [hbooks]
    intro x hx endDate hend
    rcases Table.mem_modifyWhere.mp hx with ⟨a, ha, hq, rfl⟩ | ⟨hx, -⟩
    · obtain ⟨horg, hoccupancy, hopen⟩ := of_decide_eq_true hq
      obtain rfl : endAt = endDate := Option.some.inj hend
      exact hstart.allocations a ha ⟨horg, by simp [hlinked], hoccupancy.trans hlinked.symm, hopen⟩
    · exact h.allocations x hx endDate hend

theorem MovesOut.not_forward {occupancyId : Id} {endAt : Date}
    (hout : MovesOut env user l occupancyId endAt db db') (hstart : ¬ NotBeforeStart db l endAt) :
    ¬ IntervalsForward db' := by
  obtain ⟨settlement, hbooks⟩ := hout.books
  have hlinked := hout.linked
  intro h
  refine hstart ⟨fun o ho hid => ?_, fun a ha hq => ?_⟩
  · have hsame : o.id = occupancyId := Option.some.inj (hid.symm.trans hlinked)
    have hmem : (occupancyEnded env.now endAt).apply o ∈ db'.books.occupancies := by
      rw [hbooks, ← hsame]
      exact Table.apply_mem_modify ho
    obtain ⟨e, he, hle⟩ := h.occupancies _ hmem rfl
    obtain rfl : endAt = e := Option.some.inj he
    exact hle
  · obtain ⟨horg, -, hoccupancy, hopen⟩ := hq
    have hmem : (allocationEnded endAt).apply a ∈ db'.books.parkingAllocations := by
      rw [hbooks]
      exact Table.mem_modifyWhere.mpr
        (.inl ⟨a, ha, decide_eq_true ⟨horg, hoccupancy.trans hlinked, hopen⟩, rfl⟩)
    exact h.allocations _ hmem endAt rfl

theorem Cancels.forward_iff (hcancel : Cancels env l db db') :
    IntervalsForward db' ↔ IntervalsForward db := by
  have hoccupancies : db'.books.occupancies = db.books.occupancies := by rw [hcancel.books]
  have hallocations : db'.books.parkingAllocations = db.books.parkingAllocations := by
    rw [hcancel.books]
  exact ⟨fun h => h.of_eq hoccupancies.symm hallocations.symm,
    fun h => h.of_eq hoccupancies hallocations⟩

theorem Completes.forward_iff {r : MoveRequest} (hcomplete : Completes env l r db db') :
    IntervalsForward db' ↔ IntervalsForward db := by
  have hoccupancies : db'.books.occupancies = db.books.occupancies := by rw [hcomplete.books]
  have hallocations : db'.books.parkingAllocations = db.books.parkingAllocations := by
    rw [hcomplete.books]
  exact ⟨fun h => h.of_eq hoccupancies.symm hallocations.symm,
    fun h => h.of_eq hoccupancies hallocations⟩

theorem Effect.forward (he : Effect env db db' op) (hforward : MovesOutForward env.now op db)
    (h : IntervalsForward db) : IntervalsForward db' := by
  cases he with
  | draft building unit resident l leases hlease hperiod hleases hbooks =>
    exact h.of_eq (by rw [hbooks]) (by rw [hbooks])
  | editContract l data hl hchecked hbooks => exact h.of_eq (by rw [hbooks]) (by rw [hbooks])
  | editLease l data columns hl hchecked hcolumns hbooks =>
    exact h.of_eq (by rw [hbooks]) (by rw [hbooks])
  | replaceTerms hbooks => exact h.of_eq (by rw [hbooks]) (by rw [hbooks])
  | activated l hl hactive hbooks => exact h.of_eq (by rw [hbooks]) (by rw [hbooks])
  | activate l hl hended hactive hbooks hrecorded =>
    exact h.of_eq (by rw [hbooks]) (by rw [hbooks])
  | cancel l hl hended hvacant hcancel => exact hcancel.forward_iff.mpr h
  | moveOutAndCancel l occupancyId db₁ hout hcancel =>
    exact hcancel.forward_iff.mpr (hout.forward (hforward l hout.mem rfl hout.active) h)
  | ask kind hop l r requests hl hactive hunlinked hnone hlease horg hpending hrequests hbooks =>
    exact h.of_eq (by rw [hbooks, Books.occupancies_withRequests])
      (by rw [hbooks, Books.parkingAllocations_withRequests])
  | review kind hop r status reviewerId rejectionReason hr hpending hstatus hbooks =>
    exact h.of_eq (by rw [hbooks, Books.occupancies_withRequests])
      (by rw [hbooks, Books.parkingAllocations_withRequests])
  | executeMoveIn l residentUserId r occupancies hl hactive hunlinked hr horg hlease happroved
      hoccupancies hbooks =>
    refine h.extend rfl (by rw [hoccupancies, hbooks]) fun a ha => .inl ?_
    rwa [hbooks] at ha
  | executeMoveOut l r occupancyId db₁ hfound hout hcomplete =>
    exact hcomplete.forward_iff.mpr (hout.forward (hforward l hout.mem rfl r hfound) h)
  | moveIn residentUserId l leases occupancies parkingAllocations hlease hoccupancies hleases
      hallocations hbooks =>
    refine h.extend rfl (by rw [hoccupancies, hbooks]) fun a ha => hallocations a ?_
    rwa [hbooks] at ha
  | moveOut l occupancyId endAt hend hout =>
    exact hout.forward (hforward l hout.mem rfl endAt (Outcome.orThrow_eq_ok.mp hend)) h

theorem next_forward (c : Env × Operation) (db : Db) (h : IntervalsForward db)
    (hg : MovesOutForwardIfSuccessful c db) : IntervalsForward (next c db) := by
  obtain ⟨env, op⟩ := c
  by_cases hs : Succeeds env op db
  · exact (next_of_succeeds hs).forward (hg hs) h
  · rwa [next_of_fails hs]

theorem not_forward_of_not_movesOutForward (he : Effect env db db' op)
    (hforward : ¬ MovesOutForward env.now op db) : ¬ IntervalsForward db' := by
  cases he with
  | moveOutAndCancel l occupancyId db₁ hout hcancel =>
    rw [hcancel.forward_iff]
    refine hout.not_forward fun hstart => hforward fun x hx hid _ => ?_
    rwa [Table.eq_of_key_eq hx hout.mem hid]
  | executeMoveOut l r occupancyId db₁ hfound hout hcomplete =>
    rw [hcomplete.forward_iff]
    refine hout.not_forward fun hstart => hforward fun x hx hid s hs => ?_
    obtain rfl := Table.eq_of_key_eq hx hout.mem hid
    obtain rfl : r = s := Option.some.inj (hfound.symm.trans hs)
    exact hstart
  | moveOut l occupancyId endAt hend hout =>
    refine hout.not_forward fun hstart => hforward fun x hx hid e he => ?_
    obtain rfl := Table.eq_of_key_eq hx hout.mem hid
    obtain rfl : endAt = e := Option.some.inj ((Outcome.orThrow_eq_ok.mp hend).symm.trans he)
    exact hstart
  | cancel l hl hended hvacant hcancel =>
    -- nothing is moved out of a contract nobody lives under
    refine absurd (fun x hx hid hactive => ?_) hforward
    obtain rfl := Table.eq_of_key_eq hx hl hid
    have hunlinked : x.occupancyId = none := by
      by_contra hne
      exact hvacant ⟨hactive, Option.isSome_iff_ne_none.mpr hne⟩
    exact ⟨fun o _ ho => by simp [hunlinked] at ho, fun a _ hq => by simp [hunlinked] at hq⟩
  | ask kind hop =>
    cases op <;> first | exact absurd trivial hforward | cases hop
  | review kind hop =>
    cases op <;> first | exact absurd trivial hforward | cases hop
  | _ => exact absurd trivial hforward

end Step

section Runs

/-- Ended intervals run forwards in every state of a run exactly when no move-out that
returns is of a date before the start of what it ends. -/
theorem intervals_forward_iff (db : Db) (hstart : IntervalsForward db)
    (cs : List (Env × Operation)) :
    (∀ ms, ms <+: cs → IntervalsForward (Run.exec next db ms)) ↔
      Run.Along next MovesOutForwardIfSuccessful db cs := by
  refine Run.forall_exec_iff_along ?_ ?_
  · intro c db hintervals hs
    by_contra hforward
    exact not_forward_of_not_movesOutForward (next_of_succeeds hs) hforward hintervals
  · intro ms hg
    exact Run.exec_inv_along (fun c db h hg => next_forward c db h hg) hstart hg

theorem intervalsForward_start (directory : Directory) : IntervalsForward (Db.start directory) :=
  ⟨fun o ho => absurd ho (Table.not_mem_empty o), fun a ha => absurd ha (Table.not_mem_empty a)⟩

theorem intervals_forward_moved_out :
    IntervalsForward (Db.start sceneDirectory) ∧
      ∀ ms, ms <+: occupiedContract ++ [managerMovesOut 6 "contract"] →
        IntervalsForward (Run.exec next (Db.start sceneDirectory) ms) :=
  ⟨intervalsForward_start _, (intervals_forward_iff (Db.start sceneDirectory)
    (intervalsForward_start _) (occupiedContract ++ [managerMovesOut 6 "contract"])).mpr
      (by decide +kernel)⟩

/-- A lease that starts later is cancelled now. -/
theorem cancelled_before_start :
    ¬ ∀ db : Db, IntervalsForward db → ∀ cs ms, ms <+: cs →
      IntervalsForward (Run.exec next db ms) := by
  intro h
  have hforward := (h (Db.start sceneDirectory) (intervalsForward_start _)
    [managerMovesInDirectly 1 "lease" "101" "ann" 1000 2000, managerCancels 2 "lease"] _
      (List.prefix_refl _)).occupancies
  have hended : ∀ o ∈ (Run.exec next (Db.start sceneDirectory)
      [managerMovesInDirectly 1 "lease" "101" "ann" 1000 2000,
        managerCancels 2 "lease"]).books.occupancies, o.status = .ENDED →
      o.endAt.any (o.startAt ≤ ·) := by
    intro o ho hstatus
    obtain ⟨endAt, hend, hle⟩ := hforward o ho hstatus
    simp [hend, hle]
  revert hended
  decide +kernel

end Runs

end Towerdesk.Leases
