import Towerdesk.Leases.Scene
import Mathlib.Logic.Relation

/-!
# Composite lease states

A lease's status and the status of the occupancy linked to it make six composite
states with a few transitions between them. Calls refine this machine as long as no
cancelled contract is activated: the activation guards against ended contracts only,
and a contract cancelled after a move-out still carries its ended occupancy.
-/

namespace Towerdesk.Leases

inductive CompositeState
  | draftContract
  | activeNotMovedIn
  | activeOccupied
  | endedMovedOut
  | cancelledWithoutOccupancy
  | cancelledAfterMoveOut
deriving DecidableEq, Repr

namespace CompositeState

/-- Cancelling an occupied contract and an early move-out take two transitions. -/
inductive Transition : CompositeState → CompositeState → Prop
  | activate : Transition .draftContract .activeNotMovedIn
  | cancelDraft : Transition .draftContract .cancelledWithoutOccupancy
  | cancel : Transition .activeNotMovedIn .cancelledWithoutOccupancy
  | moveIn : Transition .activeNotMovedIn .activeOccupied
  | moveOut : Transition .activeOccupied .endedMovedOut
  | cancelMovedOut : Transition .endedMovedOut .cancelledAfterMoveOut

def Leads : CompositeState → CompositeState → Prop := Relation.ReflTransGen Transition

def IsOver : CompositeState → Prop
  | .endedMovedOut | .cancelledWithoutOccupancy | .cancelledAfterMoveOut => True
  | _ => False

theorem Transition.isOver {s s' : CompositeState} (h : Transition s s') (hs : s.IsOver) :
    s'.IsOver := by
  cases h with
  | cancelMovedOut => trivial
  | _ => exact hs.elim

theorem Leads.isOver {s s' : CompositeState} (h : Leads s s') (hs : s.IsOver) : s'.IsOver := by
  induction h with
  | refl => exact hs
  | tail _ hstep ih => exact hstep.isOver ih

end CompositeState

def LinkedTo (t : Tenancy) (l : Lease) (status : OccupancyStatus) : Prop :=
  ∃ o ∈ t.occupancies.table, l.occupancyId = some o.id ∧ o.status = status

def CompositeState.Holds (t : Tenancy) (l : Lease) : CompositeState → Prop
  | .draftContract => l.status = .DRAFT ∧ l.occupancyId = none
  | .activeNotMovedIn => l.status = .ACTIVE ∧ l.occupancyId = none
  | .activeOccupied => l.status = .ACTIVE ∧ LinkedTo t l .ACTIVE
  | .endedMovedOut => l.status = .ENDED ∧ LinkedTo t l .ENDED
  | .cancelledWithoutOccupancy => l.status = .CANCELLED ∧ l.occupancyId = none
  | .cancelledAfterMoveOut => l.status = .CANCELLED ∧ LinkedTo t l .ENDED

open CompositeState (Leads)

section Links

variable {t t' : Tenancy} {l : Lease} {s : CompositeState} {status : OccupancyStatus}

theorem CompositeState.Holds.mono (hlink : ∀ status, LinkedTo t l status → LinkedTo t' l status)
    (h : s.Holds t l) : s.Holds t' l := by
  cases s with
  | draftContract => exact h
  | activeNotMovedIn => exact h
  | activeOccupied => exact ⟨h.1, hlink _ h.2⟩
  | endedMovedOut => exact ⟨h.1, hlink _ h.2⟩
  | cancelledWithoutOccupancy => exact h
  | cancelledAfterMoveOut => exact ⟨h.1, hlink _ h.2⟩

theorem CompositeState.Holds.isOver_iff (h : s.Holds t l) : s.IsOver ↔ LeaseIsOver l := by
  cases s <;> simp [IsOver, LeaseIsOver, h.1]

theorem CompositeState.Holds.active_of_linked (h : s.Holds t l) (hactive : l.status = .ACTIVE)
    {o : Occupancy} (ho : o ∈ t.occupancies.table) (hlinked : l.occupancyId = some o.id) :
    o.status = .ACTIVE := by
  have hlink : LinkedTo t l .ACTIVE := by
    cases s with
    | activeOccupied => exact h.2
    | activeNotMovedIn => simp [h.2] at hlinked
    | _ => simp [CompositeState.Holds, hactive] at h
  obtain ⟨o', ho', hlinked', hstatus⟩ := hlink
  have hid : o.id = o'.id := Option.some.inj (hlinked.symm.trans hlinked')
  rw [Table.eq_of_key_eq ho ho' hid, hstatus]

theorem LinkedTo.insert {o : Occupancy}
    (hinsert : t.occupancies.table.insert o = some t'.occupancies.table) (h : LinkedTo t l status) :
    LinkedTo t' l status := by
  obtain ⟨o', ho', hlinked, hstatus⟩ := h
  exact ⟨o', (Table.mem_insert hinsert).mpr (.inl ho'), hlinked, hstatus⟩

theorem LinkedTo.of_eq (hoccupancies : t'.occupancies.table = t.occupancies.table)
    (h : LinkedTo t l status) : LinkedTo t' l status := by
  unfold LinkedTo
  rwa [hoccupancies]

end Links

/-- Every lease lives on, in a composite state its old one leads to, and every lease
that is new has a composite state. -/
structure Refines (t t' : Tenancy) : Prop where
  persists : ∀ l ∈ t.leases, ∃ l' ∈ t'.leases, l'.id = l.id ∧
    ∀ s : CompositeState, s.Holds t l → ∃ s' : CompositeState, s'.Holds t' l' ∧ Leads s s'
  rows : ∀ l' ∈ t'.leases, (∃ l ∈ t.leases, l.id = l'.id) ∨ ∃ s : CompositeState, s.Holds t' l'

def Canonical (t : Tenancy) : Prop := ∀ l ∈ t.leases, ∃ s : CompositeState, s.Holds t l

section Refinement

variable {t t' t'' : Tenancy} {l : Lease} {p : Patch Lease.id}

theorem Refines.holds (h : Refines t t') {l' : Lease} (hl : l ∈ t.leases) (hl' : l' ∈ t'.leases)
    (hid : l.id = l'.id) {s : CompositeState} (hs : s.Holds t l) :
    ∃ s' : CompositeState, s'.Holds t' l' ∧ Leads s s' := by
  obtain ⟨l₁, hl₁, hid₁, hstep⟩ := h.persists l hl
  have hsame : l₁ = l' := Table.eq_of_key_eq hl₁ hl' (hid₁.trans hid)
  exact hsame ▸ hstep s hs

theorem Refines.canonical (h : Refines t t') (hc : Canonical t) : Canonical t' := by
  intro l' hl'
  rcases h.rows l' hl' with ⟨l, hl, hid⟩ | hnew
  · obtain ⟨s, hs⟩ := hc l hl
    obtain ⟨s', hs', -⟩ := h.holds hl hl' hid hs
    exact ⟨s', hs'⟩
  · exact hnew

theorem Refines.refl (t : Tenancy) : Refines t t where
  persists l hl := ⟨l, hl, rfl, fun s hs => ⟨s, hs, Relation.ReflTransGen.refl⟩⟩
  rows l hl := .inl ⟨l, hl, rfl⟩

theorem Refines.trans (h : Refines t t') (h' : Refines t' t'') : Refines t t'' where
  persists l hl := by
    obtain ⟨l', hl', hid, hstep⟩ := h.persists l hl
    obtain ⟨l'', hl'', hid', hstep'⟩ := h'.persists l' hl'
    refine ⟨l'', hl'', hid'.trans hid, fun s hs => ?_⟩
    obtain ⟨s', hs', hleads⟩ := hstep s hs
    obtain ⟨s'', hs'', hleads'⟩ := hstep' s' hs'
    exact ⟨s'', hs'', hleads.trans hleads'⟩
  rows l'' hl'' := by
    rcases h'.rows l'' hl'' with ⟨l', hl', hid'⟩ | hnew
    · rcases h.rows l' hl' with ⟨l, hl, hid⟩ | ⟨s, hs⟩
      · exact .inl ⟨l, hl, hid.trans hid'⟩
      · obtain ⟨s', hs', -⟩ := h'.holds hl' hl'' hid' hs
        exact .inr ⟨s', hs'⟩
    · exact .inr hnew

theorem refines_of_modify (hl : l ∈ t.leases)
    (hleases : t'.leases.table = t.leases.table.modify l.id p)
    (hothers : ∀ x ∈ t.leases, x.id ≠ l.id →
      ∀ status, LinkedTo t x status → LinkedTo t' x status)
    (hstep : ∀ s : CompositeState, s.Holds t l →
      ∃ s' : CompositeState, s'.Holds t' (p.apply l) ∧ Leads s s') : Refines t t' := by
  have hmem : ∀ x, x ∈ t'.leases ↔ x = p.apply l ∨ (x ∈ t.leases ∧ x.id ≠ l.id) := by
    intro x
    rw [Constrained.mem_table, hleases]
    exact Table.mem_modify_iff hl
  constructor
  · intro x hx
    by_cases hid : x.id = l.id
    · obtain rfl := Table.eq_of_key_eq hx hl hid
      exact ⟨p.apply x, (hmem _).mpr (.inl rfl), p.key_apply x, hstep⟩
    · refine ⟨x, (hmem x).mpr (.inr ⟨hx, hid⟩), rfl, fun s hs => ?_⟩
      exact ⟨s, hs.mono (hothers x hx hid), Relation.ReflTransGen.refl⟩
  · intro x hx
    rcases (hmem x).mp hx with rfl | ⟨hx, -⟩
    · exact .inl ⟨l, hl, (p.key_apply l).symm⟩
    · exact .inl ⟨x, hx, rfl⟩

theorem refines_of_eq (hleases : t'.leases.table = t.leases.table)
    (hoccupancies : t'.occupancies.table = t.occupancies.table) : Refines t t' := by
  constructor
  · intro x hx
    refine ⟨x, ?_, rfl, fun s hs => ⟨s, hs.mono fun _ hlink => hlink.of_eq hoccupancies, .refl⟩⟩
    rwa [Constrained.mem_table, hleases]
  · intro x hx
    rw [Constrained.mem_table, hleases] at hx
    exact .inl ⟨x, hx, rfl⟩

theorem refines_of_insert (hleases : t.leases.table.insert l = some t'.leases.table)
    (hothers : ∀ x status, LinkedTo t x status → LinkedTo t' x status)
    (hnew : ∃ s : CompositeState, s.Holds t' l) : Refines t t' := by
  constructor
  · intro x hx
    refine ⟨x, (Table.mem_insert hleases).mpr (.inl hx), rfl, fun s hs => ?_⟩
    exact ⟨s, hs.mono (hothers x), Relation.ReflTransGen.refl⟩
  · intro x hx
    rcases (Table.mem_insert hleases).mp hx with hx | rfl
    · exact .inl ⟨x, hx, rfl⟩
    · exact .inr hnew

end Refinement

/-- The contract an activation names has not been cancelled. -/
def LeavesCancelled : Operation → Table Lease.id → Prop
  | .activateContract _ contractId, leases => ∀ l ∈ leases, l.id = contractId → l.status ≠ .CANCELLED
  | _, _ => True

instance : ∀ op leases, Decidable (LeavesCancelled op leases) := by
  rintro ⟨⟩ leases <;>
    first
    | exact inferInstanceAs (Decidable (∀ l ∈ leases, _))
    | exact isTrue trivial

def LeavesCancelledIfSuccessful (c : Env × Operation) (db : Db) : Prop :=
  Succeeds c.1 c.2 db → LeavesCancelled c.2 db.leases.table

instance (c : Env × Operation) (db : Db) : Decidable (LeavesCancelledIfSuccessful c db) :=
  inferInstanceAs (Decidable (Succeeds _ _ _ → _))

section Step

variable {env : Env} {op : Operation} {db db' : Db} {user : Option AuthenticatedUser} {l : Lease}

theorem MovesOut.refines {occupancyId : Id} {endAt : Date}
    (h : MovesOut env user l occupancyId endAt db db') : Refines db.tenancy db'.tenancy := by
  obtain ⟨settlement, hbooks⟩ := h.books
  have hleases : db'.tenancy.leases.table =
      db.tenancy.leases.table.modify l.id (leaseEnded env.now settlement) :=
    congrArg Books.leases hbooks
  have hoccupancies : db'.tenancy.occupancies.table =
      db.tenancy.occupancies.table.modify occupancyId (occupancyEnded env.now endAt) :=
    congrArg Books.occupancies hbooks
  refine refines_of_modify h.mem hleases ?_ ?_
  · rintro x hx hid status ⟨o, ho, hlinked, hstatus⟩
    -- no other lease is linked to the occupancy that ends
    have hother : o.id ≠ occupancyId := by
      rintro rfl
      exact hid (congrArg Lease.id (db.leases.occupancy_unique.eq hx h.mem hlinked h.linked))
    refine ⟨o, ?_, hlinked, hstatus⟩
    rw [hoccupancies]
    exact Table.mem_modify_of_ne ho hother
  · intro s hs
    have hactive := h.active
    cases s with
    | activeOccupied =>
      obtain ⟨-, o, ho, hlinked, -⟩ := hs
      have hid : o.id = occupancyId := Option.some.inj (hlinked.symm.trans h.linked)
      refine ⟨.endedMovedOut, ⟨rfl, (occupancyEnded env.now endAt).apply o, ?_, hlinked, rfl⟩,
        .single .moveOut⟩
      rw [hoccupancies, ← hid]
      exact Table.apply_mem_modify ho
    | activeNotMovedIn => exact absurd hs.2 (by simp [h.linked])
    | _ => simp [CompositeState.Holds, hactive] at hs

theorem refines_of_cancelled {x : Lease} (hx : x ∈ db.tenancy.leases) (hid : x.id = l.id)
    (hvacant : ¬ (x.status = .ACTIVE ∧ x.occupancyId.isSome))
    (hleases : db'.tenancy.leases.table =
      db.tenancy.leases.table.modify l.id (leaseStatusSet env.now .CANCELLED))
    (hoccupancies : db'.tenancy.occupancies.table = db.tenancy.occupancies.table) :
    Refines db.tenancy db'.tenancy := by
  rw [← hid] at hleases
  refine refines_of_modify hx hleases
    (fun y _ _ status hlink => hlink.of_eq hoccupancies) fun s hs => ?_
  cases s with
  | draftContract => exact ⟨.cancelledWithoutOccupancy, ⟨rfl, hs.2⟩, .single .cancelDraft⟩
  | activeNotMovedIn => exact ⟨.cancelledWithoutOccupancy, ⟨rfl, hs.2⟩, .single .cancel⟩
  | activeOccupied =>
    obtain ⟨hactive, o, -, hlinked, -⟩ := hs
    exact absurd ⟨hactive, by simp [hlinked]⟩ hvacant
  | endedMovedOut =>
    exact ⟨.cancelledAfterMoveOut, ⟨rfl, hs.2.of_eq hoccupancies⟩, .single .cancelMovedOut⟩
  | cancelledWithoutOccupancy => exact ⟨.cancelledWithoutOccupancy, ⟨rfl, hs.2⟩, .refl⟩
  | cancelledAfterMoveOut =>
    exact ⟨.cancelledAfterMoveOut, ⟨rfl, hs.2.of_eq hoccupancies⟩, .refl⟩

theorem Cancels.refines {x : Lease} (h : Cancels env l db db') (hx : x ∈ db.books.leases)
    (hid : x.id = l.id) (hvacant : ¬ (x.status = .ACTIVE ∧ x.occupancyId.isSome)) :
    Refines db.tenancy db'.tenancy :=
  refines_of_cancelled hx hid hvacant (congrArg Books.leases h.books)
    (congrArg Books.occupancies h.books)

theorem Completes.refines {x : Lease} {r : MoveRequest} (h : Completes env l r db db')
    (hx : x ∈ db.books.leases) (hid : x.id = l.id) (hended : x.status = .ENDED) :
    Refines db.tenancy db'.tenancy := by
  have hleases := congrArg Books.leases h.books
  dsimp only at hleases
  split_ifs at hleases
  · exact refines_of_cancelled hx hid (by simp [hended]) hleases (congrArg Books.occupancies h.books)
  · exact refines_of_eq hleases (congrArg Books.occupancies h.books)

theorem refines_of_edit {p : Patch Lease.id} (hl : l ∈ db.books.leases)
    (hstatus : (p.apply l).status = l.status) (hoccupancy : (p.apply l).occupancyId = l.occupancyId)
    (hleases : db'.tenancy.leases.table = db.tenancy.leases.table.modify l.id p)
    (hoccupancies : db'.tenancy.occupancies.table = db.tenancy.occupancies.table) :
    Refines db.tenancy db'.tenancy := by
  refine refines_of_modify hl hleases
    (fun x _ _ status hlink => hlink.of_eq hoccupancies) fun s hs => ⟨s, ?_, .refl⟩
  have hsame : s.Holds db.tenancy (p.apply l) := by
    cases s <;> simpa [CompositeState.Holds, LinkedTo, hstatus, hoccupancy] using hs
  exact hsame.mono fun status hlink => hlink.of_eq hoccupancies

theorem Effect.refines (h : Effect env db db' op) (hg : LeavesCancelled op db.leases.table) :
    Refines db.tenancy db'.tenancy := by
  cases h with
  | draft building unit resident l leases hlease hperiod hleases hbooks =>
    obtain ⟨-, hstatus, hunlinked, -⟩ := draftLease_ok hlease
    have hoccupancies : db'.tenancy.occupancies.table = db.tenancy.occupancies.table :=
      congrArg Books.occupancies hbooks
    obtain rfl : db'.tenancy.leases.table = leases := congrArg Books.leases hbooks
    exact refines_of_insert hleases (fun x status hlink => hlink.of_eq hoccupancies)
      ⟨.draftContract, hstatus, hunlinked⟩
  | editContract l data hl hchecked hbooks =>
    exact refines_of_edit hl rfl rfl (congrArg Books.leases hbooks)
      (congrArg Books.occupancies hbooks)
  | editLease l data columns hl hchecked hcolumns hbooks =>
    exact refines_of_edit hl rfl rfl (congrArg Books.leases hbooks)
      (congrArg Books.occupancies hbooks)
  | replaceTerms hbooks =>
    exact refines_of_eq (congrArg Books.leases hbooks) (congrArg Books.occupancies hbooks)
  | activated l hl hactive hbooks =>
    exact refines_of_eq (congrArg Books.leases hbooks) (congrArg Books.occupancies hbooks)
  | activate l hl hended hactive hbooks hrecorded =>
    have hcancelled : l.status ≠ .CANCELLED := hg l hl rfl
    have hoccupancies : db'.tenancy.occupancies.table = db.tenancy.occupancies.table :=
      congrArg Books.occupancies hbooks
    refine refines_of_modify hl (congrArg Books.leases hbooks)
      (fun x _ _ status hlink => hlink.of_eq hoccupancies) fun s hs => ?_
    cases s with
    | draftContract => exact ⟨.activeNotMovedIn, ⟨rfl, hs.2⟩, .single .activate⟩
    | activeNotMovedIn => exact absurd hs.1 hactive
    | activeOccupied => exact absurd hs.1 hactive
    | endedMovedOut => exact absurd hs.1 hended
    | cancelledWithoutOccupancy => exact absurd hs.1 hcancelled
    | cancelledAfterMoveOut => exact absurd hs.1 hcancelled
  | cancel l hl hended hvacant hcancel => exact hcancel.refines hl rfl hvacant
  | moveOutAndCancel l occupancyId db₁ hout hcancel =>
    obtain ⟨x, hx, hid, hended⟩ := hout.exists_ended
    exact hout.refines.trans (hcancel.refines hx hid (by simp [hended]))
  | ask kind hop l r requests hl hactive hunlinked hnone hlease horg hpending hrequests hbooks =>
    refine refines_of_eq ?_ ?_
    · exact (congrArg Books.leases hbooks).trans (Books.leases_withRequests _ _ _)
    · exact (congrArg Books.occupancies hbooks).trans (Books.occupancies_withRequests _ _ _)
  | review kind hop r status reviewerId rejectionReason hr hpending hstatus hbooks =>
    refine refines_of_eq ?_ ?_
    · exact (congrArg Books.leases hbooks).trans (Books.leases_withRequests _ _ _)
    · exact (congrArg Books.occupancies hbooks).trans (Books.occupancies_withRequests _ _ _)
  | executeMoveIn l residentUserId r occupancies hl hactive hunlinked hr horg hlease happroved
      hoccupancies hbooks =>
    obtain rfl : db'.tenancy.occupancies.table = occupancies := congrArg Books.occupancies hbooks
    have hmem := (Table.mem_insert hoccupancies).mpr (.inr rfl)
    refine refines_of_modify hl (congrArg Books.leases hbooks)
      (fun x _ _ status hlink => hlink.insert hoccupancies) fun s hs => ?_
    cases s with
    | activeNotMovedIn => exact ⟨.activeOccupied, ⟨rfl, _, hmem, rfl, rfl⟩, .single .moveIn⟩
    | activeOccupied =>
      obtain ⟨-, o, -, hlinked, -⟩ := hs
      simp [hunlinked] at hlinked
    | _ => simp [CompositeState.Holds, hactive] at hs
  | executeMoveOut l r occupancyId db₁ hfound hout hcomplete =>
    obtain ⟨x, hx, hid, hended⟩ := hout.exists_ended
    exact hout.refines.trans (hcomplete.refines hx hid hended)
  | moveIn residentUserId l leases occupancies parkingAllocations hlease hoccupancies hleases
      hallocations hbooks =>
    obtain ⟨-, hactive, hlinked, -⟩ := moveInLease_ok hlease
    obtain rfl : db'.tenancy.occupancies.table = occupancies := congrArg Books.occupancies hbooks
    obtain rfl : db'.tenancy.leases.table = leases := congrArg Books.leases hbooks
    have hmem := (Table.mem_insert hoccupancies).mpr (.inr rfl)
    exact refines_of_insert hleases (fun x status hlink => hlink.insert hoccupancies)
      ⟨.activeOccupied, hactive, _, hmem, hlinked, rfl⟩
  | moveOut l occupancyId endAt hend hout => exact hout.refines

theorem next_refines (c : Env × Operation) (db : Db) (hg : LeavesCancelledIfSuccessful c db) :
    Refines db.tenancy (next c db).tenancy := by
  obtain ⟨env, op⟩ := c
  by_cases hs : Succeeds env op db
  · exact (next_of_succeeds hs).refines (hg hs)
  · rw [next_of_fails hs]
    exact Refines.refl _

end Step

section Runs

variable {db : Db}

theorem run_refines {cs : List (Env × Operation)}
    (hg : Run.Along next LeavesCancelledIfSuccessful db cs) :
    Refines db.tenancy (Run.exec next db cs).tenancy :=
  Run.exec_rel_along (I := fun _ => True) (R := fun db db' => Refines db.tenancy db'.tenancy)
    (fun db => Refines.refl db.tenancy) Refines.trans (fun _ _ _ _ => trivial)
    (fun c db _ hg => next_refines c db hg) trivial hg

def occupiedAndCancelled : List (Env × Operation) :=
  [managerDrafts 1 "contract" "101" "ann", managerActivates 2 "contract",
    residentAsksIn 3 "request" "contract" "ann", managerApprovesIn 4 "request",
    managerMovesIn 5 "occupancy" "contract", managerCancels 6 "contract"]

/-- No active lease is linked to an ended occupancy. -/
def NoActiveEnded (db : Db) : Prop :=
  ∀ l ∈ db.leases.table, l.status = .ACTIVE →
    ∀ o ∈ db.occupancies.table, l.occupancyId = some o.id → o.status ≠ .ENDED

/-- No lease that is over in the first state is active in the second. -/
def StaysOver (db db' : Db) : Prop :=
  ∀ l ∈ db.leases.table, ∀ l' ∈ db'.leases.table, l.id = l'.id → LeaseIsOver l →
    l'.status ≠ .ACTIVE

theorem Canonical.noActiveEnded (h : Canonical db.tenancy) : NoActiveEnded db := by
  intro l hl hactive o ho hlinked
  obtain ⟨s, hs⟩ := h l hl
  simp [hs.active_of_linked hactive ho hlinked]

theorem Refines.staysOver {db' : Db} (h : Refines db.tenancy db'.tenancy)
    (hc : Canonical db.tenancy) : StaysOver db db' := by
  intro l hl l' hl' hid hover
  obtain ⟨s, hs⟩ := hc l hl
  obtain ⟨s', hs', hleads⟩ := h.holds hl hl' hid hs
  have hover' : LeaseIsOver l' := hs'.isOver_iff.mp (hleads.isOver (hs.isOver_iff.mpr hover))
  rcases hover' with hended | hcancelled
  · simp [hended]
  · simp [hcancelled]

theorem not_staysOver_of_not_leaves {c : Env × Operation} (hs : Succeeds c.1 c.2 db)
    (hleaves : ¬ LeavesCancelled c.2 db.leases.table) : ¬ StaysOver db (next c db) := by
  intro hstays
  obtain ⟨env, op⟩ := c
  cases op with
  | activateContract user contractId =>
    simp only [LeavesCancelled, not_forall, not_not] at hleaves
    obtain ⟨l, hl, hid, hcancelled⟩ := hleaves
    have htable := (next_of_succeeds hs).activated_row hl hid (by simp [hcancelled])
    have hl' : (leaseStatusSet env.now .ACTIVE).apply l ∈
        (next (env, .activateContract user contractId) db).books.leases := by
      rw [htable]
      exact Table.apply_mem_modify hl
    exact hstays l hl _ hl' rfl (.inr hcancelled) rfl
  | _ => exact hleaves trivial

/-- Every lease is in one of the six states in every state of a run, and none that is
over becomes active again, exactly when no cancelled contract is activated. -/
theorem composite_states_iff (db : Db) (hempty : db.leases.table.rows = [])
    (cs : List (Env × Operation)) :
    ((∀ ms, ms <+: cs → Canonical (Run.exec next db ms).tenancy ∧
        NoActiveEnded (Run.exec next db ms)) ∧
      ∀ ms ns, ms ++ ns <+: cs →
        StaysOver (Run.exec next db ms) (Run.exec next db (ms ++ ns))) ↔
      Run.Along next LeavesCancelledIfSuccessful db cs := by
  have hstart : Canonical db.tenancy := by
    intro l hl
    rw [Constrained.mem_table, Table.mem_rows, show db.tenancy.leases.table.rows = [] from hempty]
      at hl
    cases hl
  constructor
  · rintro ⟨-, hstays⟩
    refine Run.along_of_split fun ms c ns hcs hs => ?_
    by_contra hleaves
    have hprefix : ms ++ [c] <+: cs := ⟨ns, by rw [hcs, List.append_assoc, List.singleton_append]⟩
    have hover := hstays ms [c] hprefix
    rw [Run.exec_concat] at hover
    exact not_staysOver_of_not_leaves hs hleaves hover
  · intro hg
    have hcanonical : ∀ ms, ms <+: cs → Canonical (Run.exec next db ms).tenancy := by
      rintro ms ⟨ns, rfl⟩
      exact (run_refines (Run.along_append.mp hg).1).canonical hstart
    refine ⟨fun ms hms => ⟨hcanonical ms hms, (hcanonical ms hms).noActiveEnded⟩, ?_⟩
    intro ms ns hms
    have hhead := hcanonical ms ((List.prefix_append ms ns).trans hms)
    obtain ⟨rest, rfl⟩ := hms
    have hrest := (Run.along_append.mp (Run.along_append.mp hg).1).2
    rw [Run.exec_append]
    exact (run_refines hrest).staysOver hhead

theorem composite_states_cancelled :
    (Db.start sceneDirectory).leases.table.rows = [] ∧
      ∀ ms ns, ms ++ ns <+: occupiedAndCancelled →
        StaysOver (Run.exec next (Db.start sceneDirectory) ms)
          (Run.exec next (Db.start sceneDirectory) (ms ++ ns)) :=
  ⟨rfl, ((composite_states_iff (Db.start sceneDirectory) rfl occupiedAndCancelled).mpr
    (by decide +kernel)).2⟩

/-- The same contract, activated again: its occupancy has ended. -/
theorem reactivated_contract :
    ¬ ∀ db : Db, db.leases.table.rows = [] → ∀ cs ms, ms <+: cs →
      NoActiveEnded (Run.exec next db ms) := by
  intro h
  have hno := h (Db.start sceneDirectory) rfl
    (occupiedAndCancelled ++ [managerActivates 7 "contract"]) _ (List.prefix_refl _)
  revert hno
  unfold NoActiveEnded
  decide +kernel

end Runs

end Towerdesk.Leases
