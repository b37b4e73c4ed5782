import Towerdesk.Leases.Scene

/-!
# One active lease per unit

Drafting a contract looks for an active lease of the unit; activating one and moving
a resident in directly, the two calls that make a lease active, do not. Runs have one
active lease per unit exactly when these calls happen to be made for units without one.
-/

namespace Towerdesk.Leases

def activeLeases (db : Db) (unitId : Id) : List Lease :=
  db.leases.table.rows.filter fun l => l.unitId = unitId ∧ l.status = .ACTIVE

/-- The index the table of leases does not have. -/
def activeLeaseUnit (l : Lease) : Option Id := if l.status = .ACTIVE then some l.unitId else none

def UnitFree (leases : Table Lease.id) (unitId : Id) : Prop :=
  ∀ l ∈ leases, l.unitId = unitId → l.status ≠ .ACTIVE

instance (leases : Table Lease.id) (unitId : Id) : Decidable (UnitFree leases unitId) :=
  inferInstanceAs (Decidable (∀ l ∈ leases, _))

/-- The unit whose lease the call makes active has no active lease. -/
def OpensFreeUnit : Operation → Table Lease.id → Prop
  | .activateContract _ contractId, leases =>
    ∀ l ∈ leases, l.id = contractId → l.status ≠ .ACTIVE → UnitFree leases l.unitId
  | .moveIn _ _ dto, leases => UnitFree leases dto.unitId
  | _, _ => True

instance : ∀ op leases, Decidable (OpensFreeUnit op leases) := by
  rintro ⟨⟩ leases <;>
    first
    | exact inferInstanceAs (Decidable (∀ l ∈ leases, _))
    | exact inferInstanceAs (Decidable (UnitFree leases _))
    | exact isTrue trivial

def OpensFreeUnitIfSuccessful (c : Env × Operation) (db : Db) : Prop :=
  Succeeds c.1 c.2 db → OpensFreeUnit c.2 db.leases.table

instance (c : Env × Operation) (db : Db) : Decidable (OpensFreeUnitIfSuccessful c db) :=
  inferInstanceAs (Decidable (Succeeds _ _ _ → _))

section Index

variable {leases : Table Lease.id} {l : Lease} {unitId : Id}

theorem activeLeaseUnit_of_active (h : l.status = .ACTIVE) : activeLeaseUnit l = some l.unitId :=
  if_pos h

theorem activeLeaseUnit_of_ne (h : l.status ≠ .ACTIVE) : activeLeaseUnit l = none := if_neg h

theorem activeLeaseUnit_eq_some :
    activeLeaseUnit l = some unitId ↔ l.status = .ACTIVE ∧ l.unitId = unitId := by
  by_cases h : l.status = .ACTIVE
  · simp [activeLeaseUnit_of_active h, h]
  · simp [activeLeaseUnit_of_ne h, h]

theorem UnitFree.index_ne (h : UnitFree leases unitId) (hl : l ∈ leases) :
    activeLeaseUnit l ≠ some unitId := by
  intro hindex
  obtain ⟨hactive, hunit⟩ := activeLeaseUnit_eq_some.mp hindex
  exact h l hl hunit hactive

theorem activeLeases_le_one {db : Db} :
    (∀ unitId, (activeLeases db unitId).length ≤ 1) ↔ db.leases.table.UniqueOn activeLeaseUnit := by
  constructor
  · intro h a ha b hb hne heq
    obtain ⟨unitId, hunit⟩ := Option.ne_none_iff_exists'.mp hne
    have hab := Table.length_filter_le_one.mp (h unitId) a ha b hb
    obtain ⟨ha₁, ha₂⟩ := activeLeaseUnit_eq_some.mp hunit
    obtain ⟨hb₁, hb₂⟩ := activeLeaseUnit_eq_some.mp (heq.symm.trans hunit)
    rw [hab (decide_eq_true ⟨ha₂, ha₁⟩) (decide_eq_true ⟨hb₂, hb₁⟩)]
  · intro h unitId
    refine Table.length_filter_le_one.mpr fun a ha b hb hpa hpb => ?_
    obtain ⟨ha₂, ha₁⟩ := of_decide_eq_true hpa
    obtain ⟨hb₂, hb₁⟩ := of_decide_eq_true hpb
    exact h.eq ha hb (activeLeaseUnit_eq_some.mpr ⟨ha₁, ha₂⟩)
      (activeLeaseUnit_eq_some.mpr ⟨hb₁, hb₂⟩)

end Index

section Step

variable {env : Env} {op : Operation} {db db' : Db} {user : Option AuthenticatedUser} {l : Lease}

theorem MovesOut.activePerUnit {occupancyId : Id} {endAt : Date}
    (h : MovesOut env user l occupancyId endAt db db')
    (hu : db.books.leases.UniqueOn activeLeaseUnit) :
    db'.books.leases.UniqueOn activeLeaseUnit := by
  obtain ⟨settlement, hbooks⟩ := h.books
  rw [hbooks]
  exact hu.modify_of_le h.mem (.inl (activeLeaseUnit_of_ne (by simp [leaseEnded])))

theorem activePerUnit_cancelled {now : Date} {leases : Table Lease.id}
    (hl : ∃ x ∈ leases, x.id = l.id) (hu : leases.UniqueOn activeLeaseUnit) :
    (leases.modify l.id (leaseStatusSet now .CANCELLED)).UniqueOn activeLeaseUnit := by
  obtain ⟨x, hx, hid⟩ := hl
  rw [← hid]
  exact hu.modify_of_le hx (.inl (activeLeaseUnit_of_ne (by simp [leaseStatusSet])))

theorem Cancels.activePerUnit (h : Cancels env l db db') (hl : ∃ x ∈ db.books.leases, x.id = l.id)
    (hu : db.books.leases.UniqueOn activeLeaseUnit) :
    db'.books.leases.UniqueOn activeLeaseUnit := by
  rw [h.books]
  exact activePerUnit_cancelled hl hu

theorem Completes.activePerUnit {r : MoveRequest} (h : Completes env l r db db')
    (hl : ∃ x ∈ db.books.leases, x.id = l.id) (hu : db.books.leases.UniqueOn activeLeaseUnit) :
    db'.books.leases.UniqueOn activeLeaseUnit := by
  rw [h.books]
  dsimp only
  split_ifs
  · exact activePerUnit_cancelled hl hu
  · exact hu

theorem Effect.activePerUnit (h : Effect env db db' op) (hopens : OpensFreeUnit op db.leases.table)
    (hu : db.books.leases.UniqueOn activeLeaseUnit) :
    db'.books.leases.UniqueOn activeLeaseUnit := by
  cases h with
  | draft building unit resident l leases hlease hperiod hleases hbooks =>
    have hstatus := (draftLease_ok hlease).2.1
    have hnone : activeLeaseUnit l = none := activeLeaseUnit_of_ne (by simp [hstatus])
    rw [hbooks]
    exact hu.insert hleases fun b hb => .inl hnone
  | editContract l data hl hchecked hbooks =>
    rw [hbooks]
    exact hu.modify_of_le hl (.inr rfl)
  | editLease l data columns hl hchecked hcolumns hbooks =>
    rw [hbooks]
    exact hu.modify_of_le hl (.inr rfl)
  | replaceTerms hbooks => rwa [hbooks]
  | activated l hl hactive hbooks => rwa [hbooks]
  | activate l hl hended hactive hbooks hrecorded =>
    have hfree : UnitFree db.books.leases l.unitId := hopens l hl rfl hactive
    rw [hbooks]
    exact hu.modify hl fun b hb hne => .inr (hfree.index_ne hb)
  | cancel l hl hended hvacant hcancel => exact hcancel.activePerUnit ⟨l, hl, rfl⟩ hu
  | moveOutAndCancel l occupancyId db₁ hout hcancel =>
    exact hcancel.activePerUnit hout.exists_mem (hout.activePerUnit hu)
  | ask kind hop l r requests hl hactive hunlinked hnone hlease horg hpending hrequests hbooks =>
    rwa [hbooks, Books.leases_withRequests]
  | review kind hop r status reviewerId rejectionReason hr hpending hstatus hbooks =>
    rwa [hbooks, Books.leases_withRequests]
  | executeMoveIn l residentUserId r occupancies hl hactive hunlinked hr horg hlease happroved
      hoccupancies hbooks =>
    rw [hbooks]
    exact hu.modify_of_le hl (.inr (by simp [activeLeaseUnit, leaseMovedIn, hactive]))
  | executeMoveOut l r occupancyId db₁ hfound hout hcomplete =>
    exact hcomplete.activePerUnit hout.exists_mem (hout.activePerUnit hu)
  | moveIn residentUserId l leases occupancies parkingAllocations hlease hoccupancies hleases
      hallocations hbooks =>
    obtain ⟨-, hactive, -, hunit, -, -⟩ := moveInLease_ok hlease
    have hindex : activeLeaseUnit l = some l.unitId := activeLeaseUnit_of_active hactive
    rw [hbooks]
    refine hu.insert hleases fun b hb => .inr ?_
    rw [hindex, hunit]
    exact UnitFree.index_ne hopens hb
  | moveOut l occupancyId endAt hend hout => exact hout.activePerUnit hu

theorem next_activePerUnit (c : Env × Operation) (db : Db)
    (hu : db.leases.table.UniqueOn activeLeaseUnit) (hg : OpensFreeUnitIfSuccessful c db) :
    (next c db).leases.table.UniqueOn activeLeaseUnit := by
  obtain ⟨env, op⟩ := c
  by_cases hs : Succeeds env op db
  · exact (next_of_succeeds hs).activePerUnit (hg hs) hu
  · rwa [next_of_fails hs]

theorem not_activePerUnit_of_not_opens (hs : Succeeds env op db)
    (hopens : ¬ OpensFreeUnit op db.leases.table) :
    ¬ (next (env, op) db).books.leases.UniqueOn activeLeaseUnit := by
  intro hu
  have heffect := next_of_succeeds hs
  cases op with
  | activateContract user contractId =>
    simp only [OpensFreeUnit, UnitFree, not_forall, not_not] at hopens
    obtain ⟨l, hl, hid, hactive, x, hx, hunit, hxactive⟩ := hopens
    have htable := heffect.activated_row hl hid hactive
    have hne : x.id ≠ l.id := fun heq => hactive (Table.eq_of_key_eq hx hl heq ▸ hxactive)
    rw [htable] at hu
    have heq := hu.eq (Table.mem_modify_of_ne hx hne) (Table.apply_mem_modify hl)
      (activeLeaseUnit_eq_some.mpr ⟨hxactive, hunit⟩) (activeLeaseUnit_eq_some.mpr ⟨rfl, rfl⟩)
    exact hne (by rw [heq]; rfl)
  | moveIn user buildingId dto =>
    simp only [OpensFreeUnit, UnitFree, not_forall, not_not] at hopens
    obtain ⟨x, hx, hunit, hxactive⟩ := hopens
    cases heffect with
    | moveIn residentUserId l leases occupancies parkingAllocations hlease hoccupancies hleases
        hallocations hbooks =>
      obtain ⟨-, hactive, -, hlunit, -, -⟩ := moveInLease_ok hlease
      rw [hbooks] at hu
      have heq := hu.eq ((Table.mem_insert hleases).mpr (.inl hx))
        ((Table.mem_insert hleases).mpr (.inr rfl)) (activeLeaseUnit_eq_some.mpr ⟨hxactive, hunit⟩)
        (activeLeaseUnit_eq_some.mpr ⟨hactive, hlunit⟩)
      exact Table.fresh_of_insert hleases hx (congrArg Lease.id heq)
    | ask kind hop => cases hop
    | review kind hop => cases hop
  | _ => exact hopens trivial

end Step

section Runs

variable {db : Db}

theorem run_activePerUnit (hempty : db.leases.table.rows = []) {cs : List (Env × Operation)}
    (hg : Run.Along next OpensFreeUnitIfSuccessful db cs) :
    (Run.exec next db cs).leases.table.UniqueOn activeLeaseUnit :=
  Run.exec_inv_along (I := fun db => db.leases.table.UniqueOn activeLeaseUnit)
    (fun c db hu hg => next_activePerUnit c db hu hg) (Table.UniqueOn.empty hempty) hg

/-- Every state of a run has at most one active lease per unit exactly when every call
that makes a lease active finds its unit without one. -/
theorem active_per_unit_iff (db : Db) (hempty : db.leases.table.rows = [])
    (cs : List (Env × Operation)) :
    (∀ ms, ms <+: cs → ∀ unitId, (activeLeases (Run.exec next db ms) unitId).length ≤ 1) ↔
      Run.Along next OpensFreeUnitIfSuccessful db cs := by
  refine Run.forall_exec_iff_along
    (I := fun db => ∀ unitId, (activeLeases db unitId).length ≤ 1) ?_ ?_
  · intro c db hle hs
    by_contra hopens
    exact not_activePerUnit_of_not_opens hs hopens (activeLeases_le_one.mp hle)
  · intro ms hg
    exact activeLeases_le_one.mpr (run_activePerUnit hempty hg)

theorem active_per_unit_single :
    (Db.start sceneDirectory).leases.table.rows = [] ∧
      ∀ ms, ms <+: [managerDrafts 1 "first" "101" "ann", managerActivates 2 "first"] →
        ∀ unitId, (activeLeases (Run.exec next (Db.start sceneDirectory) ms) unitId).length ≤ 1 :=
  ⟨rfl, (active_per_unit_iff (Db.start sceneDirectory) rfl
    [managerDrafts 1 "first" "101" "ann", managerActivates 2 "first"]).mpr (by decide +kernel)⟩

/-- Two drafts for one unit, both activated. -/
theorem two_active_leases :
    ¬ ∀ db : Db, db.leases.table.rows = [] → ∀ cs ms, ms <+: cs →
      ∀ unitId, (activeLeases (Run.exec next db ms) unitId).length ≤ 1 := by
  intro h
  have hle := h (Db.start sceneDirectory) rfl
    [managerDrafts 1 "first" "101" "ann", managerDrafts 2 "second" "101" "ben",
      managerActivates 3 "first", managerActivates 4 "second"] _ (List.prefix_refl _) "101"
  revert hle
  decide +kernel

end Runs

end Towerdesk.Leases
