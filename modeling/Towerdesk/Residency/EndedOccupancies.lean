import Towerdesk.Residency.Scene

/-!
# Nothing is left on an ended occupancy

Moving out ends the lease of an occupancy and its open allocations with it. Provisioning a
user ends the occupancy alone, and activating a contract that was cancelled after its
move-out brings back a lease whose occupancy has ended. Without such steps no active lease
is linked to an ended occupancy and no open allocation belongs to one.
-/

namespace Towerdesk.Residency

open Leases (Db Books ParkingAllocation MovesOut Cancels Completes MoveRequest leaseStatusSet
  leaseEnded occupancyEnded allocationEnded)

structure TenancyCoherent (db : Db) : Prop where
  leases : ∀ l ∈ db.leases.table, l.status = .ACTIVE → ∀ o ∈ db.occupancies.table,
    l.occupancyId = some o.id → o.status ≠ .ENDED
  allocations : ∀ a ∈ db.parkingAllocations, a.endDate = none → ∀ o ∈ db.occupancies.table,
    a.occupancyId = some o.id → o.status ≠ .ENDED

instance (db : Db) : Decidable (TenancyCoherent db) :=
  decidable_of_iff
    ((∀ l ∈ db.leases.table, l.status = .ACTIVE → ∀ o ∈ db.occupancies.table,
        l.occupancyId = some o.id → o.status ≠ .ENDED) ∧
      ∀ a ∈ db.parkingAllocations, a.endDate = none → ∀ o ∈ db.occupancies.table,
        a.occupancyId = some o.id → o.status ≠ .ENDED)
    ⟨fun h => ⟨h.1, h.2⟩, fun h => ⟨h.leases, h.allocations⟩⟩

section Links

/-- An active lease of the organisation is linked to the occupancy. -/
def IsLink (orgId occupancyId : Id) (l : Lease) : Prop :=
  l.orgId = orgId ∧ l.occupancyId = some occupancyId ∧ l.status = .ACTIVE

def Linked (leases : Table Lease.id) (orgId occupancyId : Id) : Prop :=
  ∃ l ∈ leases, IsLink orgId occupancyId l

variable {leases leases' : Table Lease.id} {l : Lease} {p : Patch Lease.id}
  {orgId occupancyId : Id}

theorem linked_insert (h : leases.insert l = some leases') :
    Linked leases' orgId occupancyId ↔
      Linked leases orgId occupancyId ∨ IsLink orgId occupancyId l := by
  constructor
  · rintro ⟨x, hx, hlink⟩
    rcases (Table.mem_insert h).mp hx with hx | rfl
    · exact .inl ⟨x, hx, hlink⟩
    · exact .inr hlink
  · rintro (⟨x, hx, hlink⟩ | hlink)
    · exact ⟨x, (Table.mem_insert h).mpr (.inl hx), hlink⟩
    · exact ⟨l, (Table.mem_insert h).mpr (.inr rfl), hlink⟩

theorem linked_modify (hl : l ∈ leases) :
    Linked (leases.modify l.id p) orgId occupancyId ↔ IsLink orgId occupancyId (p.apply l) ∨
      ∃ x ∈ leases, x.id ≠ l.id ∧ IsLink orgId occupancyId x := by
  constructor
  · rintro ⟨x, hx, hlink⟩
    rcases (Table.mem_modify_iff hl).mp hx with rfl | ⟨hx, hne⟩
    · exact .inl hlink
    · exact .inr ⟨x, hx, hne, hlink⟩
  · rintro (hlink | ⟨x, hx, hne, hlink⟩)
    · exact ⟨_, Table.apply_mem_modify hl, hlink⟩
    · exact ⟨x, Table.mem_modify_of_ne hx hne, hlink⟩

theorem linked_at (hl : l ∈ leases) :
    Linked leases orgId occupancyId ↔ IsLink orgId occupancyId l ∨
      ∃ x ∈ leases, x.id ≠ l.id ∧ IsLink orgId occupancyId x := by
  constructor
  · rintro ⟨x, hx, hlink⟩
    by_cases hid : x.id = l.id
    · exact .inl (Table.eq_of_key_eq hx hl hid ▸ hlink)
    · exact .inr ⟨x, hx, hid, hlink⟩
  · rintro (hlink | ⟨x, hx, -, hlink⟩)
    · exact ⟨l, hl, hlink⟩
    · exact ⟨x, hx, hlink⟩

theorem linked_modify_same (hl : l ∈ leases)
    (hsame : ∀ orgId occupancyId, IsLink orgId occupancyId (p.apply l) ↔
      IsLink orgId occupancyId l) :
    Linked (leases.modify l.id p) orgId occupancyId ↔ Linked leases orgId occupancyId := by
  rw [linked_modify hl, linked_at hl, hsame]

end Links

section Invariant

/-- What is linked has not ended, and every open allocation to an occupancy is of one that
is linked. -/
structure Tenanted (b : Books) : Prop where
  occupied : ∀ orgId occupancyId, Linked b.leases orgId occupancyId →
    ∀ o ∈ b.occupancies, o.id = occupancyId → o.status ≠ .ENDED
  backed : ∀ a ∈ b.parkingAllocations, a.endDate = none → ∀ occupancyId,
    a.occupancyId = some occupancyId → Linked b.leases a.orgId occupancyId

variable {b b' : Books}

theorem Tenanted.coherent {db : Db} (h : Tenanted db.books) : TenancyCoherent db where
  leases l hl hactive o ho hlinked :=
    h.occupied l.orgId o.id ⟨l, hl, rfl, hlinked, hactive⟩ o ho rfl
  allocations a ha hopen o ho hlinked :=
    h.occupied a.orgId o.id (h.backed a ha hopen o.id hlinked) o ho rfl

theorem Tenanted.of_links (h : Tenanted b)
    (hlinks : ∀ orgId occupancyId, Linked b'.leases orgId occupancyId ↔
      Linked b.leases orgId occupancyId)
    (hoccupancies : b'.occupancies = b.occupancies)
    (hallocations : b'.parkingAllocations = b.parkingAllocations) : Tenanted b' where
  occupied orgId occupancyId hlinked := by
    rw [hoccupancies]
    exact h.occupied orgId occupancyId ((hlinks orgId occupancyId).mp hlinked)
  backed a ha hopen occupancyId hid := by
    rw [hallocations] at ha
    exact (hlinks a.orgId occupancyId).mpr (h.backed a ha hopen occupancyId hid)

theorem Tenanted.of_same_leases (h : Tenanted b) (hleases : b'.leases = b.leases)
    (hoccupancies : b'.occupancies = b.occupancies)
    (hallocations : b'.parkingAllocations = b.parkingAllocations) : Tenanted b' :=
  h.of_links (fun _ _ => by rw [hleases]) hoccupancies hallocations

theorem Tenanted.open_occupancy {o : Occupancy} (h : Tenanted b) (ho : o.status = .ACTIVE)
    (hinsert : b.occupancies.insert o = some b'.occupancies)
    (hnew : ∀ orgId occupancyId, Linked b'.leases orgId occupancyId →
      Linked b.leases orgId occupancyId ∨ occupancyId = o.id)
    (hkept : ∀ orgId occupancyId, Linked b.leases orgId occupancyId →
      Linked b'.leases orgId occupancyId)
    (hrows : ∀ a ∈ b'.parkingAllocations, a ∈ b.parkingAllocations ∨
      ∀ occupancyId, a.occupancyId = some occupancyId → Linked b'.leases a.orgId occupancyId) :
    Tenanted b' where
  occupied orgId occupancyId hlinked x hx hid := by
    rcases (Table.mem_insert hinsert).mp hx with hold | rfl
    · rcases hnew orgId occupancyId hlinked with hlinked | hsame
      · exact h.occupied orgId occupancyId hlinked x hold hid
      · exact absurd (hid.trans hsame) (Table.fresh_of_insert hinsert hold)
    · rw [ho]
      exact fun hended => by cases hended
  backed a ha hopen occupancyId hid := by
    rcases hrows a ha with hold | hlinked
    · exact hkept a.orgId occupancyId (h.backed a hold hopen occupancyId hid)
    · exact hlinked occupancyId hid

end Invariant

/-- The resident a provisioning is of, found by email or new. -/
def provisionedUser (env : Parking.Env) (db : Db) (params : Users.OrgUserProvisionParams) :
    Option Id :=
  (Users.targetUser env.toEnv db params).toOption.map (·.1)

/-- The call brings back no lease of an ended occupancy, and ends no occupancy that an active
lease is linked to. -/
def EndsNoTenancy (env : Parking.Env) (db : Db) : Operation → Prop
  | .lease (.activateContract _ contractId) => ∀ l ∈ db.leases.table, l.id = contractId →
      ∀ o ∈ db.occupancies.table, l.occupancyId = some o.id → o.status ≠ .ENDED
  | .provision params => ∀ userId ∈ provisionedUser env db params,
      ∀ o ∈ db.occupancies.table, endedBy params userId o = true →
        ∀ l ∈ db.leases.table, l.status = .ACTIVE → l.occupancyId ≠ some o.id
  | _ => True

instance (env : Parking.Env) (db : Db) : ∀ op, Decidable (EndsNoTenancy env db op)
  | .lease (.activateContract _ contractId) =>
    inferInstanceAs (Decidable (∀ l ∈ db.leases.table, l.id = contractId →
      ∀ o ∈ db.occupancies.table, l.occupancyId = some o.id → o.status ≠ .ENDED))
  | .provision params =>
    inferInstanceAs (Decidable (∀ userId ∈ provisionedUser env db params,
      ∀ o ∈ db.occupancies.table, endedBy params userId o = true →
        ∀ l ∈ db.leases.table, l.status = .ACTIVE → l.occupancyId ≠ some o.id))
  | .lease (.createDraftContract _ _ _) | .lease (.updateContract _ _ _)
  | .lease (.updateLease _ _ _) | .lease (.replaceAdditionalTerms _ _ _)
  | .lease (.moveIn _ _ _) | .lease (.cancelContract _ _ _)
  | .lease (.createResidentMoveInRequest _ _ _) | .lease (.createResidentMoveOutRequest _ _ _)
  | .lease (.approveMoveInRequest _ _) | .lease (.rejectMoveInRequest _ _ _)
  | .lease (.approveMoveOutRequest _ _) | .lease (.rejectMoveOutRequest _ _ _)
  | .lease (.executeApprovedMoveIn _ _) | .lease (.executeApprovedMoveOut _ _)
  | .lease (.moveOut _ _ _ _) | .parking _ => isTrue trivial

section LeaseSteps

variable {env : Leases.Env} {db db' : Db} {user : Option AuthenticatedUser} {l x : Lease}
  {op : Leases.Operation}

theorem not_isLink_of_status {orgId occupancyId : Id} (h : l.status ≠ .ACTIVE) :
    ¬ IsLink orgId occupancyId l :=
  fun hlink => h hlink.2.2

theorem MovesOut.tenanted {occupancyId : Id} {endAt : Date}
    (h : MovesOut env user l occupancyId endAt db db') (ht : Tenanted db.books) :
    Tenanted db'.books := by
  obtain ⟨settlement, hbooks⟩ := h.books
  rw [hbooks]
  constructor
  · intro orgId x hlinked o ho hid
    rcases (linked_modify h.mem).mp hlinked with hlink | ⟨y, hy, hne, hlink⟩
    · exact absurd hlink (not_isLink_of_status LeaseStatus.noConfusion)
    · have hother : x ≠ occupancyId := by
        rintro rfl
        have hsame := db.leases.occupancy_unique y hy l h.mem (by simp [hlink.2.1])
          (hlink.2.1.trans h.linked.symm)
        exact hne hsame
      rcases Table.mem_modify.mp ho with ⟨a, ha, hk, rfl⟩ | ⟨ho, -⟩
      · exact absurd (hid.symm.trans hk) hother
      · exact ht.occupied orgId x ⟨y, hy, hlink⟩ o ho hid
  · intro a ha hopen x hid
    rcases Table.mem_modifyWhere.mp ha with ⟨a, -, -, rfl⟩ | ⟨ha, hq⟩
    · cases hopen
    · rcases (linked_at h.mem).mp (ht.backed a ha hopen x hid) with hlink | hother
      · -- the move-out ends the allocations of its own occupancy
        have hx : x = occupancyId := Option.some.inj (hlink.2.1.symm.trans h.linked)
        exact absurd ⟨hlink.1.symm, hid.trans (congrArg some hx), hopen⟩ (of_decide_eq_false hq)
      · exact (linked_modify h.mem).mpr (.inr hother)

theorem linked_modify_dropped {now : Date} {orgId occupancyId : Id} {leases : Table Lease.id}
    (hx : x ∈ leases) (hvacant : ∀ orgId occupancyId, ¬ IsLink orgId occupancyId x) :
    Linked (leases.modify x.id (leaseStatusSet now .CANCELLED)) orgId occupancyId ↔
      Linked leases orgId occupancyId :=
  linked_modify_same hx fun orgId occupancyId =>
    iff_of_false (not_isLink_of_status LeaseStatus.noConfusion) (hvacant orgId occupancyId)

theorem Cancels.tenanted (h : Cancels env l db db') (hx : x ∈ db.books.leases) (hid : x.id = l.id)
    (hvacant : ∀ orgId occupancyId, ¬ IsLink orgId occupancyId x) (ht : Tenanted db.books) :
    Tenanted db'.books := by
  rw [h.books]
  refine ht.of_links (fun orgId occupancyId => ?_) rfl rfl
  rw [← hid]
  exact linked_modify_dropped hx hvacant

theorem Completes.tenanted {r : MoveRequest} (h : Completes env l r db db')
    (hx : x ∈ db.books.leases) (hid : x.id = l.id)
    (hvacant : ∀ orgId occupancyId, ¬ IsLink orgId occupancyId x) (ht : Tenanted db.books) :
    Tenanted db'.books := by
  rw [h.books]
  refine ht.of_links (fun orgId occupancyId => ?_) rfl rfl
  dsimp only
  split_ifs
  · rw [← hid]
    exact linked_modify_dropped hx hvacant
  · rfl

/-- Every call on leases but a direct move-in, which has more to say. -/
theorem Effect.tenanted (he : Leases.Effect env db db' op)
    (hop : ∀ user buildingId dto, op ≠ .moveIn user buildingId dto)
    (hactivate : ∀ user contractId, op = .activateContract user contractId →
      ∀ l ∈ db.leases.table, l.id = contractId → ∀ o ∈ db.occupancies.table,
        l.occupancyId = some o.id → o.status ≠ .ENDED)
    (ht : Tenanted db.books) : Tenanted db'.books := by
  cases he with
  | draft building unit resident l leases hlease hperiod hleases hbooks =>
    obtain ⟨-, hstatus, -⟩ := Leases.draftLease_ok hlease
    rw [hbooks]
    refine ht.of_links (fun orgId occupancyId => ?_) rfl rfl
    rw [linked_insert hleases, or_iff_left]
    exact not_isLink_of_status (by simp [hstatus])
  | editContract l data hl hchecked hbooks =>
    rw [hbooks]
    exact ht.of_links (fun _ _ => linked_modify_same hl fun _ _ => Iff.rfl) rfl rfl
  | editLease l data columns hl hchecked hcolumns hbooks =>
    rw [hbooks]
    exact ht.of_links (fun _ _ => linked_modify_same hl fun _ _ => Iff.rfl) rfl rfl
  | replaceTerms hbooks => rwa [hbooks]
  | activated l hl hactive hbooks => rwa [hbooks]
  | activate l hl hended hactive hbooks hrecorded =>
    rw [hbooks]
    constructor
    · intro orgId occupancyId hlinked o ho hid
      rcases (linked_modify hl).mp hlinked with hlink | ⟨x, hx, -, hlink⟩
      · exact hactivate _ _ rfl l hl rfl o ho (hlink.2.1.trans (congrArg some hid.symm))
      · exact ht.occupied orgId occupancyId ⟨x, hx, hlink⟩ o ho hid
    · intro a ha hopen occupancyId hid
      rcases (linked_at hl).mp (ht.backed a ha hopen occupancyId hid) with hlink | hother
      · exact absurd hlink.2.2 hactive
      · exact (linked_modify hl).mpr (.inr hother)
  | cancel l hl hended hvacant hcancel =>
    refine Cancels.tenanted hcancel hl rfl (fun orgId occupancyId hlink => hvacant ?_) ht
    exact ⟨hlink.2.2, by simp [hlink.2.1]⟩
  | moveOutAndCancel l occupancyId db₁ hout hcancel =>
    obtain ⟨x, hx, hid, hended⟩ := hout.exists_ended
    exact Cancels.tenanted hcancel hx hid (fun _ _ => not_isLink_of_status (by simp [hended]))
      (MovesOut.tenanted hout ht)
  | ask kind hop l r requests hl hactive hunlinked hnone hlease horg hpending hrequests hbooks =>
    rw [hbooks]
    exact ht.of_same_leases (Books.leases_withRequests _ _ _) (Books.occupancies_withRequests _ _ _)
      (Books.parkingAllocations_withRequests _ _ _)
  | review kind hop r status reviewerId rejectionReason hr hpending hstatus hbooks =>
    rw [hbooks]
    exact ht.of_same_leases (Books.leases_withRequests _ _ _) (Books.occupancies_withRequests _ _ _)
      (Books.parkingAllocations_withRequests _ _ _)
  | executeMoveIn l residentUserId r occupancies hl hactive hunlinked hr horg hlease happroved
      hoccupancies hbooks =>
    rw [hbooks]
    refine ht.open_occupancy rfl hoccupancies (fun orgId occupancyId hlinked => ?_)
      (fun orgId occupancyId hlinked => ?_) fun a ha => .inl ha
    · rcases (linked_modify hl).mp hlinked with hlink | ⟨x, hx, -, hlink⟩
      · exact .inr (Option.some.inj hlink.2.1).symm
      · exact .inl ⟨x, hx, hlink⟩
    · rcases (linked_at hl).mp hlinked with hlink | hother
      · exact absurd (hunlinked.symm.trans hlink.2.1) (by simp)
      · exact (linked_modify hl).mpr (.inr hother)
  | executeMoveOut l r occupancyId db₁ hfound hout hcomplete =>
    obtain ⟨x, hx, hid, hended⟩ := hout.exists_ended
    exact Completes.tenanted hcomplete hx hid
      (fun _ _ => not_isLink_of_status (by simp [hended])) (MovesOut.tenanted hout ht)
  | moveIn residentUserId l leases occupancies parkingAllocations hlease hoccupancies hleases
      hallocations hbooks => exact absurd rfl (hop _ _ _)
  | moveOut l occupancyId endAt hend hout => exact MovesOut.tenanted hout ht

theorem MovesIn.tenanted {buildingId : Id} {dto : Leases.MoveInDto}
    (h : Parking.MovesIn env user buildingId dto l db db') (ht : Tenanted db.books) :
    Tenanted db'.books := by
  obtain ⟨residentUserId, leases, occupancies, t, hoccupancies, hleases, htakes, hbooks⟩ := h.books
  obtain ⟨-, hactive, hoccupancy, -⟩ := Leases.moveInLease_ok h.lease
  rw [hbooks]
  refine ht.open_occupancy rfl hoccupancies (fun orgId occupancyId hlinked => ?_)
    (fun orgId occupancyId hlinked => (linked_insert hleases).mpr (.inl hlinked)) fun a ha => ?_
  · rcases (linked_insert hleases).mp hlinked with hlinked | hlink
    · exact .inl hlinked
    · exact .inr (Option.some.inj (hlink.2.1.symm.trans hoccupancy))
  · rcases (htakes.mem a).mp ha with hold | hnew
    · exact .inl hold
    · obtain ⟨horg, hid, -, -⟩ := Parking.mem_moveInAllocations hnew
      refine .inr fun occupancyId hsame => (linked_insert hleases).mpr (.inr ⟨horg.symm, ?_, hactive⟩)
      rw [hoccupancy, ← hid, hsame]

end LeaseSteps

section OtherSteps

variable {env : Parking.Env} {db db' : Db}

theorem ParkingEffect.tenanted {op : Parking.Operation} (he : Parking.Effect env db db' op)
    (ht : Tenanted db.books) : Tenanted db'.books := by
  cases he with
  | allocate orgId target selection slotIds t horg hlease hselection hslots htakes hbooks =>
    rw [hbooks]
    refine ⟨ht.occupied, fun a ha hopen occupancyId hid => ?_⟩
    rcases (htakes.mem a).mp ha with hold | hnew
    · exact ht.backed a hold hopen occupancyId hid
    · obtain ⟨hrow, htarget, -⟩ := Parking.mem_createAllocations hnew
      rw [hrow]
      exact hlease occupancyId (htarget.symm.trans hid)
  | finish hop q endDate hopen hbooks =>
    rw [hbooks]
    refine ⟨ht.occupied, fun a ha hopen occupancyId hid => ?_⟩
    rcases Table.mem_modifyWhere.mp ha with ⟨a, -, -, rfl⟩ | ⟨hold, -⟩
    · cases hopen
    · exact ht.backed a hold hopen occupancyId hid

variable {params : Users.OrgUserProvisionParams} {userId : Id}

theorem Provisions.user (h : Provisions env.toEnv params userId db db') :
    userId ∈ provisionedUser env db params := by
  obtain ⟨write, hwrite⟩ := h.target
  rw [provisionedUser, hwrite]
  rfl

theorem Provisions.tenanted (h : Provisions env.toEnv params userId db db')
    (hends : ∀ o ∈ db.occupancies.table, endedBy params userId o = true →
      ∀ l ∈ db.leases.table, l.status = .ACTIVE → l.occupancyId ≠ some o.id)
    (ht : Tenanted db.books) : Tenanted db'.books := by
  obtain ⟨occupancies, hbooks, hrows⟩ := h.books
  rw [hbooks]
  refine ⟨fun orgId occupancyId hlinked o ho hid => ?_, ht.backed⟩
  have hold : o ∈ db.books.occupancies.modifyWhere (endedBy params userId)
      (occupancyEnded env.now env.now) → o.status ≠ .ENDED := by
    intro hmem
    rcases Table.mem_modifyWhere.mp hmem with ⟨a, ha, hq, rfl⟩ | ⟨hkept, -⟩
    · obtain ⟨l, hl, hlink⟩ := hlinked
      exact absurd (hlink.2.1.trans (congrArg some hid.symm)) (hends a ha hq l hl hlink.2.2)
    · exact ht.occupied orgId occupancyId hlinked o hkept hid
  rcases hrows with heq | ⟨new, hnew, hinsert⟩
  · exact hold (heq ▸ ho)
  · rcases (Table.mem_insert hinsert).mp ho with hmem | rfl
    · exact hold hmem
    · rw [hnew]
      exact fun hended => by cases hended

/-- Ending an occupancy under an active lease leaves the two at odds. -/
theorem Provisions.endsNoTenancy (h : Provisions env.toEnv params userId db db')
    (hcoherent : TenancyCoherent db') :
    ∀ o ∈ db.occupancies.table, endedBy params userId o = true →
      ∀ l ∈ db.leases.table, l.status = .ACTIVE → l.occupancyId ≠ some o.id := by
  intro o ho hends l hl hactive hlinked
  obtain ⟨occupancies, hbooks, hrows⟩ := h.books
  have hended : (occupancyEnded env.now env.now).apply o ∈ db.books.occupancies.modifyWhere
      (endedBy params userId) (occupancyEnded env.now env.now) :=
    Table.mem_modifyWhere.mpr (.inl ⟨o, ho, hends, rfl⟩)
  have ho' : (occupancyEnded env.now env.now).apply o ∈ db'.books.occupancies := by
    rw [hbooks]
    rcases hrows with heq | ⟨new, -, hinsert⟩
    · exact heq ▸ hended
    · exact (Table.mem_insert hinsert).mpr (.inl hended)
  have hl' : l ∈ db'.books.leases := by
    rw [hbooks]
    exact hl
  exact hcoherent.leases l hl' hactive _ ho' hlinked rfl

end OtherSteps

section Runs

def EndsNoTenancyIfSuccessful (c : Parking.Env × Operation) (db : Db) : Prop :=
  Succeeds c.1 c.2 db → EndsNoTenancy c.1 db c.2

instance (c : Parking.Env × Operation) (db : Db) : Decidable (EndsNoTenancyIfSuccessful c db) :=
  inferInstanceAs (Decidable (Succeeds _ _ _ → _))

theorem next_tenanted (c : Parking.Env × Operation) (db : Db) (ht : Tenanted db.books)
    (hg : EndsNoTenancyIfSuccessful c db) : Tenanted (next c db).books := by
  obtain ⟨env, op⟩ := c
  by_cases hs : Succeeds env op db
  · have hends := hg hs
    cases op with
    | lease op =>
      by_cases hop : ∀ user buildingId dto, op ≠ .moveIn user buildingId dto
      · refine Effect.tenanted (next_lease hs) hop (fun user contractId hactivate => ?_) ht
        subst hactivate
        exact hends
      · push Not at hop
        obtain ⟨user, buildingId, dto, rfl⟩ := hop
        obtain ⟨l, hmoves⟩ := next_moveIn hs
        exact MovesIn.tenanted hmoves ht
    | parking op => exact ParkingEffect.tenanted (next_parking hs) ht
    | provision params =>
      obtain ⟨userId, hprovisions⟩ := next_provision hs
      exact Provisions.tenanted hprovisions (hends userId (Provisions.user hprovisions)) ht
  · rwa [next_of_fails hs]

theorem activated_coherent {env : Leases.Env} {db db' : Db} {user : Option AuthenticatedUser}
    {contractId : Id} (he : Leases.Effect env db db' (.activateContract user contractId))
    (hcoherent : TenancyCoherent db') :
    ∀ l ∈ db.leases.table, l.id = contractId → ∀ o ∈ db.occupancies.table,
      l.occupancyId = some o.id → o.status ≠ .ENDED := by
  intro x hx hid o ho hlinked
  cases he with
  | activated l hl hactive hbooks =>
    obtain rfl := Table.eq_of_key_eq hx hl hid
    have hx' : x ∈ db'.books.leases := hbooks ▸ hx
    have ho' : o ∈ db'.books.occupancies := hbooks ▸ ho
    exact hcoherent.leases x hx' hactive o ho' hlinked
  | activate l hl hended hactive hbooks hrecorded =>
    obtain rfl := Table.eq_of_key_eq hx hl hid
    have hx' : (leaseStatusSet env.now .ACTIVE).apply x ∈ db'.books.leases := by
      rw [hbooks]
      exact Table.apply_mem_modify hl
    have ho' : o ∈ db'.books.occupancies := by
      rw [hbooks]
      exact ho
    exact hcoherent.leases _ hx' rfl o ho' hlinked
  | ask kind hop => cases hop
  | review kind hop => cases hop

theorem endsNoTenancy_of_coherent (c : Parking.Env × Operation) (db : Db)
    (hcoherent : TenancyCoherent (next c db)) : EndsNoTenancyIfSuccessful c db := by
  obtain ⟨env, op⟩ := c
  intro hs
  cases op with
  | lease op =>
    cases op with
    | activateContract user contractId => exact activated_coherent (next_lease hs) hcoherent
    | _ => trivial
  | parking op => trivial
  | provision params =>
    obtain ⟨userId, hprovisions⟩ := next_provision hs
    intro other hother
    obtain rfl : userId = other := Option.some.inj ((Provisions.user hprovisions).symm.trans hother)
    exact Provisions.endsNoTenancy hprovisions hcoherent

/-- Before the first lease and the first allocation. -/
structure Untenanted (db : Db) : Prop where
  leases : ∀ l, l ∉ db.leases.table
  allocations : ∀ a, a ∉ db.parkingAllocations

theorem Untenanted.tenanted {db : Db} (h : Untenanted db) : Tenanted db.books where
  occupied _ _ hlinked := by
    obtain ⟨l, hl, -⟩ := hlinked
    exact absurd hl (h.leases l)
  backed a ha := absurd ha (h.allocations a)

/-- Tenancy data is coherent in every state of a run exactly when no call that returns ends an
occupancy under an active lease or activates a lease of an ended occupancy. -/
theorem tenancy_coherent_iff (db : Db) (hstart : Untenanted db)
    (cs : List (Parking.Env × Operation)) :
    (∀ ms, ms <+: cs → TenancyCoherent (Run.exec next db ms)) ↔
      Run.Along next EndsNoTenancyIfSuccessful db cs := by
  refine Run.forall_exec_iff_along (fun c db h => endsNoTenancy_of_coherent c db h) fun ms hg => ?_
  have htenanted : Tenanted (Run.exec next db ms).books :=
    Run.exec_inv_along (I := fun db : Db => Tenanted db.books)
      (fun c db h hg => next_tenanted c db h hg) hstart.tenanted hg
  exact htenanted.coherent

theorem garage_untenanted : Untenanted garage where
  leases l := Table.not_mem_empty l
  allocations a := Table.not_mem_empty a

/-- Ann moves in, parks and moves out; Ben is given the unit without a lease, then taken out. -/
def twoResidents : List (Parking.Env × Operation) :=
  [onLeases (Leases.managerMovesInDirectly 1 "lease" "101" "ann" 1 1000),
    managerAllocatesTo 2 "allocation" "lease" "slot",
    onLeases (Leases.managerMovesOut 3 "lease"),
    managerProvisions 4 "occupancy" "ben@example.com" ⟨"building", some "101", some .ADD⟩,
    managerProvisions 5 "unused" "ben@example.com" ⟨"building", none, some .MOVE_OUT⟩]

theorem two_residents_coherent :
    Untenanted garage ∧ ∀ ms, ms <+: twoResidents →
      TenancyCoherent (Run.exec next garage ms) :=
  ⟨garage_untenanted,
    (tenancy_coherent_iff garage garage_untenanted twoResidents).mpr (by decide +kernel)⟩

/-- Ann is taken out of her unit by a provisioning, and keeps her lease and her slot. -/
theorem provisioned_out_of_lease :
    ¬ ∀ db : Db, Untenanted db → ∀ cs ms, ms <+: cs → TenancyCoherent (Run.exec next db ms) := by
  intro h
  have hcoherent := h garage garage_untenanted
    [onLeases (Leases.managerMovesInDirectly 1 "lease" "101" "ann" 1 1000),
      managerAllocatesTo 2 "allocation" "lease" "slot",
      managerProvisions 3 "unused" "ann@example.com" ⟨"building", none, some .MOVE_OUT⟩] _
    (List.prefix_refl _)
  revert hcoherent
  decide +kernel

end Runs

end Towerdesk.Residency
