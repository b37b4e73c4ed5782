import Towerdesk.Lib.Keyset
import Towerdesk.Leases.Scene
import Mathlib.Data.Prod.Lex
import Mathlib.Data.String.Basic

/-!
# The resident's move buttons

A resident is shown the latest contract with two flags, whether to offer a request to move in
and one to move out. The flags go by the latest request and by the status of the occupancy, the
requests by any open one and by the link to an occupancy. As long as no contract is activated
whose occupancy has ended and every request is the latest of its contract, they agree.
-/

namespace Towerdesk.Leases

structure ResidentLatestContractSummary where
  contract : Option Lease
  canRequestMoveIn : Bool
  canRequestMoveOut : Bool
  latestMoveInRequestStatus : Option MoveRequestStatus
  latestMoveOutRequestStatus : Option MoveRequestStatus

section Summary

variable {ι : Type*} [LinearOrder ι] (collate : Id ↪ ι) (db : Db)

/-- `orderBy: [{ leaseStartDate: 'desc' }, { id: 'desc' }]`, text as the database orders it. -/
def findLatestContract (orgId userId : Id) : Option Lease :=
  (Keyset.sorted (fun l : Lease => toLex (l.leaseStartDate, collate l.id))
    (db.leases.table.rows.filter fun l => l.orgId = orgId ∧
      (l.residentUserId = some userId ∨
        (linkedOccupancy db l).any (·.residentUserId = userId)))).head?

def MoveRequest.made (r : MoveRequest) : Date ×ₗ ι := toLex (r.createdAt, collate r.id)

/-- `orderBy: [{ createdAt: 'desc' }, { id: 'desc' }]`. -/
def latestRequestStatus (kind : MoveRequestKind) (orgId : Id) (contract : Lease) :
    Option MoveRequestStatus :=
  (Keyset.sorted (MoveRequest.made collate) ((db.moveRequests kind).table.rows.filter fun r =>
    r.orgId = orgId ∧ r.leaseId = contract.id)).head?.map (·.status)

def blocksRequest (status : Option MoveRequestStatus) : Bool :=
  status = some .PENDING ∨ status = some .APPROVED

def getLatestContractSummaryForResident (user : Option AuthenticatedUser) :
    Result ResidentLatestContractSummary := do
  let orgId ← assertOrgScope user
  let userId ← assertUserId user
  match findLatestContract collate db orgId userId with
  | none => return ⟨none, false, false, none, none⟩
  | some contract =>
    let latestMoveInRequestStatus := latestRequestStatus collate db .MOVE_IN orgId contract
    let latestMoveOutRequestStatus := latestRequestStatus collate db .MOVE_OUT orgId contract
    let hasActiveOccupancy := (linkedOccupancy db contract).any (·.status = .ACTIVE)
    return {
      contract := some contract
      canRequestMoveIn := contract.status = .ACTIVE && !hasActiveOccupancy &&
        !blocksRequest latestMoveInRequestStatus
      canRequestMoveOut := contract.status = .ACTIVE && hasActiveOccupancy &&
        !blocksRequest latestMoveOutRequestStatus
      latestMoveInRequestStatus
      latestMoveOutRequestStatus }

end Summary

section Upkeep

variable {ι : Type*} [LinearOrder ι] {collate : Id ↪ ι}

/-- The occupancy a lease is linked to is there, is its resident's, and is active if it is. -/
def HousedIn (occupancies : Table Occupancy.id) (l : Lease) : Prop :=
  ∀ occupancyId, l.occupancyId = some occupancyId → ∃ o ∈ occupancies, o.id = occupancyId ∧
    (∀ userId, l.residentUserId = some userId → o.residentUserId = userId) ∧
    (l.status = .ACTIVE → o.status = .ACTIVE)

/-- Each request belongs to a lease of its organisation, and an open one is the latest of its
lease. -/
structure Dated (collate : Id ↪ ι) (leases : Table Lease.id) (requests : Table MoveRequest.id) :
    Prop where
  known : ∀ r ∈ requests, ∃ l ∈ leases, l.id = r.leaseId ∧ l.orgId = r.orgId
  latest : ∀ r ∈ requests, r.isOpen → ∀ s ∈ requests, s.leaseId = r.leaseId →
    s.made collate ≤ r.made collate

structure Kept (collate : Id ↪ ι) (b : Books) : Prop where
  housed : ∀ l ∈ b.leases, HousedIn b.occupancies l
  dated : ∀ kind, Dated collate b.leases (b.requests kind)

variable {leases leases' : Table Lease.id} {occupancies occupancies' : Table Occupancy.id}
  {requests requests' : Table MoveRequest.id} {l l' : Lease} {r : MoveRequest}

theorem housedIn_of_vacant (h : l.occupancyId = none) : HousedIn occupancies l := by
  intro occupancyId hlinked
  cases h.symm.trans hlinked

theorem HousedIn.of_same (h : HousedIn occupancies l) (hlink : l'.occupancyId = l.occupancyId)
    (hresident : l'.residentUserId = l.residentUserId)
    (hstatus : l'.status = .ACTIVE → l.status = .ACTIVE) : HousedIn occupancies l' := by
  intro occupancyId hlinked
  obtain ⟨o, ho, hid, hsame, hactive⟩ := h occupancyId (hlink ▸ hlinked)
  exact ⟨o, ho, hid, hresident ▸ hsame, fun hl' => hactive (hstatus hl')⟩

theorem HousedIn.insert {o : Occupancy} (h : HousedIn occupancies l)
    (hinsert : occupancies.insert o = some occupancies') : HousedIn occupancies' l := by
  intro occupancyId hlinked
  obtain ⟨o', ho', hrest⟩ := h occupancyId hlinked
  exact ⟨o', (Table.mem_insert hinsert).mpr (.inl ho'), hrest⟩

theorem housed_modify {p : Patch Lease.id} (h : ∀ l ∈ leases, HousedIn occupancies l) (k : Id)
    (hlink : ∀ l, (p.apply l).occupancyId = l.occupancyId)
    (hresident : ∀ l, (p.apply l).residentUserId = l.residentUserId)
    (hstatus : ∀ l ∈ leases, l.id = k → (p.apply l).status = .ACTIVE → l.status = .ACTIVE) :
    ∀ l ∈ leases.modify k p, HousedIn occupancies l :=
  Table.forall_modify h fun l hl hid =>
    (h l hl).of_same (hlink l) (hresident l) (hstatus l hl hid)

theorem Dated.of_leases (h : Dated collate leases requests)
    (hleases : ∀ l ∈ leases, ∃ l' ∈ leases', l'.id = l.id ∧ l'.orgId = l.orgId) :
    Dated collate leases' requests where
  known r hr := by
    obtain ⟨l, hl, hid, horg⟩ := h.known r hr
    obtain ⟨l', hl', hid', horg'⟩ := hleases l hl
    exact ⟨l', hl', hid'.trans hid, horg'.trans horg⟩
  latest := h.latest

theorem Dated.modifyLease {p : Patch Lease.id} (h : Dated collate leases requests) (k : Id)
    (horg : ∀ l, (p.apply l).orgId = l.orgId) : Dated collate (leases.modify k p) requests := by
  refine h.of_leases fun l hl => ?_
  by_cases hid : l.id = k
  · exact ⟨p.apply l, Table.mem_modify.mpr (.inl ⟨l, hl, hid, rfl⟩), p.key_apply l, horg l⟩
  · exact ⟨l, Table.mem_modify_of_ne hl hid, rfl, rfl⟩

theorem Dated.insertLease (h : Dated collate leases requests)
    (hinsert : leases.insert l = some leases') : Dated collate leases' requests :=
  h.of_leases fun x hx => ⟨x, (Table.mem_insert hinsert).mpr (.inl hx), rfl, rfl⟩

theorem Dated.of_rows (h : Dated collate leases requests)
    (hrows : ∀ r' ∈ requests', ∃ r ∈ requests, r'.leaseId = r.leaseId ∧ r'.orgId = r.orgId ∧
      r'.made collate = r.made collate ∧ (r'.isOpen → r.isOpen)) :
    Dated collate leases requests' where
  known r' hr' := by
    obtain ⟨r, hr, hlease, horg, -⟩ := hrows r' hr'
    rw [hlease, horg]
    exact h.known r hr
  latest r' hr' hopen s' hs' hsame := by
    obtain ⟨r, hr, hrlease, -, hrmade, hropen⟩ := hrows r' hr'
    obtain ⟨s, hs, hslease, -, hsmade, -⟩ := hrows s' hs'
    rw [hrmade, hsmade]
    exact h.latest r hr (hropen hopen) s hs (by rw [← hslease, ← hrlease, hsame])

theorem Dated.modifyRequest {p : Patch MoveRequest.id} (h : Dated collate leases requests) (k : Id)
    (hp : ∀ r, (p.apply r).leaseId = r.leaseId ∧ (p.apply r).orgId = r.orgId ∧
      (p.apply r).createdAt = r.createdAt)
    (hopen : ∀ r ∈ requests, r.id = k → (p.apply r).isOpen → r.isOpen) :
    Dated collate leases (requests.modify k p) := by
  refine h.of_rows fun r' hr' => ?_
  rcases Table.mem_modify.mp hr' with ⟨r, hr, hid, rfl⟩ | ⟨hr, -⟩
  · refine ⟨r, hr, (hp r).1, (hp r).2.1, ?_, hopen r hr hid⟩
    rw [MoveRequest.made, MoveRequest.made, (hp r).2.2, p.key_apply]
  · exact ⟨r', hr, rfl, rfl, rfl, id⟩

theorem Dated.sweep (h : Dated collate leases requests) (now : Date) :
    Dated collate leases (cancelOpen now l requests) := by
  refine h.of_rows fun r' hr' => ?_
  rcases Table.mem_modifyWhere.mp hr' with ⟨r, hr, hq, rfl⟩ | ⟨hr, -⟩
  · exact ⟨r, hr, rfl, rfl, rfl, fun _ => (of_decide_eq_true hq).2.2⟩
  · exact ⟨r', hr, rfl, rfl, rfl, id⟩

theorem Dated.ask (h : Dated collate leases requests) (hl : l ∈ leases)
    (hinsert : requests.insert r = some requests') (hlease : r.leaseId = l.id)
    (horg : r.orgId = l.orgId) (hnone : ∀ s ∈ requests, s.leaseId = l.id → ¬ s.isOpen)
    (hlater : ∀ s ∈ requests, s.leaseId = l.id → s.made collate ≤ r.made collate) :
    Dated collate leases requests' where
  known s hs := by
    rcases (Table.mem_insert hinsert).mp hs with hs | rfl
    · exact h.known s hs
    · exact ⟨l, hl, hlease.symm, horg.symm⟩
  latest s hs hopen t ht hsame := by
    rcases (Table.mem_insert hinsert).mp hs with hs | rfl
    · rcases (Table.mem_insert hinsert).mp ht with ht | rfl
      · exact h.latest s hs hopen t ht hsame
      · exact absurd hopen (hnone s hs (hsame.symm.trans hlease))
    · rcases (Table.mem_insert hinsert).mp ht with ht | rfl
      · exact hlater t ht (hsame.trans hlease)
      · exact le_refl _

end Upkeep

section Step

variable {ι : Type*} [LinearOrder ι] {collate : Id ↪ ι} {env : Env} {op : Operation}
  {db db' db₁ : Db} {user : Option AuthenticatedUser} {l : Lease}

/-- No contract is activated whose occupancy has ended, and a request is made later than those
its contract has already. -/
def KeepsButtons (collate : Id ↪ ι) (env : Env) (db : Db) : Operation → Prop
  | .activateContract _ contractId => ∀ l ∈ db.leases.table, l.id = contractId →
    ∀ o ∈ db.occupancies.table, l.occupancyId = some o.id → o.status ≠ .ENDED
  | .createResidentMoveInRequest _ contractId _ =>
    ∀ r ∈ db.moveInRequests.table, r.leaseId = contractId →
      r.made collate ≤ toLex (env.now, collate env.ids.request)
  | .createResidentMoveOutRequest _ contractId _ =>
    ∀ r ∈ db.moveOutRequests.table, r.leaseId = contractId →
      r.made collate ≤ toLex (env.now, collate env.ids.request)
  | _ => True

instance (collate : Id ↪ ι) (env : Env) (db : Db) :
    DecidablePred (KeepsButtons collate env db) := by
  rintro ⟨⟩ <;>
    first
    | exact inferInstanceAs (Decidable (∀ l ∈ db.leases.table, _))
    | exact inferInstanceAs (Decidable (∀ r ∈ db.moveInRequests.table, _))
    | exact inferInstanceAs (Decidable (∀ r ∈ db.moveOutRequests.table, _))
    | exact isTrue trivial

theorem KeepsButtons.asksLater {kind : MoveRequestKind} {contractId : Id}
    (h : KeepsButtons collate env db op) (hop : op.asks = some kind)
    (hcontract : op.asksAbout = some contractId) :
    ∀ r ∈ db.books.requests kind, r.leaseId = contractId →
      r.made collate ≤ toLex (env.now, collate env.ids.request) := by
  cases op with
  | createResidentMoveInRequest user contractId dto =>
    cases hop
    cases hcontract
    exact h
  | createResidentMoveOutRequest user contractId dto =>
    cases hop
    cases hcontract
    exact h
  | _ => cases hop

theorem MovesOut.kept {occupancyId : Id} {endAt : Date}
    (hout : MovesOut env user l occupancyId endAt db db') (h : Kept collate db.books) :
    Kept collate db'.books := by
  obtain ⟨settlement, hbooks⟩ := hout.books
  rw [hbooks]
  refine ⟨fun x hx id hlinked => ?_, fun kind => ?_⟩
  · rcases Table.mem_modify.mp hx with ⟨y, hy, hid, rfl⟩ | ⟨hx', hne⟩
    · obtain rfl := Table.eq_of_key_eq hy hout.mem hid
      obtain ⟨o, ho, hoid, hresident, -⟩ := h.housed y hy id hlinked
      obtain rfl : id = occupancyId := Option.some.inj (hlinked.symm.trans hout.linked)
      refine ⟨(occupancyEnded env.now endAt).apply o, ?_, hoid, hresident, fun hactive => ?_⟩
      · exact Table.mem_modify.mpr (.inl ⟨o, ho, hoid, rfl⟩)
      · cases hactive
    · obtain ⟨o, ho, hoid, hrest⟩ := h.housed x hx' id hlinked
      -- no other lease is linked to the occupancy that ends
      have hother : o.id ≠ occupancyId := by
        rintro rfl
        rw [← hoid] at hlinked
        have hsame := db.leases.occupancy_unique.eq hx' hout.mem hlinked hout.linked
        exact hne (congrArg Lease.id hsame)
      exact ⟨o, Table.mem_modify_of_ne ho hother, hoid, hrest⟩
  · have hdated := (h.dated kind).modifyLease (p := leaseEnded env.now settlement) l.id fun _ => rfl
    cases kind <;> exact hdated

theorem Cancels.kept (hcancel : Cancels env l db db') (h : Kept collate db.books) :
    Kept collate db'.books := by
  rw [hcancel.books]
  refine ⟨?_, fun kind => ?_⟩
  · exact housed_modify h.housed l.id (fun _ => rfl) (fun _ => rfl) fun _ _ _ hactive => by
      cases hactive
  · have hdated := ((h.dated kind).sweep (l := l) env.now).modifyLease
      (p := leaseStatusSet env.now .CANCELLED) l.id fun _ => rfl
    cases kind <;> exact hdated

theorem Completes.kept {r : MoveRequest} (hcomplete : Completes env l r db db')
    (h : Kept collate db.books) : Kept collate db'.books := by
  have hleases : ∀ requests, Dated collate db.books.leases requests →
      Dated collate (if r.requestedMoveAt < l.leaseEndDate then
        db.books.leases.modify l.id (leaseStatusSet env.now .CANCELLED) else db.books.leases)
          requests := by
    intro requests hdated
    split_ifs
    · exact hdated.modifyLease l.id fun _ => rfl
    · exact hdated
  rw [hcomplete.books]
  refine ⟨?_, fun kind => ?_⟩
  · dsimp only
    split_ifs
    · exact housed_modify h.housed l.id (fun _ => rfl) (fun _ => rfl) fun _ _ _ hactive => by
        cases hactive
    · exact h.housed
  · cases kind with
    | MOVE_IN => exact hleases _ (h.dated .MOVE_IN)
    | MOVE_OUT =>
      exact hleases _ ((h.dated .MOVE_OUT).modifyRequest r.id (fun _ => ⟨rfl, rfl, rfl⟩)
        fun _ _ _ hopen => absurd hopen not_isOpen_completed)

theorem Kept.edit {b : Books} {p : Patch Lease.id} {history : List LeaseHistory}
    (h : Kept collate b) (k : Id) (horg : ∀ l, (p.apply l).orgId = l.orgId)
    (hlink : ∀ l, (p.apply l).occupancyId = l.occupancyId)
    (hresident : ∀ l, (p.apply l).residentUserId = l.residentUserId)
    (hstatus : ∀ l ∈ b.leases, l.id = k → (p.apply l).status = .ACTIVE → l.status = .ACTIVE) :
    Kept collate { b with leases := b.leases.modify k p, history } where
  housed := housed_modify h.housed k hlink hresident hstatus
  dated kind := by
    have hdated := (h.dated kind).modifyLease (p := p) k horg
    cases kind <;> exact hdated

theorem Kept.insert {b : Books} {leases : Table Lease.id} {occupancies : Table Occupancy.id}
    {parkingAllocations : Table ParkingAllocation.id} {history : List LeaseHistory}
    (h : Kept collate b) (hinsert : b.leases.insert l = some leases)
    (hhoused : ∀ x ∈ b.leases, HousedIn b.occupancies x → HousedIn occupancies x)
    (hl : HousedIn occupancies l) :
    Kept collate { b with leases, occupancies, parkingAllocations, history } where
  housed x hx := by
    rcases (Table.mem_insert hinsert).mp hx with hx | rfl
    · exact hhoused x hx (h.housed x hx)
    · exact hl
  dated kind := by
    have hdated := (h.dated kind).insertLease hinsert
    cases kind <;> exact hdated

theorem Kept.withRequests {b : Books} {kind : MoveRequestKind} {requests : Table MoveRequest.id}
    (h : Kept collate b) (hkind : Dated collate b.leases requests) :
    Kept collate (b.withRequests kind requests) := by
  refine ⟨?_, fun other => ?_⟩
  · rw [Books.leases_withRequests, Books.occupancies_withRequests]
    exact h.housed
  · rw [Books.leases_withRequests, Books.requests_withRequests]
    split_ifs
    · exact hkind
    · exact h.dated other

theorem Effect.kept (he : Effect env db db' op) (hg : KeepsButtons collate env db op)
    (h : Kept collate db.books) : Kept collate db'.books := by
  cases he with
  | draft building unit resident l leases hlease hperiod hleases hbooks =>
    obtain ⟨-, -, hvacant, -⟩ := draftLease_ok hlease
    rw [hbooks]
    exact h.insert hleases (fun _ _ => id) (housedIn_of_vacant hvacant)
  | editContract l data hl hchecked hbooks =>
    rw [hbooks]
    exact h.edit l.id (fun _ => rfl) (fun _ => rfl) (fun _ => rfl) fun _ _ _ => id
  | editLease l data columns hl hchecked hcolumns hbooks =>
    rw [hbooks]
    exact h.edit l.id (fun _ => rfl) (fun _ => rfl) (fun _ => rfl) fun _ _ _ => id
  | replaceTerms hbooks => rwa [hbooks]
  | activated l hl hactive hbooks => rwa [hbooks]
  | activate l hl hended hactive hbooks hrecorded =>
    rw [hbooks]
    refine ⟨fun x hx => ?_, fun kind => ?_⟩
    · rcases Table.mem_modify.mp hx with ⟨y, hy, hid, rfl⟩ | ⟨hx, -⟩
      · intro occupancyId hlinked
        obtain ⟨o, ho, rfl, hresident, -⟩ := h.housed y hy occupancyId hlinked
        refine ⟨o, ho, rfl, hresident, fun _ => ?_⟩
        have hended : o.status ≠ .ENDED := hg y hy hid o ho hlinked
        cases hstatus : o.status with
        | ACTIVE => rfl
        | ENDED => exact absurd hstatus hended
      · exact h.housed x hx
    · have hdated := (h.dated kind).modifyLease (p := leaseStatusSet env.now .ACTIVE) l.id
        fun _ => rfl
      cases kind <;> exact hdated
  | cancel l hl hended hvacant hcancel => exact hcancel.kept h
  | moveOutAndCancel l occupancyId db₁ hout hcancel => exact hcancel.kept (hout.kept h)
  | ask kind hop l r requests hl hactive hunlinked hnone hlease horg hpending hrequests hbooks
      hcontract hnew =>
    rw [hbooks]
    have hmade : r.made collate = toLex (env.now, collate env.ids.request) := by
      rw [MoveRequest.made, hnew.1, hnew.2]
    refine h.withRequests ((h.dated kind).ask hl hrequests hlease horg (fun s hs hslease => ?_) ?_)
    · obtain ⟨x, hx, hid, hsorg⟩ := (h.dated kind).known s hs
      obtain rfl := Table.eq_of_key_eq hx hl (hid.trans hslease)
      exact hnone s hs hsorg.symm hslease
    · rw [hmade]
      exact hg.asksLater hop hcontract
  | review kind hop r status reviewerId rejectionReason hr hpending hstatus hbooks =>
    rw [hbooks]
    refine h.withRequests ((h.dated kind).modifyRequest r.id (fun _ => ⟨rfl, rfl, rfl⟩)
      fun s hs hid _ => ?_)
    obtain rfl := Table.eq_of_key_eq hs hr hid
    simp [MoveRequest.isOpen, hpending]
  | executeMoveIn l residentUserId r occupancies hl hactive hunlinked hr horg hlease happroved
      hoccupancies hbooks hresident =>
    rw [hbooks]
    refine ⟨fun x hx => ?_, fun kind => ?_⟩
    · rcases Table.mem_modify.mp hx with ⟨y, hy, hid, rfl⟩ | ⟨hx, -⟩
      · obtain rfl := Table.eq_of_key_eq hy hl hid
        intro occupancyId hlinked
        obtain rfl := Option.some.inj hlinked
        refine ⟨_, (Table.mem_insert hoccupancies).mpr (.inr rfl), rfl, ?_, fun _ => rfl⟩
        intro userId huser
        exact Option.some.inj (hresident.symm.trans huser)
      · exact (h.housed x hx).insert hoccupancies
    · cases kind with
      | MOVE_IN =>
        exact ((h.dated .MOVE_IN).modifyRequest r.id (fun _ => ⟨rfl, rfl, rfl⟩)
          fun _ _ _ hopen => absurd hopen not_isOpen_completed).modifyLease l.id fun _ => rfl
      | MOVE_OUT => exact (h.dated .MOVE_OUT).modifyLease l.id fun _ => rfl
  | executeMoveOut l r occupancyId db₁ hfound hout hcomplete => exact hcomplete.kept (hout.kept h)
  | moveIn residentUserId l leases occupancies parkingAllocations hlease hoccupancies hleases
      hallocations hbooks =>
    obtain ⟨-, -, hlink, -, -, -, hresident⟩ := moveInLease_ok hlease
    rw [hbooks]
    refine h.insert hleases (fun _ _ hx => hx.insert hoccupancies) fun occupancyId hlinked => ?_
    obtain rfl := Option.some.inj (hlink.symm.trans hlinked)
    refine ⟨_, (Table.mem_insert hoccupancies).mpr (.inr rfl), rfl, fun userId huser => ?_,
      fun _ => rfl⟩
    cases hresident.symm.trans huser
  | moveOut l occupancyId endAt hend hout => exact hout.kept h

def KeepsButtonsIfSuccessful (collate : Id ↪ ι) (c : Env × Operation) (db : Db) : Prop :=
  Succeeds c.1 c.2 db → KeepsButtons collate c.1 db c.2

instance (c : Env × Operation) (db : Db) : Decidable (KeepsButtonsIfSuccessful collate c db) :=
  inferInstanceAs (Decidable (Succeeds _ _ _ → _))

theorem next_kept (c : Env × Operation) (db : Db) (h : Kept collate db.books)
    (hg : KeepsButtonsIfSuccessful collate c db) : Kept collate (next c db).books := by
  obtain ⟨env, op⟩ := c
  by_cases hs : Succeeds env op db
  · exact (next_of_succeeds hs).kept (hg hs) h
  · rwa [next_of_fails hs]

end Step

section Truth

variable {ι : Type*} [LinearOrder ι] {collate : Id ↪ ι} {env : Env} {db : Db}
  {user : Option AuthenticatedUser} {c : Lease} {dto : CreateMoveRequestDto}

theorem blocksRequest_iff {status : MoveRequestStatus} :
    blocksRequest (some status) = true ↔ status = .PENDING ∨ status = .APPROVED := by
  simp [blocksRequest]

/-- The latest request is open if any is. -/
theorem blocksRequest_latest {kind : MoveRequestKind}
    (h : Dated collate db.books.leases (db.books.requests kind)) :
    blocksRequest (latestRequestStatus collate db kind c.orgId c) = true ↔
      ¬ NoneOpen db.books kind c := by
  rw [Db.requests_books] at h
  have hnone : NoneOpen db.books kind c ↔ ∀ r ∈ (db.moveRequests kind).table,
      r.orgId = c.orgId → r.leaseId = c.id → ¬ r.isOpen := by
    rw [NoneOpen, Db.requests_books]
  rw [hnone, latestRequestStatus]
  cases hhead : (Keyset.sorted (MoveRequest.made collate) ((db.moveRequests kind).table.rows.filter
      fun r => r.orgId = c.orgId ∧ r.leaseId = c.id)).head? with
  | none =>
    have hempty : (db.moveRequests kind).table.rows.filter
        (fun r => r.orgId = c.orgId ∧ r.leaseId = c.id) = [] := by
      have hsorted := List.head?_eq_none_iff.mp hhead
      exact List.eq_nil_iff_forall_not_mem.mpr fun r hr =>
        List.not_mem_nil (hsorted ▸ Keyset.mem_sorted.mpr hr)
    refine iff_of_false (by simp [blocksRequest]) (not_not.mpr fun r hr horg hlease _ => ?_)
    exact List.filter_eq_nil_iff.mp hempty r hr (decide_eq_true ⟨horg, hlease⟩)
  | some latest =>
    obtain ⟨hmem, hmax⟩ := Keyset.head_sorted hhead
    obtain ⟨hlatest, hp⟩ := List.mem_filter.mp hmem
    obtain ⟨horg, hlease⟩ := of_decide_eq_true hp
    rw [Option.map_some, blocksRequest_iff]
    constructor
    · intro hopen hnone
      exact hnone latest hlatest horg hlease (by simpa [MoveRequest.isOpen] using hopen)
    · intro hsome
      push Not at hsome
      obtain ⟨r, hr, hrorg, hrlease, hopen⟩ := hsome
      have hle := h.latest r hr hopen latest hlatest (hlease.trans hrlease.symm)
      have hge := hmax r (List.mem_filter.mpr ⟨hr, decide_eq_true ⟨hrorg, hrlease⟩⟩)
      have hsame : collate r.id = collate latest.id :=
        congrArg (fun k => (ofLex k).2) (le_antisymm hge hle)
      obtain rfl := Table.eq_of_key_eq hr hlatest (collate.injective hsame)
      simpa [MoveRequest.isOpen] using hopen

theorem findLatestContract_some {orgId userId : Id}
    (h : findLatestContract collate db orgId userId = some c) :
    c ∈ db.books.leases ∧ c.orgId = orgId ∧ (c.residentUserId = some userId ∨
      ∃ o, linkedOccupancy db c = some o ∧ o.residentUserId = userId) := by
  obtain ⟨hmem, -⟩ := Keyset.head_sorted h
  obtain ⟨hc, hp⟩ := List.mem_filter.mp hmem
  obtain ⟨horg, hresident⟩ := of_decide_eq_true hp
  refine ⟨hc, horg, hresident.imp id fun hlinked => ?_⟩
  cases ho : linkedOccupancy db c with
  | none => simp [ho] at hlinked
  | some o =>
    rw [ho] at hlinked
    exact ⟨o, rfl, of_decide_eq_true hlinked⟩

theorem linkedOccupancy_some {o : Occupancy} :
    linkedOccupancy db c = some o ↔ o ∈ db.books.occupancies ∧ c.occupancyId = some o.id := by
  rw [linkedOccupancy, Option.bind_eq_some_iff]
  constructor
  · rintro ⟨occupancyId, hlinked, hfind⟩
    obtain ⟨ho, rfl⟩ := Table.findUnique_eq_some.mp hfind
    exact ⟨ho, hlinked⟩
  · rintro ⟨ho, hlinked⟩
    exact ⟨o.id, hlinked, Table.findUnique_eq_some.mpr ⟨ho, rfl⟩⟩

theorem owns_latest {orgId userId : Id} (h : Kept collate db.books)
    (hlatest : findLatestContract collate db orgId userId = some c) :
    assertContractResidentOwnership db c userId = .ok () := by
  obtain ⟨hc, -, hresident⟩ := findLatestContract_some hlatest
  refine Outcome.throwIf_eq_ok.mpr (not_not.mpr ?_)
  rcases hresident with hresident | ⟨o, ho, rfl⟩
  · rw [hresident, Option.some_or]
  · obtain ⟨hmem, hlinked⟩ := linkedOccupancy_some.mp ho
    obtain ⟨o', ho', hid, hsame, -⟩ := h.housed c hc o.id hlinked
    obtain rfl := Table.eq_of_key_eq ho' hmem hid
    rw [ho, Option.map_some]
    cases hc' : c.residentUserId with
    | none => rfl
    | some userId => rw [hsame userId hc', Option.some_or]

theorem activeOccupancy_iff (h : Kept collate db.books) (hc : c ∈ db.books.leases)
    (hactive : c.status = .ACTIVE) :
    (linkedOccupancy db c).any (·.status = .ACTIVE) = true ↔ c.occupancyId ≠ none := by
  constructor
  · intro hany hvacant
    simp [linkedOccupancy, hvacant] at hany
  · intro hlinked
    obtain ⟨occupancyId, hlinked⟩ := Option.ne_none_iff_exists'.mp hlinked
    obtain ⟨o, ho, rfl, -, hstatus⟩ := h.housed c hc occupancyId hlinked
    rw [linkedOccupancy_some.mpr ⟨ho, hlinked⟩]
    exact decide_eq_true (hstatus hactive)

theorem returned_transaction {plan : Db → Result Plan} : returned (transaction plan db) = true ↔
    ∃ ss db', plan db = .ok ss ∧ Transaction.commit DbWrite.apply mapDbError ss db = .ok db' := by
  constructor
  · intro h
    rcases @Transaction.transaction_cases _ _ _ _ DbWrite.apply mapDbError plan db with
      ⟨e, herror⟩ | ⟨ss, db', hplan, hcommit, -⟩
    · rw [transaction, herror] at h
      cases h
    · exact ⟨ss, db', hplan, hcommit⟩
  · rintro ⟨ss, db', hplan, hcommit⟩
    rw [transaction, Transaction.transaction_of_commit hplan hcommit]
    rfl

theorem exists_commit_notify (kind : MoveRequestKind) (r : MoveRequest)
    (unitLabel residentName : Option String) {db₁ : Db} :
    ∃ db', Transaction.commit DbWrite.apply mapDbError
      (notifyMoveRequestCreated env db kind r unitLabel residentName) db₁ = .ok db' := by
  unfold notifyMoveRequestCreated
  cases kind <;>
  · dsimp only
    split_ifs
    · exact ⟨_, rfl⟩
    · exact ⟨_, rfl⟩

theorem findContractOrThrow_of_mem (hc : c ∈ db.books.leases) :
    findContractOrThrow db c.orgId c.id = .ok c := by
  refine Outcome.orThrow_eq_ok.mpr (Table.findFirst_eq_some hc (decide_eq_true ⟨rfl, rfl⟩) ?_)
  exact fun l hl => (of_decide_eq_true hl).1

theorem createMoveRequest_commits {kind : MoveRequestKind} {userId : Id} {alreadyOpen : String}
    {action : LeaseActivityAction} (h : Dated collate db.books.leases (db.books.requests kind))
    (hc : c ∈ db.books.leases) (hnone : NoneOpen db.books kind c)
    (hdate : dto.requestedMoveAt ≠ none)
    (hfresh : ∀ r ∈ db.books.requests kind, r.id ≠ env.ids.request) :
    ∃ ss db', createMoveRequest env db kind c userId dto alreadyOpen action = .ok ss ∧
      Transaction.commit DbWrite.apply mapDbError ss db = .ok db' := by
  obtain ⟨date, hdate⟩ := Option.ne_none_iff_exists'.mp hdate
  have hpending : ∀ r ∈ (db.moveRequests kind).table, r.leaseId = c.id → r.status ≠ .PENDING := by
    intro r hr hlease hpending
    rw [← Db.requests_books] at hr
    obtain ⟨x, hx, hid, horg⟩ := h.known r hr
    obtain rfl := Table.eq_of_key_eq hx hc (hid.trans hlease)
    exact hnone r hr horg.symm hlease (by simp [MoveRequest.isOpen, hpending])
  have hunopened : ¬ ∃ r ∈ (db.moveRequests kind).table,
      r.orgId = c.orgId ∧ r.leaseId = c.id ∧ r.isOpen := by
    rintro ⟨r, hr, horg, hlease, hopen⟩
    rw [← Db.requests_books] at hr
    exact hnone r hr horg hlease hopen
  have hstored (r : MoveRequest) (hid : r.id = env.ids.request) (hlease : r.leaseId = c.id) :
      ∃ db₁, (DbWrite.moveRequest kind (.create r)).apply db = .ok db₁ := by
    rw [Db.requests_books] at hfresh
    obtain ⟨requests, hrequests⟩ := Table.exists_insert.mpr
      fun s hs => (hid ▸ hfresh s hs : s.id ≠ r.id)
    refine exists_moveRequest_write (Table.apply_create.mpr hrequests) ?_
    refine moveRequestCheck_eq_none.mpr ((db.moveRequests kind).pending_unique.insert hrequests ?_)
    intro s hs
    refine or_iff_not_imp_left.mpr fun hr hsame => ?_
    obtain ⟨leaseId, hleaseId⟩ := Option.ne_none_iff_exists'.mp hr
    rw [hleaseId, pendingLease, Option.ite_none_right_eq_some] at hsame
    rw [pendingLease, Option.ite_none_right_eq_some] at hleaseId
    refine hpending s hs ?_ hsame.1
    rw [← hlease]
    exact Option.some.inj (hsame.2.trans hleaseId.2.symm)
  obtain ⟨db₁, hwrite⟩ := hstored ⟨env.ids.request, c.orgId, c.buildingId, c.unitId, c.id, userId,
    .PENDING, date, dto.notes, none, none, none, env.now, env.now⟩ rfl rfl
  obtain ⟨db', hcommit⟩ : ∃ db', Transaction.commit DbWrite.apply mapDbError _ db = .ok db' :=
    Transaction.exists_commit_write hwrite
    (Transaction.exists_commit_write (w := .activity ⟨c.orgId, c.id, action, some userId,
      [("requestId", .text env.ids.request), ("requestedMoveAt", .date date),
        ("notes", .ofOption .text dto.notes)], env.now⟩) rfl (exists_commit_notify kind _ _ _))
  refine ⟨_, db', ?_, hcommit⟩
  exact Outcome.bind_eq_ok.mpr ⟨(), Outcome.throwIf_eq_ok.mpr hunopened,
    Outcome.bind_eq_ok.mpr ⟨date, Outcome.orThrow_eq_ok.mpr hdate, rfl⟩⟩

theorem accepts_moveIn {userId : Id} (h : Kept collate db.books) (hc : c ∈ db.books.leases)
    (horg : assertOrgScope user = .ok c.orgId) (huser : assertUserId user = .ok userId)
    (howns : assertContractResidentOwnership db c userId = .ok ())
    (hdate : dto.requestedMoveAt ≠ none)
    (hfresh : ∀ r ∈ db.books.moveInRequests, r.id ≠ env.ids.request) :
    Succeeds env (.createResidentMoveInRequest user c.id dto) db ↔
      c.status = .ACTIVE ∧ c.occupancyId = none ∧ NoneOpen db.books .MOVE_IN c := by
  refine returned_transaction.trans ⟨?_, ?_⟩
  · rintro ⟨ss, db', hplan, -⟩
    obtain ⟨l, hl, hid, hactive, hvacant, _, hrequest⟩ := createResidentMoveInRequest_ok hplan
    obtain rfl := Table.eq_of_key_eq hl hc hid
    exact ⟨hactive, hvacant, (createMoveRequest_ok hrequest).1⟩
  · rintro ⟨hactive, hvacant, hnone⟩
    obtain ⟨ss, db', hrequest, hcommit⟩ := createMoveRequest_commits (h.dated .MOVE_IN) hc hnone
      hdate hfresh
    refine ⟨ss, db', ?_, hcommit⟩
    refine Outcome.bind_eq_ok.mpr ⟨_, horg, Outcome.bind_eq_ok.mpr ⟨_, huser, ?_⟩⟩
    refine Outcome.bind_eq_ok.mpr ⟨c, findContractOrThrow_of_mem hc, ?_⟩
    refine Outcome.bind_eq_ok.mpr ⟨(), howns, ?_⟩
    refine Outcome.bind_eq_ok.mpr ⟨(), Outcome.throwIf_eq_ok.mpr (not_not.mpr hactive), ?_⟩
    exact Outcome.bind_eq_ok.mpr ⟨(), Outcome.throwIf_eq_ok.mpr (by simp [hvacant]), hrequest⟩

theorem accepts_moveOut {userId : Id} (h : Kept collate db.books) (hc : c ∈ db.books.leases)
    (horg : assertOrgScope user = .ok c.orgId) (huser : assertUserId user = .ok userId)
    (howns : assertContractResidentOwnership db c userId = .ok ())
    (hdate : dto.requestedMoveAt ≠ none)
    (hfresh : ∀ r ∈ db.books.moveOutRequests, r.id ≠ env.ids.request) :
    Succeeds env (.createResidentMoveOutRequest user c.id dto) db ↔
      c.status = .ACTIVE ∧ c.occupancyId ≠ none ∧ NoneOpen db.books .MOVE_OUT c := by
  refine returned_transaction.trans ⟨?_, ?_⟩
  · rintro ⟨ss, db', hplan, -⟩
    simp only [createResidentMoveOutRequest, Outcome.bind_eq_ok, Outcome.throwIf_eq_ok, not_not]
      at hplan
    obtain ⟨orgId, -, _, -, l, hfind, -, -, -, hactive, -, hoccupied, hrequest⟩ := hplan
    obtain ⟨hl, hid, -⟩ := findContractOrThrow_ok hfind
    obtain rfl := Table.eq_of_key_eq hl hc hid
    exact ⟨hactive, (activeOccupancy_iff h hc hactive).mp hoccupied,
      (createMoveRequest_ok hrequest).1⟩
  · rintro ⟨hactive, hlinked, hnone⟩
    obtain ⟨ss, db', hrequest, hcommit⟩ := createMoveRequest_commits (h.dated .MOVE_OUT) hc hnone
      hdate hfresh
    have hoccupied := (activeOccupancy_iff h hc hactive).mpr hlinked
    refine ⟨ss, db', ?_, hcommit⟩
    refine Outcome.bind_eq_ok.mpr ⟨_, horg, Outcome.bind_eq_ok.mpr ⟨_, huser, ?_⟩⟩
    refine Outcome.bind_eq_ok.mpr ⟨c, findContractOrThrow_of_mem hc, ?_⟩
    refine Outcome.bind_eq_ok.mpr ⟨(), howns, ?_⟩
    refine Outcome.bind_eq_ok.mpr ⟨(), Outcome.throwIf_eq_ok.mpr (not_not.mpr hactive), ?_⟩
    exact Outcome.bind_eq_ok.mpr ⟨(), Outcome.throwIf_eq_ok.mpr (not_not.mpr hoccupied), hrequest⟩

/-- The flags of a summary say which of the two requests would be accepted. -/
def TellsTruth (env : Env) (db : Db) (user : Option AuthenticatedUser) (dto : CreateMoveRequestDto)
    (summary : ResidentLatestContractSummary) : Prop :=
  ∀ c, summary.contract = some c →
    (summary.canRequestMoveIn = true ↔
      Succeeds env (.createResidentMoveInRequest user c.id dto) db) ∧
    (summary.canRequestMoveOut = true ↔
      Succeeds env (.createResidentMoveOutRequest user c.id dto) db)

theorem Kept.tellsTruth (h : Kept collate db.books) {summary : ResidentLatestContractSummary}
    (hsummary : getLatestContractSummaryForResident collate db user = .ok summary)
    (hdate : dto.requestedMoveAt ≠ none)
    (hfresh : ∀ kind, ∀ r ∈ db.books.requests kind, r.id ≠ env.ids.request) :
    TellsTruth env db user dto summary := by
  obtain ⟨orgId, horg, hsummary⟩ := Outcome.bind_eq_ok.mp hsummary
  obtain ⟨userId, huser, hsummary⟩ := Outcome.bind_eq_ok.mp hsummary
  intro c hshown
  cases hlatest : findLatestContract collate db orgId userId with
  | none =>
    rw [hlatest] at hsummary
    obtain rfl := Outcome.pure_eq_ok.mp hsummary
    cases hshown
  | some contract =>
    rw [hlatest] at hsummary
    obtain rfl := Outcome.pure_eq_ok.mp hsummary
    obtain rfl := Option.some.inj hshown
    obtain ⟨hc, rfl, -⟩ := findLatestContract_some hlatest
    have howns := owns_latest h hlatest
    have hin := blocksRequest_latest (c := contract) (h.dated .MOVE_IN)
    have hout := blocksRequest_latest (c := contract) (h.dated .MOVE_OUT)
    constructor
    · rw [accepts_moveIn h hc horg huser howns hdate (hfresh .MOVE_IN)]
      have hoccupied := activeOccupancy_iff h hc
      grind
    · rw [accepts_moveOut h hc horg huser howns hdate (hfresh .MOVE_OUT)]
      have hoccupied := activeOccupancy_iff h hc
      grind

end Truth

section Runs

variable {ι : Type*} [LinearOrder ι] {collate : Id ↪ ι}

theorem run_kept {db : Db} (hleases : db.leases.table.rows = [])
    (hin : db.moveInRequests.table.rows = []) (hout : db.moveOutRequests.table.rows = [])
    {cs : List (Env × Operation)} (hg : Run.Along next (KeepsButtonsIfSuccessful collate) db cs) :
    Kept collate (Run.exec next db cs).books := by
  refine Run.exec_inv_along (I := fun db : Db => Kept collate db.books)
    (fun c db h hg => next_kept c db h hg) ⟨fun l hl => ?_, fun kind => ?_⟩ hg
  · rw [Table.mem_rows, show db.books.leases.rows = [] from hleases] at hl
    cases hl
  · have hnone : ∀ r, r ∉ db.books.requests kind := by
      intro r hr
      cases kind with
      | MOVE_IN =>
        rw [Table.mem_rows, show (db.books.requests .MOVE_IN).rows = [] from hin] at hr
        cases hr
      | MOVE_OUT =>
        rw [Table.mem_rows, show (db.books.requests .MOVE_OUT).rows = [] from hout] at hr
        cases hr
    exact ⟨fun r hr => absurd hr (hnone r), fun r hr => absurd hr (hnone r)⟩

theorem move_buttons_tell_truth (collate : Id ↪ ι) (db : Db) (hleases : db.leases.table.rows = [])
    (hin : db.moveInRequests.table.rows = []) (hout : db.moveOutRequests.table.rows = [])
    (cs : List (Env × Operation)) (hg : Run.Along next (KeepsButtonsIfSuccessful collate) db cs)
    {env : Env} {user : Option AuthenticatedUser} {dto : CreateMoveRequestDto}
    {summary : ResidentLatestContractSummary}
    (hsummary :
      getLatestContractSummaryForResident collate (Run.exec next db cs) user = .ok summary)
    (hdate : dto.requestedMoveAt ≠ none)
    (hfresh : ∀ kind, ∀ r ∈ (Run.exec next db cs).books.requests kind, r.id ≠ env.ids.request) :
    TellsTruth env (Run.exec next db cs) user dto summary :=
  (run_kept hleases hin hout hg).tellsTruth hsummary hdate hfresh

def ann : Option AuthenticatedUser := some ⟨"ann", some "org"⟩

def tomorrow : CreateMoveRequestDto := ⟨some 100, none⟩

def summaryAfter (cs : List (Env × Operation)) : Result ResidentLatestContractSummary :=
  getLatestContractSummaryForResident (Function.Embedding.refl String)
    (Run.exec next (Db.start sceneDirectory) cs) ann

theorem move_buttons_of_occupied : ∃ summary, summaryAfter occupiedContract = .ok summary ∧
    summary.canRequestMoveOut = true ∧
      TellsTruth (managerCancels 6 "contract").1
        (Run.exec next (Db.start sceneDirectory) occupiedContract) ann tomorrow summary := by
  have hflag : (summaryAfter occupiedContract).toOption.map (·.canRequestMoveOut) = some true := by
    decide +kernel
  cases hsummary : summaryAfter occupiedContract with
  | error e => simp [hsummary, Except.toOption] at hflag
  | ok summary =>
    refine ⟨summary, rfl, by simpa [hsummary, Except.toOption] using hflag, ?_⟩
    exact move_buttons_tell_truth (Function.Embedding.refl String) _ rfl rfl rfl occupiedContract
      (by decide +kernel) hsummary (by decide) (by rintro ⟨⟩ <;> decide +kernel)

/-- A contract is cancelled with its occupancy and activated again: the resident is offered to
move in, and refused. -/
theorem reactivated_contract_offers_moveIn :
    ¬ ∀ cs : List (Env × Operation), ∀ env summary, summaryAfter cs = .ok summary →
      (∀ kind, ∀ r ∈ (Run.exec next (Db.start sceneDirectory) cs).books.requests kind,
        r.id ≠ env.ids.request) →
      TellsTruth env (Run.exec next (Db.start sceneDirectory) cs) ann tomorrow summary := by
  intro h
  have hflag : (summaryAfter (occupiedContract ++ [managerCancels 6 "contract",
      managerActivates 7 "contract"])).toOption.map
        (fun s => (s.contract.map (·.id), s.canRequestMoveIn)) = some (some "contract", true) := by
    decide +kernel
  have hrefused : ¬ Succeeds (managerActivates 8 "contract").1
      (.createResidentMoveInRequest ann "contract" tomorrow)
        (Run.exec next (Db.start sceneDirectory) (occupiedContract ++
          [managerCancels 6 "contract", managerActivates 7 "contract"])) := by
    decide +kernel
  cases hsummary : summaryAfter (occupiedContract ++ [managerCancels 6 "contract",
      managerActivates 7 "contract"]) with
  | error e => simp [hsummary, Except.toOption] at hflag
  | ok summary =>
    simp only [hsummary, Except.toOption, Option.map_some, Option.some.injEq, Prod.mk.injEq,
      Option.map_eq_some_iff] at hflag
    obtain ⟨⟨c, hc, hid⟩, hoffered⟩ := hflag
    have htruth := h _ (managerActivates 8 "contract").1 summary hsummary
      (by rintro ⟨⟩ <;> decide +kernel) c hc
    rw [hid] at htruth
    exact hrefused (htruth.1.mp hoffered)

end Runs

end Towerdesk.Leases
