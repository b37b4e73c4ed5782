import Towerdesk.Leases.Scene

/-!
# Open requests of a lease that is over

Cancelling a contract cancels its pending and approved requests and executing a move-out
completes the request it was approved by; a direct move-out looks at no request. No lease
that is over has an open request exactly when no direct move-out finds one.
-/

namespace Towerdesk.Leases

def NoOpenOnOver (db : Db) : Prop :=
  ∀ l ∈ db.leases.table, LeaseIsOver l →
    ∀ kind, ∀ r ∈ (db.moveRequests kind).table, r.leaseId = l.id → ¬ r.isOpen

/-- The lease a direct move-out is of has no open move-out request. -/
def MovesOutUnasked : Operation → Db → Prop
  | .moveOut _ _ leaseId _, db =>
    ∀ r ∈ db.moveOutRequests.table, r.leaseId = leaseId → ¬ r.isOpen
  | _, _ => True

instance : ∀ op db, Decidable (MovesOutUnasked op db) := by
  rintro ⟨⟩ db <;>
    first
    | exact inferInstanceAs (Decidable (∀ r ∈ db.moveOutRequests.table, _))
    | exact isTrue trivial

def MovesOutUnaskedIfSuccessful (c : Env × Operation) (db : Db) : Prop :=
  Succeeds c.1 c.2 db → MovesOutUnasked c.2 db

instance (c : Env × Operation) (db : Db) : Decidable (MovesOutUnaskedIfSuccessful c db) :=
  inferInstanceAs (Decidable (Succeeds _ _ _ → _))

/-- The index a table of requests would need for one open request per lease. -/
def openLease (r : MoveRequest) : Option Id := if r.isOpen then some r.leaseId else none

def Awaits (kind : MoveRequestKind) (l : Lease) : Prop :=
  ¬ LeaseIsOver l ∧ (kind = .MOVE_IN → l.occupancyId = none)

/-- What is kept of the requests of one kind: each belongs to a lease of its organisation,
and at most one is open for a lease, which awaits it. -/
structure Settled (kind : MoveRequestKind) (leases : Table Lease.id)
    (requests : Table MoveRequest.id) : Prop where
  known : ∀ r ∈ requests, ∃ l ∈ leases, l.id = r.leaseId ∧ l.orgId = r.orgId
  single : requests.UniqueOn openLease
  awaits : ∀ r ∈ requests, r.isOpen → ∀ l ∈ leases, l.id = r.leaseId → Awaits kind l

section Index

variable {r : MoveRequest} {l : Lease}

theorem openLease_of_open (h : r.isOpen) : openLease r = some r.leaseId := if_pos h

theorem openLease_of_not_open (h : ¬ r.isOpen) : openLease r = none := if_neg h

theorem awaits_of_active {kind : MoveRequestKind} (hactive : l.status = .ACTIVE)
    (hunlinked : kind = .MOVE_IN → l.occupancyId = none) : Awaits kind l :=
  ⟨by simp [LeaseIsOver, hactive], hunlinked⟩

end Index

namespace Settled

variable {kind : MoveRequestKind} {leases leases' : Table Lease.id}
  {requests requests' : Table MoveRequest.id} {l : Lease} {r : MoveRequest}

theorem empty (h : requests.rows = []) : Settled kind leases requests where
  known r hr := by
    rw [Table.mem_rows, h] at hr
    cases hr
  single := .empty h
  awaits r hr := by
    rw [Table.mem_rows, h] at hr
    cases hr

theorem orgId_eq (h : Settled kind leases requests) (hl : l ∈ leases) (hr : r ∈ requests)
    (hlease : r.leaseId = l.id) : r.orgId = l.orgId := by
  obtain ⟨x, hx, hid, horg⟩ := h.known r hr
  obtain rfl := Table.eq_of_key_eq hx hl (hid.trans hlease)
  exact horg.symm

theorem insertLease (h : Settled kind leases requests)
    (hinsert : leases.insert l = some leases') : Settled kind leases' requests where
  known r hr := by
    obtain ⟨x, hx, hxr⟩ := h.known r hr
    exact ⟨x, (Table.mem_insert hinsert).mpr (.inl hx), hxr⟩
  single := h.single
  awaits r hr hopen x hx hid := by
    rcases (Table.mem_insert hinsert).mp hx with hx | rfl
    · exact h.awaits r hr hopen x hx hid
    · -- no request can have been made for a lease that is new
      obtain ⟨y, hy, hidy, -⟩ := h.known r hr
      exact absurd (hidy.trans hid.symm) (Table.fresh_of_insert hinsert hy)

theorem modifyLease {p : Patch Lease.id} (h : Settled kind leases requests) (hl : l ∈ leases)
    (horg : (p.apply l).orgId = l.orgId)
    (hawaits : ∀ r ∈ requests, r.isOpen → r.leaseId = l.id → Awaits kind (p.apply l)) :
    Settled kind (leases.modify l.id p) requests where
  known r hr := by
    obtain ⟨x, hx, hid, hxorg⟩ := h.known r hr
    by_cases hxl : x.id = l.id
    · obtain rfl := Table.eq_of_key_eq hx hl hxl
      exact ⟨p.apply x, Table.apply_mem_modify hx, (p.key_apply x).trans hid, horg.trans hxorg⟩
    · exact ⟨x, Table.mem_modify_of_ne hx hxl, hid, hxorg⟩
  single := h.single
  awaits r hr hopen x hx hid := by
    rcases (Table.mem_modify_iff hl).mp hx with rfl | ⟨hx, -⟩
    · exact hawaits r hr hopen (hid.symm.trans (p.key_apply l))
    · exact h.awaits r hr hopen x hx hid

theorem insertRequest (h : Settled kind leases requests) (hl : l ∈ leases)
    (hinsert : requests.insert r = some requests') (hlease : r.leaseId = l.id)
    (horg : r.orgId = l.orgId) (hawaits : Awaits kind l)
    (hnone : ∀ s ∈ requests, s.leaseId = l.id → ¬ s.isOpen) : Settled kind leases requests' where
  known s hs := by
    rcases (Table.mem_insert hinsert).mp hs with hs | rfl
    · exact h.known s hs
    · exact ⟨l, hl, hlease.symm, horg.symm⟩
  single := by
    refine h.single.insert hinsert fun s hs => ?_
    by_cases hopen : r.isOpen
    · refine .inr fun heq => ?_
      rw [openLease_of_open hopen] at heq
      by_cases hsopen : s.isOpen
      · rw [openLease_of_open hsopen, hlease] at heq
        exact hnone s hs (Option.some.inj heq) hsopen
      · simp [openLease_of_not_open hsopen] at heq
    · exact .inl (openLease_of_not_open hopen)
  awaits s hs hopen x hx hid := by
    rcases (Table.mem_insert hinsert).mp hs with hs | rfl
    · exact h.awaits s hs hopen x hx hid
    · rwa [Table.eq_of_key_eq hx hl (hid.trans hlease)]

theorem modifyRequest {p : Patch MoveRequest.id} (h : Settled kind leases requests)
    (hr : r ∈ requests) (hlease : (p.apply r).leaseId = r.leaseId)
    (horg : (p.apply r).orgId = r.orgId) (hopen : (p.apply r).isOpen → r.isOpen) :
    Settled kind leases (requests.modify r.id p) where
  known := by
    refine Table.forall_modify h.known fun s hs hid => ?_
    obtain rfl := Table.eq_of_key_eq hs hr hid
    rw [hlease, horg]
    exact h.known s hs
  single := by
    refine h.single.modify_of_le hr ?_
    by_cases hp : (p.apply r).isOpen
    · exact .inr (by rw [openLease_of_open hp, openLease_of_open (hopen hp), hlease])
    · exact .inl (openLease_of_not_open hp)
  awaits s hs hsopen x hx hid := by
    rcases (Table.mem_modify_iff hr).mp hs with rfl | ⟨hs, -⟩
    · exact h.awaits r hr (hopen hsopen) x hx (hid.trans hlease)
    · exact h.awaits s hs hsopen x hx hid

theorem sweep {now : Date} (h : Settled kind leases requests) :
    Settled kind leases (cancelOpen now l requests) where
  known s hs := by
    rcases Table.mem_modifyWhere.mp hs with ⟨r, hr, -, rfl⟩ | ⟨hs, -⟩
    · exact h.known r hr
    · exact h.known s hs
  single := h.single.modifyWhere_of_le fun _ _ _ => .inl (openLease_of_not_open not_isOpen_cancelled)
  awaits s hs hopen x hx hid := by
    rcases Table.mem_modifyWhere.mp hs with ⟨r, hr, -, rfl⟩ | ⟨hs, -⟩
    · exact absurd hopen not_isOpen_cancelled
    · exact h.awaits s hs hopen x hx hid

theorem none_after_sweep (now : Date) (h : Settled kind leases requests) (hl : l ∈ leases) :
    ∀ s ∈ cancelOpen now l requests, s.leaseId = l.id → ¬ s.isOpen := by
  intro s hs hlease hopen
  rcases Table.mem_modifyWhere.mp hs with ⟨r, hr, -, rfl⟩ | ⟨hs, hq⟩
  · exact not_isOpen_cancelled hopen
  · exact of_decide_eq_false hq ⟨h.orgId_eq hl hs hlease, hlease, hopen⟩

theorem none_after_complete (now : Date) (h : Settled kind leases requests) (hr : r ∈ requests)
    (hropen : r.isOpen) :
    ∀ s ∈ requests.modify r.id (requestStatusSet now .COMPLETED), s.leaseId = r.leaseId →
      ¬ s.isOpen := by
  intro s hs hlease hopen
  rcases (Table.mem_modify_iff hr).mp hs with rfl | ⟨hs, hne⟩
  · exact not_isOpen_completed hopen
  · have hsame := h.single.eq hs hr (openLease_of_open hopen)
      (by rw [openLease_of_open hropen, hlease])
    exact hne (congrArg MoveRequest.id hsame)

end Settled

section Step

variable {env : Env} {op : Operation} {db db' db₁ : Db} {user : Option AuthenticatedUser}
  {kind : MoveRequestKind} {l : Lease}

def RequestsSettled (b : Books) : Prop := ∀ kind, Settled kind b.leases (b.requests kind)

theorem Settled.end {leases : Table Lease.id} {requests : Table MoveRequest.id}
    {p : Patch Lease.id} (h : Settled kind leases requests) (hl : ∃ x ∈ leases, x.id = l.id)
    (horg : ∀ x, (p.apply x).orgId = x.orgId)
    (hnone : ∀ r ∈ requests, r.leaseId = l.id → ¬ r.isOpen) :
    Settled kind (leases.modify l.id p) requests := by
  obtain ⟨x, hx, hid⟩ := hl
  rw [← hid] at hnone ⊢
  exact h.modifyLease hx (horg x) fun r hr hopen hlease => absurd hopen (hnone r hr hlease)

theorem Settled.exists_modify {leases : Table Lease.id} {p : Patch Lease.id}
    (hl : ∃ x ∈ leases, x.id = l.id) : ∃ x ∈ leases.modify l.id p, x.id = l.id := by
  obtain ⟨x, hx, hid⟩ := hl
  rw [← hid]
  exact ⟨_, Table.apply_mem_modify hx, p.key_apply x⟩

theorem RequestsSettled.none_in (h : RequestsSettled db.books) (hl : l ∈ db.books.leases)
    (hlinked : l.occupancyId ≠ none) :
    ∀ r ∈ db.books.moveInRequests, r.leaseId = l.id → ¬ r.isOpen :=
  fun r hr hlease hopen => hlinked (((h .MOVE_IN).awaits r hr hopen l hl hlease.symm).2 rfl)

theorem MovesOut.settled {occupancyId : Id} {endAt : Date}
    (hout : MovesOut env user l occupancyId endAt db db') (h : RequestsSettled db.books)
    (hnone : ∀ r ∈ db.books.moveOutRequests, r.leaseId = l.id → ¬ r.isOpen) :
    RequestsSettled db'.books := by
  obtain ⟨settlement, hbooks⟩ := hout.books
  have hmem : ∃ x ∈ db.books.leases, x.id = l.id := ⟨l, hout.mem, rfl⟩
  have hin := h.none_in hout.mem (by simp [hout.linked])
  rw [hbooks]
  intro kind
  cases kind with
  | MOVE_IN => exact (h .MOVE_IN).end hmem (fun _ => rfl) hin
  | MOVE_OUT => exact (h .MOVE_OUT).end hmem (fun _ => rfl) hnone

theorem Cancels.settled (hcancel : Cancels env l db db') (hl : l ∈ db.books.leases)
    (h : RequestsSettled db.books) : RequestsSettled db'.books := by
  have hmem : ∃ x ∈ db.books.leases, x.id = l.id := ⟨l, hl, rfl⟩
  rw [hcancel.books]
  intro kind
  cases kind with
  | MOVE_IN =>
    exact (h .MOVE_IN).sweep.end hmem (fun _ => rfl) ((h .MOVE_IN).none_after_sweep env.now hl)
  | MOVE_OUT =>
    exact (h .MOVE_OUT).sweep.end hmem (fun _ => rfl) ((h .MOVE_OUT).none_after_sweep env.now hl)

/-- Between the two transactions the requests are not settled: the sweep that follows
makes up for the move-out before it. -/
theorem settled_moveOutAndCancel {occupancyId : Id} {endAt : Date}
    (hout : MovesOut env user l occupancyId endAt db db₁) (hcancel : Cancels env l db₁ db')
    (h : RequestsSettled db.books) : RequestsSettled db'.books := by
  obtain ⟨settlement, hbooks⟩ := hout.books
  have hmem : ∃ x ∈ db.books.leases, x.id = l.id := ⟨l, hout.mem, rfl⟩
  rw [hcancel.books, hbooks]
  intro kind
  cases kind with
  | MOVE_IN =>
    have hnone := (h .MOVE_IN).none_after_sweep env.now hout.mem
    exact ((h .MOVE_IN).sweep.end hmem (fun _ => rfl) hnone).end (Settled.exists_modify hmem)
      (fun _ => rfl) hnone
  | MOVE_OUT =>
    have hnone := (h .MOVE_OUT).none_after_sweep env.now hout.mem
    exact ((h .MOVE_OUT).sweep.end hmem (fun _ => rfl) hnone).end (Settled.exists_modify hmem)
      (fun _ => rfl) hnone

theorem settled_executeMoveOut {occupancyId : Id} {endAt : Date} {r : MoveRequest}
    (hfound : findApprovedRequest db .MOVE_OUT l = some r)
    (hout : MovesOut env user l occupancyId endAt db db₁)
    (hcomplete : Completes env l r db₁ db') (h : RequestsSettled db.books) :
    RequestsSettled db'.books := by
  obtain ⟨settlement, hbooks⟩ := hout.books
  obtain ⟨hr, -, hlease, happroved⟩ := findApprovedRequest_some hfound
  have hmem : ∃ x ∈ db.books.leases, x.id = l.id := ⟨l, hout.mem, rfl⟩
  have hopen : r.isOpen := by simp [MoveRequest.isOpen, happroved]
  have hin := h.none_in hout.mem (by simp [hout.linked])
  have hnone := (h .MOVE_OUT).none_after_complete env.now hr hopen
  rw [hlease] at hnone
  have hdone : Settled .MOVE_OUT db.books.leases
      (db.books.moveOutRequests.modify r.id (requestStatusSet env.now .COMPLETED)) :=
    (h .MOVE_OUT).modifyRequest hr rfl rfl fun hc => absurd hc not_isOpen_completed
  have hend : ∀ kind, ∀ requests : Table MoveRequest.id, Settled kind db.books.leases requests →
      (∀ s ∈ requests, s.leaseId = l.id → ¬ s.isOpen) →
      Settled kind (if r.requestedMoveAt < l.leaseEndDate then
        (db.books.leases.modify l.id (leaseEnded env.now settlement)).modify l.id
          (leaseStatusSet env.now .CANCELLED)
        else db.books.leases.modify l.id (leaseEnded env.now settlement)) requests := by
    intro kind requests hsettled hnone
    have hended := hsettled.end hmem (fun _ => rfl) hnone (p := leaseEnded env.now settlement)
    split_ifs
    · exact hended.end (Settled.exists_modify hmem) (fun _ => rfl) hnone
    · exact hended
  rw [hcomplete.books, hbooks]
  intro kind
  cases kind with
  | MOVE_IN => exact hend .MOVE_IN _ (h .MOVE_IN) hin
  | MOVE_OUT => exact hend .MOVE_OUT _ hdone hnone

theorem settled_edit {b : Books} {p : Patch Lease.id} (h : RequestsSettled b) (hl : l ∈ b.leases)
    (hsame : (p.apply l).orgId = l.orgId ∧ (p.apply l).status = l.status ∧
      (p.apply l).occupancyId = l.occupancyId) :
    ∀ kind, Settled kind (b.leases.modify l.id p) (b.requests kind) := by
  obtain ⟨horg, hstatus, hoccupancy⟩ := hsame
  intro kind
  refine (h kind).modifyLease hl horg fun r hr hopen hlease => ?_
  have hawaits := (h kind).awaits r hr hopen l hl hlease.symm
  simpa only [Awaits, LeaseIsOver, hstatus, hoccupancy] using hawaits

theorem RequestsSettled.withRequests {b : Books} {requests : Table MoveRequest.id}
    (h : RequestsSettled b) (hkind : Settled kind b.leases requests) :
    RequestsSettled (b.withRequests kind requests) := by
  intro other
  rw [Books.leases_withRequests, Books.requests_withRequests]
  split_ifs with hother
  · rwa [hother]
  · exact h other

theorem Effect.settled (he : Effect env db db' op) (hunasked : MovesOutUnasked op db)
    (h : RequestsSettled db.books) : RequestsSettled db'.books := by
  cases he with
  | draft building unit resident l leases hlease hperiod hleases hbooks =>
    rw [hbooks]
    exact fun kind => (h kind).insertLease hleases
  | editContract l data hl hchecked hbooks =>
    rw [hbooks]
    exact settled_edit h hl ⟨rfl, rfl, rfl⟩
  | editLease l data columns hl hchecked hcolumns hbooks =>
    rw [hbooks]
    exact settled_edit h hl ⟨rfl, rfl, rfl⟩
  | replaceTerms hbooks => rwa [hbooks]
  | activated l hl hactive hbooks => rwa [hbooks]
  | activate l hl hended hactive hbooks hrecorded =>
    rw [hbooks]
    intro kind
    refine (h kind).modifyLease hl rfl fun r hr hopen hlease => ?_
    have hawaits := (h kind).awaits r hr hopen l hl hlease.symm
    exact awaits_of_active rfl hawaits.2
  | cancel l hl hended hvacant hcancel => exact hcancel.settled hl h
  | moveOutAndCancel l occupancyId db₁ hout hcancel => exact settled_moveOutAndCancel hout hcancel h
  | ask kind hop l r requests hl hactive hunlinked hnone hlease horg hpending hrequests hbooks =>
    rw [hbooks]
    refine h.withRequests ((h kind).insertRequest hl hrequests hlease horg
      (awaits_of_active hactive hunlinked) fun s hs hslease => ?_)
    exact hnone s hs ((h kind).orgId_eq hl hs hslease) hslease
  | review kind hop r status reviewerId rejectionReason hr hpending hstatus hbooks =>
    have hopen : r.isOpen := by simp [MoveRequest.isOpen, hpending]
    rw [hbooks]
    exact h.withRequests ((h kind).modifyRequest hr rfl rfl fun _ => hopen)
  | executeMoveIn l residentUserId r occupancies hl hactive hunlinked hr horg hlease happroved
      hoccupancies hbooks =>
    have hopen : r.isOpen := by simp [MoveRequest.isOpen, happroved]
    rw [hbooks]
    intro kind
    cases kind with
    | MOVE_IN =>
      have hdone : Settled .MOVE_IN db.books.leases
          (db.books.moveInRequests.modify r.id (requestStatusSet env.now .COMPLETED)) :=
        (h .MOVE_IN).modifyRequest hr rfl rfl fun hc => absurd hc not_isOpen_completed
      have hnone := (h .MOVE_IN).none_after_complete env.now hr hopen
      rw [hlease] at hnone
      exact hdone.end ⟨l, hl, rfl⟩ (fun _ => rfl) hnone
    | MOVE_OUT =>
      exact (h .MOVE_OUT).modifyLease hl rfl fun s hs hsopen hslease =>
        awaits_of_active rfl fun hkind => by cases hkind
  | executeMoveOut l r occupancyId db₁ hfound hout hcomplete =>
    exact settled_executeMoveOut hfound hout hcomplete h
  | moveIn residentUserId l leases occupancies parkingAllocations hlease hoccupancies hleases
      hallocations hbooks =>
    rw [hbooks]
    exact fun kind => (h kind).insertLease hleases
  | moveOut l occupancyId endAt hend hout => exact hout.settled h hunasked

theorem next_settled (c : Env × Operation) (db : Db) (h : RequestsSettled db.books)
    (hg : MovesOutUnaskedIfSuccessful c db) : RequestsSettled (next c db).books := by
  obtain ⟨env, op⟩ := c
  by_cases hs : Succeeds env op db
  · exact (next_of_succeeds hs).settled (hg hs) h
  · rwa [next_of_fails hs]

theorem RequestsSettled.noOpenOnOver (h : RequestsSettled db.books) : NoOpenOnOver db := by
  intro l hl hover kind r hr hlease hopen
  rw [← Db.requests_books] at hr
  exact ((h kind).awaits r hr hopen l hl hlease.symm).1 hover

theorem not_noOpenOnOver_of_asked (hs : Succeeds env op db) (hasked : ¬ MovesOutUnasked op db) :
    ¬ NoOpenOnOver (next (env, op) db) := by
  intro hno
  have heffect := next_of_succeeds hs
  cases op with
  | moveOut user buildingId leaseId dto =>
    simp only [MovesOutUnasked, not_forall, not_not] at hasked
    obtain ⟨r, hr, hlease, hopen⟩ := hasked
    cases heffect with
    | moveOut l occupancyId endAt hend hout =>
      obtain ⟨settlement, hbooks⟩ := hout.books
      have hended : (leaseEnded env.now settlement).apply l ∈
          (next (env, .moveOut user l.buildingId l.id dto) db).books.leases := by
        rw [hbooks]
        exact Table.apply_mem_modify hout.mem
      have hkept : r ∈ (next (env, .moveOut user l.buildingId l.id dto) db).books.moveOutRequests := by
        rw [hbooks]
        exact hr
      exact hno _ hended (.inl rfl) .MOVE_OUT r hkept hlease hopen
    | ask kind hop => cases hop
    | review kind hop => cases hop
  | _ => exact hasked trivial

end Step

section Runs

variable {db : Db}

theorem run_settled (hin : db.moveInRequests.table.rows = [])
    (hout : db.moveOutRequests.table.rows = []) {cs : List (Env × Operation)}
    (hg : Run.Along next MovesOutUnaskedIfSuccessful db cs) :
    RequestsSettled (Run.exec next db cs).books := by
  refine Run.exec_inv_along (I := fun db : Db => RequestsSettled db.books)
    (fun c db h hg => next_settled c db h hg) ?_ hg
  intro kind
  cases kind with
  | MOVE_IN => exact .empty hin
  | MOVE_OUT => exact .empty hout

/-- No state of a run has an open request on a lease that is over exactly when no direct
move-out that returns finds one on its lease. -/
theorem no_open_on_over_iff (db : Db) (hin : db.moveInRequests.table.rows = [])
    (hout : db.moveOutRequests.table.rows = []) (cs : List (Env × Operation)) :
    (∀ ms, ms <+: cs → NoOpenOnOver (Run.exec next db ms)) ↔
      Run.Along next MovesOutUnaskedIfSuccessful db cs := by
  refine Run.forall_exec_iff_along ?_ ?_
  · intro c db hno hs
    by_contra hasked
    exact not_noOpenOnOver_of_asked hs hasked hno
  · intro ms hg
    exact (run_settled hin hout hg).noOpenOnOver

theorem no_open_on_over_moved_out :
    (Db.start sceneDirectory).moveInRequests.table.rows = [] ∧
      ∀ ms, ms <+: occupiedContract ++ [managerMovesOut 6 "contract"] →
        NoOpenOnOver (Run.exec next (Db.start sceneDirectory) ms) :=
  ⟨rfl, (no_open_on_over_iff (Db.start sceneDirectory) rfl rfl
    (occupiedContract ++ [managerMovesOut 6 "contract"])).mpr (by decide +kernel)⟩

/-- The resident asks to move out and is moved out directly. -/
theorem request_outlives_lease :
    ¬ ∀ db : Db, db.moveInRequests.table.rows = [] → db.moveOutRequests.table.rows = [] →
      ∀ cs ms, ms <+: cs → NoOpenOnOver (Run.exec next db ms) := by
  intro h
  have hno := h (Db.start sceneDirectory) rfl rfl
    (occupiedContract ++ [residentAsksOut 6 "leaving" "contract" "ann",
      managerMovesOut 7 "contract"]) _ (List.prefix_refl _)
  have hout := fun l hl hover => hno l hl hover .MOVE_OUT
  revert hout
  decide +kernel

end Runs

end Towerdesk.Leases
