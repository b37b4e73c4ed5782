import Towerdesk.Users.Provisioning

/-!
# What a provisioning leaves in the tenancy

A provisioning joins or creates its user and opens or ends occupancies. In the store that it
leaves, the same request finds the user as a member and the occupancy as open, so that nothing
is left to write; and a resident who was granted a unit has that one active occupancy.
-/

namespace Towerdesk.Users

open Leases (Env Db DbError DbWrite Plan normalizeEmail activeUnit activeResident
  occupancyCheck_eq_none occupancyEnded)

section Wrote

variable {env : Env} {db db₁ db' : Db}

/-- What a list of writes leaves. -/
def Wrote : List DbWrite → Db → Db → Prop
  | [], db, db' => db = db'
  | w :: ws, db, db' => ∃ db₁, w.apply db = .ok db₁ ∧ Wrote ws db₁ db'

theorem wrote_append {ws ws' : List DbWrite} :
    Wrote (ws ++ ws') db db' ↔ ∃ db₁, Wrote ws db db₁ ∧ Wrote ws' db₁ db' := by
  induction ws generalizing db with
  | nil => simp [Wrote]
  | cons w ws ih =>
    simp only [List.cons_append, Wrote, ih]
    constructor
    · rintro ⟨db₁, hw, db₂, hws, hws'⟩
      exact ⟨db₂, ⟨db₁, hw, hws⟩, hws'⟩
    · rintro ⟨db₂, ⟨db₁, hw, hws⟩, hws'⟩
      exact ⟨db₁, hw, db₂, hws, hws'⟩

end Wrote

section TargetUser

variable {env env' : Env} {db db₁ db' : Db} {params : OrgUserProvisionParams} {orgId userId : Id}
  {mode : ProvisionMode} {user : User} {write : Option DbWrite}

theorem apply_user {w : Table.Write User.id} :
    (DbWrite.user w).apply db = .ok db₁ ↔
      ∃ users, w.apply db.directory.users = (.ok users : Except DbError _) ∧
        Leases.userCheck users = none ∧ { db with directory := { db.directory with users } } = db₁ := by
  unfold DbWrite.apply
  dsimp only
  rw [Outcome.bind_eq_ok]
  refine exists_congr fun users => and_congr_right fun _ => ?_
  cases Leases.userCheck users <;> simp

theorem linkUser_eq_ok : linkUser orgId mode user = .ok (userId, write) ↔
    mode.ifEmailExists.getD .LINK ≠ .ERROR ∧
      (user.orgId ≠ some orgId → (truthy user.orgId).isNone ∧ mode.requireSameOrg = some false) ∧
      orgId ≠ "" ∧ user.isActive = true ∧ user.id = userId ∧
      write = if user.orgId ≠ some orgId then some (.user (.update user.id (userJoined orgId)))
        else none := by
  have horg : ¬ (truthy (some orgId)).isNone = true ↔ orgId ≠ "" := by
    simp [truthy, Option.filter]
  simp only [linkUser, Outcome.bind_eq_ok, Outcome.throwIf_eq_ok, Outcome.pure_eq_ok, exists_const,
    horg, Prod.mk.injEq, not_and, not_not, ne_eq]
  refine and_congr_right fun _ => and_congr (imp_congr_right fun _ => ?_) ?_
  · rw [Classical.not_imp, not_not]
  · exact and_congr_right fun _ => and_congr_right fun _ => and_congr_right fun _ => eq_comm

theorem linkUser_again (h : linkUser orgId mode user = .ok (userId, write)) :
    linkUser orgId mode (if write.isSome then (userJoined orgId).apply user else user) =
      .ok (userId, none) := by
  obtain ⟨hlink, hjoin, horg, hactive, hid, rfl⟩ := linkUser_eq_ok.mp h
  by_cases hmember : user.orgId = some orgId
  · simp only [hmember, ne_eq, not_true_eq_false, if_false, Option.isSome_none, Bool.false_eq_true]
    exact linkUser_eq_ok.mpr ⟨hlink, fun hother => absurd hmember hother, horg, hactive, hid,
      by simp [hmember]⟩
  · simp only [ne_eq, hmember, not_false_eq_true, if_true, Option.isSome_some]
    exact linkUser_eq_ok.mpr ⟨hlink, fun hother => absurd rfl hother, horg, hactive, hid,
      by simp [userJoined]⟩

theorem targetUser_again (horg : params.orgId ≠ "")
    (hlink : params.mode.ifEmailExists.getD .LINK = .LINK)
    (hlower : env'.toLowerCase = env.toLowerCase)
    (h : targetUser env db params = .ok (userId, write)) (hwrote : Wrote write.toList db db₁)
    (husers : db'.directory.users = db₁.directory.users) :
    targetUser env' db' params = .ok (userId, none) := by
  have hemail : ∀ email, normalizeEmail env' email = normalizeEmail env email := by
    intro email
    rw [normalizeEmail, normalizeEmail, hlower]
  unfold targetUser at h ⊢
  rw [husers, hlower, hemail]
  dsimp only at h ⊢
  split at h
  · next user hfound =>
    have hagain := linkUser_again h
    obtain ⟨-, -, -, -, -, hwrite⟩ := linkUser_eq_ok.mp h
    split_ifs at hwrite with hjoins
    · subst hwrite
      obtain ⟨_, hjoined, rfl⟩ := hwrote
      obtain ⟨users, happly, -, rfl⟩ := apply_user.mp hjoined
      obtain ⟨-, rfl⟩ := Table.apply_update.mp happly
      rw [Table.findFirst_modify fun _ => rfl, hfound, Option.map_some, if_pos rfl]
      exact hagain
    · subst hwrite
      obtain rfl : db = db₁ := hwrote
      rw [hfound]
      exact hagain
  · next hnone =>
    simp only [newUser, Outcome.bind_eq_ok, Outcome.pure_eq_ok, Prod.mk.injEq] at h
    obtain ⟨name, -, -, -, -, -, rfl, rfl⟩ := h
    obtain ⟨_, hcreated, rfl⟩ := hwrote
    obtain ⟨users, happly, -, rfl⟩ := apply_user.mp hcreated
    rw [Table.findFirst_insert (Table.apply_create.mp happly), hnone, Option.none_or,
      if_pos (decide_eq_true rfl)]
    refine linkUser_eq_ok.mpr ⟨?_, fun hother => absurd rfl hother, horg, rfl, rfl, by simp⟩
    rw [hlink]
    exact ProvisionIfEmailExists.noConfusion

theorem targetUser_frame (h : targetUser env db params = .ok (userId, write))
    (hwrote : Wrote write.toList db db₁) :
    db₁.occupancies = db.occupancies ∧ db₁.directory.buildings = db.directory.buildings ∧
      db₁.directory.units = db.directory.units := by
  obtain rfl | ⟨w, rfl⟩ := targetUser_write h
  · obtain rfl : db = db₁ := hwrote
    exact ⟨rfl, rfl, rfl⟩
  · obtain ⟨_, happly, rfl⟩ := hwrote
    obtain ⟨users, -, -, rfl⟩ := apply_user.mp happly
    exact ⟨rfl, rfl, rfl⟩

end TargetUser

section Open

variable {db : Db} {userId unitId : Id} {o : Occupancy}

def openAt (db : Db) (unitId : Id) : Option Occupancy :=
  db.occupancies.table.findFirst fun o => o.unitId = unitId ∧ o.status = .ACTIVE

def openOf (db : Db) (userId : Id) : Option Occupancy :=
  db.occupancies.table.findFirst fun o => o.residentUserId = userId ∧ o.status = .ACTIVE

theorem activeUnit_unique {o o' : Occupancy} (ho : o ∈ db.occupancies) (ho' : o' ∈ db.occupancies)
    (hactive : o.status = .ACTIVE) (hactive' : o'.status = .ACTIVE) (h : o.unitId = o'.unitId) :
    o = o' :=
  (occupancyCheck_eq_none.mp db.occupancies.valid).1.eq ho ho' (if_pos hactive)
    (by rw [activeUnit, if_pos hactive', h])

theorem activeResident_unique {o o' : Occupancy} (ho : o ∈ db.occupancies)
    (ho' : o' ∈ db.occupancies) (hactive : o.status = .ACTIVE) (hactive' : o'.status = .ACTIVE)
    (h : o.residentUserId = o'.residentUserId) : o = o' :=
  (occupancyCheck_eq_none.mp db.occupancies.valid).2.1.eq ho ho' (if_pos hactive)
    (by rw [activeResident, if_pos hactive', h])

theorem openAt_eq_some :
    openAt db unitId = some o ↔ o ∈ db.occupancies ∧ o.unitId = unitId ∧ o.status = .ACTIVE := by
  rw [openAt, Table.findFirst_eq_some_iff]
  · rw [decide_eq_true_iff, Constrained.mem_table]
  · intro b hb c hc hpb hpc
    obtain ⟨hunit, hactive⟩ := of_decide_eq_true hpb
    obtain ⟨hunit', hactive'⟩ := of_decide_eq_true hpc
    exact activeUnit_unique hb hc hactive hactive' (hunit.trans hunit'.symm)

theorem openOf_eq_some :
    openOf db userId = some o ↔
      o ∈ db.occupancies ∧ o.residentUserId = userId ∧ o.status = .ACTIVE := by
  rw [openOf, Table.findFirst_eq_some_iff]
  · rw [decide_eq_true_iff, Constrained.mem_table]
  · intro b hb c hc hpb hpc
    obtain ⟨hresident, hactive⟩ := of_decide_eq_true hpb
    obtain ⟨hresident', hactive'⟩ := of_decide_eq_true hpc
    exact activeResident_unique hb hc hactive hactive' (hresident.trans hresident'.symm)

/-- The user's own occupancy of a unit, which is open. -/
structure Landed (db : Db) (userId unitId : Id) (o : Occupancy) : Prop where
  mem : o ∈ db.occupancies
  unit : o.unitId = unitId
  resident : o.residentUserId = userId
  active : o.status = .ACTIVE

theorem Landed.eq {o' : Occupancy} (h : Landed db userId unitId o) (ho' : o' ∈ db.occupancies)
    (hresident : o'.residentUserId = userId) (hactive : o'.status = .ACTIVE) : o' = o :=
  activeResident_unique ho' h.mem hactive h.active (hresident.trans h.resident.symm)

theorem existingForUserUnit_eq_some :
    existingForUserUnit db userId unitId (openAt db unitId) = some o ↔
      Landed db userId unitId o := by
  unfold existingForUserUnit
  constructor
  · intro h
    rw [Option.orElse_eq_orElse, Option.orElse_eq_or, Option.or_eq_some_iff] at h
    rcases h with h | ⟨-, h⟩
    · obtain ⟨hopen, hresident⟩ := Option.filter_eq_some_iff.mp h
      obtain ⟨hmem, hunit, hactive⟩ := openAt_eq_some.mp hopen
      exact ⟨hmem, hunit, of_decide_eq_true hresident, hactive⟩
    · obtain ⟨hmem, hfound⟩ := Table.findFirst_some h
      obtain ⟨hunit, hresident, hactive⟩ := of_decide_eq_true hfound
      exact ⟨hmem, hunit, hresident, hactive⟩
  · intro h
    have hopen := openAt_eq_some.mpr ⟨h.mem, h.unit, h.active⟩
    rw [hopen, Option.filter_some, if_pos (decide_eq_true h.resident)]
    rfl

end Open

section Moves

variable {env env' : Env} {db db₁ db' : Db} {userId unitId : Id} {grant : ResidentGrantDto}
  {moves : Bool} {plan : Plan} {raise : DbError → HttpException} {o : Occupancy}

/-- What ADD and MOVE write for a unit. -/
def moveWrites (env : Env) (db : Db) (userId : Id) (grant : ResidentGrantDto) (moves : Bool)
    (unitId : Id) : List DbWrite :=
  (if moves then [endOccupancies env userId grant.buildingId (some unitId)] else []) ++
    if (existingForUserUnit db userId unitId (openAt db unitId)).isSome then []
    else [.occupancy (.create (newOccupancy env userId grant.buildingId unitId))]

/-- A unit that may be granted: it is in the building, nobody else is in it and, unless the
resident moves, they are nowhere else. -/
structure Grantable (db : Db) (userId : Id) (grant : ResidentGrantDto) (moves : Bool)
    (unitId : Id) : Prop where
  asked : truthy grant.unitId = some unitId
  exists_unit : ∃ u ∈ db.directory.units, u.id = unitId ∧ u.buildingId = grant.buildingId
  free : ∀ o, openAt db unitId = some o → o.residentUserId = userId
  alone : moves = false → ∀ o, openOf db userId = some o → o.unitId = unitId

theorem map_moveWrites :
    (moveWrites env db userId grant moves unitId).map .write =
      (if moves then [.write (endOccupancies env userId grant.buildingId (some unitId))]
        else [] : Plan) ++
        if (existingForUserUnit db userId unitId (openAt db unitId)).isSome then []
        else [.write (.occupancy (.create (newOccupancy env userId grant.buildingId unitId)))] := by
  unfold moveWrites
  split_ifs <;> rfl

theorem moveResident_eq_ok :
    moveResident env db userId grant moves = .ok plan ↔
      ∃ unitId, Grantable db userId grant moves unitId ∧
        (moveWrites env db userId grant moves unitId).map .write = plan := by
  simp only [moveResident, Outcome.bind_eq_ok, Outcome.pure_eq_ok, Outcome.orThrow_eq_ok,
    Outcome.throwIf_eq_ok, exists_const]
  constructor
  · rintro ⟨unitId, hasked, unit, hunit, hfree, halone, rfl⟩
    obtain ⟨hmem, hfound⟩ := Table.findFirst_some hunit
    obtain ⟨rfl, hbuilding⟩ := of_decide_eq_true hfound
    refine ⟨unit.id, ⟨hasked, ⟨unit, hmem, rfl, hbuilding⟩, fun o ho => ?_, fun hstays o ho => ?_⟩,
      ?_⟩
    · rw [show db.occupancies.table.findFirst _ = some o from ho] at hfree
      simpa using hfree
    · rw [show db.occupancies.table.findFirst _ = some o from ho, hstays] at halone
      simpa using halone
    · exact map_moveWrites
  · rintro ⟨unitId, h, rfl⟩
    obtain ⟨unit, hmem, rfl, hbuilding⟩ := h.exists_unit
    refine ⟨unit.id, h.asked, unit, ?_, ?_, ?_, ?_⟩
    · refine Table.findFirst_eq_some hmem (decide_eq_true ⟨rfl, hbuilding⟩) fun b hb => ?_
      exact (of_decide_eq_true hb).1
    · intro hother
      obtain ⟨o, ho, hresident⟩ := (Option.any_eq_true _ _).mp hother
      exact of_decide_eq_true hresident (h.free o ho)
    · rintro ⟨hstays, hother⟩
      obtain ⟨o, ho, hunit⟩ := (Option.any_eq_true _ _).mp hother
      exact of_decide_eq_true hunit (h.alone (Bool.eq_false_iff.mpr hstays) o ho)
    · exact map_moveWrites.symm

theorem apply_occupancy {w : Table.Write Occupancy.id} :
    (DbWrite.occupancy w).apply db = .ok db' ↔
      ∃ occupancies : Leases.OccupancyTable,
        w.apply db.occupancies.table = (.ok occupancies.table : Except DbError _) ∧
          { db with occupancies } = db' := by
  unfold DbWrite.apply
  dsimp only
  rw [Outcome.map_eq_ok]
  simp only [Constrained.write_eq_ok]

theorem leaves_of_landed (h : Landed db userId unitId o) (o' : Occupancy)
    (ho' : o' ∈ db.occupancies) : leaves userId grant.buildingId (some unitId) o' = false := by
  refine decide_eq_false ?_
  rintro ⟨hresident, -, hactive, hunit⟩
  rw [h.eq ho' hresident hactive, h.unit] at hunit
  exact hunit rfl

theorem endOccupancies_idle {buildingId : Id} {stays : Option Id}
    (h : ∀ o ∈ db.occupancies, leaves userId buildingId stays o = false) :
    Wrote [endOccupancies env userId buildingId stays] db db := by
  refine ⟨db, apply_occupancy.mpr ⟨db.occupancies, ?_, rfl⟩, rfl⟩
  exact Table.apply_updateMany.mpr (Table.modifyWhere_eq_self h).symm

theorem endOccupancies_wrote {buildingId : Id} {stays : Option Id}
    (h : Wrote [endOccupancies env userId buildingId stays] db db') :
    db'.directory = db.directory ∧ db'.occupancies.table =
      db.occupancies.table.modifyWhere (leaves userId buildingId stays)
        (occupancyEnded env.now env.now) := by
  obtain ⟨_, happly, rfl⟩ := h
  obtain ⟨occupancies, hended, rfl⟩ := apply_occupancy.mp happly
  exact ⟨rfl, Table.apply_updateMany.mp hended⟩

theorem Landed.stays {buildingId : Id} (h : Landed db userId unitId o)
    (hrows : db'.occupancies.table =
      db.occupancies.table.modifyWhere (leaves userId buildingId (some unitId))
        (occupancyEnded env.now env.now)) : Landed db' userId unitId o := by
  refine ⟨?_, h.unit, h.resident, h.active⟩
  rw [Constrained.mem_table, hrows]
  refine Table.mem_modifyWhere.mpr (.inr ⟨h.mem, decide_eq_false ?_⟩)
  rintro ⟨-, -, -, hunit⟩
  exact hunit (congrArg some h.unit)

/-- The occupancy that is open at the unit afterwards. -/
def landing (env : Env) (db : Db) (userId : Id) (grant : ResidentGrantDto) (unitId : Id) :
    Occupancy :=
  (existingForUserUnit db userId unitId (openAt db unitId)).getD
    (newOccupancy env userId grant.buildingId unitId)

theorem moveWrites_land (hsame : db₁.occupancies = db.occupancies)
    (h : Wrote (moveWrites env db userId grant moves unitId) db₁ db') :
    db'.directory = db₁.directory ∧ Landed db' userId unitId (landing env db userId grant unitId) := by
  obtain ⟨db₂, hended, hopened⟩ := wrote_append.mp h
  have hleft : db₂.directory = db₁.directory ∧
      ∀ o, Landed db userId unitId o → Landed db₂ userId unitId o := by
    cases moves with
    | false =>
      obtain rfl : db₁ = db₂ := hended
      exact ⟨rfl, fun o ho => ⟨hsame ▸ ho.mem, ho.unit, ho.resident, ho.active⟩⟩
    | true =>
      obtain ⟨hdirectory, hrows⟩ := endOccupancies_wrote hended
      exact ⟨hdirectory, fun o ho => ho.stays (hsame ▸ hrows)⟩
  unfold landing
  cases hexisting : existingForUserUnit db userId unitId (openAt db unitId) with
  | some o =>
    rw [hexisting] at hopened
    obtain rfl : db₂ = db' := hopened
    exact ⟨hleft.1, hleft.2 o (existingForUserUnit_eq_some.mp hexisting)⟩
  | none =>
    rw [hexisting] at hopened
    obtain ⟨_, hcreated, rfl⟩ := hopened
    obtain ⟨occupancies, hinsert, rfl⟩ := apply_occupancy.mp hcreated
    refine ⟨hleft.1, ?_, rfl, rfl, rfl⟩
    exact (Table.mem_insert (Table.apply_create.mp hinsert)).mpr (.inr rfl)

theorem moveResident_again (env' : Env) (hgrant : Grantable db userId grant moves unitId)
    (hunits : db'.directory.units = db.directory.units) (h : Landed db' userId unitId o) :
    moveResident env' db' userId grant moves =
        .ok ((moveWrites env' db' userId grant moves unitId).map .write) ∧
      Wrote (moveWrites env' db' userId grant moves unitId) db' db' ∧
        landing env' db' userId grant unitId = o := by
  have hexisting := existingForUserUnit_eq_some.mpr h
  refine ⟨moveResident_eq_ok.mpr ⟨unitId, ⟨hgrant.asked, ?_, ?_, ?_⟩, rfl⟩, ?_, ?_⟩
  · rw [hunits]
    exact hgrant.exists_unit
  · intro o' ho'
    obtain ⟨hmem, hunit, hactive⟩ := openAt_eq_some.mp ho'
    rw [activeUnit_unique hmem h.mem hactive h.active (hunit.trans h.unit.symm)]
    exact h.resident
  · intro _ o' ho'
    obtain ⟨hmem, hresident, hactive⟩ := openOf_eq_some.mp ho'
    rw [h.eq hmem hresident hactive]
    exact h.unit
  · rw [moveWrites, hexisting]
    cases moves with
    | false => exact rfl
    | true => exact endOccupancies_idle (leaves_of_landed h)
  · rw [landing, hexisting]
    rfl

end Moves

section ResidentGrant

variable {env env' : Env} {db db₁ db' : Db} {orgId userId : Id} {plan : Plan}
  {grant : ResidentGrantDto} {residentGrant : Option ResidentGrantDto}

/-- The occupancy that a grant answers with. -/
def grantedOccupancy (env : Env) (db : Db) (userId : Id) (grant : ResidentGrantDto) :
    Option Occupancy :=
  match grant.mode.getD .ADD with
  | .MOVE_OUT => none
  | _ => (truthy grant.unitId).map (landing env db userId grant)

theorem applyResidentGrant_eq_ok :
    applyResidentGrant env db orgId userId (some grant) = .ok plan ↔
      (∃ b ∈ db.directory.buildings, b.id = grant.buildingId ∧ b.orgId = orgId) ∧
        ((grant.mode.getD .ADD = .MOVE_OUT ∧
            [.write (endOccupancies env userId grant.buildingId none)] = plan) ∨
          ∃ moves : Bool, (grant.mode.getD .ADD = if moves then .MOVE else .ADD) ∧
            moveResident env db userId grant moves = .ok plan) := by
  have hbuilding : ¬ (db.directory.buildings.findFirst fun b =>
        b.id = grant.buildingId ∧ b.orgId = orgId).isNone = true ↔
      ∃ b ∈ db.directory.buildings, b.id = grant.buildingId ∧ b.orgId = orgId := by
    rw [Option.isNone_iff_eq_none, Table.findFirst, List.find?_eq_none]
    simp only [decide_eq_true_iff, not_forall, not_not]
    simp only [exists_prop]
    rfl
  simp only [applyResidentGrant, Outcome.bind_eq_ok, Outcome.throwIf_eq_ok, exists_const,
    hbuilding]
  refine and_congr_right fun _ => ?_
  cases grant.mode.getD .ADD with
  | MOVE_OUT => simp [Outcome.pure_eq_ok]
  | MOVE => simp
  | ADD => simp

theorem grantedOccupancy_of_moves {unitId : Id} {moves : Bool}
    (hmode : grant.mode.getD .ADD = if moves then .MOVE else .ADD)
    (hasked : truthy grant.unitId = some unitId) :
    grantedOccupancy env db userId grant = some (landing env db userId grant unitId) := by
  unfold grantedOccupancy
  rw [hmode, hasked]
  cases moves <;> rfl

theorem leaves_of_ended {buildingId : Id} {stays : Option Id}
    (hrows : db'.occupancies.table = db.occupancies.table.modifyWhere
      (leaves userId buildingId stays) (occupancyEnded env.now env.now)) (o : Occupancy)
    (ho : o ∈ db'.occupancies) : leaves userId buildingId stays o = false := by
  rw [Constrained.mem_table, hrows] at ho
  rcases Table.mem_modifyWhere.mp ho with ⟨o, -, -, rfl⟩ | ⟨-, hstays⟩
  · refine decide_eq_false ?_
    rintro ⟨-, -, hactive, -⟩
    exact OccupancyStatus.noConfusion hactive
  · exact hstays

/-- A grant asked for again has nothing left to write and answers with the same occupancy. -/
theorem applyResidentGrant_again (env' : Env)
    (h : applyResidentGrant env db orgId userId residentGrant = .ok plan)
    (hsame : db₁.occupancies = db.occupancies)
    (hbuildings : db₁.directory.buildings = db.directory.buildings)
    (hunits : db₁.directory.units = db.directory.units)
    (hwrote : Wrote (Transaction.writes plan) db₁ db') :
    ∃ plan', applyResidentGrant env' db' orgId userId residentGrant = .ok plan' ∧
      Wrote (Transaction.writes plan') db' db' ∧
        residentGrant.bind (grantedOccupancy env' db' userId) =
          residentGrant.bind (grantedOccupancy env db userId) := by
  cases residentGrant with
  | none =>
    obtain rfl := Except.ok.inj h
    obtain rfl : db₁ = db' := hwrote
    exact ⟨[], rfl, rfl, rfl⟩
  | some grant =>
    obtain ⟨hbuilding, ⟨hmode, rfl⟩ | ⟨moves, hmode, hmoves⟩⟩ := applyResidentGrant_eq_ok.mp h
    · obtain ⟨hdirectory, hrows⟩ := endOccupancies_wrote hwrote
      rw [← hbuildings, ← hdirectory] at hbuilding
      refine ⟨_, applyResidentGrant_eq_ok.mpr ⟨hbuilding, .inl ⟨hmode, rfl⟩⟩,
        endOccupancies_idle (leaves_of_ended hrows), ?_⟩
      rw [Option.bind_some, Option.bind_some, grantedOccupancy, grantedOccupancy, hmode]
    · obtain ⟨unitId, hgrant, rfl⟩ := moveResident_eq_ok.mp hmoves
      rw [Transaction.writes_map_write] at hwrote
      obtain ⟨hdirectory, hlanded⟩ := moveWrites_land hsame hwrote
      rw [← hbuildings, ← hdirectory] at hbuilding
      rw [← hdirectory] at hunits
      obtain ⟨hagain, hidle, hlanding⟩ := moveResident_again env' hgrant hunits hlanded
      refine ⟨_, applyResidentGrant_eq_ok.mpr ⟨hbuilding, .inr ⟨moves, hmode, hagain⟩⟩, ?_, ?_⟩
      · rw [Transaction.writes_map_write]
        exact hidle
      · rw [Option.bind_some, Option.bind_some, grantedOccupancy_of_moves hmode hgrant.asked,
          grantedOccupancy_of_moves hmode hgrant.asked, hlanding]

theorem applyResidentGrant_directory
    (h : applyResidentGrant env db orgId userId residentGrant = .ok plan)
    (hsame : db₁.occupancies = db.occupancies)
    (hwrote : Wrote (Transaction.writes plan) db₁ db') : db'.directory = db₁.directory := by
  cases residentGrant with
  | none =>
    obtain rfl := Except.ok.inj h
    obtain rfl : db₁ = db' := hwrote
    rfl
  | some grant =>
    obtain ⟨-, ⟨-, rfl⟩ | ⟨moves, -, hmoves⟩⟩ := applyResidentGrant_eq_ok.mp h
    · exact (endOccupancies_wrote hwrote).1
    · obtain ⟨unitId, -, rfl⟩ := moveResident_eq_ok.mp hmoves
      rw [Transaction.writes_map_write] at hwrote
      exact (moveWrites_land hsame hwrote).1

/-- Who is moved has one active occupancy, and it is of the unit asked for. -/
theorem applyResidentGrant_moves
    (h : applyResidentGrant env db orgId userId (some grant) = .ok plan)
    (hmode : grant.mode = some .MOVE) (hsame : db₁.occupancies = db.occupancies)
    (hwrote : Wrote (Transaction.writes plan) db₁ db') :
    ∃ unitId o, grant.unitId = some unitId ∧ Landed db' userId unitId o := by
  obtain ⟨-, ⟨hout, -⟩ | ⟨moves, -, hmoves⟩⟩ := applyResidentGrant_eq_ok.mp h
  · rw [hmode] at hout
    cases hout
  · obtain ⟨unitId, hgrant, rfl⟩ := moveResident_eq_ok.mp hmoves
    rw [Transaction.writes_map_write] at hwrote
    exact ⟨unitId, _, (truthy_eq_some.mp hgrant.asked).1, (moveWrites_land hsame hwrote).2⟩

end ResidentGrant

end Towerdesk.Users
