import Towerdesk.Auth.Store
import Towerdesk.Leases.Timeline
import Towerdesk.Lib.Regroup
import Towerdesk.Maintenance.Request
import Mathlib.Data.Prod.Lex

/-!
# Who asks for a request

For a list of requests at once: whether each requester lives or has lived in the organisation,
how his last invite stands and who occupies the unit. The rows are read for all organisations
and all requesters of the list and put together under the text of both ids. Each request is
answered from the rows of its own organisation, requester and unit.
-/

namespace Towerdesk.Maintenance.Enrichment

open Delivery (ResidentInviteStatus)
open Leases (ResidentProfile)
open Leases.Timeline (isUuid)
open Regroup (collect contains_distinct distinct findMany keepFirst rowsOf)

/-- Organisation ids are the uuids the schema gives them. -/
structure Db where
  buildings : Table Building.id
  users : Table User.id
  occupancies : Table Occupancy.id
  leases : Table Lease.id
  residentProfiles : Table ResidentProfile.userId
  residentInvites : Table Auth.ResidentInvite.id
  buildingOrg : ∀ b ∈ buildings, isUuid b.orgId = true
  leaseOrg : ∀ l ∈ leases, isUuid l.orgId = true
  profileOrg : ∀ p ∈ residentProfiles, isUuid p.orgId = true
  inviteOrg : ∀ i ∈ residentInvites, isUuid i.orgId = true

/-- An occupancy with the rows its foreign keys lead to. -/
structure OccupancyRow extends Occupancy where
  building : Building
  residentUser : User
deriving DecidableEq

def Db.occupancyRows (db : Db) : List OccupancyRow :=
  db.occupancies.rows.filterMap fun o => do
    let building ← db.buildings.findUnique o.buildingId
    let residentUser ← db.users.findUnique o.residentUserId
    return ⟨o, building, residentUser⟩

def toOrgUserKey (orgId userId : Id) : String := orgId ++ ":" ++ userId

structure RequesterContextSource where
  requestId : Id
  orgId : Id
  requesterUserId : Id
  unitId : Option Id
deriving DecidableEq

inductive UserResidentOccupancyStatus
  | ACTIVE | NONE | FORMER
deriving DecidableEq, Repr

inductive UserResidentInviteStatus
  | PENDING | ACCEPTED | FAILED | EXPIRED
deriving DecidableEq, Repr

structure CurrentUnitOccupant where
  userId : Id
  name : Option String
deriving DecidableEq, Repr

structure RequesterContextResponse where
  isResident : Bool
  residentOccupancyStatus : Option UserResidentOccupancyStatus
  residentInviteStatus : Option UserResidentInviteStatus
  isFormerResident : Bool
  currentUnitOccupiedByRequester : Option Bool
  currentUnitOccupant : Option CurrentUnitOccupant
deriving DecidableEq, Repr

def DEFAULT_REQUESTER_CONTEXT : RequesterContextResponse where
  isResident := false
  residentOccupancyStatus := none
  residentInviteStatus := none
  isFormerResident := false
  currentUnitOccupiedByRequester := none
  currentUnitOccupant := none

structure OccupancyState where
  hasAnyOccupancy : Bool
  hasActiveOccupancy : Bool
deriving DecidableEq

structure LatestInvite where
  status : ResidentInviteStatus
  expiresAt : Date
deriving DecidableEq

structure UnitOccupancy where
  residentUserId : Id
  name : Option String
deriving DecidableEq

def toResidentInviteStatus (now : Date) (invite : Option LatestInvite) :
    Option UserResidentInviteStatus :=
  match invite with
  | none => none
  | some invite =>
    match invite.status with
    | .ACCEPTED => some .ACCEPTED
    | .FAILED => some .FAILED
    | .SENT => some (if now < invite.expiresAt then .PENDING else .EXPIRED)

/-- What the last loop sets for a source. -/
def toRequesterContext (now : Date) (source : RequesterContextSource)
    (occupancyState : Option OccupancyState) (latestInvite : Option LatestInvite)
    (hasResidentProfile : Bool) (currentUnitOccupancy : Option UnitOccupancy) :
    RequesterContextResponse :=
  let isResident := occupancyState.any (·.hasAnyOccupancy) || hasResidentProfile ||
    latestInvite.isSome
  let residentOccupancyStatus : Option UserResidentOccupancyStatus :=
    if isResident = false then none
    else if occupancyState.any (·.hasActiveOccupancy) then some .ACTIVE
    else if occupancyState.any (·.hasAnyOccupancy) then some .FORMER
    else some .NONE
  { isResident
    residentOccupancyStatus
    residentInviteStatus := toResidentInviteStatus now latestInvite
    isFormerResident := residentOccupancyStatus = some .FORMER
    currentUnitOccupiedByRequester := do
      let _ ← truthy source.unitId
      let occupancy ← currentUnitOccupancy
      return decide (occupancy.residentUserId = source.requesterUserId)
    currentUnitOccupant := currentUnitOccupancy.map fun o => ⟨o.residentUserId, o.name⟩ }

section Build

variable {ι : Type*} [LinearOrder ι] (collate : Id ↪ ι) (db : Db)
variable (sources : List RequesterContextSource)

def unitIdsOf : List Id := (sources.filterMap fun s => truthy s.unitId).eraseDups

def byCreation (o : OccupancyRow) : Date ×ₗ ι := toLex (o.createdAt, collate o.id)

def bySending (i : Auth.ResidentInvite) : Date ×ₗ ι := toLex (i.sentAt, collate i.id)

def requesterOccupancies : List OccupancyRow :=
  findMany (byCreation collate) (fun o => (distinct (·.requesterUserId) sources).contains o.residentUserId &&
    (distinct (·.orgId) sources).contains o.building.orgId) db.occupancyRows

def residentProfiles : List ResidentProfile :=
  db.residentProfiles.rows.filter fun p =>
    (distinct (·.orgId) sources).contains p.orgId && (distinct (·.requesterUserId) sources).contains p.userId

def residentInvites : List Auth.ResidentInvite :=
  findMany (bySending collate) (fun i => (distinct (·.orgId) sources).contains i.orgId &&
    (distinct (·.requesterUserId) sources).contains i.userId) db.residentInvites.rows

def currentUnitOccupancies : List OccupancyRow :=
  if (unitIdsOf sources).length = 0 then []
  else findMany (byCreation collate) (fun o => (unitIdsOf sources).contains o.unitId &&
    decide (o.status = .ACTIVE)) db.occupancyRows

def occupancyKey (o : OccupancyRow) : Option String :=
  some (toOrgUserKey o.building.orgId o.residentUserId)

def inviteKey (i : Auth.ResidentInvite) : Option String := some (toOrgUserKey i.orgId i.userId)

def addOccupancy (current : Option OccupancyState) (o : OccupancyRow) : Option OccupancyState :=
  let current := current.getD ⟨false, false⟩
  some ⟨true, if o.status = .ACTIVE then true else current.hasActiveOccupancy⟩

def occupancyStateByOrgAndUser : String → Option OccupancyState :=
  collect occupancyKey addOccupancy (requesterOccupancies collate db sources)

def residentProfileKeys : List String :=
  (residentProfiles db sources).map fun p => toOrgUserKey p.orgId p.userId

def latestInviteByOrgAndUser : String → Option LatestInvite :=
  collect inviteKey (keepFirst fun i => some ⟨i.status, i.expiresAt⟩)
    (residentInvites collate db sources)

def currentOccupancyByUnitId : Id → Option UnitOccupancy :=
  collect (fun o => some o.unitId) (keepFirst fun o => some ⟨o.residentUserId, o.residentUser.name⟩)
    (currentUnitOccupancies collate db sources)

def buildRequesterContextMap (now : Date) : Id → Option RequesterContextResponse :=
  Regroup.batch (·.requestId) (fun uniqueSources source =>
    let key := toOrgUserKey source.orgId source.requesterUserId
    toRequesterContext now source (occupancyStateByOrgAndUser collate db uniqueSources key)
      (latestInviteByOrgAndUser collate db uniqueSources key)
      ((residentProfileKeys db uniqueSources).contains key)
      ((truthy source.unitId).bind (currentOccupancyByUnitId collate db uniqueSources))) sources

end Build

def getRequesterContextOrDefault (contextByRequestId : Id → Option RequesterContextResponse)
    (requestId : Id) : RequesterContextResponse :=
  (contextByRequestId requestId).getD DEFAULT_REQUESTER_CONTEXT

section Keys

variable {ι : Type*} {collate : Id ↪ ι} {db : Db}
variable {orgId orgId' userId userId' : Id}

theorem colon_not_mem_uuid {id : Id} (h : isUuid id = true) : ':' ∉ id.toList := by
  intro hcolon
  have hall := List.all_eq_true.mp (of_decide_eq_true h).2 ':' hcolon
  exact absurd hall (by decide)

theorem takeWhile_orgUserKey (h : isUuid orgId = true) :
    (toOrgUserKey orgId userId).toList.takeWhile (· ≠ ':') = orgId.toList := by
  have hall : ∀ c ∈ orgId.toList, decide (c ≠ ':') = true := fun c hc =>
    decide_eq_true fun heq => colon_not_mem_uuid h (heq ▸ hc)
  have htext : (toOrgUserKey orgId userId).toList = orgId.toList ++ ':' :: userId.toList := by
    simp [toOrgUserKey]
  rw [htext, List.takeWhile_append_of_pos hall, List.takeWhile_cons_of_neg (by simp),
    List.append_nil]

/-- Two pairs of ids do not share a key, as no organisation id has a colon. -/
theorem toOrgUserKey_inj (h : isUuid orgId = true) (h' : isUuid orgId' = true) :
    toOrgUserKey orgId userId = toOrgUserKey orgId' userId' ↔
      orgId = orgId' ∧ userId = userId' := by
  constructor
  · intro hkey
    have horg : orgId = orgId' := by
      apply String.toList_injective
      rw [← takeWhile_orgUserKey h, hkey, takeWhile_orgUserKey h']
    subst horg
    have htexts : orgId.toList ++ (":".toList ++ userId.toList) =
        orgId.toList ++ (":".toList ++ userId'.toList) := by
      simpa [toOrgUserKey] using congrArg String.toList hkey
    exact ⟨rfl, String.toList_injective (List.append_cancel_left (List.append_cancel_left htexts))⟩
  · rintro ⟨rfl, rfl⟩
    rfl

theorem nodup_occupancyRows : (db.occupancyRows.map (·.id)).Nodup := by
  refine Table.nodup_filterMap db.occupancies.nodup fun o r hr => ?_
  obtain ⟨building, -, hr⟩ := Option.bind_eq_some_iff.mp hr
  obtain ⟨residentUser, -, hr⟩ := Option.bind_eq_some_iff.mp hr
  rw [← Option.some.inj hr]

theorem org_of_mem_occupancyRows {o : OccupancyRow} (ho : o ∈ db.occupancyRows) :
    isUuid o.building.orgId = true := by
  obtain ⟨occupancy, -, hr⟩ := List.mem_filterMap.mp ho
  obtain ⟨building, hbuilding, hr⟩ := Option.bind_eq_some_iff.mp hr
  obtain ⟨residentUser, -, hr⟩ := Option.bind_eq_some_iff.mp hr
  rw [← Option.some.inj hr]
  exact db.buildingOrg building (Table.findUnique_eq_some.mp hbuilding).1

theorem nodup_byCreation : (db.occupancyRows.map (byCreation collate)).Nodup := by
  refine Regroup.nodup_order (fun a b hab => ?_) nodup_occupancyRows
  exact collate.injective (congrArg Prod.snd (toLex.injective hab))

theorem nodup_bySending : (db.residentInvites.rows.map (bySending collate)).Nodup := by
  refine Regroup.nodup_order (fun a b hab => ?_) db.residentInvites.nodup
  exact collate.injective (congrArg Prod.snd (toLex.injective hab))

end Keys

section Alone

variable {ι : Type*} [LinearOrder ι] (collate : Id ↪ ι) (db : Db)

/-- The occupancies of a user in the buildings of an organisation. -/
def ownOccupancies (orgId userId : Id) : List OccupancyRow :=
  db.occupancyRows.filter fun o => o.building.orgId = orgId ∧ o.residentUserId = userId

def occupancyStateOf (orgId userId : Id) : Option OccupancyState :=
  if ownOccupancies db orgId userId = [] then none
  else some ⟨true, (ownOccupancies db orgId userId).any (·.status = .ACTIVE)⟩

/-- The invite to the organisation that was sent last. -/
def latestInviteOf (orgId userId : Id) : Option LatestInvite :=
  (findMany (bySending collate) (fun i => i.orgId = orgId ∧ i.userId = userId)
    db.residentInvites.rows).head?.map fun i => ⟨i.status, i.expiresAt⟩

def hasResidentProfileOf (orgId userId : Id) : Bool :=
  db.residentProfiles.rows.any fun p => p.orgId = orgId ∧ p.userId = userId

/-- The active occupancy of the unit that was made last. -/
def unitOccupancyOf (unitId : Id) : Option UnitOccupancy :=
  (findMany (byCreation collate) (fun o => o.unitId = unitId ∧ o.status = .ACTIVE)
    db.occupancyRows).head?.map fun o => ⟨o.residentUserId, o.residentUser.name⟩

/-- The context of one request, from the rows of its organisation, requester and unit. -/
def requesterContextOf (now : Date) (source : RequesterContextSource) : RequesterContextResponse :=
  toRequesterContext now source (occupancyStateOf db source.orgId source.requesterUserId)
    (latestInviteOf collate db source.orgId source.requesterUserId)
    (hasResidentProfileOf db source.orgId source.requesterUserId)
    ((truthy source.unitId).bind (unitOccupancyOf collate db))

end Alone

section Batch

variable {ι : Type*} [LinearOrder ι] {collate : Id ↪ ι} {db : Db}
variable {sources : List RequesterContextSource} {source : RequesterContextSource}

theorem contains_unitIdsOf {unitId : Id} (hs : source ∈ sources)
    (hunit : truthy source.unitId = some unitId) : (unitIdsOf sources).contains unitId = true := by
  rw [List.contains_iff_mem, unitIdsOf, List.mem_eraseDups]
  exact List.mem_filterMap.mpr ⟨source, hs, hunit⟩

theorem foldl_addOccupancy (rows : List OccupancyRow) (current : Option OccupancyState) :
    rows.foldl addOccupancy current = if rows = [] then current
      else some ⟨true, current.any (·.hasActiveOccupancy) || rows.any (·.status = .ACTIVE)⟩ := by
  induction rows generalizing current with
  | nil => rfl
  | cons o rows ih =>
    rw [List.foldl_cons, ih]
    cases current with
    | none => by_cases hrows : rows = [] <;> by_cases ho : o.status = .ACTIVE <;>
        simp [addOccupancy, hrows, ho]
    | some current => by_cases hrows : rows = [] <;> by_cases ho : o.status = .ACTIVE <;>
        simp [addOccupancy, hrows, ho]

/-- The occupancies read for many sources at once, and those of one of them. -/
theorem rowsOf_occupancies {σ ω : Type*} [LinearOrder ω] {order : OccupancyRow → ω} {s : σ}
    {all : List σ} {orgOf userOf : σ → Id} (hnodup : (db.occupancyRows.map order).Nodup)
    (hs : s ∈ all) (huuid : isUuid (orgOf s) = true) :
    rowsOf occupancyKey (findMany order (fun o =>
        (distinct userOf all).contains o.residentUserId &&
          (distinct orgOf all).contains o.building.orgId) db.occupancyRows)
        (toOrgUserKey (orgOf s) (userOf s)) =
      findMany order (fun o => o.building.orgId = orgOf s ∧ o.residentUserId = userOf s)
        db.occupancyRows := by
  refine Regroup.rowsOf_findMany hnodup fun o ho => ?_
  rw [decide_eq_true_eq, occupancyKey, Option.some.injEq,
    toOrgUserKey_inj (org_of_mem_occupancyRows ho) huuid]
  refine ⟨fun hown => ⟨hown, ?_⟩, And.left⟩
  rw [hown.1, hown.2, contains_distinct hs, contains_distinct hs]
  rfl

theorem rowsOf_requesterOccupancies (hs : source ∈ sources) (huuid : isUuid source.orgId = true) :
    rowsOf occupancyKey (requesterOccupancies collate db sources)
        (toOrgUserKey source.orgId source.requesterUserId) =
      findMany (byCreation collate) (fun o => o.building.orgId = source.orgId ∧
        o.residentUserId = source.requesterUserId) db.occupancyRows :=
  rowsOf_occupancies nodup_byCreation hs huuid

theorem occupancyState_eq (hs : source ∈ sources) (huuid : isUuid source.orgId = true) :
    occupancyStateByOrgAndUser collate db sources
        (toOrgUserKey source.orgId source.requesterUserId) =
      occupancyStateOf db source.orgId source.requesterUserId := by
  have hperm : (rowsOf occupancyKey (requesterOccupancies collate db sources)
      (toOrgUserKey source.orgId source.requesterUserId)).Perm
      (ownOccupancies db source.orgId source.requesterUserId) := by
    rw [rowsOf_requesterOccupancies hs huuid]
    exact Keyset.perm_sorted
  have hnil : rowsOf occupancyKey (requesterOccupancies collate db sources)
      (toOrgUserKey source.orgId source.requesterUserId) = [] ↔
      ownOccupancies db source.orgId source.requesterUserId = [] :=
    ⟨fun h => (h ▸ hperm).nil_eq.symm, fun h => (h ▸ hperm).eq_nil⟩
  rw [occupancyStateByOrgAndUser, Regroup.collect_apply, foldl_addOccupancy, occupancyStateOf]
  simp only [hnil, hperm.any_eq, Option.any_none, Bool.false_or]

theorem latestInvite_eq (hs : source ∈ sources) (huuid : isUuid source.orgId = true) :
    latestInviteByOrgAndUser collate db sources
        (toOrgUserKey source.orgId source.requesterUserId) =
      latestInviteOf collate db source.orgId source.requesterUserId := by
  have hrows : rowsOf inviteKey (residentInvites collate db sources)
      (toOrgUserKey source.orgId source.requesterUserId) =
      findMany (bySending collate) (fun i => i.orgId = source.orgId ∧
        i.userId = source.requesterUserId) db.residentInvites.rows := by
    refine Regroup.rowsOf_findMany nodup_bySending fun i hi => ?_
    rw [decide_eq_true_eq, inviteKey, Option.some.injEq,
      toOrgUserKey_inj (db.inviteOrg i hi) huuid]
    refine ⟨fun hown => ⟨hown, ?_⟩, And.left⟩
    rw [hown.1, hown.2, contains_distinct hs, contains_distinct hs]
    rfl
  rw [latestInviteByOrgAndUser, Regroup.collect_first, hrows, latestInviteOf]

theorem hasResidentProfile_eq (hs : source ∈ sources) (huuid : isUuid source.orgId = true) :
    (residentProfileKeys db sources).contains
        (toOrgUserKey source.orgId source.requesterUserId) =
      hasResidentProfileOf db source.orgId source.requesterUserId := by
  rw [Bool.eq_iff_iff, List.contains_iff_mem, residentProfileKeys, hasResidentProfileOf,
    List.mem_map, List.any_eq_true]
  constructor
  · rintro ⟨p, hp, hkey⟩
    obtain ⟨hp, -⟩ := List.mem_filter.mp hp
    exact ⟨p, hp, decide_eq_true ((toOrgUserKey_inj (db.profileOrg p hp) huuid).mp hkey)⟩
  · rintro ⟨p, hp, hown⟩
    obtain ⟨horg, huser⟩ := of_decide_eq_true hown
    refine ⟨p, List.mem_filter.mpr ⟨hp, ?_⟩, by rw [horg, huser]⟩
    rw [horg, huser, contains_distinct hs, contains_distinct hs]
    rfl

theorem currentOccupancy_eq (hs : source ∈ sources) {unitId : Id}
    (hunit : truthy source.unitId = some unitId) :
    currentOccupancyByUnitId collate db sources unitId = unitOccupancyOf collate db unitId := by
  have hcontains : (unitIdsOf sources).contains unitId = true := contains_unitIdsOf hs hunit
  have hne : (unitIdsOf sources).length ≠ 0 :=
    (List.length_pos_of_mem (List.contains_iff_mem.mp hcontains)).ne'
  have hrows : rowsOf (fun o : OccupancyRow => some o.unitId)
      (currentUnitOccupancies collate db sources) unitId =
      findMany (byCreation collate) (fun o => o.unitId = unitId ∧ o.status = .ACTIVE)
        db.occupancyRows := by
    rw [currentUnitOccupancies, if_neg hne]
    refine Regroup.rowsOf_findMany nodup_byCreation fun o _ => ?_
    rw [decide_eq_true_eq, Option.some.injEq, Bool.and_eq_true, decide_eq_true_eq]
    refine and_congr_right fun hid => ?_
    rw [hid, hcontains]
    exact (and_iff_right rfl).symm
  rw [currentOccupancyByUnitId, Regroup.collect_first, hrows, unitOccupancyOf]

/-- The batch answers each request by itself. -/
theorem buildRequesterContextMap_answers (now : Date) :
    Regroup.Answers (fun source : RequesterContextSource => isUuid source.orgId = true)
      (·.requestId) (fun sources => buildRequesterContextMap collate db sources now)
      (requesterContextOf collate db now) := by
  refine Regroup.answers_batch fun sources source hs huuid => ?_
  have hunit : (truthy source.unitId).bind (currentOccupancyByUnitId collate db sources) =
      (truthy source.unitId).bind (unitOccupancyOf collate db) := by
    cases hunit : truthy source.unitId with
    | none => rfl
    | some unitId => exact currentOccupancy_eq hs hunit
  dsimp only
  rw [occupancyState_eq hs huuid, latestInvite_eq hs huuid, hasResidentProfile_eq hs huuid, hunit,
    requesterContextOf]

end Batch

end Towerdesk.Maintenance.Enrichment
