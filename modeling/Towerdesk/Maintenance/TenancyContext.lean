import Towerdesk.Maintenance.RequesterContext

/-!
# Which tenancy a request belongs to

For a list of requests at once: the occupancy and the lease each was made under, as recorded or
as its time and place tell, and whether these are the current ones of the requester. The
histories are read for all organisations and all requesters of the list and put together under
the text of both ids.
-/

namespace Towerdesk.Maintenance.Enrichment

open Leases.Timeline (isUuid)
open Regroup (collect contains_distinct distinct findMany keepFirst push rowsOf)

structure RequestTenancyContextSource where
  requestId : Id
  orgId : Id
  requesterUserId : Id
  createdAt : Date
  buildingId : Option Id
  unitId : Option Id
  occupancyIdAtCreation : Option Id
  leaseIdAtCreation : Option Id
deriving DecidableEq

inductive RequestTenancyContextLabel
  | CURRENT_OCCUPANCY | PREVIOUS_OCCUPANCY | NO_ACTIVE_OCCUPANCY | UNKNOWN_TENANCY_CYCLE
deriving DecidableEq, Repr

inductive RequestLeaseContextLabel
  | CURRENT_LEASE | PREVIOUS_LEASE | NO_ACTIVE_LEASE | UNKNOWN_LEASE_CYCLE
deriving DecidableEq, Repr

inductive RequestTenancyContextSourceValue
  | SNAPSHOT | HISTORICAL_INFERENCE | UNRESOLVED
deriving DecidableEq, Repr

abbrev RequestLeaseContextSourceValue := RequestTenancyContextSourceValue

structure RequestTenancyContextResponse where
  occupancyIdAtCreation : Option Id
  leaseIdAtCreation : Option Id
  currentOccupancyId : Option Id
  currentLeaseId : Option Id
  isCurrentOccupancy : Option Bool
  isCurrentLease : Option Bool
  label : RequestTenancyContextLabel
  leaseLabel : RequestLeaseContextLabel
  tenancyContextSource : RequestTenancyContextSourceValue
  leaseContextSource : RequestLeaseContextSourceValue
deriving DecidableEq, Repr

def DEFAULT_TENANCY_CONTEXT : RequestTenancyContextResponse where
  occupancyIdAtCreation := none
  leaseIdAtCreation := none
  currentOccupancyId := none
  currentLeaseId := none
  isCurrentOccupancy := none
  isCurrentLease := none
  label := .UNKNOWN_TENANCY_CYCLE
  leaseLabel := .UNKNOWN_LEASE_CYCLE
  tenancyContextSource := .UNRESOLVED
  leaseContextSource := .UNRESOLVED

section Labels

variable {α : Type} (unknown noActive current previous : α) (atCreation active : Option Id)

def resolveLabel : α :=
  match truthy atCreation, truthy active with
  | none, _ => unknown
  | some _, none => noActive
  | some atCreation, some active => if atCreation = active then current else previous

def resolveTenancyLabel : RequestTenancyContextLabel :=
  resolveLabel .UNKNOWN_TENANCY_CYCLE .NO_ACTIVE_OCCUPANCY .CURRENT_OCCUPANCY .PREVIOUS_OCCUPANCY
    atCreation active

def resolveLeaseLabel : RequestLeaseContextLabel :=
  resolveLabel .UNKNOWN_LEASE_CYCLE .NO_ACTIVE_LEASE .CURRENT_LEASE .PREVIOUS_LEASE
    atCreation active

/-- `null` where one of the ids is missing. -/
def isCurrent : Option Bool := do
  let atCreation ← truthy atCreation
  let active ← truthy active
  return decide (atCreation = active)

def resolveContextSource (snapshotValue resolvedValue : Option Id) :
    RequestTenancyContextSourceValue :=
  if (truthy snapshotValue).isSome then .SNAPSHOT
  else if (truthy resolvedValue).isSome then .HISTORICAL_INFERENCE
  else .UNRESOLVED

def resolveLeaseContextSource (snapshotValue resolvedValue : Option Id) :
    RequestLeaseContextSourceValue :=
  resolveContextSource snapshotValue resolvedValue

end Labels

section Inference

variable (source : RequestTenancyContextSource)

def isDateWithinRange (value start : Date) (stop : Option Date) : Bool :=
  decide (start ≤ value) && stop.all fun stop => decide (value ≤ stop)

/-- The place and the period of a tenancy are those of the request. -/
def coversCreation (buildingId unitId : Id) (start : Date) (stop : Option Date) : Bool :=
  if (truthy source.buildingId).any (buildingId ≠ ·) then false
  else if (truthy source.unitId).any (unitId ≠ ·) then false
  else isDateWithinRange source.createdAt start stop

/-- The id of a single match. -/
def soleId {α : Type} (id : α → Id) (matching : List α) : Option Id :=
  match matching with
  | [a] => some (id a)
  | _ => none

def inferOccupancyIdAtCreation (occupancies : List OccupancyRow) : Option Id :=
  soleId (·.id) (occupancies.filter fun o =>
    coversCreation source o.buildingId o.unitId o.startAt o.endAt)

def inferLeaseIdAtCreation (leases : List Lease) (occupancyIdAtCreation : Option Id) :
    Option Id :=
  let dateMatches := leases.filter fun l =>
    coversCreation source l.buildingId l.unitId l.leaseStartDate (some l.leaseEndDate)
  match truthy occupancyIdAtCreation with
  | none => soleId (·.id) dateMatches
  | some occupancyId =>
    match dateMatches.filter fun l => l.occupancyId = some occupancyId with
    | [] => soleId (·.id) dateMatches
    | [lease] => some lease.id
    | _ => none

/-- What the last loop sets for a source. -/
def toTenancyContext (occupancies : List OccupancyRow) (leases : List Lease)
    (currentOccupancyId currentLeaseId : Option Id) : RequestTenancyContextResponse :=
  let occupancyIdAtCreation :=
    source.occupancyIdAtCreation.or (inferOccupancyIdAtCreation source occupancies)
  let leaseIdAtCreation :=
    source.leaseIdAtCreation.or (inferLeaseIdAtCreation source leases occupancyIdAtCreation)
  { occupancyIdAtCreation
    leaseIdAtCreation
    currentOccupancyId
    currentLeaseId
    isCurrentOccupancy := isCurrent occupancyIdAtCreation currentOccupancyId
    isCurrentLease := isCurrent leaseIdAtCreation currentLeaseId
    label := resolveTenancyLabel occupancyIdAtCreation currentOccupancyId
    leaseLabel := resolveLeaseLabel leaseIdAtCreation currentLeaseId
    tenancyContextSource := resolveContextSource source.occupancyIdAtCreation
      occupancyIdAtCreation
    leaseContextSource := resolveLeaseContextSource source.leaseIdAtCreation leaseIdAtCreation }

end Inference

section Build

variable {ι : Type*} [LinearOrder ι] (collate : Id ↪ ι) (db : Db)
variable (sources : List RequestTenancyContextSource)

def byStart (o : OccupancyRow) : Date ×ₗ Date ×ₗ ι :=
  toLex (o.startAt, toLex (o.createdAt, collate o.id))

def byLeaseStart (l : Lease) : Date ×ₗ Date ×ₗ ι :=
  toLex (l.leaseStartDate, toLex (l.updatedAt, collate l.id))

def occupancyHistory : List OccupancyRow :=
  findMany (byStart collate) (fun o =>
    (distinct (·.requesterUserId) sources).contains o.residentUserId &&
      (distinct (·.orgId) sources).contains o.building.orgId) db.occupancyRows

def leaseHistory : List Lease :=
  findMany (byLeaseStart collate) (fun l =>
    l.residentUserId.any (distinct (·.requesterUserId) sources).contains &&
      (distinct (·.orgId) sources).contains l.orgId && decide (l.status ≠ .DRAFT)) db.leases.rows

/-- A lease without a resident is passed over. -/
def leaseKey (l : Lease) : Option String := (truthy l.residentUserId).map (toOrgUserKey l.orgId)

def activeOccupancyId (o : OccupancyRow) : Option Id :=
  if o.status = .ACTIVE then some o.id else none

def activeLeaseId (l : Lease) : Option Id := if l.status = .ACTIVE then some l.id else none

def currentOccupancyIdByOrgAndUser : String → Option Id :=
  collect occupancyKey (keepFirst activeOccupancyId) (occupancyHistory collate db sources)

def occupanciesByOrgAndUser : String → Option (List OccupancyRow) :=
  collect occupancyKey push (occupancyHistory collate db sources)

def currentLeaseIdByOrgAndUser : String → Option Id :=
  collect leaseKey (keepFirst activeLeaseId) (leaseHistory collate db sources)

def leasesByOrgAndUser : String → Option (List Lease) :=
  collect leaseKey push (leaseHistory collate db sources)

def buildRequestTenancyContextMap : Id → Option RequestTenancyContextResponse :=
  Regroup.batch (·.requestId) (fun uniqueSources source =>
    let orgUserKey := toOrgUserKey source.orgId source.requesterUserId
    toTenancyContext source
      ((occupanciesByOrgAndUser collate db uniqueSources orgUserKey).getD [])
      ((leasesByOrgAndUser collate db uniqueSources orgUserKey).getD [])
      (currentOccupancyIdByOrgAndUser collate db uniqueSources orgUserKey)
      (currentLeaseIdByOrgAndUser collate db uniqueSources orgUserKey)) sources

end Build

def getRequestTenancyContextOrDefault
    (contextByRequestId : Id → Option RequestTenancyContextResponse) (requestId : Id) :
    RequestTenancyContextResponse :=
  (contextByRequestId requestId).getD DEFAULT_TENANCY_CONTEXT

section Alone

variable {ι : Type*} [LinearOrder ι] (collate : Id ↪ ι) (db : Db)

/-- The occupancies of a user in the buildings of an organisation, the latest first. -/
def occupancyHistoryOf (orgId userId : Id) : List OccupancyRow :=
  findMany (byStart collate) (fun o => o.building.orgId = orgId ∧ o.residentUserId = userId)
    db.occupancyRows

/-- The leases of a user with an organisation that are no drafts, the latest first. -/
def leaseHistoryOf (orgId userId : Id) : List Lease :=
  findMany (byLeaseStart collate) (fun l => l.orgId = orgId ∧
    truthy l.residentUserId = some userId ∧ l.status ≠ .DRAFT) db.leases.rows

/-- The context of one request, from the histories of its requester in its organisation. -/
def tenancyContextOf (source : RequestTenancyContextSource) : RequestTenancyContextResponse :=
  let occupancies := occupancyHistoryOf collate db source.orgId source.requesterUserId
  let leases := leaseHistoryOf collate db source.orgId source.requesterUserId
  toTenancyContext source occupancies leases (occupancies.findSome? activeOccupancyId)
    (leases.findSome? activeLeaseId)

end Alone

section Batch

variable {ι : Type*} [LinearOrder ι] {collate : Id ↪ ι} {db : Db}
variable {sources : List RequestTenancyContextSource} {source : RequestTenancyContextSource}

theorem rowsOf_occupancyHistory (hs : source ∈ sources) (huuid : isUuid source.orgId = true) :
    rowsOf occupancyKey (occupancyHistory collate db sources)
        (toOrgUserKey source.orgId source.requesterUserId) =
      occupancyHistoryOf collate db source.orgId source.requesterUserId := by
  have hnodup : (db.occupancyRows.map (byStart collate)).Nodup := by
    refine Regroup.nodup_order (fun a b hab => ?_) nodup_occupancyRows
    have hrest := congrArg Prod.snd (toLex.injective hab)
    exact collate.injective (congrArg Prod.snd (toLex.injective hrest))
  exact rowsOf_occupancies hnodup hs huuid

theorem leaseKey_eq {l : Lease} (hl : isUuid l.orgId = true) (huuid : isUuid source.orgId = true) :
    leaseKey l = some (toOrgUserKey source.orgId source.requesterUserId) ↔
      l.orgId = source.orgId ∧ truthy l.residentUserId = some source.requesterUserId := by
  rw [leaseKey, Option.map_eq_some_iff]
  constructor
  · rintro ⟨userId, huser, hkey⟩
    obtain ⟨horg, rfl⟩ := (toOrgUserKey_inj hl huuid).mp hkey
    exact ⟨horg, huser⟩
  · rintro ⟨horg, huser⟩
    exact ⟨source.requesterUserId, huser, by rw [horg]⟩

theorem rowsOf_leaseHistory (hs : source ∈ sources) (huuid : isUuid source.orgId = true) :
    rowsOf leaseKey (leaseHistory collate db sources)
        (toOrgUserKey source.orgId source.requesterUserId) =
      leaseHistoryOf collate db source.orgId source.requesterUserId := by
  have hnodup : (db.leases.rows.map (byLeaseStart collate)).Nodup := by
    refine Regroup.nodup_order (fun a b hab => ?_) db.leases.nodup
    have hrest := congrArg Prod.snd (toLex.injective hab)
    exact collate.injective (congrArg Prod.snd (toLex.injective hrest))
  refine Regroup.rowsOf_findMany hnodup fun l hl => ?_
  rw [decide_eq_true_eq, leaseKey_eq (db.leaseOrg l hl) huuid, ← and_assoc]
  refine and_congr_right fun hown => ?_
  have hread : l.residentUserId.any (distinct (·.requesterUserId) sources).contains = true := by
    rw [(truthy_eq_some.mp hown.2).1, Option.any_some]
    exact contains_distinct hs
  rw [hread, hown.1, contains_distinct hs, Bool.true_and, Bool.true_and, decide_eq_true_eq]

/-- The batch answers each request by itself. -/
theorem buildRequestTenancyContextMap_answers :
    Regroup.Answers (fun source : RequestTenancyContextSource => isUuid source.orgId = true)
      (·.requestId) (buildRequestTenancyContextMap collate db) (tenancyContextOf collate db) := by
  refine Regroup.answers_batch fun sources source hs huuid => ?_
  dsimp only
  rw [occupanciesByOrgAndUser, leasesByOrgAndUser, currentOccupancyIdByOrgAndUser,
    currentLeaseIdByOrgAndUser, Regroup.collect_push, Regroup.collect_push,
    Regroup.collect_keepFirst, Regroup.collect_keepFirst, rowsOf_occupancyHistory hs huuid,
    rowsOf_leaseHistory hs huuid, tenancyContextOf]

end Batch

end Towerdesk.Maintenance.Enrichment
