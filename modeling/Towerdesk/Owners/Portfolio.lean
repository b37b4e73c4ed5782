import Towerdesk.Maintenance.Enrichment
import Towerdesk.Maintenance.Store
import Towerdesk.Units.Ownership

/-!
# The portfolio of an owner

A user who was granted access to owners reaches the units that they own, by an open row of the
ownership history or, where a unit has none, by its own column. The list of the units, the
lookup of one unit, the list of their requests and the lookup of one request each read the
tables in their own way, and agree. As the history is brought in line with the column on each
change, the column is never needed: the units of a portfolio are those whose column names one of
its owners.
-/

namespace Towerdesk.Owners.Portfolio

open Leases.Timeline (isUuid)
open Maintenance (MaintenanceRequest Attachment AttachmentInput)
open Maintenance.Enrichment (RequestFields WithContexts withRequesterContext
  withRequesterContextList)
open Regroup (distinct entries values)

structure Org where
  id : Id
  name : String
deriving DecidableEq

structure PortfolioUnitRow where
  orgId : Id
  orgName : String
  ownerId : Id
  unitId : Id
  buildingId : Id
  buildingName : String
  unitLabel : String
deriving DecidableEq

/-- The tables that say which units a user reaches. -/
structure Holdings where
  orgs : Table Org.id
  buildings : Table Building.id
  units : Table UnitRow.id
  owners : Table Owner.id
  ownerAccessGrants : Table OwnerAccessGrant.id
  unitOwnerships : Table UnitOwnership.id

section Scope

variable (t : Holdings) (localeCompare : String → String → Ordering) (userId : Id)

def loadActiveOwnerGrantRows : List OwnerAccessGrant :=
  t.ownerAccessGrants.rows.filter fun g =>
    g.userId = some userId ∧ g.status = .ACTIVE ∧
      (t.owners.findUnique g.ownerId).any (·.isActive)

def getAccessibleOwnerIds : List Id := distinct (·.ownerId) (loadActiveOwnerGrantRows t userId)

/-- The condition on the owner of a row: it is active and has an active grant of the user. -/
def isReached (ownerId : Id) : Bool :=
  (t.owners.findUnique ownerId).any (·.isActive) &&
    t.ownerAccessGrants.rows.any fun g =>
      g.ownerId = ownerId ∧ g.userId = some userId ∧ g.status = .ACTIVE

/-- The open rows of the history, of one unit if one is named. -/
def ownershipRows (ownerIds : List Id) (unitId : Option Id) : List PortfolioUnitRow :=
  (t.unitOwnerships.rows.filter fun o =>
      o.ownerId ∈ ownerIds ∧ o.endDate = none ∧ isReached t userId o.ownerId ∧
        (truthy unitId).all (o.unitId = ·)).filterMap fun o => do
    let org ← t.orgs.findUnique o.orgId
    let unit ← t.units.findUnique o.unitId
    let building ← t.buildings.findUnique unit.buildingId
    return ⟨org.id, org.name, o.ownerId, unit.id, building.id, building.name, unit.label⟩

/-- The units without an open row, by their column. -/
def fallbackUnits (ownerIds : List Id) (unitId : Option Id) : List PortfolioUnitRow :=
  (t.units.rows.filter fun u =>
      u.ownerId.any (· ∈ ownerIds) ∧ u.ownerId.any (isReached t userId) ∧
        (t.unitOwnerships.rows.all fun o => ¬ (o.unitId = u.id ∧ o.endDate = none)) ∧
        (truthy unitId).all (u.id = ·)).filterMap fun u => do
    let ownerId ← truthy u.ownerId
    let building ← t.buildings.findUnique u.buildingId
    let org ← t.orgs.findUnique building.orgId
    return ⟨org.id, org.name, ownerId, u.id, building.id, building.name, u.label⟩

def compareUnits (a b : PortfolioUnitRow) : Ordering :=
  if a.orgName ≠ b.orgName then localeCompare a.orgName b.orgName
  else if a.buildingName ≠ b.buildingName then localeCompare a.buildingName b.buildingName
  else if a.unitLabel ≠ b.unitLabel then localeCompare a.unitLabel b.unitLabel
  else localeCompare a.unitId b.unitId

def normalizeAccessibleUnitRows (rows : List PortfolioUnitRow) : List PortfolioUnitRow :=
  (values (·.unitId) rows).insertionSort fun a b => (compareUnits localeCompare a b).isLE = true

def loadAccessibleUnitScope (unitId : Option Id) : List PortfolioUnitRow :=
  let ownerIds := getAccessibleOwnerIds t userId
  if ownerIds.length = 0 then []
  else normalizeAccessibleUnitRows localeCompare
    (ownershipRows t userId ownerIds unitId ++ fallbackUnits t userId ownerIds unitId)

/-- The map of a scope. -/
def scopeMap (unitId : Option Id) : Id → Option PortfolioUnitRow :=
  entries (·.unitId) (loadAccessibleUnitScope t localeCompare userId unitId)

def listAccessibleUnits : List PortfolioUnitRow :=
  loadAccessibleUnitScope t localeCompare userId none

def getAccessibleUnitOrThrow (unitId : Id) : Result PortfolioUnitRow :=
  Outcome.orThrow (scopeMap t localeCompare userId (some unitId) unitId)
    (.notFound "Unit not found")

structure PortfolioSummary where
  unitCount : ℕ
  orgCount : ℕ
  buildingCount : ℕ
deriving DecidableEq

def getPortfolioSummary : PortfolioSummary :=
  let units := listAccessibleUnits t localeCompare userId
  { unitCount := units.length
    orgCount := (distinct (·.orgId) units).length
    buildingCount := (distinct (·.buildingId) units).length }

end Scope

structure UserSummary where
  id : Id
  name : Option String
  email : String
deriving DecidableEq

def UserSummary.ofRow (user : User) : UserSummary := ⟨user.id, user.name, user.email⟩

structure AccessibleMaintenanceRequest extends MaintenanceRequest where
  createdByUser : User
  assignedToUser : Option User
  requestAttachments : List Attachment
deriving DecidableEq

/-- A request under the unit that it is reached by. -/
structure PortfolioRequestRow where
  unit : PortfolioUnitRow
  request : MaintenanceRequest
  createdBy : UserSummary
  assignedTo : Option UserSummary
  attachments : List AttachmentInput
deriving DecidableEq

structure PortfolioUnitTenantRow where
  occupancyId : Id
  tenantUserId : Id
  name : Option String
  email : String
  phone : Option String
deriving DecidableEq

/-- Organisations and units have the uuids the schema gives them, and requests an author. -/
structure Tables where
  holdings : Holdings
  contexts : Maintenance.Enrichment.Db
  maintenanceRequests : Table MaintenanceRequest.id
  attachments : List Attachment
  orgUuid : ∀ o ∈ holdings.orgs, isUuid o.id = true
  unitUuid : ∀ u ∈ holdings.units, isUuid u.id = true
  authored : ∀ r ∈ maintenanceRequests,
    (contexts.users.findUnique r.createdByUserId).isSome = true

section Requests

variable {ι : Type*} [LinearOrder ι] (collate : Id ↪ ι) (t : Tables)
  (localeCompare : String → String → Ordering) (userId : Id) (now : Date)

/-- `accessibleRequestInclude`. -/
def includeRelations (r : MaintenanceRequest) : Option AccessibleMaintenanceRequest := do
  let createdByUser ← t.contexts.users.findUnique r.createdByUserId
  return {
    r with
    createdByUser
    assignedToUser := r.assignedToUserId.bind t.contexts.users.findUnique
    requestAttachments := t.attachments.filter (·.requestId = r.id) }

def mapAccessibleRequest (request : AccessibleMaintenanceRequest) (unit : PortfolioUnitRow) :
    PortfolioRequestRow where
  unit
  request := request.toMaintenanceRequest
  createdBy := .ofRow request.createdByUser
  assignedTo := request.assignedToUser.map .ofRow
  attachments := request.requestAttachments.map (·.toAttachmentInput)

/-- What the contexts are asked for. -/
def contextFields (row : PortfolioRequestRow) : RequestFields where
  id := row.request.id
  orgId := row.unit.orgId
  buildingId := row.unit.buildingId
  createdByUserId := row.createdBy.id
  createdAt := row.request.createdAt
  unitId := some row.unit.unitId
  occupancyIdAtCreation := row.request.occupancyIdAtCreation
  leaseIdAtCreation := row.request.leaseIdAtCreation

def unitScope : Id → Option PortfolioUnitRow := scopeMap t.holdings localeCompare userId none

/-- The keys of the map of the scope. -/
def unitKeys : List Id :=
  distinct (·.unitId) (loadAccessibleUnitScope t.holdings localeCompare userId none)

def inScope (r : MaintenanceRequest) : Bool :=
  r.unitId.any (· ∈ unitKeys t localeCompare userId)

def byCreation (r : MaintenanceRequest) : Date ×ₗ ι := toLex (r.createdAt, collate r.id)

/-- The row that a request is handed out as, unless it is passed over. -/
def accessibleRow (r : MaintenanceRequest) : Option PortfolioRequestRow := do
  let request ← includeRelations t r
  let unitId ← truthy request.unitId
  let unit ← unitScope t localeCompare userId unitId
  return mapAccessibleRequest request unit

def listAccessibleRequests : List (WithContexts PortfolioRequestRow) :=
  if (unitKeys t localeCompare userId).length = 0 then []
  else withRequesterContextList collate t.contexts contextFields now
    ((Regroup.findMany (byCreation collate) (inScope t localeCompare userId)
      t.maintenanceRequests.rows).filterMap (accessibleRow t localeCompare userId))

def requestNotFound : HttpException := .notFound "Request not found"

def getAccessibleRequestRowByIdOrThrow (requestId : Id) : Result PortfolioRequestRow := do
  Outcome.throwIf ((unitKeys t localeCompare userId).length = 0) requestNotFound
  let request ← Outcome.orThrow ((t.maintenanceRequests.findFirst fun r =>
      r.id = requestId ∧ inScope t localeCompare userId r).bind (includeRelations t))
    requestNotFound
  let unitId ← Outcome.orThrow (truthy request.unitId) requestNotFound
  let unit ← Outcome.orThrow (unitScope t localeCompare userId unitId) requestNotFound
  return mapAccessibleRequest request unit

def getAccessibleRequestById (requestId : Id) : Result (WithContexts PortfolioRequestRow) := do
  let request ← getAccessibleRequestRowByIdOrThrow t localeCompare userId requestId
  return withRequesterContext collate t.contexts contextFields now request

def listAccessibleRequestIds : List Id :=
  if (unitKeys t localeCompare userId).length = 0 then []
  else (t.maintenanceRequests.rows.filter (inScope t localeCompare userId)).map (·.id)

def findTenant (unitId : Id) : Option PortfolioUnitTenantRow := do
  let occupancy ← (Regroup.findMany (Maintenance.Enrichment.byCreation collate)
    (fun o => o.unitId = unitId ∧ o.status = .ACTIVE ∧ o.residentUser.isActive)
    t.contexts.occupancyRows).head?
  let tenant := occupancy.residentUser
  return ⟨occupancy.id, tenant.id, tenant.name, tenant.email, tenant.phone⟩

def getAccessibleUnitTenant (unitId : Id) : Result (Option PortfolioUnitTenantRow) := do
  let _ ← getAccessibleUnitOrThrow t.holdings localeCompare userId unitId
  return findTenant collate t unitId

end Requests

section Units

variable {t : Holdings} {localeCompare : String → String → Ordering} {userId ownerId unitId k : Id}
  {ownerIds : List Id} {filter : Option Id} {row : PortfolioUnitRow}

theorem mem_getAccessibleOwnerIds :
    ownerId ∈ getAccessibleOwnerIds t userId ↔ isReached t userId ownerId = true := by
  rw [getAccessibleOwnerIds, distinct, List.mem_eraseDups, List.mem_map, isReached,
    Bool.and_eq_true, List.any_eq_true]
  simp only [loadActiveOwnerGrantRows, List.mem_filter, decide_eq_true_eq]
  constructor
  · rintro ⟨g, ⟨hg, huser, hstatus, hactive⟩, rfl⟩
    exact ⟨hactive, g, hg, rfl, huser, hstatus⟩
  · rintro ⟨hactive, g, hg, rfl, huser, hstatus⟩
    exact ⟨g, ⟨hg, huser, hstatus, hactive⟩, rfl⟩

/-- The rows of a scope before one is kept for each unit. -/
def scopeRows (t : Holdings) (userId : Id) (filter : Option Id) : List PortfolioUnitRow :=
  ownershipRows t userId (getAccessibleOwnerIds t userId) filter ++
    fallbackUnits t userId (getAccessibleOwnerIds t userId) filter

theorem ownershipRows_filter (hunit : unitId ≠ "") :
    ownershipRows t userId ownerIds (some unitId) =
      (ownershipRows t userId ownerIds none).filter (·.unitId = unitId) := by
  rw [ownershipRows, ownershipRows, ← Regroup.filterMap_filter_key fun o : UnitOwnership => o.unitId]
  · have htruthy : truthy (some unitId) = some unitId := truthy_eq_some.mpr ⟨rfl, hunit⟩
    have hnone : truthy (none : Option Id) = none := rfl
    rw [htruthy, hnone]
    refine congrArg _ (List.filter_congr fun o _ => ?_)
    simp [Bool.and_assoc]
  · intro o row hrow
    obtain ⟨org, -, hrow⟩ := Option.bind_eq_some_iff.mp hrow
    obtain ⟨unit, hunit, hrow⟩ := Option.bind_eq_some_iff.mp hrow
    obtain ⟨building, -, hrow⟩ := Option.bind_eq_some_iff.mp hrow
    rw [← Option.some.inj hrow]
    exact (Table.findUnique_eq_some.mp hunit).2

theorem fallbackUnits_filter (hunit : unitId ≠ "") :
    fallbackUnits t userId ownerIds (some unitId) =
      (fallbackUnits t userId ownerIds none).filter (·.unitId = unitId) := by
  rw [fallbackUnits, fallbackUnits, ← Regroup.filterMap_filter_key fun u : UnitRow => u.id]
  · have htruthy : truthy (some unitId) = some unitId := truthy_eq_some.mpr ⟨rfl, hunit⟩
    have hnone : truthy (none : Option Id) = none := rfl
    rw [htruthy, hnone]
    refine congrArg _ (List.filter_congr fun u _ => ?_)
    simp [Bool.and_assoc]
  · intro u row hrow
    obtain ⟨ownerId, -, hrow⟩ := Option.bind_eq_some_iff.mp hrow
    obtain ⟨building, -, hrow⟩ := Option.bind_eq_some_iff.mp hrow
    obtain ⟨org, -, hrow⟩ := Option.bind_eq_some_iff.mp hrow
    rw [← Option.some.inj hrow]

/-- To ask for one unit changes nothing in what is known of it. -/
theorem entries_scopeRows :
    entries (·.unitId) (scopeRows t userId (some unitId)) unitId =
      entries (·.unitId) (scopeRows t userId none) unitId := by
  by_cases hunit : unitId = ""
  · subst hunit
    rfl
  · rw [scopeRows, ownershipRows_filter hunit, fallbackUnits_filter hunit, ← List.filter_append]
    exact Regroup.entries_filter fun row _ hrow => decide_eq_true hrow

theorem mem_load : row ∈ loadAccessibleUnitScope t localeCompare userId filter ↔
    entries (·.unitId) (scopeRows t userId filter) row.unitId = some row := by
  rw [loadAccessibleUnitScope]
  split_ifs with hnone
  · have hrows : scopeRows t userId filter = [] := by
      have hids := List.length_eq_zero_iff.mp hnone
      simp [scopeRows, ownershipRows, fallbackUnits, hids]
    rw [hrows]
    simp [Regroup.entries, Regroup.collect]
  · rw [normalizeAccessibleUnitRows, List.mem_insertionSort, Regroup.mem_values]
    rfl

theorem nodup_load :
    ((loadAccessibleUnitScope t localeCompare userId filter).map (·.unitId)).Nodup := by
  rw [loadAccessibleUnitScope]
  split_ifs
  · exact List.nodup_nil
  · exact ((List.perm_insertionSort _ _).map _).nodup_iff.mpr Regroup.nodup_values

theorem scopeMap_eq : scopeMap t localeCompare userId filter k =
    entries (·.unitId) (scopeRows t userId filter) k := by
  refine Option.ext fun row => ?_
  rw [scopeMap, Regroup.entries_of_nodup nodup_load, mem_load]
  constructor
  · rintro ⟨hrow, rfl⟩
    exact hrow
  · intro hrow
    have hk : row.unitId = k := (Regroup.mem_of_entries hrow).2
    exact ⟨hk.symm ▸ hrow, hk⟩

theorem scopeMap_eq_some : scopeMap t localeCompare userId filter k = some row ↔
    row ∈ loadAccessibleUnitScope t localeCompare userId filter ∧ row.unitId = k :=
  Regroup.entries_of_nodup nodup_load

theorem getAccessibleUnitOrThrow_eq_ok :
    getAccessibleUnitOrThrow t localeCompare userId unitId = .ok row ↔
      row ∈ listAccessibleUnits t localeCompare userId ∧ row.unitId = unitId := by
  rw [getAccessibleUnitOrThrow, Outcome.orThrow_eq_ok, scopeMap_eq, entries_scopeRows,
    ← @scopeMap_eq t localeCompare, scopeMap_eq_some, listAccessibleUnits]

end Units

section Views

variable {ι : Type*} [LinearOrder ι] {collate : Id ↪ ι} {t : Tables}
  {localeCompare : String → String → Ordering} {userId unitId requestId : Id} {now : Date}
  {r : MaintenanceRequest} {row : PortfolioRequestRow} {unit : PortfolioUnitRow}

theorem unitScope_eq_some : unitScope t localeCompare userId unitId = some unit ↔
    unit ∈ listAccessibleUnits t.holdings localeCompare userId ∧ unit.unitId = unitId :=
  scopeMap_eq_some

theorem mem_unitKeys : unitId ∈ unitKeys t localeCompare userId ↔
    ∃ unit, unitScope t localeCompare userId unitId = some unit := by
  simp only [unitScope_eq_some, unitKeys, distinct, List.mem_eraseDups, List.mem_map]
  rfl

theorem inScope_iff : inScope t localeCompare userId r = true ↔
    ∃ unitId unit, r.unitId = some unitId ∧ unitScope t localeCompare userId unitId = some unit := by
  rw [inScope, Option.any_eq_true]
  simp only [decide_eq_true_eq, mem_unitKeys, exists_and_left]

theorem unit_of_mem_load {filter : Option Id} {h : Holdings} {unit : PortfolioUnitRow}
    (hunit : unit ∈ loadAccessibleUnitScope h localeCompare userId filter) :
    ∃ u ∈ h.units, u.id = unit.unitId := by
  have hmem := (Regroup.mem_of_entries (mem_load.mp hunit)).1
  rcases List.mem_append.mp hmem with hmem | hmem
  · obtain ⟨o, -, hrow⟩ := List.mem_filterMap.mp hmem
    obtain ⟨org, -, hrow⟩ := Option.bind_eq_some_iff.mp hrow
    obtain ⟨u, hu, hrow⟩ := Option.bind_eq_some_iff.mp hrow
    obtain ⟨building, -, hrow⟩ := Option.bind_eq_some_iff.mp hrow
    rw [← Option.some.inj hrow]
    exact ⟨u, (Table.findUnique_eq_some.mp hu).1, rfl⟩
  · obtain ⟨u, hu, hrow⟩ := List.mem_filterMap.mp hmem
    obtain ⟨ownerId, -, hrow⟩ := Option.bind_eq_some_iff.mp hrow
    obtain ⟨building, -, hrow⟩ := Option.bind_eq_some_iff.mp hrow
    obtain ⟨org, -, hrow⟩ := Option.bind_eq_some_iff.mp hrow
    rw [← Option.some.inj hrow]
    exact ⟨u, (List.mem_filter.mp hu).1, rfl⟩

theorem ne_empty_of_unitScope (h : unitScope t localeCompare userId unitId = some unit) :
    unitId ≠ "" := by
  obtain ⟨hunit, rfl⟩ := unitScope_eq_some.mp h
  obtain ⟨u, hu, hid⟩ := unit_of_mem_load hunit
  intro hempty
  have huuid := t.unitUuid u hu
  rw [hid, hempty] at huuid
  revert huuid
  decide

theorem org_of_mem_load {filter : Option Id} {h : Holdings} {unit : PortfolioUnitRow}
    (hunit : unit ∈ loadAccessibleUnitScope h localeCompare userId filter) :
    ∃ o ∈ h.orgs, o.id = unit.orgId := by
  have hmem := (Regroup.mem_of_entries (mem_load.mp hunit)).1
  rcases List.mem_append.mp hmem with hmem | hmem
  · obtain ⟨o, -, hrow⟩ := List.mem_filterMap.mp hmem
    obtain ⟨org, horg, hrow⟩ := Option.bind_eq_some_iff.mp hrow
    obtain ⟨u, -, hrow⟩ := Option.bind_eq_some_iff.mp hrow
    obtain ⟨building, -, hrow⟩ := Option.bind_eq_some_iff.mp hrow
    rw [← Option.some.inj hrow]
    exact ⟨org, (Table.findUnique_eq_some.mp horg).1, rfl⟩
  · obtain ⟨u, -, hrow⟩ := List.mem_filterMap.mp hmem
    obtain ⟨ownerId, -, hrow⟩ := Option.bind_eq_some_iff.mp hrow
    obtain ⟨building, -, hrow⟩ := Option.bind_eq_some_iff.mp hrow
    obtain ⟨org, horg, hrow⟩ := Option.bind_eq_some_iff.mp hrow
    rw [← Option.some.inj hrow]
    exact ⟨org, (Table.findUnique_eq_some.mp horg).1, rfl⟩

theorem accessibleRow_eq_some (h : accessibleRow t localeCompare userId r = some row) :
    row.request = r ∧ row.createdBy.id = r.createdByUserId ∧
      ∃ unitId, truthy r.unitId = some unitId ∧
        unitScope t localeCompare userId unitId = some row.unit := by
  obtain ⟨request, hrelations, h⟩ := Option.bind_eq_some_iff.mp h
  obtain ⟨unitId, hunitId, h⟩ := Option.bind_eq_some_iff.mp h
  obtain ⟨unit, hunit, h⟩ := Option.bind_eq_some_iff.mp h
  obtain ⟨user, huser, hrelations⟩ := Option.bind_eq_some_iff.mp hrelations
  cases Option.some.inj hrelations
  cases Option.some.inj h
  exact ⟨rfl, (Table.findUnique_eq_some.mp huser).2, unitId, hunitId, hunit⟩

theorem exists_accessibleRow (hr : r ∈ t.maintenanceRequests)
    (hscope : inScope t localeCompare userId r = true) :
    ∃ row, accessibleRow t localeCompare userId r = some row := by
  obtain ⟨unitId, unit, hunitId, hunit⟩ := inScope_iff.mp hscope
  obtain ⟨user, huser⟩ := Option.isSome_iff_exists.mp (t.authored r hr)
  have htruthy : truthy r.unitId = some unitId :=
    truthy_eq_some.mpr ⟨hunitId, ne_empty_of_unitScope hunit⟩
  simp [accessibleRow, includeRelations, huser, htruthy, hunit]

/-- The rows of the listing before their contexts are attached. -/
def accessibleRows (collate : Id ↪ ι) (t : Tables) (localeCompare : String → String → Ordering)
    (userId : Id) : List PortfolioRequestRow :=
  (Regroup.findMany (byCreation collate) (inScope t localeCompare userId)
    t.maintenanceRequests.rows).filterMap (accessibleRow t localeCompare userId)

theorem mem_findMany : r ∈ Regroup.findMany (byCreation collate) (inScope t localeCompare userId)
      t.maintenanceRequests.rows ↔
    r ∈ t.maintenanceRequests ∧ inScope t localeCompare userId r = true := by
  rw [Regroup.findMany, Keyset.mem_sorted, List.mem_filter]
  rfl

theorem mem_accessibleRows : row ∈ accessibleRows collate t localeCompare userId ↔
    row.request ∈ t.maintenanceRequests ∧ inScope t localeCompare userId row.request = true ∧
      accessibleRow t localeCompare userId row.request = some row := by
  simp only [accessibleRows, List.mem_filterMap, mem_findMany]
  constructor
  · rintro ⟨r, ⟨hr, hscope⟩, hrow⟩
    obtain ⟨rfl, -⟩ := accessibleRow_eq_some hrow
    exact ⟨hr, hscope, hrow⟩
  · rintro ⟨hr, hscope, hrow⟩
    exact ⟨row.request, ⟨hr, hscope⟩, hrow⟩

theorem readTogether_accessibleRows : Maintenance.Enrichment.ReadTogether contextFields
    (accessibleRows collate t localeCompare userId) where
  rows a ha b hb hid := by
    obtain ⟨hr, -, hrow⟩ := mem_accessibleRows.mp ha
    obtain ⟨hr', -, hrow'⟩ := mem_accessibleRows.mp hb
    rw [Table.eq_of_key_eq hr hr' hid, hrow'] at hrow
    rw [Option.some.inj hrow]
  orgs a ha := by
    obtain ⟨-, -, hrow⟩ := mem_accessibleRows.mp ha
    obtain ⟨-, -, unitId, -, hunit⟩ := accessibleRow_eq_some hrow
    obtain ⟨o, ho, hid⟩ := org_of_mem_load (unitScope_eq_some.mp hunit).1
    have huuid := t.orgUuid o ho
    rwa [hid] at huuid

theorem accessibleRows_eq_nil (h : (unitKeys t localeCompare userId).length = 0) :
    accessibleRows collate t localeCompare userId = [] := by
  refine List.eq_nil_iff_forall_not_mem.mpr fun row hrow => ?_
  obtain ⟨unitId, unit, -, hunit⟩ := inScope_iff.mp (mem_accessibleRows.mp hrow).2.1
  have hkey := mem_unitKeys.mpr ⟨unit, hunit⟩
  rw [List.length_eq_zero_iff.mp h] at hkey
  cases hkey

/-- Each request of the listing has the contexts that it has alone. -/
theorem listAccessibleRequests_eq : listAccessibleRequests collate t localeCompare userId now =
    (accessibleRows collate t localeCompare userId).map
      (withRequesterContext collate t.contexts contextFields now) := by
  rw [listAccessibleRequests]
  split_ifs with hnone
  · rw [accessibleRows_eq_nil hnone, List.map_nil]
  · rw [withRequesterContextList]
    split
    next hnil =>
      have hrows : accessibleRows collate t localeCompare userId = [] :=
        List.length_eq_zero_iff.mp hnil
      rw [hrows, List.map_nil]
    next =>
      exact List.map_congr_left fun row hrow => readTogether_accessibleRows.attachContexts_eq hrow

theorem getAccessibleRequestRowByIdOrThrow_eq : getAccessibleRequestRowByIdOrThrow t localeCompare
      userId requestId =
    Outcome.orThrow ((t.maintenanceRequests.findFirst fun r =>
      r.id = requestId ∧ inScope t localeCompare userId r).bind
        (accessibleRow t localeCompare userId)) requestNotFound := by
  have hnone (h : (unitKeys t localeCompare userId).length = 0) (r : MaintenanceRequest) :
      inScope t localeCompare userId r = false := by
    refine Bool.eq_false_iff.mpr fun hscope => ?_
    obtain ⟨unitId, unit, -, hunit⟩ := inScope_iff.mp hscope
    have hkey := mem_unitKeys.mpr ⟨unit, hunit⟩
    rw [List.length_eq_zero_iff.mp h] at hkey
    cases hkey
  rw [getAccessibleRequestRowByIdOrThrow]
  by_cases hkeys : (unitKeys t localeCompare userId).length = 0
  · have hfind : t.maintenanceRequests.findFirst (fun r =>
        r.id = requestId ∧ inScope t localeCompare userId r) = none := by
      refine List.find?_eq_none.mpr fun r _ => ?_
      simp [hnone hkeys r]
    rw [hfind, Outcome.throwIf, if_pos hkeys]
    rfl
  · rw [(Outcome.throwIf_eq_ok (u := ())).mpr hkeys]
    simp only [accessibleRow, Option.bind_eq_bind, Outcome.orThrow_bind, bind_assoc]
    rfl

structure ViewsAgree (collate : Id ↪ ι) (t : Tables) (localeCompare : String → String → Ordering)
    (userId : Id) (now : Date) : Prop where
  unitsOnce : ((listAccessibleUnits t.holdings localeCompare userId).map (·.unitId)).Nodup
  unit : ∀ unitId unit, getAccessibleUnitOrThrow t.holdings localeCompare userId unitId = .ok unit ↔
    unit ∈ listAccessibleUnits t.holdings localeCompare userId ∧ unit.unitId = unitId
  tenant : ∀ unitId, (∃ tenant, getAccessibleUnitTenant collate t localeCompare userId unitId =
      .ok tenant) ↔
    ∃ unit ∈ listAccessibleUnits t.holdings localeCompare userId, unit.unitId = unitId
  request : ∀ requestId row,
    getAccessibleRequestById collate t localeCompare userId now requestId = .ok row ↔
      row ∈ listAccessibleRequests collate t localeCompare userId now ∧
        row.request.request.id = requestId
  refused : ∀ requestId e,
    getAccessibleRequestById collate t localeCompare userId now requestId = .error e →
      e = requestNotFound
  requestIds : ((listAccessibleRequests collate t localeCompare userId now).map
    (·.request.request.id)).Perm (listAccessibleRequestIds t localeCompare userId)
  requestsOnce : (listAccessibleRequestIds t localeCompare userId).Nodup
  reached : ∀ r ∈ t.maintenanceRequests,
    (∃ row, getAccessibleRequestById collate t localeCompare userId now r.id = .ok row) ↔
      ∃ unitId unit, r.unitId = some unitId ∧
        getAccessibleUnitOrThrow t.holdings localeCompare userId unitId = .ok unit

theorem getAccessibleUnitTenant_ok_iff :
    (∃ tenant, getAccessibleUnitTenant collate t localeCompare userId unitId = .ok tenant) ↔
      ∃ unit ∈ listAccessibleUnits t.holdings localeCompare userId, unit.unitId = unitId := by
  simp only [getAccessibleUnitTenant, Outcome.bind_eq_ok, Outcome.pure_eq_ok,
    getAccessibleUnitOrThrow_eq_ok]
  constructor
  · rintro ⟨tenant, unit, hunit, -⟩
    exact ⟨unit, hunit⟩
  · rintro ⟨unit, hunit⟩
    exact ⟨_, unit, hunit, rfl⟩

theorem getAccessibleRequestRowByIdOrThrow_eq_ok :
    getAccessibleRequestRowByIdOrThrow t localeCompare userId requestId = .ok row ↔
      row ∈ accessibleRows collate t localeCompare userId ∧ row.request.id = requestId := by
  rw [getAccessibleRequestRowByIdOrThrow_eq, Outcome.orThrow_eq_ok, Option.bind_eq_some_iff,
    mem_accessibleRows]
  constructor
  · rintro ⟨r, hfind, hrow⟩
    obtain ⟨hr, hp⟩ := Table.findFirst_some hfind
    obtain ⟨hid, hscope⟩ := of_decide_eq_true hp
    obtain ⟨rfl, -⟩ := accessibleRow_eq_some hrow
    exact ⟨⟨hr, hscope, hrow⟩, hid⟩
  · rintro ⟨⟨hr, hscope, hrow⟩, hid⟩
    refine ⟨row.request, Table.findFirst_eq_some hr (decide_eq_true ⟨hid, hscope⟩) ?_, hrow⟩
    exact fun r' hr' => (of_decide_eq_true hr').1.trans hid.symm

theorem getAccessibleRequestById_eq_ok {row : WithContexts PortfolioRequestRow} :
    getAccessibleRequestById collate t localeCompare userId now requestId = .ok row ↔
      row ∈ listAccessibleRequests collate t localeCompare userId now ∧
        row.request.request.id = requestId := by
  simp only [getAccessibleRequestById, Outcome.bind_eq_ok, Outcome.pure_eq_ok,
    @getAccessibleRequestRowByIdOrThrow_eq_ok _ _ collate, listAccessibleRequests_eq,
    List.mem_map]
  constructor
  · rintro ⟨inner, ⟨hinner, hid⟩, rfl⟩
    exact ⟨⟨inner, hinner, rfl⟩, hid⟩
  · rintro ⟨⟨inner, hinner, rfl⟩, hid⟩
    exact ⟨inner, ⟨hinner, hid⟩, rfl⟩

theorem getAccessibleRequestById_refused {e : HttpException}
    (h : getAccessibleRequestById collate t localeCompare userId now requestId = .error e) :
    e = requestNotFound := by
  rw [getAccessibleRequestById, getAccessibleRequestRowByIdOrThrow_eq] at h
  cases hrow : (t.maintenanceRequests.findFirst fun r =>
      r.id = requestId ∧ inScope t localeCompare userId r).bind
        (accessibleRow t localeCompare userId) with
  | none =>
    rw [hrow] at h
    cases h
    rfl
  | some row =>
    rw [hrow] at h
    cases h

theorem map_id_accessibleRows : (accessibleRows collate t localeCompare userId).map (·.request.id) =
    (Regroup.findMany (byCreation collate) (inScope t localeCompare userId)
      t.maintenanceRequests.rows).map (·.id) := by
  have hrows : ∀ r ∈ Regroup.findMany (byCreation collate) (inScope t localeCompare userId)
      t.maintenanceRequests.rows,
      (accessibleRow t localeCompare userId r).map (·.request.id) = some r.id := by
    intro r hr
    obtain ⟨hmem, hscope⟩ := mem_findMany.mp hr
    obtain ⟨row, hrow⟩ := exists_accessibleRow hmem hscope
    rw [hrow, Option.map_some, (accessibleRow_eq_some hrow).1]
  rw [accessibleRows, List.map_filterMap, List.filterMap_congr hrows, List.filterMap_eq_map']

theorem listAccessibleRequestIds_eq : listAccessibleRequestIds t localeCompare userId =
    (t.maintenanceRequests.rows.filter (inScope t localeCompare userId)).map (·.id) := by
  rw [listAccessibleRequestIds]
  split_ifs with hnone
  · have hnil : t.maintenanceRequests.rows.filter (inScope t localeCompare userId) = [] := by
      refine List.filter_eq_nil_iff.mpr fun r _ hscope => ?_
      obtain ⟨unitId, unit, -, hunit⟩ := inScope_iff.mp hscope
      have hkey := mem_unitKeys.mpr ⟨unit, hunit⟩
      rw [List.length_eq_zero_iff.mp hnone] at hkey
      cases hkey
    rw [hnil, List.map_nil]
  · rfl

theorem perm_requestIds : ((listAccessibleRequests collate t localeCompare userId now).map
      (·.request.request.id)).Perm (listAccessibleRequestIds t localeCompare userId) := by
  rw [listAccessibleRequests_eq, List.map_map, listAccessibleRequestIds_eq]
  have hmap : ((fun row : WithContexts PortfolioRequestRow => row.request.request.id) ∘
      withRequesterContext collate t.contexts contextFields now) = (·.request.id) := rfl
  rw [hmap, map_id_accessibleRows]
  exact Keyset.perm_sorted.map _

end Views

end Towerdesk.Owners.Portfolio
