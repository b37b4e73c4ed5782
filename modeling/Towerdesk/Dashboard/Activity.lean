import Towerdesk.Lib.LocalTime
import Towerdesk.Lib.Table
import Towerdesk.Lib.TimeFeed
import Towerdesk.Lib.TopOf
import Towerdesk.Maintenance.Constants
import Towerdesk.Parking.Slots
import Towerdesk.Tenancy
import Towerdesk.Visitors.Service

/-!
# The activity feed

The columns that the dashboard selects come with the names and labels that its queries read
through the relations of a row; the database keeps every instant in UTC.
Eight queries each read the latest rows of one kind from the start of the window on; their
items are merged, sorted and cut. The feed lists the latest of all eight kinds together. The
window has no end, so it is the latest of what has happened exactly when nothing of the
organisation is dated after now.
-/

namespace Towerdesk.Dashboard

open Maintenance (MaintenanceRequestStatus)
open Parking (ParkingSlotType)
open Visitors (VisitorStatus VisitorType)

structure Building where
  id : Id
  orgId : Id
  name : String
deriving DecidableEq

structure BuildingName where
  name : String
deriving DecidableEq

structure UnitLabel where
  label : String
deriving DecidableEq

structure SlotCode where
  code : String
  type : ParkingSlotType
deriving DecidableEq

structure MaintenanceRequest where
  id : Id
  orgId : Id
  buildingId : Id
  title : String
  status : MaintenanceRequestStatus
  createdAt : Date
  completedAt : Option Date
  canceledAt : Option Date
  building : Option BuildingName
  unit : Option UnitLabel
deriving DecidableEq

structure Visitor where
  id : Id
  orgId : Id
  buildingId : Id
  visitorName : String
  type : VisitorType
  status : VisitorStatus
  createdAt : Date
  building : Option BuildingName
  unit : Option UnitLabel
deriving DecidableEq

structure Broadcast where
  id : Id
  orgId : Id
  title : String
  recipientCount : ℤ
  buildingIds : List Id
  createdAt : Date
deriving DecidableEq

structure ParkingAllocation where
  id : Id
  orgId : Id
  buildingId : Id
  createdAt : Date
  endDate : Option Date
  building : Option BuildingName
  parkingSlot : SlotCode
deriving DecidableEq

structure Lease where
  id : Id
  orgId : Id
  buildingId : Id
  status : LeaseStatus
  createdAt : Date
  building : Option BuildingName
  unit : Option UnitLabel
deriving DecidableEq

structure UnitRow where
  id : Id
  buildingId : Id

structure Occupancy where
  id : Id
  buildingId : Id
  status : OccupancyStatus

structure ParkingSlot where
  id : Id
  orgId : Id
  buildingId : Id

structure Notification where
  id : Id
  orgId : Id
  recipientUserId : Id
  readAt : Option Date

structure Db where
  buildings : Table Building.id
  units : Table UnitRow.id
  occupancies : Table Occupancy.id
  leases : Table Lease.id
  maintenanceRequests : Table MaintenanceRequest.id
  visitors : Table Visitor.id
  broadcasts : Table Broadcast.id
  parkingSlots : Table ParkingSlot.id
  parkingAllocations : Table ParkingAllocation.id
  notifications : Table Notification.id

def DASHBOARD_TREND_DAYS : ℕ := 30

def DASHBOARD_ACTIVITY_DAYS : ℤ := 14

def DASHBOARD_ACTIVITY_LIMIT : ℤ := 20

def DASHBOARD_MAINTENANCE_OVERDUE_HOURS : ℤ := 72

end Towerdesk.Dashboard

namespace Towerdesk.Dashboard

open LocalTime (Zone)
open Maintenance (MaintenanceRequestStatus)
open Parking (ParkingSlotType)
open Visitors (VisitorStatus VisitorType)

inductive ActivityMetadata
  | maintenance (status : MaintenanceRequestStatus)
  | visitor (status : VisitorStatus) (visitorType : VisitorType)
  | broadcast (recipientCount : ℤ) (buildingIds : List Id)
  | parking (slotCode : String) (slotType : ParkingSlotType)
  | lease (status : LeaseStatus)
deriving DecidableEq

structure DashboardActivityItemDto where
  type : String
  title : String
  description : Option String
  entityType : String
  entityId : Id
  buildingId : Option Id
  buildingName : Field String
  occurredAt : Date
  metadata : ActivityMetadata
deriving DecidableEq

structure DashboardActivityResponseDto where
  items : List DashboardActivityItemDto
  nextCursor : Option String
deriving DecidableEq

structure Env where
  zone : Zone
  now : Date

def nullable (name : Option String) : Field String := name.elim .null .value

def formatLocation (buildingName unitLabel : Option String) : Option String :=
  match truthy buildingName, truthy unitLabel with
  | some building, some unit => some (building ++ " - Unit " ++ unit)
  | some building, none => some building
  | none, some unit => some ("Unit " ++ unit)
  | none, none => none

section Items

def maintenanceItem (type verb : String) (request : MaintenanceRequest) (occurredAt : Date) :
    DashboardActivityItemDto where
  type := type
  title := "Maintenance request " ++ verb ++ ": " ++ request.title
  description := formatLocation (request.building.map (·.name)) (request.unit.map (·.label))
  entityType := "maintenance_request"
  entityId := request.id
  buildingId := some request.buildingId
  buildingName := nullable (request.building.map (·.name))
  occurredAt := occurredAt
  metadata := .maintenance request.status

def maintenanceCreated := maintenanceItem "maintenance.created" "created"

def maintenanceCompleted := maintenanceItem "maintenance.completed" "completed"

def maintenanceCanceled := maintenanceItem "maintenance.canceled" "canceled"

def visitorCreated (visitor : Visitor) (occurredAt : Date) : DashboardActivityItemDto where
  type := "visitor.created"
  title := "Visitor registered: " ++ visitor.visitorName
  description := formatLocation (visitor.building.map (·.name)) (visitor.unit.map (·.label))
  entityType := "visitor"
  entityId := visitor.id
  buildingId := some visitor.buildingId
  buildingName := nullable (visitor.building.map (·.name))
  occurredAt := occurredAt
  metadata := .visitor visitor.status visitor.type

def broadcastCreated (broadcast : Broadcast) (occurredAt : Date) : DashboardActivityItemDto where
  type := "broadcast.created"
  title := "Broadcast sent: " ++ broadcast.title
  description := some ("Recipients: " ++ toString broadcast.recipientCount)
  entityType := "broadcast"
  entityId := broadcast.id
  buildingId := none
  buildingName := .undefined
  occurredAt := occurredAt
  metadata := .broadcast broadcast.recipientCount broadcast.buildingIds

def parkingItem (type verb : String) (allocation : ParkingAllocation) (occurredAt : Date) :
    DashboardActivityItemDto where
  type := type
  title := "Parking allocation " ++ verb ++ ": " ++ allocation.parkingSlot.code
  description := allocation.building.map (·.name)
  entityType := "parking_allocation"
  entityId := allocation.id
  buildingId := some allocation.buildingId
  buildingName := nullable (allocation.building.map (·.name))
  occurredAt := occurredAt
  metadata := .parking allocation.parkingSlot.code allocation.parkingSlot.type

def parkingAllocated := parkingItem "parking.allocated" "created"

def parkingEnded := parkingItem "parking.ended" "ended"

def leaseCreated (lease : Lease) (occurredAt : Date) : DashboardActivityItemDto where
  type := "lease.created"
  title := "Lease created"
  description := formatLocation (lease.building.map (·.name)) (lease.unit.map (·.label))
  entityType := "lease"
  entityId := lease.id
  buildingId := some lease.buildingId
  buildingName := nullable (lease.building.map (·.name))
  occurredAt := occurredAt
  metadata := .lease lease.status

end Items

section Queries

variable {α : Type}

/-- The rows that have a value in the column, with that value. -/
def occurrences (rows : List α) (column : α → Option Date) : List (α × Date) :=
  rows.filterMap fun row => (column row).map (Prod.mk row)

/-- `findMany` with `gte` on a column, in descending order of it. -/
def findSince (start : Date) (take : ℕ) (rows : List α) (column : α → Option Date) :
    List (α × Date) :=
  TopOf.latest Prod.snd take ((occurrences rows column).filter fun row => start ≤ row.2)

end Queries

/-- The eight kinds of items, each from what `read` finds in the organisation's rows. -/
def kinds (read : ∀ {α : Type}, List α → (α → Option Date) → List (α × Date)) (db : Db) (orgId : Id) :
    List (List DashboardActivityItemDto) :=
  let requests := db.maintenanceRequests.rows.filter (·.orgId = orgId)
  let visitors := db.visitors.rows.filter (·.orgId = orgId)
  let broadcasts := db.broadcasts.rows.filter (·.orgId = orgId)
  let allocations := db.parkingAllocations.rows.filter (·.orgId = orgId)
  let leases := db.leases.rows.filter (·.orgId = orgId)
  [(read requests (some ·.createdAt)).map maintenanceCreated.uncurry,
    (read requests (·.completedAt)).map maintenanceCompleted.uncurry,
    (read requests (·.canceledAt)).map maintenanceCanceled.uncurry,
    (read visitors (some ·.createdAt)).map visitorCreated.uncurry,
    (read broadcasts (some ·.createdAt)).map broadcastCreated.uncurry,
    (read allocations (some ·.createdAt)).map parkingAllocated.uncurry,
    (read allocations (·.endDate)).map parkingEnded.uncurry,
    (read leases (some ·.createdAt)).map leaseCreated.uncurry]

section Service

variable (env : Env) (db : Db)

def activityStart : Date := env.zone.addDays env.now (-DASHBOARD_ACTIVITY_DAYS)

def safeLimit (limit : Option ℤ) : ℕ := TimeFeed.pageLimit DASHBOARD_ACTIVITY_LIMIT 100 limit

theorem safeLimit_pos {limit : Option ℤ} : 0 < safeLimit limit :=
  TimeFeed.pageLimit_pos (by decide)

def getActivity (user : Option AuthenticatedUser) (limit : Option ℤ) :
    Result DashboardActivityResponseDto := do
  let orgId ← assertOrgScope user
  let _ ← assertUserId user
  let items := (kinds (findSince (activityStart env) (safeLimit limit)) db orgId).flatten
  pure ⟨TopOf.latest (·.occurredAt) (safeLimit limit) items, none⟩

end Service

section Feed

variable {env : Env} {db : Db} {orgId : Id} {start : Date} {take : ℕ}

/-- All that the eight kinds tell of the organisation, whenever it happens. -/
def events (db : Db) (orgId : Id) : List DashboardActivityItemDto :=
  (kinds occurrences db orgId).flatten

def inWindow (start : Date) (event : DashboardActivityItemDto) : Bool := start ≤ event.occurredAt

theorem map_findSince {α : Type} (rows : List α) (column : α → Option Date)
    {item : α → Date → DashboardActivityItemDto} (hitem : ∀ row t, (item row t).occurredAt = t) :
    (findSince start take rows column).map item.uncurry =
      TopOf.latest (·.occurredAt) take
        (((occurrences rows column).map item.uncurry).filter (inWindow start)) := by
  have hdate : (·.occurredAt) ∘ item.uncurry = Prod.snd := funext fun row => hitem row.1 row.2
  have hwindow : inWindow start ∘ item.uncurry = fun row => decide (start ≤ row.2) :=
    funext fun row => congrArg (fun t => decide (start ≤ t)) (hitem row.1 row.2)
  rw [findSince, List.filter_map, hwindow, TopOf.latest_map, hdate]

theorem kinds_findSince :
    kinds (findSince start take) db orgId =
      ((kinds occurrences db orgId).map (·.filter (inWindow start))).map
        (TopOf.latest (·.occurredAt) take) := by
  simp only [kinds, List.map_cons, List.map_nil]
  rw [map_findSince _ _ fun _ _ => rfl, map_findSince _ _ fun _ _ => rfl,
    map_findSince _ _ fun _ _ => rfl, map_findSince _ _ fun _ _ => rfl,
    map_findSince _ _ fun _ _ => rfl, map_findSince _ _ fun _ _ => rfl,
    map_findSince _ _ fun _ _ => rfl, map_findSince _ _ fun _ _ => rfl]

end Feed

section Results

variable {env : Env} {db : Db} {user : Option AuthenticatedUser} {orgId : Id} {limit : Option ℤ}
  {response : DashboardActivityResponseDto}

/-- The feed is the latest of all eight kinds from the start of the window on. -/
theorem getActivity_items (hscope : assertOrgScope user = .ok orgId)
    (hdistinct : ((events db orgId).map (·.occurredAt)).Nodup)
    (h : getActivity env db user limit = .ok response) :
    response.items = TopOf.latest (·.occurredAt) (safeLimit limit)
      ((events db orgId).filter (inWindow (activityStart env))) := by
  unfold getActivity at h
  obtain ⟨orgId', horg, h⟩ := Outcome.bind_eq_ok.mp h
  obtain ⟨-, -, h⟩ := Outcome.bind_eq_ok.mp h
  obtain rfl := Except.ok.inj (hscope.symm.trans horg)
  obtain rfl := Outcome.pure_eq_ok.mp h
  have hflatten : ((kinds occurrences db orgId).map (·.filter (inWindow (activityStart env)))).flatten =
      (events db orgId).filter (inWindow (activityStart env)) := List.filter_flatten.symm
  have hnodup := hdistinct.sublist
    ((List.filter_sublist (p := inWindow (activityStart env))).map (·.occurredAt))
  rw [← hflatten] at hnodup ⊢
  rw [kinds_findSince]
  exact TopOf.latest_merge hnodup

theorem activityStart_le : activityStart env ≤ env.now := by
  have hlt := env.zone.addDays_lt env.now (-DASHBOARD_ACTIVITY_DAYS)
  have hdays : (-DASHBOARD_ACTIVITY_DAYS + 2) * IsoDate.msPerDay = -1036800000 := by decide
  rw [hdays] at hlt
  have hle : env.zone.addDays env.now (-DASHBOARD_ACTIVITY_DAYS) ≤ env.now := by omega
  exact hle

/-- What happened between the start of the window and now. -/
def happened (env : Env) (db : Db) (orgId : Id) : List DashboardActivityItemDto :=
  (events db orgId).filter fun event => activityStart env ≤ event.occurredAt ∧ event.occurredAt ≤ env.now

/-- The feed lists the latest of what has happened exactly when nothing is dated after now. -/
theorem getActivity_isLatest_iff (hscope : assertOrgScope user = .ok orgId)
    (hdistinct : ((events db orgId).map (·.occurredAt)).Nodup)
    (h : getActivity env db user limit = .ok response) :
    TopOf.IsLatest (·.occurredAt) (safeLimit limit) (happened env db orgId) response.items ↔
      ∀ event ∈ events db orgId, event.occurredAt ≤ env.now := by
  have hnodup := hdistinct.sublist
    ((List.filter_sublist (p := inWindow (activityStart env))).map (·.occurredAt))
  have hhappened : happened env db orgId =
      ((events db orgId).filter (inWindow (activityStart env))).filter
        fun event => event.occurredAt ≤ env.now := by
    rw [happened, List.filter_filter]
    refine List.filter_congr fun event _ => ?_
    rw [inWindow, Bool.decide_and, Bool.and_comm]
  rw [getActivity_items hscope hdistinct h, hhappened,
    TopOf.isLatest_filter_iff hnodup safeLimit_pos ?_]
  · simp only [List.mem_filter, inWindow, decide_eq_true_eq]
    constructor
    · intro hnow event hevent
      by_contra hlater
      have hwindow : activityStart env ≤ event.occurredAt :=
        activityStart_le.trans (not_le.mp hlater).le
      exact hlater (hnow event ⟨hevent, hwindow⟩)
    · intro hnow event hevent
      exact hnow event hevent.1
  · intro a _ b _ hab hb
    simp only [decide_eq_true_eq] at hb ⊢
    exact hab.trans hb

end Results

section GivenUpTomorrow

theorem dubaiOffset_lt : -IsoDate.msPerDay < 14400000 ∧ 14400000 < IsoDate.msPerDay := by decide

/-- Noon in Dubai on 3 April 2026. -/
def noon : Env where
  zone := .fixed 14400000 dubaiOffset_lt
  now := 1775203200000

def dashboardUser : AuthenticatedUser := ⟨"manager", some "org"⟩

/-- A slot taken an hour before noon, whose allocation ends at the given time. -/
def slotUntil (endDate : Date) : ParkingAllocation where
  id := "allocation"
  orgId := "org"
  buildingId := "tower"
  createdAt := 1775199600000
  endDate := some endDate
  building := some ⟨"Alpha Tower"⟩
  parkingSlot := ⟨"A-12", .CAR⟩

def oneSlot (endDate : Date) : Db where
  buildings := .empty _
  units := .empty _
  occupancies := .empty _
  leases := .empty _
  maintenanceRequests := .empty _
  visitors := .empty _
  broadcasts := .empty _
  parkingSlots := .empty _
  parkingAllocations := ⟨[slotUntil endDate], List.nodup_singleton _⟩
  notifications := .empty _

/-- An allocation that ended half an hour ago is listed as the latest. -/
theorem ended_slot_isLatest :
    TopOf.IsLatest (·.occurredAt) (safeLimit none) (happened noon (oneSlot 1775201400000) "org")
      [parkingEnded (slotUntil 1775201400000) 1775201400000,
        parkingAllocated (slotUntil 1775201400000) 1775199600000] :=
  (@getActivity_isLatest_iff noon (oneSlot 1775201400000) (some dashboardUser) "org" none ⟨_, none⟩
    rfl (by decide) rfl).mpr (by decide)

/-- An allocation that is given up from tomorrow on is listed as ended now. -/
theorem slot_given_up_tomorrow_is_listed :
    assertOrgScope (some dashboardUser) = .ok "org" ∧
      ((events (oneSlot 1775289600000) "org").map (·.occurredAt)).Nodup ∧
      ∃ response, getActivity noon (oneSlot 1775289600000) (some dashboardUser) none = .ok response ∧
        (∃ event ∈ response.items, noon.now < event.occurredAt) ∧
        ¬ TopOf.IsLatest (·.occurredAt) (safeLimit none) (happened noon (oneSlot 1775289600000) "org")
          response.items := by
  refine ⟨rfl, by decide, ⟨_, none⟩, rfl, by decide, fun h => ?_⟩
  exact absurd h.length_eq (by decide)

end GivenUpTomorrow

end Towerdesk.Dashboard
