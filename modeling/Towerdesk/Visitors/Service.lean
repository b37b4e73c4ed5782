import Towerdesk.Delivery.Services
import Towerdesk.Leases.Store
import Towerdesk.Lib.Script
import Mathlib.Data.List.Sort

/-!
# Visitors

The management of a building edits its visitors, and a resident edits and cancels those of
the unit; a visitor who arrives is announced to the resident of the unit. Each call of the
repository is a step of its own.
-/

namespace Towerdesk.Visitors

open Delivery (NotificationInput JsonValue)
open Script (query atomic throwIf)

inductive VisitorStatus
  | EXPECTED | ARRIVED | COMPLETED | CANCELLED
deriving DecidableEq, Repr

inductive VisitorType
  | GUEST_VISITOR | DELIVERY_RIDER | COURIER_PARCEL | SERVICE_PROVIDER | MAINTENANCE_TECHNICIAN
  | HOUSEKEEPING_CLEANER | CONTRACTOR_WORKER | DRIVER_PICKUP | SECURITY_STAFF_EXTERNAL | OTHER
deriving DecidableEq, Repr

structure Visitor where
  id : Id
  orgId : Id
  buildingId : Id
  unitId : Id
  type : VisitorType
  status : VisitorStatus
  visitorName : String
  phoneNumber : String
  emiratesId : Option String
  vehicleNumber : Option String
  expectedArrivalAt : Option Date
  notes : Option String
  createdAt : Date
  updatedAt : Date
deriving DecidableEq

/-- A resident is a user, whose id is never empty. -/
structure Db where
  buildings : Table Building.id
  units : Table UnitRow.id
  occupancies : Leases.OccupancyTable
  residentIds : ∀ o ∈ occupancies, o.residentUserId ≠ ""
  visitors : Table Visitor.id
  notifications : List NotificationInput

structure Env where
  now : Date
  parseDate : String → Option Date

abbrev Call := Script Db HttpException

structure UpdateResidentVisitorDto where
  type : Field VisitorType
  visitorName : Field String
  phoneNumber : Field String
  emiratesId : Field String
  vehicleNumber : Field String
  expectedArrivalAt : Field String
  notes : Field String
deriving DecidableEq

structure UpdateVisitorDto extends UpdateResidentVisitorDto where
  unitId : Field Id
  status : Field VisitorStatus
deriving DecidableEq

/-- The columns that an update sets. -/
structure VisitorUpdateInput where
  type : Option VisitorType := none
  status : Option VisitorStatus := none
  visitorName : Option String := none
  phoneNumber : Option String := none
  emiratesId : Field String := .undefined
  vehicleNumber : Field String := .undefined
  expectedArrivalAt : Field Date := .undefined
  notes : Field String := .undefined
  unitId : Option Id := none
deriving DecidableEq

structure VisitorWithRelations where
  visitor : Visitor
  unitLabel : String
  occupancies : List Occupancy
deriving DecidableEq

section Updates

variable (env : Env)

/-- A column that cannot be null. -/
def required {α : Type} : Field α → Result (Option α)
  | .undefined => .ok none
  | .null => .error (.internal "Argument must not be null")
  | .value a => .ok (some a)

def arrivalField : Field String → Result (Field Date)
  | .undefined => .ok .undefined
  | .null => .ok .null
  | .value text =>
    if text = "" then .ok .null
    else Field.value <$> Outcome.orThrow (env.parseDate text) (.internal "Invalid Date")

def mapResidentVisitorUpdate (dto : UpdateResidentVisitorDto) : Result VisitorUpdateInput := do
  let type ← required dto.type
  let visitorName ← required dto.visitorName
  let phoneNumber ← required dto.phoneNumber
  let expectedArrivalAt ← arrivalField env dto.expectedArrivalAt
  return {
    type
    visitorName
    phoneNumber
    emiratesId := dto.emiratesId
    vehicleNumber := dto.vehicleNumber
    expectedArrivalAt
    notes := dto.notes }

def mapVisitorUpdate (dto : UpdateVisitorDto) : Result VisitorUpdateInput := do
  let data ← mapResidentVisitorUpdate env dto.toUpdateResidentVisitorDto
  let status ← required dto.status
  let unitId ← required dto.unitId
  return { data with status, unitId }

def VisitorUpdateInput.patch (data : VisitorUpdateInput) : Patch Visitor.id where
  apply v := { v with
    type := data.type.getD v.type
    status := data.status.getD v.status
    visitorName := data.visitorName.getD v.visitorName
    phoneNumber := data.phoneNumber.getD v.phoneNumber
    emiratesId := nullableColumn data.emiratesId v.emiratesId
    vehicleNumber := nullableColumn data.vehicleNumber v.vehicleNumber
    expectedArrivalAt := nullableColumn data.expectedArrivalAt v.expectedArrivalAt
    notes := nullableColumn data.notes v.notes
    unitId := data.unitId.getD v.unitId
    updatedAt := env.now }
  key_apply _ := rfl

end Updates

namespace Db

variable (db : Db)

def activeOccupancies (unitId : Id) : List Occupancy :=
  db.occupancies.table.rows.filter fun o => o.unitId = unitId ∧ o.status = .ACTIVE

/-- `visitorInclude`. -/
def visitorInclude (visitor : Visitor) : VisitorWithRelations where
  visitor
  unitLabel := ((db.units.findUnique visitor.unitId).map (·.label)).getD ""
  occupancies := ((db.activeOccupancies visitor.unitId).insertionSort
    fun a b => b.createdAt ≤ a.createdAt).take 1

def findByIdForBuilding (buildingId visitorId : Id) : Option Visitor :=
  db.visitors.findFirst fun v => v.id = visitorId ∧ v.buildingId = buildingId

def findByIdForUnitWithUnit (unitId visitorId : Id) : Option VisitorWithRelations :=
  (db.visitors.findFirst fun v => v.id = visitorId ∧ v.unitId = unitId).map db.visitorInclude

def findUnitForBuilding (buildingId unitId : Id) : Option UnitRow :=
  db.units.findFirst fun u => u.id = unitId ∧ u.buildingId = buildingId

def findBuildingForOrg (orgId buildingId : Id) : Option Building :=
  db.buildings.findFirst fun b => b.id = buildingId ∧ b.orgId = orgId

end Db

section VisitorsService

variable (env : Env) (user : Option AuthenticatedUser) (visitorId : Id)

/-- The statement of `VisitorsRepo.update`; a unit that is not there breaks a foreign key. -/
def updateStatement (data : VisitorUpdateInput) : EStateM HttpException Db VisitorWithRelations :=
  fun db =>
    match db.visitors.findUnique visitorId with
    | none => .error (.internal "Record not found") db
    | some v =>
      if data.unitId.all fun id => (db.units.findUnique id).isSome then
        .ok (db.visitorInclude ((data.patch env).apply v))
          { db with visitors := db.visitors.modify visitorId (data.patch env) }
      else .error (.internal "Foreign key constraint violated") db

def repoUpdate (data : VisitorUpdateInput) : Call VisitorWithRelations :=
  atomic (updateStatement env visitorId data)

def createNotification (n : NotificationInput) : Call Unit :=
  atomic fun db => .ok () { db with notifications := db.notifications ++ [n] }

/-- The rows are created one by one. -/
def createForUsers (userIds : List Id) (notification : Id → NotificationInput) : Call Unit :=
  let uniqueUserIds := userIds.eraseDups.filter (· ≠ "")
  if uniqueUserIds = [] then return ()
  else do
    let _ ← Script.collect createNotification (uniqueUserIds.map notification)
    return ()

def statusText : VisitorStatus → String
  | .EXPECTED => "EXPECTED"
  | .ARRIVED => "ARRIVED"
  | .COMPLETED => "COMPLETED"
  | .CANCELLED => "CANCELLED"

def arrivalNotification (arrived : VisitorWithRelations) (recipientUserId : Id) :
    NotificationInput where
  orgId := arrived.visitor.orgId
  recipientUserId
  type := .VISITOR_ARRIVED
  title := "Visitor arrived"
  body := some (arrived.visitor.visitorName ++ " has arrived at unit " ++ arrived.unitLabel)
  data := [("visitorId", .string arrived.visitor.id),
    ("buildingId", .string arrived.visitor.buildingId),
    ("unitId", .string arrived.visitor.unitId),
    ("status", .string (statusText arrived.visitor.status)),
    ("visitorName", .string arrived.visitor.visitorName),
    ("actorUserId", (user.map (·.sub)).elim (.document "null") JsonValue.string)]

def recipientsOf (visitor : VisitorWithRelations) : List Id :=
  ((visitor.occupancies.map (·.residentUserId)).filter (· ≠ "")).eraseDups

def notifyResidentsOnArrival (previousStatus : VisitorStatus) (visitor : VisitorWithRelations) :
    Call Unit :=
  if previousStatus = .ARRIVED ∨ visitor.visitor.status ≠ .ARRIVED then return ()
  else if recipientsOf visitor = [] then return ()
  else createForUsers (recipientsOf visitor) (arrivalNotification user visitor)

/-- The end of `update`, once the visitor has been read. -/
def writeAndNotify (data : VisitorUpdateInput) (previousStatus : VisitorStatus) :
    Call VisitorWithRelations := do
  let updated ← repoUpdate env visitorId data
  notifyResidentsOnArrival user previousStatus updated
  return updated

def checkUnit (buildingId : Id) : Field Id → Db → Result Unit
  | .undefined, _ => .ok ()
  | .null, _ => .error (.internal "Argument must not be null")
  | .value unitId, db =>
    Outcome.throwIf (db.findUnitForBuilding buildingId unitId).isNone
      (.badRequest "Unit not in building")

/-- Without a unit in the body none is looked up. -/
def assertUnit (buildingId : Id) (unitId : Field Id) : Call Unit :=
  if unitId.isUndefined then return () else query (checkUnit buildingId unitId)

def update (buildingId : Id) (dto : UpdateVisitorDto) : Call VisitorWithRelations := do
  let orgId ← Script.done (assertOrgScope user)
  let _ ← query fun db =>
    Outcome.orThrow (db.findBuildingForOrg orgId buildingId) (.notFound "Building not found")
  let existing ← query fun db =>
    Outcome.orThrow (db.findByIdForBuilding buildingId visitorId) (.notFound "Visitor not found")
  assertUnit buildingId dto.unitId
  let data ← Script.done (mapVisitorUpdate env dto)
  writeAndNotify env user visitorId data existing.status

def activeOccupancyOf (orgId userId : Id) (db : Db) : Result Occupancy :=
  match db.occupancies.table.rows.filter fun o => o.residentUserId = userId ∧ o.status = .ACTIVE ∧
    (db.buildings.findUnique o.buildingId).any (·.orgId = orgId) with
  | [] => .error (.conflict "Resident must have an active occupancy to manage visitors")
  | [o] => .ok o
  | _ => .error (.conflict "Resident must have exactly one active occupancy to manage visitors")

def getResidentActiveOccupancy : Call Occupancy := do
  let orgId ← Script.done (assertOrgScope user)
  let userId ← Script.orThrow (truthy (user.map (·.sub)))
    (.conflict "Resident must have an active occupancy to manage visitors")
  query (activeOccupancyOf orgId userId)

def getResident : Call VisitorWithRelations := do
  let occupancy ← getResidentActiveOccupancy user
  query fun db => Outcome.orThrow (db.findByIdForUnitWithUnit occupancy.unitId visitorId)
    (.notFound "Visitor not found")

def updateResident (dto : UpdateResidentVisitorDto) : Call VisitorWithRelations := do
  let visitor ← getResident user visitorId
  let data ← Script.done (mapResidentVisitorUpdate env dto)
  repoUpdate env visitor.visitor.id data

def cancelResident : Call VisitorWithRelations := do
  let visitor ← getResident user visitorId
  throwIf (visitor.visitor.status ≠ .EXPECTED) (.conflict "Only expected visitors can be canceled")
  repoUpdate env visitor.visitor.id { status := some .CANCELLED }

end VisitorsService

end Towerdesk.Visitors
