import Towerdesk.Lib.Constraint
import Towerdesk.Lib.Transaction
import Towerdesk.AccessControl
import Towerdesk.Directory
import Towerdesk.Leases.Forms
import Towerdesk.Leases.History

/-!
# The tenancy store

The tables the lease module writes, the constraints the migrations put on them and
what one write does. The parking slots and the directory are read; of the directory
only the users grow, when a direct move-in brings its resident along.
-/

namespace Towerdesk.Leases

inductive MoveRequestStatus
  | PENDING | APPROVED | REJECTED | CANCELLED | COMPLETED
deriving DecidableEq, Repr

inductive MoveRequestKind
  | MOVE_IN | MOVE_OUT
deriving DecidableEq, Repr

/-- A row of `MoveInRequest` or `MoveOutRequest`. -/
structure MoveRequest where
  id : Id
  orgId : Id
  buildingId : Id
  unitId : Id
  leaseId : Id
  residentUserId : Id
  status : MoveRequestStatus
  requestedMoveAt : Date
  notes : Option String
  reviewedByUserId : Option Id
  reviewedAt : Option Date
  rejectionReason : Option String
  createdAt : Date
  updatedAt : Date
deriving DecidableEq

def MoveRequest.isOpen (r : MoveRequest) : Bool := r.status = .PENDING ∨ r.status = .APPROVED

inductive LeaseHistoryAction
  | CREATED | UPDATED | MOVED_OUT
deriving DecidableEq, Repr

structure LeaseHistory where
  orgId : Id
  leaseId : Id
  action : LeaseHistoryAction
  changedByUserId : Option Id
  changes : List LeaseHistoryFieldChange
  createdAt : Date
deriving DecidableEq

inductive LeaseActivityAction
  | MOVE_IN | MOVE_OUT | MOVE_IN_REQUEST_CREATED | MOVE_IN_REQUEST_APPROVED
  | MOVE_IN_REQUEST_REJECTED | MOVE_OUT_REQUEST_CREATED | MOVE_OUT_REQUEST_APPROVED
  | MOVE_OUT_REQUEST_REJECTED | CONTRACT_ACTIVATED | CONTRACT_CANCELLED | PARKING_ALLOCATED
  | PARKING_ALLOCATION_ENDED
deriving DecidableEq, Repr

structure LeaseActivity where
  orgId : Id
  leaseId : Id
  action : LeaseActivityAction
  changedByUserId : Option Id
  payload : List (String × JsonValue)
  createdAt : Date
deriving DecidableEq

structure LeaseAdditionalTerm where
  leaseId : Id
  orgId : Id
  termText : String
deriving DecidableEq

inductive AccessItemStatus
  | ISSUED | RETURNED | DEACTIVATED
deriving DecidableEq, Repr

/-- A row of `LeaseAccessCard` or `LeaseParkingSticker`. -/
structure AccessItem where
  leaseId : Id
  number : String
  status : AccessItemStatus
  returnedAt : Option Date
deriving DecidableEq

def AccessItem.key (i : AccessItem) : Id × String := (i.leaseId, i.number)

structure ParkingSlot where
  id : Id
  orgId : Id
  buildingId : Id
  code : String
  isActive : Bool
  createdAt : Date
deriving DecidableEq

structure ParkingAllocation where
  id : Id
  orgId : Id
  buildingId : Id
  parkingSlotId : Id
  occupancyId : Option Id
  unitId : Option Id
  startDate : Date
  endDate : Option Date
deriving DecidableEq

structure Vehicle where
  orgId : Id
  occupancyId : Id
  plateNumber : String
deriving DecidableEq

def Vehicle.key (v : Vehicle) : Id × String := (v.orgId, v.plateNumber)

structure LeaseOccupant where
  leaseId : Id
  name : String
deriving DecidableEq

structure LeaseDocument where
  leaseId : Id
  orgId : Id
  type : LeaseDocumentType
  fileName : String
  mimeType : String
  sizeBytes : ℤ
  url : String
deriving DecidableEq

structure ResidentProfile where
  orgId : Id
  userId : Id
  emiratesIdNumber : Option String
  passportNumber : Option String
  nationality : Option String
  dateOfBirth : Option Date
  currentAddress : Option String
  emergencyContactName : Option String
  emergencyContactPhone : Option String
deriving DecidableEq

/-- The update half of the upsert leaves the organisation as it is. -/
def ResidentProfile.update (p : ResidentProfile) : Patch ResidentProfile.userId where
  apply r := { p with orgId := r.orgId, userId := r.userId }
  key_apply _ := rfl

inductive MoveRequestNotificationType
  | MOVE_IN_REQUEST_CREATED | MOVE_OUT_REQUEST_CREATED
deriving DecidableEq, Repr

structure MoveRequestNotification where
  orgId : Id
  userIds : List Id
  type : MoveRequestNotificationType
  title : String
  body : String
  data : List (String × JsonValue)
deriving DecidableEq

section Constraints

/-- The constraints beyond primary keys, under their names in the migrations. -/
inductive Constraint
  | uniq_active_occupancy_per_unit
  | uniq_active_occupancy_per_resident
  | occupancy_status_endat_consistency
  | Lease_occupancyId_key
  | Lease_orgId_ijariId_key
  | uniq_pending_move_per_lease
  | User_email_key
deriving DecidableEq, Repr

def activeUnit (o : Occupancy) : Option Id := if o.status = .ACTIVE then some o.unitId else none

def activeResident (o : Occupancy) : Option Id :=
  if o.status = .ACTIVE then some o.residentUserId else none

def occupancyCheck (t : Table Occupancy.id) : Option Constraint :=
  if ¬ t.UniqueOn activeUnit then some .uniq_active_occupancy_per_unit
  else if ¬ t.UniqueOn activeResident then some .uniq_active_occupancy_per_resident
  else if ¬ ∀ o ∈ t, (o.status = .ACTIVE ↔ o.endAt = none) then
    some .occupancy_status_endat_consistency
  else none

def leaseIjari (l : Lease) : Option (Id × String) := l.ijariId.map fun ijariId => (l.orgId, ijariId)

def leaseCheck (t : Table Lease.id) : Option Constraint :=
  if ¬ t.UniqueOn Lease.occupancyId then some .Lease_occupancyId_key
  else if ¬ t.UniqueOn leaseIjari then some .Lease_orgId_ijariId_key
  else none

def pendingLease (r : MoveRequest) : Option Id := if r.status = .PENDING then some r.leaseId else none

def moveRequestCheck (t : Table MoveRequest.id) : Option Constraint :=
  if t.UniqueOn pendingLease then none else some .uniq_pending_move_per_lease

def userCheck (t : Table User.id) : Option Constraint :=
  if t.UniqueOn (some ·.email) then none else some .User_email_key

abbrev LeaseTable := Constrained Lease.id leaseCheck

abbrev OccupancyTable := Constrained Occupancy.id occupancyCheck

abbrev MoveRequestTable := Constrained MoveRequest.id moveRequestCheck

abbrev DbError := Table.WriteError Constraint

theorem occupancyCheck_eq_none {t : Table Occupancy.id} :
    occupancyCheck t = none ↔ t.UniqueOn activeUnit ∧ t.UniqueOn activeResident ∧
      ∀ o ∈ t, o.status = .ACTIVE ↔ o.endAt = none := by
  unfold occupancyCheck
  by_cases hunit : t.UniqueOn activeUnit
  · by_cases hresident : t.UniqueOn activeResident
    · by_cases hends : ∀ o ∈ t, o.status = .ACTIVE ↔ o.endAt = none
      · simp only [hunit, hresident, not_true_eq_false, if_false, true_and]
        simp
      · simp only [hunit, hresident, hends, not_true_eq_false, not_false_eq_true, if_true,
          if_false, reduceCtorEq, and_false]
    · simp [hunit, hresident]
  · simp [hunit]

theorem leaseCheck_eq_none {t : Table Lease.id} :
    leaseCheck t = none ↔ t.UniqueOn Lease.occupancyId ∧ t.UniqueOn leaseIjari := by
  unfold leaseCheck
  by_cases ho : t.UniqueOn Lease.occupancyId
  · by_cases hi : t.UniqueOn leaseIjari <;> simp [ho, hi]
  · simp [ho]

theorem LeaseTable.occupancy_unique (t : LeaseTable) : t.table.UniqueOn Lease.occupancyId :=
  (leaseCheck_eq_none.mp t.valid).1

theorem moveRequestCheck_eq_none {t : Table MoveRequest.id} :
    moveRequestCheck t = none ↔ t.UniqueOn pendingLease := by
  unfold moveRequestCheck
  split_ifs with h <;> simp [h]

theorem MoveRequestTable.pending_unique (t : MoveRequestTable) : t.table.UniqueOn pendingLease :=
  moveRequestCheck_eq_none.mp t.valid

end Constraints

structure Db where
  directory : Directory
  leases : LeaseTable
  occupancies : OccupancyTable
  moveInRequests : MoveRequestTable
  moveOutRequests : MoveRequestTable
  additionalTerms : List LeaseAdditionalTerm
  history : List LeaseHistory
  activity : List LeaseActivity
  accessCards : Table AccessItem.key
  parkingStickers : Table AccessItem.key
  parkingSlots : Table ParkingSlot.id
  parkingAllocations : Table ParkingAllocation.id
  vehicles : Table Vehicle.key
  occupants : List LeaseOccupant
  documents : List LeaseDocument
  residentProfiles : Table ResidentProfile.userId
  notifications : List MoveRequestNotification

inductive DbWrite
  | user (w : Table.Write User.id)
  | lease (w : Table.Write Lease.id)
  | occupancy (w : Table.Write Occupancy.id)
  | moveRequest (kind : MoveRequestKind) (w : Table.Write MoveRequest.id)
  | clearTerms (leaseId : Id)
  | term (row : LeaseAdditionalTerm)
  | history (row : LeaseHistory)
  | changeSet (before : Lease) (action : LeaseHistoryAction) (changedByUserId : Option Id)
      (createdAt : Date)
  | activity (row : LeaseActivity)
  | accessCard (w : Table.Write AccessItem.key)
  | parkingSticker (w : Table.Write AccessItem.key)
  | parkingAllocation (w : Table.Write ParkingAllocation.id)
  | vehicle (w : Table.Write Vehicle.key)
  | replaceOccupants (leaseId : Id) (names : List String)
  | document (row : LeaseDocument)
  | upsertProfile (p : ResidentProfile)
  | notification (n : MoveRequestNotification)

namespace Db

variable (db : Db)

def moveRequests : MoveRequestKind → MoveRequestTable
  | .MOVE_IN => db.moveInRequests
  | .MOVE_OUT => db.moveOutRequests

def withMoveRequests (db : Db) : MoveRequestKind → MoveRequestTable → Db
  | .MOVE_IN, t => { db with moveInRequests := t }
  | .MOVE_OUT, t => { db with moveOutRequests := t }

def upsertProfile (p : ResidentProfile) : Db :=
  match db.residentProfiles.insert p with
  | some t => { db with residentProfiles := t }
  | none => { db with residentProfiles := db.residentProfiles.modify p.userId p.update }

/-- The history row of an update, unless no tracked field changed. -/
def changeSetRows (before : Lease) (action : LeaseHistoryAction) (changedByUserId : Option Id)
    (createdAt : Date) : List LeaseHistory :=
  match db.leases.table.findUnique before.id with
  | none => []
  | some updated =>
    let changes := buildLeaseChangeSet before updated
    if changes = [] then []
    else [⟨before.orgId, before.id, action, changedByUserId, changes, createdAt⟩]

end Db

def DbWrite.apply : DbWrite → Db → Except DbError Db
  | .user w, db => do
    let users ← w.apply db.directory.users
    match userCheck users with
    | some c => .error (.violates c)
    | none => .ok { db with directory := { db.directory with users } }
  | .lease w, db => (fun leases => { db with leases }) <$> db.leases.write w
  | .occupancy w, db => (fun occupancies => { db with occupancies }) <$> db.occupancies.write w
  | .moveRequest kind w, db => db.withMoveRequests kind <$> (db.moveRequests kind).write w
  | .clearTerms leaseId, db =>
    .ok { db with additionalTerms := db.additionalTerms.filter (·.leaseId ≠ leaseId) }
  | .term row, db => .ok { db with additionalTerms := db.additionalTerms ++ [row] }
  | .history row, db => .ok { db with history := db.history ++ [row] }
  | .changeSet before action changedByUserId createdAt, db =>
    .ok { db with
      history := db.history ++ db.changeSetRows before action changedByUserId createdAt }
  | .activity row, db => .ok { db with activity := db.activity ++ [row] }
  | .accessCard w, db => (fun accessCards => { db with accessCards }) <$> w.apply db.accessCards
  | .parkingSticker w, db =>
    (fun parkingStickers => { db with parkingStickers }) <$> w.apply db.parkingStickers
  | .parkingAllocation w, db =>
    (fun parkingAllocations => { db with parkingAllocations }) <$> w.apply db.parkingAllocations
  | .vehicle w, db => (fun vehicles => { db with vehicles }) <$> w.apply db.vehicles
  | .replaceOccupants leaseId names, db =>
    .ok { db with
      occupants := db.occupants.filter (·.leaseId ≠ leaseId) ++ names.map (⟨leaseId, ·⟩) }
  | .document row, db => .ok { db with documents := db.documents ++ [row] }
  | .upsertProfile p, db => .ok (db.upsertProfile p)
  | .notification n, db => .ok { db with notifications := db.notifications ++ [n] }

end Towerdesk.Leases
