import Towerdesk.Lib.Constraint
import Towerdesk.Common

/-!
# Parking slots

A slot belongs to a building and its code is unique there. An update looks the slot up
in the caller's organisation and writes it by its id.
-/

namespace Towerdesk.Parking

inductive ParkingSlotType
  | CAR | BIKE | EV
deriving DecidableEq, Repr

structure Slot where
  id : Id
  orgId : Id
  buildingId : Id
  code : String
  level : Option String
  type : ParkingSlotType
  isCovered : Bool
  isActive : Bool
deriving DecidableEq, Repr

inductive SlotConstraint
  | ParkingSlot_buildingId_code_key
deriving DecidableEq, Repr

def slotCode (s : Slot) : Option (Id × String) := some (s.buildingId, s.code)

def slotCheck (t : Table Slot.id) : Option SlotConstraint :=
  if t.UniqueOn slotCode then none else some .ParkingSlot_buildingId_code_key

abbrev SlotTable := Constrained Slot.id slotCheck

structure UpdateParkingSlotDto where
  code : Field String
  level : Field String
  type : Field ParkingSlotType
  isCovered : Field Bool
  isActive : Field Bool
deriving DecidableEq, Repr

def Slot.update (s : Slot) (dto : UpdateParkingSlotDto) : Result Slot := do
  let code ← requiredColumn dto.code s.code
  let type ← requiredColumn dto.type s.type
  let isCovered ← requiredColumn dto.isCovered s.isCovered
  let isActive ← requiredColumn dto.isActive s.isActive
  return { s with code, level := nullableColumn dto.level s.level, type, isCovered, isActive }

/-- The row as a patch of whatever row has its id. -/
def Slot.replace (s : Slot) : Patch Slot.id where
  apply current := { s with id := current.id }
  key_apply _ := rfl

def findByIdForOrg (slots : SlotTable) (orgId slotId : Id) : Option Slot :=
  slots.table.findFirst fun s => s.id = slotId ∧ s.orgId = orgId

def slotWriteError : Table.WriteError SlotConstraint → HttpException
  | .violates .ParkingSlot_buildingId_code_key =>
    .conflict "Parking slot code already exists for this building"
  | .duplicateKey => .conflict "Parking slot code already exists for this building"
  | .recordNotFound => .internal "Record to update not found"

def updateSlot (slots : SlotTable) (user : Option AuthenticatedUser) (slotId : Id)
    (dto : UpdateParkingSlotDto) : Result SlotTable := do
  let orgId ← assertOrgScope user
  let slot ← Outcome.orThrow (findByIdForOrg slots orgId slotId) (.notFound "Parking slot not found")
  let updated ← slot.update dto
  (slots.write (.update slot.id updated.replace)).mapError slotWriteError

end Towerdesk.Parking
