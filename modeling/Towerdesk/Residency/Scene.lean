import Towerdesk.Leases.Scene
import Towerdesk.Residency.Operation

/-!
# A garage with two slots

The building with two units, given two parking slots, and the calls of its manager.
-/

namespace Towerdesk.Residency

open Leases (Db manager sceneAccess sceneDirectory)

def garage : Db :=
  { Db.start sceneDirectory with
    parkingSlots := ⟨[⟨"slot", "org", "building", "P1", true, 0⟩,
      ⟨"corner", "org", "building", "P2", true, 0⟩], by decide⟩ }

/-- The environment of a call on leases, with the codes all alike. -/
def withLikeCodes (env : Leases.Env) : Parking.Env := { env with collate := fun _ _ => true }

def onLeases (c : Leases.Env × Leases.Operation) : Parking.Env × Operation :=
  (withLikeCodes c.1, .lease c.2)

/-- A call at an instant whose fresh rows are all called `name`. -/
def at_ (now : Date) (name : Id) (op : Operation) : Parking.Env × Operation :=
  (withLikeCodes
    { access := sceneAccess
      now
      ids := ⟨name, name, name, name, fun _ => name⟩
      parseDecimal := fun _ => some 1000
      toLowerCase := id }, op)

def managerAllocates (now : Date) (allocationId unitId slotId : Id) : Parking.Env × Operation :=
  at_ now allocationId
    (.parking (.allocate manager "building" ⟨none, some unitId, some [slotId], none⟩))

def managerAllocatesTo (now : Date) (allocationId occupancyId slotId : Id) :
    Parking.Env × Operation :=
  at_ now allocationId
    (.parking (.allocate manager "building" ⟨some occupancyId, none, some [slotId], none⟩))

def managerEnds (now : Date) (allocationId : Id) (endDate : Date) : Parking.Env × Operation :=
  at_ now "unused" (.parking (.endAllocation manager allocationId ⟨some (some endDate)⟩))

def managerProvisions (now : Date) (occupancyId email : Id) (resident : Users.ResidentGrantDto) :
    Parking.Env × Operation :=
  at_ now occupancyId (.provision
    { orgId := "org"
      identity := ⟨email, none, none, none, none⟩
      accessAssignments := []
      resident := some resident
      mode := ⟨none, none⟩
      allowGeneratedPasswordWithoutInvite := false })

end Towerdesk.Residency
