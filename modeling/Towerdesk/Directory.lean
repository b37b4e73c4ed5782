import Towerdesk.Lib.Table
import Towerdesk.Common

/-!
# The directory

Buildings with their units, users, service providers with their members, owners
with their grants and unit ownerships: the tables the services look things up in.
-/

namespace Towerdesk

structure Building where
  id : Id
  orgId : Id
  name : String
  city : String
deriving DecidableEq, Repr

structure UnitRow where
  id : Id
  buildingId : Id
  label : String
  ownerId : Option Id
  unitTypeName : Option String
deriving DecidableEq, Repr

structure User where
  id : Id
  email : String
  name : Option String
  phone : Option String
  orgId : Option Id
  isActive : Bool
deriving DecidableEq, Repr

structure ServiceProvider where
  id : Id
  name : String
  isActive : Bool
deriving DecidableEq, Repr

structure ServiceProviderBuilding where
  serviceProviderId : Id
  buildingId : Id
deriving DecidableEq, Repr

def ServiceProviderBuilding.key (l : ServiceProviderBuilding) : Id × Id :=
  (l.serviceProviderId, l.buildingId)

inductive ServiceProviderUserRole
  | ADMIN | WORKER
deriving DecidableEq, Repr

structure ServiceProviderUser where
  serviceProviderId : Id
  userId : Id
  role : ServiceProviderUserRole
  isActive : Bool
deriving DecidableEq, Repr

def ServiceProviderUser.key (m : ServiceProviderUser) : Id × Id := (m.serviceProviderId, m.userId)

inductive GrantStatus
  | PENDING | ACTIVE | DISABLED
deriving DecidableEq, Repr

structure ServiceProviderAccessGrant where
  id : Id
  userId : Option Id
  serviceProviderId : Id
  status : GrantStatus
deriving DecidableEq, Repr

structure Owner where
  id : Id
  orgId : Id
  name : String
  isActive : Bool
deriving DecidableEq, Repr

structure OwnerAccessGrant where
  id : Id
  userId : Option Id
  ownerId : Id
  status : GrantStatus
deriving DecidableEq, Repr

structure UnitOwnership where
  id : Id
  orgId : Id
  unitId : Id
  ownerId : Id
  startDate : Date
  endDate : Option Date
deriving DecidableEq, Repr

structure Directory where
  buildings : Table Building.id
  units : Table UnitRow.id
  users : Table User.id
  serviceProviders : Table ServiceProvider.id
  serviceProviderBuildings : Table ServiceProviderBuilding.key
  serviceProviderUsers : Table ServiceProviderUser.key
  serviceProviderAccessGrants : Table ServiceProviderAccessGrant.id
  owners : Table Owner.id
  ownerAccessGrants : Table OwnerAccessGrant.id
  unitOwnerships : Table UnitOwnership.id

namespace Directory

def empty : Directory where
  buildings := .empty _
  units := .empty _
  users := .empty _
  serviceProviders := .empty _
  serviceProviderBuildings := .empty _
  serviceProviderUsers := .empty _
  serviceProviderAccessGrants := .empty _
  owners := .empty _
  ownerAccessGrants := .empty _
  unitOwnerships := .empty _

variable (d : Directory)

/-- `BuildingAccessService.assertBuildingInOrg`. -/
def assertBuildingInOrg (buildingId orgId : Id) : Result Building := do
  Outcome.throwIf (orgId = "") (.forbidden "Org scope required")
  Outcome.orThrow (d.buildings.findFirst fun b => b.id = buildingId ∧ b.orgId = orgId)
    (.notFound "Building not found")

/-- `connect: { id }` on a user column: the row must exist. -/
def connectUser (userId : Id) : Result Id :=
  (·.id) <$> Outcome.orThrow (d.users.findUnique userId) (.internal "Record to connect not found")

end Directory

end Towerdesk
