import Towerdesk.Leases.Contracts
import Mathlib.Data.List.Sort

/-!
# Move requests

A resident asks to move in or out, management reviews, and an approved request is
executed. The two kinds of request run through the same code; executing a move-out
takes two transactions.
-/

namespace Towerdesk.Leases

def MOVE_REVIEW_PERMISSION : String := "contracts.move_requests.review"

def MOVE_IN_EXECUTE_PERMISSION : String := "contracts.move_in.execute"

def MOVE_OUT_EXECUTE_PERMISSION : String := "contracts.move_out.execute"

variable (env : Env) (db : Db)

def assertAssignedMoveManagementAccess (user : Option AuthenticatedUser) (buildingId : Id)
    (requiredPermission : String) : Result Unit := do
  let userId ← assertUserId user
  let orgId ← assertOrgScope user
  Outcome.throwIf
    (¬ hasAllPermissionMatches
      (env.access.getUserEffectivePermissions userId (some orgId) (some buildingId))
      [requiredPermission])
    (.forbidden "Forbidden")

section Create

def linkedOccupancy (lease : Lease) : Option Occupancy :=
  lease.occupancyId.bind db.occupancies.table.findUnique

def assertContractResidentOwnership (contract : Lease) (userId : Id) : Result Unit :=
  Outcome.throwIf
    (contract.residentUserId.or ((linkedOccupancy db contract).map (·.residentUserId)) ≠ some userId)
    (.unauthorized "Not allowed to request move for this contract")

/-- Active users of the organisation assigned a role that may review move requests, at
the building or organisation-wide. -/
def resolveMoveRequestRecipients (orgId buildingId : Id) : List Id :=
  let assigned (scopeType : AccessScopeType) (scopeId : Option Id) : List Id :=
    (env.access.userAccessAssignments.rows.filter fun a =>
      a.scopeType = scopeType ∧ a.scopeId = scopeId ∧
        (env.access.roleTemplates.findUnique a.roleTemplateId).any (fun r =>
          r.orgId = some orgId ∧ r.scopeType = scopeType ∧
            MOVE_REVIEW_PERMISSION ∈ env.access.permissionKeysOfRole r.id) ∧
        (db.directory.users.findUnique a.userId).any fun u => u.orgId = some orgId ∧ u.isActive).map
      (·.userId)
  (assigned .BUILDING (some buildingId) ++ assigned .ORG none).reverse.dedup.reverse

def notifyMoveRequestCreated (kind : MoveRequestKind) (request : MoveRequest)
    (unitLabel residentName : Option String) : Plan :=
  let recipientUserIds := resolveMoveRequestRecipients env db request.orgId request.buildingId
  let (type, title, asked, requestType) := match kind with
    | .MOVE_IN => (MoveRequestNotificationType.MOVE_IN_REQUEST_CREATED, "New move-in request",
        "requested move-in", "MOVE_IN")
    | .MOVE_OUT => (MoveRequestNotificationType.MOVE_OUT_REQUEST_CREATED, "New move-out request",
        "requested move-out", "MOVE_OUT")
  if recipientUserIds = [] then [] else
    [.write (.notification {
      orgId := request.orgId
      userIds := recipientUserIds
      type
      title
      body := " - ".intercalate
        (((truthy unitLabel).map ("Unit " ++ ·)).toList ++ (truthy residentName).toList ++ [asked])
      data := [("kind", .text "move_request"), ("requestId", .text request.id),
        ("requestType", .text requestType), ("buildingId", .text request.buildingId),
        ("unitLabel", .ofOption .text unitLabel), ("residentName", .ofOption .text residentName),
        ("requestedMoveAt", .date request.requestedMoveAt),
        ("notes", .ofOption .text request.notes)] })]

/-- What the two kinds have in common once their own preconditions hold. The
notification follows the transaction; nothing in it can fail. -/
def createMoveRequest (kind : MoveRequestKind) (contract : Lease) (userId : Id)
    (dto : CreateMoveRequestDto) (alreadyOpen : String) (action : LeaseActivityAction) :
    Result Plan := do
  Outcome.throwIf
    (∃ r ∈ (db.moveRequests kind).table,
      r.orgId = contract.orgId ∧ r.leaseId = contract.id ∧ r.isOpen)
    (.conflict alreadyOpen)
  let requestedMoveAt ← toDateColumn dto.requestedMoveAt
  let request : MoveRequest := {
    id := env.ids.request
    orgId := contract.orgId
    buildingId := contract.buildingId
    unitId := contract.unitId
    leaseId := contract.id
    residentUserId := userId
    status := .PENDING
    requestedMoveAt
    notes := dto.notes
    reviewedByUserId := none
    reviewedAt := none
    rejectionReason := none
    createdAt := env.now
    updatedAt := env.now }
  return [.write (.moveRequest kind (.create request)),
      .write (.activity ⟨contract.orgId, contract.id, action, some userId,
        [("requestId", .text request.id), ("requestedMoveAt", .date requestedMoveAt),
          ("notes", .ofOption .text dto.notes)], env.now⟩)] ++
    notifyMoveRequestCreated env db kind request
      ((db.directory.units.findUnique contract.unitId).map (·.label))
      ((contract.residentUserId.bind db.directory.users.findUnique).bind (·.name))

def createResidentMoveInRequest (user : Option AuthenticatedUser) (contractId : Id)
    (dto : CreateMoveRequestDto) : Result Plan := do
  let orgId ← assertOrgScope user
  let userId ← assertUserId user
  let contract ← findContractOrThrow db orgId contractId
  assertContractResidentOwnership db contract userId
  Outcome.throwIf (contract.status ≠ .ACTIVE)
    (.badRequest "Move-in requests require active contract")
  Outcome.throwIf contract.occupancyId.isSome (.conflict "Contract is already moved in")
  createMoveRequest env db .MOVE_IN contract userId dto
    "A move-in request is already pending or approved" .MOVE_IN_REQUEST_CREATED

def createResidentMoveOutRequest (user : Option AuthenticatedUser) (contractId : Id)
    (dto : CreateMoveRequestDto) : Result Plan := do
  let orgId ← assertOrgScope user
  let userId ← assertUserId user
  let contract ← findContractOrThrow db orgId contractId
  assertContractResidentOwnership db contract userId
  Outcome.throwIf (contract.status ≠ .ACTIVE)
    (.badRequest "Move-out requests require active contract")
  Outcome.throwIf (¬ (linkedOccupancy db contract).any (·.status = .ACTIVE))
    (.conflict "Move-out request requires active occupancy")
  createMoveRequest env db .MOVE_OUT contract userId dto
    "A move-out request is already pending or approved" .MOVE_OUT_REQUEST_CREATED

end Create

section Review

def requestReviewed (now : Date) (status : MoveRequestStatus) (reviewerId : Option Id)
    (rejectionReason : Option String) : Patch MoveRequest.id where
  apply r := { r with
    status
    reviewedByUserId := reviewerId
    reviewedAt := some now
    rejectionReason
    updatedAt := now }
  key_apply _ := rfl

def reviewMoveRequest (kind : MoveRequestKind) (subject : String) (user : Option AuthenticatedUser)
    (requestId : Id) (status : MoveRequestStatus) (rejectionReason : Option String)
    (action : LeaseActivityAction) (payload : List (String × JsonValue)) : Result Plan := do
  let orgId ← assertOrgScope user
  let request ← Outcome.orThrow
    ((db.moveRequests kind).table.findFirst fun r => r.id = requestId ∧ r.orgId = orgId)
    (.notFound (subject ++ " request not found"))
  assertAssignedMoveManagementAccess env user request.buildingId MOVE_REVIEW_PERMISSION
  Outcome.throwIf (request.status ≠ .PENDING) (.conflict (subject ++ " request is not pending"))
  return [.write (.moveRequest kind (.update request.id
      (requestReviewed env.now status (user.map (·.sub)) rejectionReason))),
    .write (.activity ⟨orgId, request.leaseId, action, user.map (·.sub),
      ("requestId", .text request.id) :: payload, env.now⟩)]

def approveMoveInRequest (user : Option AuthenticatedUser) (requestId : Id) : Result Plan :=
  reviewMoveRequest env db .MOVE_IN "Move-in" user requestId .APPROVED none
    .MOVE_IN_REQUEST_APPROVED []

def rejectMoveInRequest (user : Option AuthenticatedUser) (requestId : Id)
    (dto : RejectMoveRequestDto) : Result Plan :=
  reviewMoveRequest env db .MOVE_IN "Move-in" user requestId .REJECTED dto.rejectionReason
    .MOVE_IN_REQUEST_REJECTED [("rejectionReason", .ofOption .text dto.rejectionReason)]

def approveMoveOutRequest (user : Option AuthenticatedUser) (requestId : Id) : Result Plan :=
  reviewMoveRequest env db .MOVE_OUT "Move-out" user requestId .APPROVED none
    .MOVE_OUT_REQUEST_APPROVED []

def rejectMoveOutRequest (user : Option AuthenticatedUser) (requestId : Id)
    (dto : RejectMoveRequestDto) : Result Plan :=
  reviewMoveRequest env db .MOVE_OUT "Move-out" user requestId .REJECTED dto.rejectionReason
    .MOVE_OUT_REQUEST_REJECTED [("rejectionReason", .ofOption .text dto.rejectionReason)]

end Review

section Execute

/-- `orderBy: [{ reviewedAt: 'asc' }, { createdAt: 'asc' }]`, nulls last. -/
def reviewedBefore (a b : MoveRequest) : Bool :=
  match a.reviewedAt, b.reviewedAt with
  | some i, some j => i < j ∨ (i = j ∧ a.createdAt ≤ b.createdAt)
  | some _, none => true
  | none, some _ => false
  | none, none => a.createdAt ≤ b.createdAt

def findApprovedRequest (kind : MoveRequestKind) (contract : Lease) : Option MoveRequest :=
  (((db.moveRequests kind).table.rows.filter fun r =>
    r.orgId = contract.orgId ∧ r.leaseId = contract.id ∧ r.status = .APPROVED).insertionSort
      (reviewedBefore · ·)).head?

def leaseMovedIn (now : Date) (occupancyId : Id) : Patch Lease.id where
  apply l := { l with occupancyId := some occupancyId, status := .ACTIVE, updatedAt := now }
  key_apply _ := rfl

def executeApprovedMoveIn (user : Option AuthenticatedUser) (contractId : Id) : Result Plan := do
  let orgId ← assertOrgScope user
  let contract ← findContractOrThrow db orgId contractId
  assertAssignedMoveManagementAccess env user contract.buildingId MOVE_IN_EXECUTE_PERMISSION
  Outcome.throwIf (contract.status ≠ .ACTIVE)
    (.badRequest "Move-in execution requires active contract")
  Outcome.throwIf contract.occupancyId.isSome (.conflict "Contract already moved in")
  let residentUserId ← Outcome.orThrow contract.residentUserId
    (.conflict "Contract has no resident assigned")
  let approvedRequest ← Outcome.orThrow (findApprovedRequest db .MOVE_IN contract)
    (.conflict "No approved move-in request found")
  Outcome.throwIf (∃ o ∈ db.occupancies.table, o.unitId = contract.unitId ∧ o.status = .ACTIVE)
    (.conflict "Unit already has an active occupancy")
  Outcome.throwIf (∃ o ∈ db.occupancies.table, o.residentUserId = residentUserId ∧ o.status = .ACTIVE)
    (.conflict "Resident already has an active occupancy")
  return [.write (.occupancy (.create
      (moveInOccupancy env contract.buildingId contract.unitId residentUserId env.now))),
    .write (.lease (.update contract.id (leaseMovedIn env.now env.ids.occupancy))),
    .write (.moveRequest .MOVE_IN (.update approvedRequest.id (requestStatusSet env.now .COMPLETED))),
    .write (.activity ⟨orgId, contract.id, .MOVE_IN, user.map (·.sub),
      [("requestId", .text approvedRequest.id), ("occupancyId", .text env.ids.occupancy),
        ("requestedMoveAt", .date approvedRequest.requestedMoveAt),
        ("actualMoveInAt", .date env.now)], env.now⟩)]

def approvedMoveOut (user : Option AuthenticatedUser) (contractId : Id) (db : Db) :
    Result (Lease × MoveRequest) := do
  let orgId ← assertOrgScope user
  let contract ← findContractOrThrow db orgId contractId
  assertAssignedMoveManagementAccess env user contract.buildingId MOVE_OUT_EXECUTE_PERMISSION
  Outcome.throwIf (contract.occupancyId = none)
    (.conflict "Contract has no active occupancy to move out")
  let approvedRequest ← Outcome.orThrow (findApprovedRequest db .MOVE_OUT contract)
    (.conflict "No approved move-out request found")
  return (contract, approvedRequest)

def completeMoveOutStatements (user : Option AuthenticatedUser) (contract : Lease)
    (approvedRequest : MoveRequest) : Plan :=
  .write (.moveRequest .MOVE_OUT (.update approvedRequest.id (requestStatusSet env.now .COMPLETED))) ::
  if approvedRequest.requestedMoveAt < contract.leaseEndDate then
    [.write (.lease (.update contract.id (leaseStatusSet env.now .CANCELLED))),
      .write (.activity ⟨contract.orgId, contract.id, .CONTRACT_CANCELLED, user.map (·.sub),
        [("reason", .text "EARLY_MOVE_OUT"), ("requestId", .text approvedRequest.id)], env.now⟩)]
  else []

def executeApprovedMoveOut (user : Option AuthenticatedUser) (contractId : Id) : Service := do
  let (contract, approvedRequest) ← Transaction.read (approvedMoveOut env user contractId)
  transaction fun db => moveOut env db user contract.buildingId contract.id
    (.at approvedRequest.requestedMoveAt)
  transaction fun _ => .ok (completeMoveOutStatements env user contract approvedRequest)

end Execute

end Towerdesk.Leases
