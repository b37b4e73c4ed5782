import Towerdesk.Common
import Towerdesk.Maintenance.Constants
import Mathlib.Data.List.Infix

/-!
# Approval and estimate policy

Where a request has to go before work may start. The route looks at the estimate,
then at the owner's decision, then at signs of an emergency, and only then at the
cost facts; without any of them it falls back on what the text of the request
suggests. The work queues of the management portal are cut from the same facts.
-/

namespace Towerdesk.Maintenance

structure MaintenanceRequestPolicyInput where
  status : Option MaintenanceRequestStatus
  ownerApprovalStatus : Option OwnerApprovalStatus
  estimateStatus : Option EstimateStatus
  estimatedAmount : Option ℚ
  isEmergency : Option Bool
  emergencySignals : Option (List EmergencySignal)
  isLikeForLike : Option Bool
  isUpgrade : Option Bool
  isMajorReplacement : Option Bool
  isResponsibilityDisputed : Option Bool
  createdAt : Option Date
  title : Option String
  description : Option String
  type : Option MaintenanceRequestType
  priority : Option MaintenanceRequestPriority
deriving DecidableEq

def EMERGENCY_KEYWORDS : List String :=
  ["water leak", "leak causing damage", "flood", "flooding", "burst pipe", "sewage", "backup",
    "electrical hazard", "sparking", "spark", "fire", "smoke", "gas leak", "no power",
    "power outage", "security risk", "unsafe"]

def DIRECT_ASSIGN_KEYWORDS : List String :=
  ["light bulb", "bulb out", "switch plate", "faceplate", "door jammed", "door handle",
    "lock repair", "handle repair", "dripping faucet", "faucet drip", "minor leak", "small leak",
    "touch up", "touch-up"]

section Text

/-- `toLowerCase` as far as it can produce ASCII: beyond the ASCII letters these are
the Kelvin sign and the dotted capital I. Every other character stays outside the
alphabet of the keywords, lowered or not. -/
def lowerChar (c : Char) : List Char :=
  if c.toNat = 0x212A then ['k']
  else if c.toNat = 0x130 then ['i', Char.ofNat 0x307]
  else [c.toLower]

/-- `replace(/\s+/g, ' ')`. -/
def collapseSpaces : List Char → List Char
  | [] => []
  | c :: rest =>
    if isSpace c then
      match rest with
      | [] => [' ']
      | d :: _ => if isSpace d then collapseSpaces rest else ' ' :: collapseSpaces rest
    else c :: collapseSpaces rest

def normalizeText (input : MaintenanceRequestPolicyInput) : List Char :=
  collapseSpaces ((trim
    ((input.title.getD "").toList ++ ' ' :: (input.description.getD "").toList)).flatMap lowerChar)

def includes (text : List Char) (keyword : String) : Bool := keyword.toList <:+: text

def hasAnyKeyword (text : List Char) (keywords : List String) : Bool :=
  keywords.any (includes text)

end Text

section Route

variable (input : MaintenanceRequestPolicyInput)

def inferEmergencyFromIntake : Bool := hasAnyKeyword (normalizeText input) EMERGENCY_KEYWORDS

def hasEmergencySignals : Bool := input.emergencySignals.any (!·.isEmpty)

/-- The three signs of an emergency, tested together wherever the route asks. -/
def isEmergencyCase : Bool :=
  input.isEmergency = some true || hasEmergencySignals input || inferEmergencyFromIntake input

def inferDirectAssignFromIntake : Bool :=
  let text := normalizeText input
  hasAnyKeyword text DIRECT_ASSIGN_KEYWORDS ||
    (input.type = some .CLEANING && !(input.priority = some .HIGH)) ||
    (input.type = some .ELECTRICAL &&
      (includes text "light" || includes text "bulb" || includes text "switch")) ||
    (input.type = some .PLUMBING_AC_HEATING && (includes text "faucet" || includes text "drip")) ||
    (input.type = some .MAINTENANCE &&
      (includes text "lock" || includes text "handle" || includes text "door"))

def costRoute : PolicyRoute :=
  if input.isUpgrade = some true ∨ input.isMajorReplacement = some true ∨
      input.isResponsibilityDisputed = some true then .OWNER_APPROVAL_REQUIRED
  else if input.isLikeForLike = some false then .OWNER_APPROVAL_REQUIRED
  else match input.estimatedAmount with
    | some amount => if amount > 1000 then .OWNER_APPROVAL_REQUIRED else .DIRECT_ASSIGN
    | none =>
      if input.isLikeForLike = some true ∨ inferDirectAssignFromIntake input then .DIRECT_ASSIGN
      else .NEEDS_ESTIMATE

def getMaintenanceRequestPolicyRoute : PolicyRoute :=
  let ownerApprovalStatus := input.ownerApprovalStatus.getD .NOT_REQUIRED
  let estimateStatus := input.estimateStatus.getD .NOT_REQUESTED
  if estimateStatus = .REQUESTED then .NEEDS_ESTIMATE
  else if ownerApprovalStatus = .PENDING ∨ ownerApprovalStatus = .REJECTED then
    .OWNER_APPROVAL_REQUIRED
  else if ownerApprovalStatus = .APPROVED then
    if isEmergencyCase input then .EMERGENCY_DISPATCH else .DIRECT_ASSIGN
  else if isEmergencyCase input then .EMERGENCY_DISPATCH
  else costRoute input

variable {input}

theorem costRoute_eq_ownerApproval :
    costRoute input = .OWNER_APPROVAL_REQUIRED ↔
      (input.isUpgrade = some true ∨ input.isMajorReplacement = some true ∨
        input.isResponsibilityDisputed = some true) ∨
      input.isLikeForLike = some false ∨ ∃ amount ∈ input.estimatedAmount, amount > 1000 := by
  unfold costRoute
  by_cases hflags : input.isUpgrade = some true ∨ input.isMajorReplacement = some true ∨
      input.isResponsibilityDisputed = some true
  · simp [hflags]
  by_cases hlike : input.isLikeForLike = some false
  · simp [hlike]
  rw [if_neg hflags, if_neg hlike]
  cases input.estimatedAmount with
  | none =>
    simp only [hflags, hlike, false_or, Option.mem_def, reduceCtorEq, false_and, exists_false,
      iff_false]
    split_ifs <;> simp
  | some amount =>
    simp only [hflags, hlike, false_or, Option.mem_some_iff, exists_eq_left']
    split_ifs with hover <;> simp [hover]

theorem route_of_requested (h : input.estimateStatus = some .REQUESTED) :
    getMaintenanceRequestPolicyRoute input = .NEEDS_ESTIMATE := by
  simp [getMaintenanceRequestPolicyRoute, h]

theorem route_of_notRequired (he : input.estimateStatus ≠ some .REQUESTED)
    (h : input.ownerApprovalStatus = some .NOT_REQUIRED) :
    getMaintenanceRequestPolicyRoute input =
      if isEmergencyCase input then .EMERGENCY_DISPATCH else costRoute input := by
  have hne : input.estimateStatus.getD .NOT_REQUESTED ≠ .REQUESTED := by
    cases hs : input.estimateStatus <;> simp_all
  simp [getMaintenanceRequestPolicyRoute, h, hne]

theorem route_of_approved (he : input.estimateStatus ≠ some .REQUESTED)
    (h : input.ownerApprovalStatus = some .APPROVED) :
    getMaintenanceRequestPolicyRoute input = .DIRECT_ASSIGN ∨
      getMaintenanceRequestPolicyRoute input = .EMERGENCY_DISPATCH := by
  have hne : input.estimateStatus.getD .NOT_REQUESTED ≠ .REQUESTED := by
    cases hs : input.estimateStatus <;> simp_all
  cases hc : isEmergencyCase input <;> simp [getMaintenanceRequestPolicyRoute, h, hne, hc]

end Route

section Queues

variable (input : MaintenanceRequestPolicyInput) (now : Date)

def isMaintenanceRequestOverdue : Bool :=
  match input.createdAt with
  | none => false
  | some createdAt =>
    [some MaintenanceRequestStatus.OPEN, some .ASSIGNED, some .IN_PROGRESS].contains input.status &&
      createdAt ≤ now - MAINTENANCE_REQUEST_OVERDUE_HOURS * 60 * 60 * 1000

def matchesMaintenanceRequestQueue (queue : RequestQueue) : Bool :=
  let route := getMaintenanceRequestPolicyRoute input
  let ownerApprovalStatus := input.ownerApprovalStatus.getD .NOT_REQUIRED
  let estimateStatus := input.estimateStatus.getD .NOT_REQUESTED
  match queue with
  | .NEW =>
    input.status = some .OPEN ∧ ownerApprovalStatus = .NOT_REQUIRED ∧ route ≠ .NEEDS_ESTIMATE ∧
      ¬ [PolicyRoute.DIRECT_ASSIGN, .EMERGENCY_DISPATCH].contains route
  | .NEEDS_ESTIMATE =>
    ownerApprovalStatus = .NOT_REQUIRED ∧ route = .NEEDS_ESTIMATE ∧ estimateStatus ≠ .REQUESTED ∧
      input.status = some .OPEN
  | .AWAITING_ESTIMATE =>
    ownerApprovalStatus = .NOT_REQUIRED ∧ route = .NEEDS_ESTIMATE ∧ estimateStatus = .REQUESTED
  | .AWAITING_OWNER => ownerApprovalStatus = .PENDING
  | .READY_TO_ASSIGN =>
    input.status = some .OPEN ∧ ownerApprovalStatus ≠ .PENDING ∧ ownerApprovalStatus ≠ .REJECTED ∧
      [PolicyRoute.DIRECT_ASSIGN, .EMERGENCY_DISPATCH].contains route
  | .ASSIGNED => input.status = some .ASSIGNED
  | .IN_PROGRESS => input.status = some .IN_PROGRESS
  | .OVERDUE => isMaintenanceRequestOverdue input now

/-- The order in which `getPrimaryMaintenanceRequestQueue` tries the queues. -/
def primaryQueueOrder : List RequestQueue :=
  [.OVERDUE, .AWAITING_OWNER, .AWAITING_ESTIMATE, .NEEDS_ESTIMATE, .IN_PROGRESS, .ASSIGNED,
    .READY_TO_ASSIGN, .NEW]

def getPrimaryMaintenanceRequestQueue : Option RequestQueue :=
  primaryQueueOrder.find? (matchesMaintenanceRequestQueue input now)

theorem mem_primaryQueueOrder (queue : RequestQueue) : queue ∈ primaryQueueOrder := by
  cases queue <;> simp [primaryQueueOrder]

theorem primaryQueue_isSome_iff :
    (getPrimaryMaintenanceRequestQueue input now).isSome ↔
      ∃ queue, matchesMaintenanceRequestQueue input now queue = true := by
  simp [getPrimaryMaintenanceRequestQueue, List.find?_isSome, mem_primaryQueueOrder]

end Queues

end Towerdesk.Maintenance
