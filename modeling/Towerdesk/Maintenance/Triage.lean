import Towerdesk.Maintenance.Store
import Mathlib.Data.Rat.Floor
import Mathlib.Tactic.Linarith
import Mathlib.Tactic.Positivity

/-!
# Policy triage

The cost facts a manager or provider sends with a triage, an estimate or an approval
request, merged with what the request holds. The policy is asked about the merged
facts before they are rounded to the columns that store them.
-/

namespace Towerdesk.Maintenance

structure PolicyTriageFieldsDto where
  estimatedAmount : Field ℚ
  estimatedCurrency : Field String
  isEmergency : Field Bool
  isLikeForLike : Field Bool
  isUpgrade : Field Bool
  isMajorReplacement : Field Bool
  isResponsibilityDisputed : Field Bool
deriving DecidableEq

structure SubmitRequestEstimateDto extends PolicyTriageFieldsDto where
  approvalRequiredReason : Field String
  ownerApprovalDeadlineAt : Field String
deriving DecidableEq

structure RequireOwnerApprovalDto extends PolicyTriageFieldsDto where
  approvalRequiredReason : String
  ownerApprovalDeadlineAt : Field String
deriving DecidableEq

def PolicyTriageFieldsDto.none : PolicyTriageFieldsDto :=
  ⟨.undefined, .undefined, .undefined, .undefined, .undefined, .undefined, .undefined⟩

/-- The update object `buildPolicyTriageUpdateData` returns. -/
structure TriageUpdate where
  estimatedAmount : Option ℚ
  estimatedCurrency : Option String
  isEmergency : Option Bool
  isLikeForLike : Option Bool
  isUpgrade : Option Bool
  isMajorReplacement : Option Bool
  isResponsibilityDisputed : Option Bool
deriving DecidableEq

/-- The same values as the columns take them. -/
structure TriageColumns where
  estimatedAmount : Option ℚ
  estimatedCurrency : Option String
  isEmergency : Bool
  isLikeForLike : Option Bool
  isUpgrade : Option Bool
  isMajorReplacement : Option Bool
  isResponsibilityDisputed : Option Bool
deriving DecidableEq

/-- `.trim().toUpperCase()` of a currency code. -/
def normalizeCurrency (currency : String) : String :=
  String.ofList ((trim currency.toList).map Char.toUpper)

/-- `dto.x !== undefined ? dto.x : current`. -/
def mergeFlag (sent : Field Bool) (current : Option Bool) : Option Bool :=
  match sent with
  | .undefined => current
  | sent => sent.toOption

def ensureRequestPolicyPayload (dto : PolicyTriageFieldsDto) : Result Unit :=
  Outcome.throwIf
    (dto.estimatedAmount.isUndefined ∧ dto.estimatedCurrency.isUndefined ∧
      dto.isEmergency.isUndefined ∧ dto.isLikeForLike.isUndefined ∧ dto.isUpgrade.isUndefined ∧
      dto.isMajorReplacement.isUndefined ∧ dto.isResponsibilityDisputed.isUndefined)
    (.badRequest "No policy triage changes provided")

/-- `null.trim()` and `new Decimal(null)` throw. -/
def buildPolicyTriageUpdateData (dto : PolicyTriageFieldsDto) (request : MaintenanceRequest)
    (defaultEstimatedCurrency : Option String) : Result TriageUpdate := do
  let estimatedCurrency ← match dto.estimatedCurrency with
    | .value currency => .ok (some (normalizeCurrency currency))
    | .null => .error (.internal "Cannot read properties of null (reading 'trim')")
    | .undefined =>
      if dto.estimatedAmount.isUndefined then .ok request.estimatedCurrency
      else .ok (request.estimatedCurrency.or defaultEstimatedCurrency)
  let estimatedAmount ← match dto.estimatedAmount with
    | .value amount => .ok (some amount)
    | .null => .error (.internal "[DecimalError] Invalid argument: null")
    | .undefined => .ok request.estimatedAmount
  return {
    estimatedAmount
    estimatedCurrency
    isEmergency := mergeFlag dto.isEmergency request.isEmergency
    isLikeForLike := mergeFlag dto.isLikeForLike request.isLikeForLike
    isUpgrade := mergeFlag dto.isUpgrade request.isUpgrade
    isMajorReplacement := mergeFlag dto.isMajorReplacement request.isMajorReplacement
    isResponsibilityDisputed :=
      mergeFlag dto.isResponsibilityDisputed request.isResponsibilityDisputed }

theorem roundCents_le {q : ℚ} {n : ℕ} (h : q ≤ n) : roundCents q ≤ n := by
  unfold roundCents
  split_ifs with hq
  · rw [div_le_iff₀ (by norm_num)]
    have hfloor : ⌊q * 100 + 1 / 2⌋ < (n : ℤ) * 100 + 1 := by
      rw [Int.floor_lt]
      push_cast
      linarith
    exact_mod_cast Int.lt_add_one_iff.mp hfloor
  · have hceil : ⌈q * 100 - 1 / 2⌉ ≤ 0 := by
      rw [Int.ceil_le]
      push_cast
      linarith
    calc (⌈q * 100 - 1 / 2⌉ : ℚ) / 100 ≤ 0 :=
          div_nonpos_of_nonpos_of_nonneg (by exact_mod_cast hceil) (by norm_num)
      _ ≤ n := Nat.cast_nonneg n

namespace TriageUpdate

/-- Storing the update: the amount is rounded, `isEmergency` may not be null. -/
def toColumns (t : TriageUpdate) : Result TriageColumns := do
  let isEmergency ← Outcome.orThrow t.isEmergency (.internal "Argument isEmergency must not be null")
  let estimatedAmount ← match t.estimatedAmount with
    | some amount => some <$> toDecimalColumn amount
    | none => .ok none
  return {
    estimatedAmount
    estimatedCurrency := t.estimatedCurrency
    isEmergency
    isLikeForLike := t.isLikeForLike
    isUpgrade := t.isUpgrade
    isMajorReplacement := t.isMajorReplacement
    isResponsibilityDisputed := t.isResponsibilityDisputed }

/-- The facts of `toPolicySnapshotFromUpdate` laid over the request. -/
def overlay (t : TriageUpdate) (input : MaintenanceRequestPolicyInput) :
    MaintenanceRequestPolicyInput :=
  { input with
    estimatedAmount := t.estimatedAmount
    isEmergency := t.isEmergency
    isLikeForLike := t.isLikeForLike
    isUpgrade := t.isUpgrade
    isMajorReplacement := t.isMajorReplacement
    isResponsibilityDisputed := t.isResponsibilityDisputed }

variable {t : TriageUpdate} {c : TriageColumns}

theorem toColumns_ok (h : t.toColumns = .ok c) :
    t.isEmergency = some c.isEmergency ∧ c.estimatedAmount = t.estimatedAmount.map roundCents ∧
      c.isLikeForLike = t.isLikeForLike ∧ c.isUpgrade = t.isUpgrade ∧
      c.isMajorReplacement = t.isMajorReplacement ∧
      c.isResponsibilityDisputed = t.isResponsibilityDisputed := by
  simp only [toColumns, Outcome.bind_eq_ok, Outcome.orThrow_eq_ok] at h
  obtain ⟨emergency, hemergency, h⟩ := h
  cases ht : t.estimatedAmount with
  | none =>
    rw [ht] at h
    obtain rfl := Except.ok.inj h
    exact ⟨hemergency, rfl, rfl, rfl, rfl, rfl⟩
  | some amount =>
    rw [ht] at h
    obtain ⟨_, hamount, h⟩ := Outcome.bind_eq_ok.mp h
    obtain ⟨rounded, hrounded, rfl⟩ := Outcome.map_eq_ok.mp hamount
    obtain rfl := Outcome.pure_eq_ok.mp h
    unfold toDecimalColumn at hrounded
    split_ifs at hrounded
    obtain rfl := Except.ok.inj hrounded
    exact ⟨hemergency, rfl, rfl, rfl, rfl, rfl⟩

end TriageUpdate

def TriageColumns.set (t : TriageColumns) (r : MaintenanceRequest) : MaintenanceRequest :=
  { r with
    estimatedAmount := t.estimatedAmount
    estimatedCurrency := t.estimatedCurrency
    isEmergency := t.isEmergency
    isLikeForLike := t.isLikeForLike
    isUpgrade := t.isUpgrade
    isMajorReplacement := t.isMajorReplacement
    isResponsibilityDisputed := t.isResponsibilityDisputed }

def triageColumns (dto : PolicyTriageFieldsDto) (request : MaintenanceRequest) :
    Result TriageColumns := do
  let triage ← buildPolicyTriageUpdateData dto request none
  triage.toColumns

/-- `dto.ownerApprovalDeadlineAt ? new Date(dto.ownerApprovalDeadlineAt) : request…`; an
unreadable date is refused when it is stored. -/
def nextDeadline (env : Env) (sent : Field String) (request : MaintenanceRequest) :
    Result (Option Date) :=
  match truthy sent.toOption with
  | some text => some <$> Outcome.orThrow (env.parseDate text) (.internal "Invalid Date")
  | none => .ok request.ownerApprovalDeadlineAt

def buildAutomaticApprovalReason (dto : PolicyTriageFieldsDto) : String :=
  if dto.isUpgrade = .value true then
    "Estimate indicates upgrade or alteration requiring owner approval"
  else if dto.isMajorReplacement = .value true then
    "Estimate indicates major replacement requiring owner approval"
  else if dto.isResponsibilityDisputed = .value true then
    "Estimate indicates disputed responsibility requiring owner approval"
  else if dto.isLikeForLike = .value false then
    "Estimate indicates non-like-for-like work requiring owner approval"
  else if dto.estimatedAmount.toOption.any (· > 1000) then
    "Estimate exceeds owner approval threshold"
  else "Estimate requires owner approval before execution"

/-- `dto.approvalRequiredReason?.trim() || this.buildAutomaticApprovalReason(dto)`. -/
def requiredReason (dto : SubmitRequestEstimateDto) : String :=
  (truthy (dto.approvalRequiredReason.toOption.map fun s => String.ofList (trim s.toList))).getD
    (buildAutomaticApprovalReason dto.toPolicyTriageFieldsDto)

end Towerdesk.Maintenance
