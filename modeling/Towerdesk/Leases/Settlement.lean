import Towerdesk.Leases.Scene
import Towerdesk.Leases.Operation

/-!
# The settlement of a move-out

A move-out without a refund of its own refunds what the deductions leave of the security
deposit. The deductions are sent along, stored earlier or nothing, and the four charges are
recorded beside them. The refund and the charges stay within the deposit exactly when the
deductions are not negative and, where something is refunded, cover the charges: each up to
half a cent, since the columns round.
-/

namespace Towerdesk.Leases

section Cents

/-- What a `Decimal(_, 2)` column can hold. -/
def IsCents (q : ℚ) : Prop := ∃ k : ℤ, q = k / 100

theorem isCents_roundCents (q : ℚ) : IsCents (roundCents q) := by
  unfold roundCents
  split_ifs
  · exact ⟨_, rfl⟩
  · exact ⟨_, rfl⟩

theorem IsCents.zero : IsCents 0 := ⟨0, by simp⟩

theorem IsCents.add {p q : ℚ} (hp : IsCents p) (hq : IsCents q) : IsCents (p + q) := by
  obtain ⟨j, rfl⟩ := hp
  obtain ⟨k, rfl⟩ := hq
  exact ⟨j + k, by push_cast; ring⟩

theorem IsCents.sub {p q : ℚ} (hp : IsCents p) (hq : IsCents q) : IsCents (p - q) := by
  obtain ⟨j, rfl⟩ := hp
  obtain ⟨k, rfl⟩ := hq
  exact ⟨j - k, by push_cast; ring⟩

theorem roundCents_nonneg {q : ℚ} (h : 0 ≤ q) : 0 ≤ roundCents q := by
  rw [roundCents, if_pos h]
  have hfloor : 0 ≤ ⌊q * 100 + 1 / 2⌋ := Int.floor_nonneg.mpr (by positivity)
  exact div_nonneg (Int.cast_nonneg hfloor) (by norm_num)

/-- An amount rounds to at most `p` while it is less than half a cent above. -/
theorem roundCents_le_iff {q p : ℚ} (h : 0 ≤ q) (hp : IsCents p) :
    roundCents q ≤ p ↔ q < p + 1 / 200 := by
  obtain ⟨k, rfl⟩ := hp
  have hfloor : ⌊q * 100 + 1 / 2⌋ ≤ k ↔ q * 100 + 1 / 2 < k + 1 := by
    rw [← Int.lt_add_one_iff, Int.floor_lt]
    push_cast
    rfl
  rw [roundCents, if_pos h, div_le_div_iff_of_pos_right (by norm_num : (0 : ℚ) < 100),
    Int.cast_le, hfloor]
  constructor
  · intro hlt
    linarith
  · intro hlt
    linarith

theorem roundCents_pos_iff {q : ℚ} (h : 0 ≤ q) : 0 < roundCents q ↔ 1 / 200 ≤ q := by
  rw [← not_le, roundCents_le_iff h .zero, zero_add, not_lt]

end Cents

section Amounts

variable (env : Env) (l : Lease) (dto : MoveOutDto)

def sentAmount (f : Field String) (unsent : ℚ) : ℚ :=
  match f with
  | .value s => (env.parseDecimal s).getD 0
  | _ => unsent

/-- What the refund is reduced by: sent along, stored earlier, or nothing. -/
def deductionsOf : ℚ := sentAmount env dto.totalDeductions (l.totalDeductions.getD 0)

def chargeOf (s : Option String) : ℚ := ((truthy s).bind env.parseDecimal).elim 0 roundCents

/-- The four charges of the form, each as its column takes it. -/
def chargesOf : ℚ :=
  chargeOf env dto.damageCharges + chargeOf env dto.pendingRent +
    chargeOf env dto.pendingUtilities + chargeOf env dto.pendingServiceFines

/-- The deductions are not negative, and cover the charges where something is refunded. -/
def DeductionsCover : Prop :=
  -(1 / 200) < deductionsOf env l dto ∧
    (deductionsOf env l dto + 1 / 200 ≤ l.securityDepositAmount →
      chargesOf env dto < deductionsOf env l dto + 1 / 200)

instance : Decidable (DeductionsCover env l dto) := inferInstanceAs (Decidable (_ ∧ _))

/-- The four charges as a lease has them. -/
def recordedCharges (ended : MoveOutSettlement) : ℚ :=
  ended.damageCharges.getD 0 + ended.pendingRent.getD 0 + ended.pendingUtilities.getD 0 +
    ended.pendingServiceFines.getD 0

/-- The refund of `ended` is within the deposit, and with the charges where it is positive. -/
def SettledWithin (deposit : ℚ) (ended : MoveOutSettlement) : Prop :=
  ∃ n, ended.netRefund = some n ∧ 0 ≤ n ∧ n ≤ deposit ∧
    (0 < n → n + recordedCharges ended ≤ deposit)

variable {env l dto}

theorem isCents_chargeOf (s : Option String) : IsCents (chargeOf env s) := by
  unfold chargeOf
  cases (truthy s).bind env.parseDecimal with
  | none => exact .zero
  | some q => exact isCents_roundCents q

theorem isCents_chargesOf : IsCents (chargesOf env dto) :=
  (((isCents_chargeOf _).add (isCents_chargeOf _)).add (isCents_chargeOf _)).add
    (isCents_chargeOf _)

theorem toDecimalColumn_ok {q a : ℚ} (h : toDecimalColumn q = .ok a) : a = roundCents q := by
  unfold toDecimalColumn at h
  split_ifs at h
  exact (Except.ok.inj h).symm

theorem decimalOrNull_ok {s : Option String} {a : Option ℚ} (h : decimalOrNull env s = .ok a) :
    a.getD 0 = chargeOf env s := by
  unfold decimalOrNull at h
  unfold chargeOf
  cases hs : truthy s with
  | none =>
    rw [hs] at h
    obtain rfl := Except.ok.inj h
    rfl
  | some s =>
    rw [hs] at h
    simp only [Outcome.map_eq_ok, decimalColumn, newDecimal, Outcome.bind_eq_ok,
      Outcome.orThrow_eq_ok] at h
    obtain ⟨b, ⟨q, hq, hb⟩, rfl⟩ := h
    rw [Option.bind_some, hq]
    exact toDecimalColumn_ok hb

theorem decimalField_ok {unsent q : ℚ} {f : Field String}
    (h : decimalField env f unsent = .ok q) : q = sentAmount env f unsent := by
  cases f with
  | undefined => exact (Except.ok.inj h).symm
  | null => cases h
  | value s =>
    rw [decimalField, newDecimal, Outcome.orThrow_eq_ok] at h
    rw [sentAmount, h, Option.getD_some]

theorem moveOutSettlement_ok {settlement : MoveOutSettlement}
    (h : moveOutSettlement env l dto = .ok settlement) (hnet : dto.netRefund = .undefined) :
    settlement.netRefund =
        some (roundCents (max 0 (l.securityDepositAmount - deductionsOf env l dto))) ∧
      recordedCharges settlement = chargesOf env dto := by
  simp only [moveOutSettlement, Outcome.bind_eq_ok, Outcome.pure_eq_ok, hnet] at h
  obtain ⟨-, -, totalDeductions, htotal, netRefund, hrefund, damage, hdamage, rent, hrent,
    utilities, hutilities, fines, hfines, -, -, refund, hcolumn, -, -, -, -, -, -, rfl⟩ := h
  obtain rfl := decimalField_ok htotal
  obtain rfl := Except.ok.inj hrefund
  constructor
  · exact congrArg some (toDecimalColumn_ok hcolumn)
  · simp only [recordedCharges, chargesOf, decimalOrNull_ok hdamage,
      decimalOrNull_ok hrent, decimalOrNull_ok hutilities, decimalOrNull_ok hfines]

theorem settledWithin_iff {deposit deductions charges : ℚ} {ended : MoveOutSettlement}
    (hdeposit : 0 ≤ deposit) (hcents : IsCents deposit) (hcharges : IsCents charges)
    (hnet : ended.netRefund = some (roundCents (max 0 (deposit - deductions))))
    (hended : recordedCharges ended = charges) :
    SettledWithin deposit ended ↔ -(1 / 200) < deductions ∧
      (deductions + 1 / 200 ≤ deposit → charges < deductions + 1 / 200) := by
  have hmax : 0 ≤ max 0 (deposit - deductions) := le_max_left _ _
  have hwithin : roundCents (max 0 (deposit - deductions)) ≤ deposit ↔
      -(1 / 200) < deductions := by
    rw [roundCents_le_iff hmax hcents, max_lt_iff]
    constructor
    · rintro ⟨-, hlt⟩
      linarith
    · intro hlt
      exact ⟨by linarith, by linarith⟩
  have hpositive : 0 < roundCents (max 0 (deposit - deductions)) ↔
      deductions + 1 / 200 ≤ deposit := by
    rw [roundCents_pos_iff hmax, le_max_iff]
    constructor
    · rintro (hle | hle)
      · norm_num at hle
      · linarith
    · intro hle
      exact .inr (by linarith)
  have hcovers (hle : deductions + 1 / 200 ≤ deposit) :
      roundCents (max 0 (deposit - deductions)) + charges ≤ deposit ↔
        charges < deductions + 1 / 200 := by
    rw [← le_sub_iff_add_le, roundCents_le_iff hmax (hcents.sub hcharges),
      max_eq_right (by linarith)]
    constructor
    · intro hlt
      linarith
    · intro hlt
      linarith
  rw [SettledWithin, hnet, hended]
  constructor
  · rintro ⟨n, hn, -, hle, hsum⟩
    obtain rfl := Option.some.inj hn
    exact ⟨hwithin.mp hle, fun h => (hcovers h).mp (hsum (hpositive.mpr h))⟩
  · rintro ⟨hlt, hcharge⟩
    refine ⟨_, rfl, roundCents_nonneg hmax, hwithin.mpr hlt, fun hpos => ?_⟩
    have hle := hpositive.mp hpos
    exact (hcovers hle).mpr (hcharge hle)

end Amounts

section Claims

theorem moveOut_settles {env : Env} {user : Option AuthenticatedUser} {buildingId : Id}
    {dto : MoveOutDto} {db : Db} {l : Lease} (hl : l ∈ db.books.leases)
    (hcall : Succeeds env (.moveOut user buildingId l.id dto) db) :
    ∃ settlement, moveOutSettlement env l dto = .ok settlement ∧
      (leaseEnded env.now settlement).apply l ∈
        (next (env, .moveOut user buildingId l.id dto) db).books.leases := by
  have hends : Transaction.Ends (· = db) (fun _ db' => ∃ settlement,
      moveOutSettlement env l dto = .ok settlement ∧
        (leaseEnded env.now settlement).apply l ∈ db'.books.leases)
      (transaction (fun db => moveOut env db user buildingId l.id dto) db) := by
    refine Transaction.ends_transaction rfl fun plan db' hplan hcommit => ?_
    obtain ⟨x, hx, hid, -, -, -, occupancyId, endAt, settlement, -, -, hsettlement, rfl⟩ :=
      moveOut_ok hplan
    obtain rfl := Table.eq_of_key_eq hx hl hid
    refine ⟨settlement, hsettlement, ?_⟩
    rw [books_moveOut hl hcommit]
    exact Table.apply_mem_modify hl
  exact ends_of_returned hends hcall

theorem refund_within_deposit_iff {env : Env} {user : Option AuthenticatedUser} {buildingId : Id}
    {dto : MoveOutDto} {db : Db} {l : Lease} (hl : l ∈ db.books.leases)
    (hdeposit : 0 ≤ l.securityDepositAmount) (hcents : IsCents l.securityDepositAmount)
    (hnet : dto.netRefund = .undefined)
    (hcall : Succeeds env (.moveOut user buildingId l.id dto) db) :
    ∃ ended ∈ (next (env, .moveOut user buildingId l.id dto) db).books.leases, ended.id = l.id ∧
      (SettledWithin l.securityDepositAmount ended.toMoveOutSettlement ↔
        DeductionsCover env l dto) := by
  obtain ⟨settlement, hsettlement, hended⟩ := moveOut_settles hl hcall
  obtain ⟨hrefund, hcharges⟩ := moveOutSettlement_ok hsettlement hnet
  exact ⟨_, hended, rfl,
    settledWithin_iff hdeposit hcents isCents_chargesOf hrefund hcharges⟩

/-- The unit is occupied under a contract with a deposit of 1000. -/
def occupied : Db := Run.exec next (Db.start sceneDirectory) occupiedContract

theorem exists_occupied : ∃ l ∈ occupied.books.leases,
    l.id = "contract" ∧ l.securityDepositAmount = 1000 ∧ l.totalDeductions = none := by
  decide +kernel

theorem isCents_thousand : IsCents 1000 := ⟨100000, by norm_num⟩

theorem refund_within_deposit_of_plain_move_out :
    ∃ l ∈ occupied.books.leases, ∃ ended ∈ (next (managerMovesOut 6 "contract")
      occupied).books.leases, ended.id = l.id ∧
        (SettledWithin l.securityDepositAmount ended.toMoveOutSettlement ↔
          DeductionsCover (managerMovesOut 6 "contract").1 l (.at 6)) := by
  obtain ⟨l, hl, hid, hdeposit, -⟩ := exists_occupied
  have hcall : Succeeds (managerMovesOut 6 "contract").1
      (.moveOut manager "building" l.id (.at 6)) occupied := by
    rw [hid]
    decide +kernel
  have hended := refund_within_deposit_iff hl (by rw [hdeposit]; norm_num)
    (by rw [hdeposit]; exact isCents_thousand) rfl hcall
  rw [hid] at hended
  exact ⟨l, hl, by rwa [hid]⟩

/-- Charges of the whole deposit, with nothing said of deductions. -/
def damagedOut : MoveOutDto := { MoveOutDto.at 6 with damageCharges := some "1000" }

theorem deposit_refunded_beside_charges :
    ¬ ∀ (env : Env) (user : Option AuthenticatedUser) (buildingId : Id) (dto : MoveOutDto)
      (db : Db), ∀ l ∈ db.books.leases, 0 ≤ l.securityDepositAmount →
        IsCents l.securityDepositAmount → dto.netRefund = .undefined →
        Succeeds env (.moveOut user buildingId l.id dto) db →
        ∀ ended ∈ (next (env, .moveOut user buildingId l.id dto) db).books.leases,
          ended.id = l.id → SettledWithin l.securityDepositAmount ended.toMoveOutSettlement := by
  intro h
  obtain ⟨l, hl, hid, hdeposit, hunset⟩ := exists_occupied
  have hcall : Succeeds (managerMovesOut 6 "contract").1
      (.moveOut manager "building" l.id damagedOut) occupied := by
    rw [hid]
    decide +kernel
  have hcents : IsCents l.securityDepositAmount := by
    rw [hdeposit]
    exact isCents_thousand
  have hnonneg : 0 ≤ l.securityDepositAmount := by
    rw [hdeposit]
    norm_num
  obtain ⟨settlement, hsettlement, hended⟩ := moveOut_settles hl hcall
  obtain ⟨hrefund, hcharges⟩ := moveOutSettlement_ok hsettlement rfl
  have hwithin := h _ _ _ damagedOut _ l hl hnonneg hcents rfl hcall _ hended rfl
  have hcover := (settledWithin_iff hnonneg hcents isCents_chargesOf hrefund hcharges).mp hwithin
  have hdeductions : deductionsOf (managerMovesOut 6 "contract").1 l damagedOut = 0 := by
    show l.totalDeductions.getD 0 = 0
    rw [hunset, Option.getD_none]
  have hcharged : chargesOf (managerMovesOut 6 "contract").1 damagedOut = 1000 := by
    decide +kernel
  rw [hdeductions, hcharged, hdeposit] at hcover
  norm_num at hcover

end Claims

end Towerdesk.Leases
