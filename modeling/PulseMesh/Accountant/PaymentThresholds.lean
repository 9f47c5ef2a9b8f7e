import PulseMesh.Accountant.Basic

/-!
# Payment thresholds

The debt a node tolerates is constant up to the maturity age, falls along a line of integer
slope for the length of the interval and is constant again at the permanent debt.  Every
function is given with the casts and the overflow behaviour of the source; the lemmas say
which integers they compute where nothing overflows.
-/

namespace PulseMesh.Accountant

open Machine Word

structure PaymentThresholds where
  debtThresholdGwei : U64
  maturityThresholdSec : U64
  paymentGracePeriodSec : U64
  permanentDebtAllowedGwei : U64
  thresholdIntervalSec : U64
  unbanBelowGwei : U64
deriving DecidableEq

namespace PaymentThresholds

def suggAndGrace (p : Profile) (t : PaymentThresholds) (now : I64) : Except Panic I64 := do
  let maturity ← checkedConversion i64 t.maturityThresholdSec
  let matured ← now.sub p maturity
  let grace ← checkedConversion i64 t.paymentGracePeriodSec
  matured.sub p grace

variable (t : PaymentThresholds)

def debtWei : Int := t.debtThresholdGwei.val * weisInGwei

def permanentWei : Int := t.permanentDebtAllowedGwei.val * weisInGwei

/-- Debts are delinquent from this moment backwards. -/
def graceLimit (now : Int) : Int :=
  now - t.maturityThresholdSec.val - t.paymentGracePeriodSec.val

end PaymentThresholds

structure ParamError where
  parameter : String
  reason : String

structure ConfiguratorError where
  paramErrors : List ParamError

namespace ConfiguratorError

def required (parameter reason : String) : ConfiguratorError := ⟨[⟨parameter, reason⟩]⟩

end ConfiguratorError

def checkPaymentThresholds (t : PaymentThresholds) : Except ConfiguratorError Unit :=
  if t.debtThresholdGwei.val ≤ t.permanentDebtAllowedGwei.val then
    .error (.required "payment-thresholds"
      s!"Value of DebtThresholdGwei ({t.debtThresholdGwei.val}) must be bigger than PermanentDebtAllowedGwei ({t.permanentDebtAllowedGwei.val})")
  else if t.thresholdIntervalSec.val > 10 ^ 9 then
    .error (.required "payment-thresholds"
      "Value of ThresholdIntervalSec must not exceed 1,000,000,000 s")
  else
    .ok ()

lemma checkPaymentThresholds_eq_ok :
    checkPaymentThresholds t = .ok () ↔
      t.permanentDebtAllowedGwei.val < t.debtThresholdGwei.val ∧ t.thresholdIntervalSec.val ≤ 10 ^ 9 := by
  unfold checkPaymentThresholds
  split
  next => simp only [reduceCtorEq, false_iff]; omega
  next =>
    split
    next => simp only [reduceCtorEq, false_iff]; omega
    next => simp only [true_iff]; omega

namespace ThresholdUtils

open PaymentThresholds

variable (p : Profile)

def slope (t : PaymentThresholds) : Except Panic I128 := do
  let permanent ← gweiToWei p i128 t.permanentDebtAllowedGwei
  let debt ← gweiToWei p i128 t.debtThresholdGwei
  let numerator ← permanent.sub p debt
  numerator.div (t.thresholdIntervalSec.cast i128)

def computeTheoreticalInterceptionWithYAxis (m maturityThresholdSec debtThresholdWei : I128) :
    Except Panic I128 := do
  let product ← maturityThresholdSec.mul p m
  debtThresholdWei.sub p product

def qualifiesForPermanentDebtLimit (debtAgeS : U64) (t : PaymentThresholds) : Except Panic Bool := do
  let limit ← t.maturityThresholdSec.add p t.thresholdIntervalSec
  return decide (debtAgeS.val > limit.val)

def calculateFiniteDebtLimitByAge (t : PaymentThresholds) (debtAgeS : U64) : Except Panic U128 := do
  if ← qualifiesForPermanentDebtLimit p debtAgeS t then
    gweiToWei p u128 t.permanentDebtAllowedGwei
  else
    let m ← slope p t
    let debt ← gweiToWei p i128 t.debtThresholdGwei
    let b ← computeTheoreticalInterceptionWithYAxis p m (t.maturityThresholdSec.cast i128) debt
    let product ← m.mul p (debtAgeS.cast i128)
    let y ← product.add p b
    return y.cast u128

/-- The integer that `slope` computes. -/
def slopeOf (t : PaymentThresholds) : Int :=
  Int.tdiv (t.permanentWei - t.debtWei) t.thresholdIntervalSec.val

lemma wei_bounds (gwei : U64) : 0 ≤ gwei.val * weisInGwei ∧ gwei.val * weisInGwei < 2 ^ 94 := by
  have bounds := U64.bounds gwei
  unfold weisInGwei
  omega

lemma cast_i128_val (n : U64) : (n.cast i128).val = n.val := by
  have bounds := U64.bounds n
  exact cast_val ((i128_holds _).mpr (by omega))

lemma gweiToWei_i128 (p) (gwei : U64) :
    ∃ wei : I128, wei.val = gwei.val * weisInGwei ∧ gweiToWei p i128 gwei = .ok wei := by
  have bounds := wei_bounds gwei
  have fits : i128.Holds (gwei.val * weisInGwei) := by rw [i128_holds]; omega
  exact ⟨⟨_, fits⟩, rfl, arith_ok p fits⟩

lemma gweiToWei_u128 (p) (gwei : U64) :
    ∃ wei : U128, wei.val = gwei.val * weisInGwei ∧ gweiToWei p u128 gwei = .ok wei := by
  have bounds := wei_bounds gwei
  have fits : u128.Holds (gwei.val * weisInGwei) := by rw [u128_holds]; omega
  exact ⟨⟨_, fits⟩, rfl, arith_ok p fits⟩

lemma slopeOf_bounds (t) : -2 ^ 94 < slopeOf t ∧ slopeOf t < 2 ^ 94 := by
  have permanent := wei_bounds t.permanentDebtAllowedGwei
  have debt := wei_bounds t.debtThresholdGwei
  have shrinks := Int.natAbs_tdiv_le_natAbs (t.permanentWei - t.debtWei) t.thresholdIntervalSec.val
  unfold slopeOf
  unfold permanentWei debtWei at *
  omega

variable {t : PaymentThresholds}

/-- Only the division can stop. -/
lemma slope_eq (p t) : ∃ numerator : I128,
    numerator.val = t.permanentWei - t.debtWei ∧ slope p t = numerator.div (t.thresholdIntervalSec.cast i128) := by
  obtain ⟨permanent, permanentVal, permanentOk⟩ := gweiToWei_i128 p t.permanentDebtAllowedGwei
  obtain ⟨debt, debtVal, debtOk⟩ := gweiToWei_i128 p t.debtThresholdGwei
  have permanentBounds := wei_bounds t.permanentDebtAllowedGwei
  have debtBounds := wei_bounds t.debtThresholdGwei
  have numeratorFits : i128.Holds (permanent.val - debt.val) := by rw [i128_holds]; omega
  refine ⟨⟨_, numeratorFits⟩, congrArg₂ (· - ·) permanentVal debtVal, ?_⟩
  simp only [slope, permanentOk, debtOk, ok_bind, sub, arith_ok p numeratorFits]

lemma slope_ok (divides : t.thresholdIntervalSec.val ≠ 0) :
    ∃ m : I128, m.val = slopeOf t ∧ slope p t = .ok m := by
  obtain ⟨numerator, numeratorVal, slopeIs⟩ := slope_eq p t
  have quotientFits : i128.Holds (slopeOf t) := by
    have bounds := slopeOf_bounds t
    rw [i128_holds]
    omega
  refine ⟨⟨_, quotientFits⟩, rfl, ?_⟩
  have quotient : Int.tdiv numerator.val t.thresholdIntervalSec.val = slopeOf t := by rw [numeratorVal, slopeOf]
  simp only [slopeIs, div, cast_i128_val, divides, if_false, quotient, arith_ok .debug quotientFits]

lemma slope_divideByZero (zero : t.thresholdIntervalSec.val = 0) :
    slope p t = .error .divideByZero := by
  obtain ⟨numerator, -, slopeIs⟩ := slope_eq p t
  simp only [slopeIs, div, cast_i128_val, zero, if_true]

variable {p}

/-- Truncation is towards zero, so the line never falls below the permanent debt. -/
lemma slopeOf_eq_neg_div (ordered : t.permanentDebtAllowedGwei.val < t.debtThresholdGwei.val) :
    slopeOf t = -((t.debtWei - t.permanentWei) / t.thresholdIntervalSec.val) := by
  have nonneg : 0 ≤ t.debtWei - t.permanentWei := by
    unfold debtWei permanentWei weisInGwei
    omega
  have swapped : t.permanentWei - t.debtWei = -(t.debtWei - t.permanentWei) := by omega
  rw [slopeOf, swapped, Int.neg_tdiv, Int.tdiv_eq_ediv_of_nonneg nonneg]

section

variable {t : PaymentThresholds} (ordered : t.permanentDebtAllowedGwei.val < t.debtThresholdGwei.val)
  (divides : 0 < t.thresholdIntervalSec.val)
include ordered divides

lemma slopeOf_le_neg_one (short : t.thresholdIntervalSec.val ≤ 10 ^ 9) : slopeOf t ≤ -1 := by
  rw [slopeOf_eq_neg_div ordered]
  have quotient : 1 ≤ (t.debtWei - t.permanentWei) / t.thresholdIntervalSec.val := by
    rw [Int.le_ediv_iff_mul_le divides]
    unfold debtWei permanentWei weisInGwei
    omega
  omega

lemma slopeOf_nonpos : slopeOf t ≤ 0 := by
  have nonneg : 0 ≤ (t.debtWei - t.permanentWei) / t.thresholdIntervalSec.val := by
    apply Int.ediv_nonneg
    · unfold debtWei permanentWei weisInGwei
      omega
    · omega
  rw [slopeOf_eq_neg_div ordered]
  omega

lemma permanentWei_le_line (within : elapsed ≤ t.thresholdIntervalSec.val) :
    t.permanentWei ≤ t.debtWei + slopeOf t * elapsed := by
  have whole := Int.ediv_mul_le (t.debtWei - t.permanentWei) (Int.ne_of_gt divides)
  have part := Int.mul_le_mul_of_nonpos_left (slopeOf_nonpos ordered divides) within
  rw [slopeOf_eq_neg_div ordered, Int.neg_mul, Int.neg_mul] at part
  rw [slopeOf_eq_neg_div ordered, Int.neg_mul]
  omega

end

/-- The thresholds the payable limit can be computed for at every age. -/
@[mk_iff]
structure Calculable (t : PaymentThresholds) : Prop where
  ordered : t.permanentDebtAllowedGwei.val < t.debtThresholdGwei.val
  divides : 0 < t.thresholdIntervalSec.val
  short : t.thresholdIntervalSec.val ≤ 10 ^ 9
  slopeFits : i64.Holds (slopeOf t)
  maturityFits : t.maturityThresholdSec.val < 2 ^ 63

instance (t : PaymentThresholds) : Decidable (Calculable t) :=
  decidable_of_iff' _ (calculable_iff t)

/-- The payable limit in exact arithmetic. -/
def debtLimitOf (t : PaymentThresholds) (age : Int) : Int :=
  if t.maturityThresholdSec.val + t.thresholdIntervalSec.val < age then
    t.permanentWei
  else
    t.debtWei + slopeOf t * (age - t.maturityThresholdSec.val)

/-- The products on the way to the line fit, also if the slope is wider than a database integer. -/
structure Descends (t : PaymentThresholds) : Prop where
  ordered : t.permanentDebtAllowedGwei.val < t.debtThresholdGwei.val
  divides : 0 < t.thresholdIntervalSec.val
  endFits : t.maturityThresholdSec.val + t.thresholdIntervalSec.val < 2 ^ 64
  dropFits : -2 ^ 126 - 2 ^ 94 ≤ slopeOf t * (t.maturityThresholdSec.val + t.thresholdIntervalSec.val)

lemma Calculable.descends (calculable : Calculable t) : Descends t := by
  have short := calculable.short
  have maturity := calculable.maturityFits
  have bounds := U64.bounds t.maturityThresholdSec
  refine ⟨calculable.ordered, calculable.divides, by omega, ?_⟩
  have drop := Int.mul_le_mul_of_nonneg_right ((i64_holds _).mp calculable.slopeFits).1
    (Int.add_nonneg bounds.1 (Int.le_of_lt calculable.divides))
  omega

section

variable (p : Profile) {t : PaymentThresholds} (descends : Descends t)
include descends

lemma slopeOf_mul_bounds (nonneg : 0 ≤ n)
    (within : n ≤ t.maturityThresholdSec.val + t.thresholdIntervalSec.val) :
    -2 ^ 126 - 2 ^ 94 ≤ slopeOf t * n ∧ slopeOf t * n ≤ 0 := by
  have falls := slopeOf_nonpos descends.ordered descends.divides
  constructor
  · exact Int.le_trans descends.dropFits (Int.mul_le_mul_of_nonpos_left falls within)
  · exact Int.mul_nonpos_of_nonpos_of_nonneg falls nonneg

lemma qualifiesForPermanentDebtLimit_ok (age) : qualifiesForPermanentDebtLimit p age t =
    .ok (decide (age.val > t.maturityThresholdSec.val + t.thresholdIntervalSec.val)) := by
  have limitFits : u64.Holds (t.maturityThresholdSec.val + t.thresholdIntervalSec.val) :=
    (u64_holds _).mpr ⟨Int.add_nonneg (U64.bounds _).1 (Int.le_of_lt descends.divides), descends.endFits⟩
  simp only [qualifiesForPermanentDebtLimit, add, arith_ok p limitFits, ok_bind]
  rfl

lemma interception_ok (isSlope : m.val = slopeOf t)
    (isDebt : debt.val = t.debtThresholdGwei.val * weisInGwei) :
    ∃ b : I128, b.val = t.debtWei - slopeOf t * t.maturityThresholdSec.val ∧
      computeTheoreticalInterceptionWithYAxis p m (t.maturityThresholdSec.cast i128) debt = .ok b := by
  have debtBounds := wei_bounds t.debtThresholdGwei
  have maturityDrop := slopeOf_mul_bounds descends (U64.bounds t.maturityThresholdSec).1
    (Int.le_add_of_nonneg_right (Int.le_of_lt descends.divides))
  have product : i128.Holds (t.maturityThresholdSec.val * slopeOf t) := by
    rw [i128_holds, Int.mul_comm]
    omega
  have difference : i128.Holds (debt.val - t.maturityThresholdSec.val * slopeOf t) := by
    rw [i128_holds, Int.mul_comm]
    omega
  have value : debt.val - t.maturityThresholdSec.val * slopeOf t =
      t.debtWei - slopeOf t * t.maturityThresholdSec.val := by
    rw [isDebt, Int.mul_comm t.maturityThresholdSec.val]
    rfl
  refine ⟨⟨_, difference⟩, value, ?_⟩
  simp only [computeTheoreticalInterceptionWithYAxis, mul, cast_i128_val, isSlope,
    arith_ok p product, ok_bind, sub, arith_ok p difference]

lemma calculateFiniteDebtLimitByAge_ok (age : U64) :
    ∃ limit : U128, limit.val = debtLimitOf t age.val ∧
      calculateFiniteDebtLimitByAge p t age = .ok limit := by
  rw [calculateFiniteDebtLimitByAge, qualifiesForPermanentDebtLimit_ok p descends, ok_bind]
  simp only [decide_eq_true_eq]
  by_cases old : age.val > t.maturityThresholdSec.val + t.thresholdIntervalSec.val
  · have limit : debtLimitOf t age.val = t.permanentWei := if_pos old
    rw [if_pos old, limit]
    exact gweiToWei_u128 p t.permanentDebtAllowedGwei
  · have limit : debtLimitOf t age.val =
        t.debtWei + slopeOf t * (age.val - t.maturityThresholdSec.val) := if_neg old
    rw [if_neg old, limit]
    obtain ⟨m, isSlope, slopeOk⟩ := slope_ok p (Int.ne_of_gt descends.divides)
    obtain ⟨debt, isDebt, debtOk⟩ := gweiToWei_i128 p t.debtThresholdGwei
    obtain ⟨b, isInterception, interceptionOk⟩ := interception_ok p descends isSlope isDebt
    -- the line stays between the permanent limit and its height at the age of zero
    have line : t.permanentWei ≤ t.debtWei + slopeOf t * (age.val - t.maturityThresholdSec.val) :=
      permanentWei_le_line descends.ordered descends.divides (by omega)
    have permanentBounds : 0 ≤ t.permanentWei := (wei_bounds t.permanentDebtAllowedGwei).1
    have debtBounds : t.debtWei < 2 ^ 94 := (wei_bounds t.debtThresholdGwei).2
    have maturityDrop := slopeOf_mul_bounds descends (U64.bounds t.maturityThresholdSec).1
      (Int.le_add_of_nonneg_right (Int.le_of_lt descends.divides))
    have ageDrop := slopeOf_mul_bounds descends (U64.bounds age).1 (Int.not_lt.mp old)
    rw [Int.mul_sub] at line ⊢
    have value : slopeOf t * age.val + b.val =
        t.debtWei + (slopeOf t * age.val - slopeOf t * t.maturityThresholdSec.val) := by
      omega
    have product : i128.Holds (slopeOf t * age.val) := by
      rw [i128_holds]
      omega
    have ordinate : i128.Holds (slopeOf t * age.val + b.val) := by
      rw [i128_holds]
      omega
    have ordinateNonneg : u128.Holds (slopeOf t * age.val + b.val) := by
      rw [u128_holds]
      omega
    refine ⟨cast u128 (⟨_, ordinate⟩ : I128), ?_, ?_⟩
    · rw [cast_val ordinateNonneg]
      exact value
    · simp only [slopeOk, debtOk, ok_bind, interceptionOk, mul, add, cast_i128_val, isSlope,
        arith_ok p product, arith_ok p ordinate]
      rfl

lemma permanentWei_le_debtLimitOf (age : Int) : t.permanentWei ≤ debtLimitOf t age := by
  unfold debtLimitOf
  split
  · exact Int.le_refl _
  · exact permanentWei_le_line descends.ordered descends.divides (by omega)

lemma debtLimitOf_anti (ages : age ≤ older) : debtLimitOf t older ≤ debtLimitOf t age := by
  by_cases old : t.maturityThresholdSec.val + t.thresholdIntervalSec.val < older
  · have flat : debtLimitOf t older = t.permanentWei := if_pos old
    rw [flat]
    exact permanentWei_le_debtLimitOf descends age
  · have young : ¬ t.maturityThresholdSec.val + t.thresholdIntervalSec.val < age := by omega
    rw [debtLimitOf, debtLimitOf, if_neg old, if_neg young]
    have falls := Int.mul_le_mul_of_nonpos_left (slopeOf_nonpos descends.ordered descends.divides)
      (Int.sub_le_sub_right ages t.maturityThresholdSec.val)
    omega

end

/-- The curve of the payable limit, in every build. -/
theorem payable_threshold_curve (p : Profile) {t : PaymentThresholds}
    (ordered : t.permanentDebtAllowedGwei.val < t.debtThresholdGwei.val)
    (divides : 1 ≤ t.thresholdIntervalSec.val) (short : t.thresholdIntervalSec.val ≤ 10 ^ 9)
    (matures : t.maturityThresholdSec.val < 2 ^ 35) (small : t.debtThresholdGwei.val < 2 ^ 60) :
    ∃ limit : U64 → U128,
      (∀ age, calculateFiniteDebtLimitByAge p t age = .ok (limit age) ∧
        (limit age).val = debtLimitOf t age.val ∧ t.permanentWei ≤ (limit age).val ∧
        (age.val = t.maturityThresholdSec.val → (limit age).val = t.debtWei) ∧
        (t.maturityThresholdSec.val + t.thresholdIntervalSec.val < age.val →
          (limit age).val = t.permanentWei)) ∧
      ∀ age older, age.val ≤ older.val → (limit older).val ≤ (limit age).val := by
  have descends : Descends t := by
    refine ⟨ordered, divides, by omega, ?_⟩
    have nonneg := (U64.bounds t.permanentDebtAllowedGwei).1
    have bounds := U64.bounds t.maturityThresholdSec
    have shrinks := Int.natAbs_tdiv_le_natAbs (t.permanentWei - t.debtWei) t.thresholdIntervalSec.val
    have steep : -2 ^ 90 ≤ slopeOf t := by
      unfold slopeOf
      unfold permanentWei debtWei weisInGwei at *
      omega
    have drop := Int.mul_le_mul_of_nonneg_right steep (Int.add_nonneg bounds.1 (Int.le_of_lt divides))
    omega
  choose limit exact_ computed using calculateFiniteDebtLimitByAge_ok p descends
  refine ⟨limit, fun age => ⟨computed age, exact_ age, ?_, ?_, ?_⟩, ?_⟩
  · rw [exact_]
    exact permanentWei_le_debtLimitOf descends _
  · intro mature
    have early : ¬ t.maturityThresholdSec.val + t.thresholdIntervalSec.val < age.val := by omega
    rw [exact_, debtLimitOf, if_neg early, mature, Int.sub_self, Int.mul_zero, Int.add_zero]
  · intro old
    rw [exact_, debtLimitOf, if_pos old]
  · intro age older ages
    rw [exact_, exact_]
    exact debtLimitOf_anti descends ages

theorem sample_threshold_curve :
    let t : PaymentThresholds := ⟨⟨10 ^ 9, by decide⟩, ⟨1200, by decide⟩, ⟨1200, by decide⟩,
      ⟨5 * 10 ^ 8, by decide⟩, ⟨21600, by decide⟩, ⟨5 * 10 ^ 8, by decide⟩⟩
    ∃ limit, calculateFiniteDebtLimitByAge .debug t ⟨1200, by decide⟩ = .ok limit ∧ limit.val = t.debtWei := by
  intro t
  obtain ⟨limit, curve, -⟩ := payable_threshold_curve .debug (t := t) (by decide) (by decide) (by decide)
    (by decide) (by decide)
  obtain ⟨computed, -, -, mature, -⟩ := curve ⟨1200, by decide⟩
  exact ⟨_, computed, mature rfl⟩

end ThresholdUtils

end PulseMesh.Accountant
