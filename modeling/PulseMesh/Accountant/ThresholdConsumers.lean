import PulseMesh.Accountant.Delinquencies

/-!
# Debtors and creditors

The same thresholds drive two decisions: when the debtor pays and when the creditor bans.
The first main result is that the debtor's comes first; the second says for which of the
thresholds the configurator accepts both decisions can be computed at all.
-/

namespace PulseMesh.Accountant

open Machine ThresholdUtils PaymentThresholds List

structure PendingPayableId where
  rowid : Nat
  hash : BitVec 256
deriving DecidableEq

structure PayableAccount where
  wallet : Wallet
  balanceWei : U128
  lastPaidTimestamp : SystemTime
  pendingPayableOpt : Option PendingPayableId
deriving DecidableEq

namespace PayableThresholdsGauge

def isInnocentAge (age limit : U64) : Bool := decide (age.val ≤ limit.val)

def isInnocentBalance (balance limit : U128) : Bool := decide (balance.val ≤ limit.val)

def calculatePayoutThresholdInGwei (p : Profile) (t : PaymentThresholds) (debtAge : U64) :
    Except Panic U128 :=
  calculateFiniteDebtLimitByAge p t debtAge

end PayableThresholdsGauge

open PayableThresholdsGauge in
def payableExceededThreshold (p : Profile) (t : PaymentThresholds) (payable : PayableAccount)
    (now : SystemTime) : Except Panic (Option U128) := do
  match durationSinceAsSecs now payable.lastPaidTimestamp with
  | none => .error (.raised "Internal error")
  | some debtAge =>
    if isInnocentAge debtAge t.maturityThresholdSec then
      return none
    else
      let permanent ← gweiToWei p u128 t.permanentDebtAllowedGwei
      if isInnocentBalance payable.balanceWei permanent then
        return none
      else
        let threshold ← calculatePayoutThresholdInGwei p t debtAge
        if payable.balanceWei.val > threshold.val then
          return some threshold
        else
          return none

variable {t : PaymentThresholds} {now : SystemTime}

lemma payableExceededThreshold_some (p) (calculable : Calculable t)
    (aged : durationSinceAsSecs now payable.lastPaidTimestamp = some age)
    (mature : t.maturityThresholdSec.val < age.val)
    (abovePermanent : t.permanentWei < payable.balanceWei.val)
    (aboveLimit : debtLimitOf t age.val < payable.balanceWei.val) :
    ∃ threshold, payableExceededThreshold p t payable now = .ok (some threshold) := by
  obtain ⟨permanent, permanentVal, permanentOk⟩ := gweiToWei_u128 p t.permanentDebtAllowedGwei
  obtain ⟨threshold, thresholdVal, thresholdOk⟩ := calculateFiniteDebtLimitByAge_ok p calculable.descends age
  have guilty : ¬ payable.balanceWei.val ≤ permanent.val := by
    rw [permanentVal]
    exact Int.not_le.mpr abovePermanent
  have exceeded : payable.balanceWei.val > threshold.val := by
    rw [thresholdVal]
    exact aboveLimit
  simp [payableExceededThreshold, aged, PayableThresholdsGauge.isInnocentAge,
    Int.not_le.mpr mature, permanentOk, PayableThresholdsGauge.isInnocentBalance, guilty,
    PayableThresholdsGauge.calculatePayoutThresholdInGwei, thresholdOk, exceeded]

/-- Timestamps are whole seconds, so the debtor's age is the difference the query works with. -/
lemma durationSinceAsSecs_fromTimeT (clock : toTimeT now = .ok nowT)
    (earlier : last.secs.val ≤ nowT.secs.val) :
    ∃ age : U64, age.val = nowT.secs.val - last.secs.val ∧
      durationSinceAsSecs now (fromTimeT last) = some age := by
  obtain ⟨nonneg, secs⟩ := toTimeT_eq_ok.mp clock
  have nowBounds := I64.bounds nowT.secs
  have lastNonneg := last.secs_nonneg
  have before : (fromTimeT last).nanos ≤ now.nanos := by
    simp only [fromTimeT, nanosInSecond] at secs ⊢
    omega
  have difference :
      (now.nanos - (fromTimeT last).nanos) / nanosInSecond = nowT.secs.val - last.secs.val := by
    simp only [fromTimeT, nanosInSecond] at secs ⊢
    omega
  have fits : u64.Holds (nowT.secs.val - last.secs.val) := by
    rw [u64_holds]
    omega
  refine ⟨⟨_, fits⟩, rfl, ?_⟩
  simp only [durationSinceAsSecs, before, if_true, difference, Option.some.injEq]
  exact Word.ext (IntType.wrap_of_holds fits)

/-- Up to the end of the interval the debtor's line lies below the creditor's, which starts one
grace period later; after it the debtor's limit is the permanent debt, which both require. -/
lemma debtLimitOf_lt_of_delinquent (calculable : Calculable t) {now banned row}
    (delinquent : Delinquent t now banned row) :
    debtLimitOf t (now.secs.val - row.lastReceivedTimestamp.secs.val) < row.balance.value := by
  obtain ⟨-, -, abovePermanent, aboveLine⟩ := delinquent
  unfold debtLimitOf
  split
  next => exact abovePermanent
  next =>
    have negative := slopeOf_le_neg_one calculable.ordered calculable.divides calculable.short
    have grace := (U64.bounds t.paymentGracePeriodSec).1
    have falls : slopeOf t * (now.secs.val - row.lastReceivedTimestamp.secs.val -
        t.maturityThresholdSec.val) ≤
        slopeOf t * (t.graceLimit now.secs.val - row.lastReceivedTimestamp.secs.val) := by
      apply Int.mul_le_mul_of_nonpos_left (by omega)
      unfold graceLimit
      omega
    unfold delinquencyLine at aboveLine
    omega

/-- A debt the creditor bans for qualifies for payment at the debtor's. -/
theorem delinquent_debt_qualifies_for_payment (p q : Profile) {t : PaymentThresholds}
    {now : SystemTime} {nowT : TimeT} {receivable : ReceivableTable} {banned : List Wallet}
    {accounts : List ReceivableAccount} {account : ReceivableAccount} {payable : PayableAccount}
    (ordered : t.permanentDebtAllowedGwei.val < t.debtThresholdGwei.val)
    (permanentNarrow : t.permanentWei < 2 ^ 63)
    (divides : 1 ≤ t.thresholdIntervalSec.val) (short : t.thresholdIntervalSec.val ≤ 10 ^ 9)
    (slopeFits : i64.Holds (slopeOf t))
    (debtSmall : t.debtThresholdGwei.val < 2 ^ 60)
    (maturitySmall : t.maturityThresholdSec.val < 2 ^ 60)
    (graceSmall : t.paymentGracePeriodSec.val < 2 ^ 60)
    (clock : toTimeT now = .ok nowT) (nowSmall : nowT.secs.val < 2 ^ 60)
    (returned : newDelinquencies p now t receivable banned = .ok accounts)
    (selected : account ∈ accounts)
    (sameBalance : payable.balanceWei.val = account.balanceWei.val)
    (sameTimestamp : payable.lastPaidTimestamp = account.lastReceivedTimestamp) :
    ∃ threshold, payableExceededThreshold q t payable now = .ok (some threshold) := by
  have debt := U64.bounds t.debtThresholdGwei
  have maturity := U64.bounds t.maturityThresholdSec
  have grace := U64.bounds t.paymentGracePeriodSec
  have nowNonneg := nowT.secs_nonneg
  have calculable : Calculable t := ⟨ordered, by omega, short, slopeFits, by omega⟩
  have fits : QueryFits t nowT := {
    ordered, short, slopeFits
    divides := by omega
    debtFits := by rw [i64_holds]; omega
    maturityFits := by rw [i64_holds]; omega
    graceFits := by rw [i64_holds]; omega
    limitFits := by rw [i64_holds]; unfold PaymentThresholds.graceLimit; omega }
  have exact_ := (newDelinquencies_exact p clock fits receivable banned permanentNarrow).symm.trans returned
  rw [Except.ok.injEq] at exact_
  rw [← exact_] at selected
  obtain ⟨row, rowSelected, rfl⟩ := mem_map.mp selected
  have delinquent : Delinquent t nowT banned row := by
    simpa using (mem_filter.mp rowSelected).2
  have old := delinquent.2.1
  unfold PaymentThresholds.graceLimit at old
  have earlier : row.lastReceivedTimestamp.secs.val ≤ nowT.secs.val := by omega
  obtain ⟨age, ageVal, aged⟩ := durationSinceAsSecs_fromTimeT clock earlier
  have limit := debtLimitOf_lt_of_delinquent calculable delinquent
  have balance : payable.balanceWei.val = row.balance.value := sameBalance
  rw [← ageVal, ← balance] at limit
  have agedPayable : durationSinceAsSecs now payable.lastPaidTimestamp = some age := by
    rw [sameTimestamp]
    exact aged
  refine payableExceededThreshold_some q calculable agedPayable ?_ ?_ limit
  · omega
  · rw [balance]
    exact delinquent.2.2.1

/-- The debt of `9 * 10 ^ 18` wei, last paid at second 800, at its debtor. -/
def samplePayable : PayableAccount where
  wallet := ⟨3⟩
  balanceWei := ⟨9000000000000000000, by decide⟩
  lastPaidTimestamp := ⟨800 * nanosInSecond⟩
  pendingPayableOpt := none

theorem sample_debt_qualifies_for_payment :
    ∃ threshold, payableExceededThreshold .debug narrowThresholds samplePayable sampleNow =
      .ok (some threshold) :=
  have returned : newDelinquencies .release sampleNow narrowThresholds sampleReceivable [⟨2⟩] =
      .ok ((sampleReceivable.rows.take 1).map accountOf) := by decide
  delinquent_debt_qualifies_for_payment .release .debug
    (by decide) (by decide) (by decide) (by decide) (by decide) (by decide) (by decide) (by decide)
    sampleNow_toTimeT (by decide) returned (mem_singleton.mpr rfl) (by rfl) (by rfl)

/-! ### The thresholds that are safe to compute with -/

/-- Nothing the accountant computes from the thresholds panics or overflows, and the slope is a
negative database integer. -/
structure SafeForConsumers (t : PaymentThresholds) : Prop where
  slope : ∃ m : I128, ThresholdUtils.slope .debug t = .ok m ∧ i64.Holds m.val ∧ m.val ≤ -1
  payable : ∀ age : U64, ∃ limit : U128,
    calculateFiniteDebtLimitByAge .debug t age = .ok limit ∧ limit.val = debtLimitOf t age.val
  delinquencies : ∀ (now : SystemTime) (nowT : TimeT) (receivable : ReceivableTable)
    (banned : List Wallet), toTimeT now = .ok nowT →
      ∃ accounts, newDelinquencies .debug now t receivable banned = .ok accounts

/-- What the parameters of the query being computable says about the thresholds. -/
lemma delinquencyParams_debug_inv (clock : toTimeT now = .ok nowT)
    (computed : delinquencyParams .debug now t = .ok params) :
    t.debtThresholdGwei.val < 2 ^ 63 ∧ t.maturityThresholdSec.val < 2 ^ 63 ∧
      t.paymentGracePeriodSec.val < 2 ^ 63 ∧ -2 ^ 63 ≤ t.graceLimit nowT.secs.val := by
  simp only [delinquencyParams, suggAndGrace, bind_eq_ok, Word.sub,
    arith_debug_eq_ok, checkedConversion_eq_ok, clock, Except.ok.injEq] at computed
  obtain ⟨_, _, _, _, _, _, debt, debtVal, _, rfl, limit,
    ⟨maturity, maturityVal, matured, maturedVal, grace, graceVal, limitVal⟩, _⟩ := computed
  have debtBounds := I64.bounds debt
  have maturityBounds := I64.bounds maturity
  have graceBounds := I64.bounds grace
  have limitBounds := I64.bounds limit
  unfold graceLimit
  omega

lemma slopeOf_holds_iff (ordered : t.permanentDebtAllowedGwei.val < t.debtThresholdGwei.val)
    (divides : 0 < t.thresholdIntervalSec.val) (short : t.thresholdIntervalSec.val ≤ 10 ^ 9) :
    i64.Holds (slopeOf t) ↔ (t.debtThresholdGwei.val - t.permanentDebtAllowedGwei.val) * 10 ^ 9 <
        (2 ^ 63 + 1) * t.thresholdIntervalSec.val := by
  have negative := slopeOf_le_neg_one ordered divides short
  have difference : (t.debtThresholdGwei.val - t.permanentDebtAllowedGwei.val) * 10 ^ 9 =
      t.debtWei - t.permanentWei := by
    unfold debtWei permanentWei weisInGwei
    omega
  rw [difference, ← Int.ediv_lt_iff_lt_mul divides, i64_holds]
  rw [slopeOf_eq_neg_div ordered] at negative ⊢
  omega

section

variable {t : PaymentThresholds}

/-- The bounds the check leaves out, each of them the exact limit of one computation. -/
structure WithinLimits (t : PaymentThresholds) : Prop where
  interval : 1 ≤ t.thresholdIntervalSec.val
  debt : t.debtThresholdGwei.val < 2 ^ 63
  maturity : t.maturityThresholdSec.val < 2 ^ 63
  grace : t.paymentGracePeriodSec.val < 2 ^ 63
  sum : t.maturityThresholdSec.val + t.paymentGracePeriodSec.val ≤ 2 ^ 63
  slope : (t.debtThresholdGwei.val - t.permanentDebtAllowedGwei.val) * 10 ^ 9 <
    (2 ^ 63 + 1) * t.thresholdIntervalSec.val

lemma safeForConsumers_of_withinLimits (accepted : checkPaymentThresholds t = .ok ())
    (limits : WithinLimits t) : SafeForConsumers t := by
  obtain ⟨ordered, short⟩ := checkPaymentThresholds_eq_ok.mp accepted
  have divides : 0 < t.thresholdIntervalSec.val := Int.lt_of_lt_of_le (by decide) limits.interval
  have slopeFits := (slopeOf_holds_iff ordered divides short).mpr limits.slope
  have debtNonneg := (U64.bounds t.debtThresholdGwei).1
  have maturityNonneg := (U64.bounds t.maturityThresholdSec).1
  have graceNonneg := (U64.bounds t.paymentGracePeriodSec).1
  constructor
  case slope =>
    obtain ⟨m, mVal, mOk⟩ := slope_ok .debug (Int.ne_of_gt divides)
    exact ⟨m, mOk, mVal ▸ slopeFits, mVal ▸ slopeOf_le_neg_one ordered divides short⟩
  case payable =>
    intro age
    have calculable : Calculable t := ⟨ordered, divides, short, slopeFits, limits.maturity⟩
    obtain ⟨limit, limitVal, limitOk⟩ := calculateFiniteDebtLimitByAge_ok .debug calculable.descends age
    exact ⟨limit, limitOk, limitVal⟩
  case delinquencies =>
    intro now nowT receivable banned clock
    have nowNonneg := nowT.secs_nonneg
    have nowBounds := I64.bounds nowT.secs
    obtain ⟨-, debt, maturity, grace, sum, -⟩ := limits
    have fits : QueryFits t nowT := {
      ordered, divides, short, slopeFits
      debtFits := by rw [i64_holds]; omega
      maturityFits := by rw [i64_holds]; omega
      graceFits := by rw [i64_holds]; omega
      limitFits := by rw [i64_holds]; unfold graceLimit; omega }
    exact ⟨_, newDelinquencies_ok .debug clock fits receivable banned⟩

/-- The moment the clock starts from, at which the grace limit is lowest. -/
lemma toTimeT_epoch : toTimeT ⟨0⟩ = .ok ⟨⟨0, by decide⟩, by decide⟩ := by rfl

lemma withinLimits_of_safeForConsumers (accepted : checkPaymentThresholds t = .ok ())
    (safe : SafeForConsumers t) : WithinLimits t := by
  obtain ⟨ordered, short⟩ := checkPaymentThresholds_eq_ok.mp accepted
  obtain ⟨m, mOk, mFits, -⟩ := safe.slope
  have intervalNonneg := (U64.bounds t.thresholdIntervalSec).1
  have divides : t.thresholdIntervalSec.val ≠ 0 := by
    intro zero
    rw [slope_divideByZero .debug zero] at mOk
    cases mOk
  obtain ⟨m', mVal, mOk'⟩ := slope_ok .debug divides
  rw [mOk, Except.ok.injEq] at mOk'
  subst mOk'
  obtain ⟨accounts, returned⟩ := safe.delinquencies ⟨0⟩ _ ⟨[], nodup_nil⟩ [] toTimeT_epoch
  obtain ⟨params, computed, -⟩ := ok_of_bind returned
  obtain ⟨debt, maturity, grace, limit⟩ := delinquencyParams_debug_inv toTimeT_epoch computed
  dsimp only [graceLimit] at limit
  have positive : 0 < t.thresholdIntervalSec.val := by omega
  exact ⟨positive, debt, maturity, grace, by omega,
    (slopeOf_holds_iff ordered positive short).mp (mVal ▸ mFits)⟩

/-- Accepted thresholds are safe to compute with exactly within the limits. -/
theorem accepted_safeForConsumers_iff (accepted : checkPaymentThresholds t = .ok ()) :
    SafeForConsumers t ↔ WithinLimits t := ⟨withinLimits_of_safeForConsumers accepted, safeForConsumers_of_withinLimits accepted⟩

end

theorem narrowThresholds_safeForConsumers : SafeForConsumers narrowThresholds := (accepted_safeForConsumers_iff (by rfl)).mpr
    ⟨by decide, by decide, by decide, by decide, by decide, by decide⟩

/-- Thresholds with no interval to descend in. -/
def steepThresholds : PaymentThresholds :=
  { narrowThresholds with thresholdIntervalSec := ⟨0, u64_zero⟩ }

/-- The check accepts an empty interval, and the slope is then a division by zero. -/
theorem steepThresholds_accepted_unsafe :
    checkPaymentThresholds steepThresholds = .ok () ∧
      ThresholdUtils.slope .release steepThresholds = .error .divideByZero ∧
      ¬ SafeForConsumers steepThresholds := by
  have divided : ∀ p, ThresholdUtils.slope p steepThresholds = .error .divideByZero :=
    fun p => slope_divideByZero p (by rfl)
  refine ⟨by rfl, divided .release, ?_⟩
  intro safe
  obtain ⟨m, mOk, -⟩ := safe.slope
  cases mOk

end PulseMesh.Accountant
