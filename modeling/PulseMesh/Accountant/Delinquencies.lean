import PulseMesh.Lib.Rows
import PulseMesh.Accountant.BigIntDivider
import PulseMesh.Accountant.PaymentThresholds

/-!
# New delinquencies

The query that finds the debtors to ban.  Its conditions compare balances half by half, with
the columns of the table on one side and a split threshold on the other.  The specification
compares the balances themselves; the two agree except around a permanent debt whose high
half is not zero, where the query tests the high half of the balance against zero.
-/

namespace PulseMesh.Accountant

open Machine BigIntDivider ThresholdUtils PaymentThresholds

structure ReceivableRow where
  wallet : Wallet
  balance : SplitInt
  lastReceivedTimestamp : TimeT
deriving DecidableEq

structure ReceivableTable where
  rows : List ReceivableRow
  primaryKey : (rows.map ReceivableRow.wallet).Nodup

structure ReceivableAccount where
  wallet : Wallet
  balanceWei : I128
  lastReceivedTimestamp : SystemTime
deriving DecidableEq

def createReceivableAccount (row : ReceivableRow) : Except Panic ReceivableAccount := do
  let balanceWei ← reconstitute row.balance.high row.balance.low
  return { wallet := row.wallet, balanceWei,
           lastReceivedTimestamp := fromTimeT row.lastReceivedTimestamp }

/-- The account a row stands for. -/
def accountOf (row : ReceivableRow) : ReceivableAccount where
  wallet := row.wallet
  balanceWei := ⟨row.balance.value, value_holds_i128 row.balance⟩
  lastReceivedTimestamp := fromTimeT row.lastReceivedTimestamp

lemma createReceivableAccount_ok (row) : createReceivableAccount row = .ok (accountOf row) := by
  simp only [createReceivableAccount, reconstitute_split, ok_bind]
  rfl

/-- The named parameters of the query. -/
structure DelinquencyParams where
  debtThreshold : I64
  slope : I64
  suggAndGrace : I64
  permanentDebtAllowed : SplitInt

variable (p : Profile)

def delinquencyParams (now : SystemTime) (t : PaymentThresholds) : Except Panic DelinquencyParams := do
  let slope ← ThresholdUtils.slope p t
  let permanentWei ← gweiToWei p i128 t.permanentDebtAllowedGwei
  let permanentDebtAllowed ← deconstruct permanentWei
  let debtThreshold ← checkedConversion i64 t.debtThresholdGwei
  let nowT ← toTimeT now
  let suggAndGrace ← t.suggAndGrace p nowT.secs
  return { debtThreshold, slope := slope.cast i64, suggAndGrace, permanentDebtAllowed }

/-- The comparison of the balance with the sloped threshold, high halves first. -/
def aboveSlopeDrop (params : DelinquencyParams) (row : ReceivableRow) : Except SqlFnFailure Bool := do
  let time := sqlSub params.suggAndGrace row.lastReceivedTimestamp.secs
  let dropHigh ← slopeDropHighBytes p params.debtThreshold params.slope time
  if row.balance.high.val > dropHigh.val then
    return true
  else if row.balance.high.val = dropHigh.val then
    let dropLow ← slopeDropLowBytes p params.debtThreshold params.slope time
    return decide (row.balance.low.val > dropLow.val)
  else
    return false

/-- The comparison of the balance with the permanent debt, as the query words it. -/
def abovePermanentDebt (permanent balance : SplitInt) : Bool :=
  decide (balance.high.val > permanent.high.val) ||
    (decide (balance.high.val = 0) && decide (balance.low.val > permanent.low.val))

/-- The conjuncts of the `where` clause, from left to right.  The outer join leaves the
banned wallet null exactly where the wallet is in no row of the banned table. -/
def newDelinquenciesWhere (params : DelinquencyParams) (banned : List Wallet)
    (row : ReceivableRow) : Except SqlFnFailure Bool := do
  if row.lastReceivedTimestamp.secs.val < params.suggAndGrace.val then
    if ← aboveSlopeDrop p params row then
      return abovePermanentDebt params.permanentDebtAllowed row.balance && decide (row.wallet ∉ banned)
    else
      return false
  else
    return false

def vigilantFlatten {α : Type} (item : Except SqlFnFailure α) : Except Panic α :=
  match item with
  | .ok a => .ok a
  | .error (.panicked panic) => .error panic
  | .error (.failed (.invalidInputValue fnName errMsg)) =>
    .error (.raised s!"discovered an error from a preceding operation when flattening produced Result structures: Error from {fnName}: {errMsg}")

def newDelinquencies (now : SystemTime) (t : PaymentThresholds)
    (receivable : ReceivableTable) (banned : List Wallet) : Except Panic (List ReceivableAccount) := do
  let params ← delinquencyParams p now t
  Rows.queryMap (fun row => vigilantFlatten (newDelinquenciesWhere p params banned row))
    createReceivableAccount receivable.rows

/-! ### What the query computes -/

/-- The thresholds and times the query can be evaluated for: the parameters fit their columns. -/
structure QueryFits (t : PaymentThresholds) (now : TimeT) : Prop where
  ordered : t.permanentDebtAllowedGwei.val < t.debtThresholdGwei.val
  divides : 0 < t.thresholdIntervalSec.val
  short : t.thresholdIntervalSec.val ≤ 10 ^ 9
  slopeFits : i64.Holds (slopeOf t)
  debtFits : i64.Holds t.debtThresholdGwei.val
  maturityFits : i64.Holds t.maturityThresholdSec.val
  graceFits : i64.Holds t.paymentGracePeriodSec.val
  limitFits : i64.Holds (t.graceLimit now.secs.val)

/-- The permanent debt as the query is given it. -/
lemma permanentWei_fits (t : PaymentThresholds) : SplitInt.Fits t.permanentWei := by
  have bounds := wei_bounds t.permanentDebtAllowedGwei
  unfold SplitInt.Fits permanentWei
  omega

def permanentSplit (t : PaymentThresholds) : SplitInt := .ofInt _ (permanentWei_fits t)

/-- The threshold that an account of the given age meets on the sloped line. -/
def delinquencyLine (t : PaymentThresholds) (now : TimeT) (row : ReceivableRow) : Int :=
  t.debtWei + slopeOf t * (t.graceLimit now.secs.val - row.lastReceivedTimestamp.secs.val)

variable {t : PaymentThresholds}

lemma suggAndGrace_ok (p) (fits : QueryFits t now) :
    t.suggAndGrace p now.secs = .ok ⟨_, fits.limitFits⟩ := by
  have nonneg := now.secs_nonneg
  have bounds := I64.bounds now.secs
  have maturity := U64.bounds t.maturityThresholdSec
  have maturityFits := fits.maturityFits
  have maturedFits : i64.Holds (now.secs.val - t.maturityThresholdSec.val) := by
    rw [i64_holds] at maturityFits ⊢
    omega
  simp only [suggAndGrace, checkedConversion_ok fits.maturityFits,
    checkedConversion_ok fits.graceFits, ok_bind, Word.sub, arith_ok p maturedFits]
  exact arith_ok p fits.limitFits

variable {now : SystemTime} {nowT : TimeT}

lemma delinquencyParams_ok (clock : toTimeT now = .ok nowT) (fits : QueryFits t nowT) :
    delinquencyParams p now t = .ok
      { debtThreshold := ⟨_, fits.debtFits⟩, slope := ⟨_, fits.slopeFits⟩,
        suggAndGrace := ⟨_, fits.limitFits⟩, permanentDebtAllowed := permanentSplit t } := by
  obtain ⟨m, mVal, mOk⟩ := slope_ok p (Int.ne_of_gt fits.divides)
  obtain ⟨permanent, permanentVal, permanentOk⟩ := gweiToWei_i128 p t.permanentDebtAllowedGwei
  have narrowed : m.cast i64 = ⟨_, fits.slopeFits⟩ := by
    apply Word.ext
    rw [Word.cast_val (mVal ▸ fits.slopeFits), mVal]
  have split : deconstruct permanent = .ok (permanentSplit t) := by
    rw [deconstruct_eq_ok, permanentVal]
    exact SplitInt.value_ofInt _
  simp only [delinquencyParams, mOk, permanentOk, split, checkedConversion_ok fits.debtFits, clock,
    suggAndGrace_ok p fits, ok_bind, narrowed]
  rfl

variable {p}

/-- The halves are compared as the numbers they stand for. -/
lemma aboveSlopeDrop_ok (p) (debt_nonneg : 0 ≤ params.debtThreshold.val) (negative : params.slope.val < 0)
    (old : row.lastReceivedTimestamp.secs.val < params.suggAndGrace.val) :
    aboveSlopeDrop p params row = .ok (decide (params.debtThreshold.val * weisInGwei +
        params.slope.val * (params.suggAndGrace.val - row.lastReceivedTimestamp.secs.val) <
          row.balance.value)) := by
  have limit := I64.bounds params.suggAndGrace
  have nonneg := row.lastReceivedTimestamp.secs_nonneg
  have timeFits :
      i64.Holds (params.suggAndGrace.val - row.lastReceivedTimestamp.secs.val) := by
    rw [i64_holds]
    omega
  have positive : 0 < (⟨_, timeFits⟩ : I64).val := Int.sub_pos_of_lt old
  obtain ⟨drop, dropValue, dropHigh, dropLow⟩ := slopeDrop_split p debt_nonneg negative positive
  have order := SplitInt.value_lt_value drop row.balance
  rw [dropValue, slopeDrop] at order
  simp only [aboveSlopeDrop, sqlSub_integer timeFits, dropHigh, dropLow, ok_bind, order]
  split
  next above => simp only [above, true_or, decide_true]; rfl
  next notAbove =>
    split
    next level => simp only [level, gt_iff_lt, Int.lt_irrefl, true_and, false_or]; rfl
    next below =>
      have notLevel : ¬ drop.high.val = row.balance.high.val := fun level => below level.symm
      simp only [notAbove, notLevel, false_and, or_self, decide_false]
      rfl

/-- The rows the `where` clause selects, its parameters being computed exactly. -/
def selectedByQuery (t : PaymentThresholds) (now : TimeT) (banned : List Wallet)
    (row : ReceivableRow) : Bool :=
  decide (row.lastReceivedTimestamp.secs.val < t.graceLimit now.secs.val) &&
    (decide (delinquencyLine t now row < row.balance.value) &&
      (abovePermanentDebt (permanentSplit t) row.balance && decide (row.wallet ∉ banned)))

lemma newDelinquencies_ok (p) (clock : toTimeT now = .ok nowT) (fits : QueryFits t nowT) (receivable banned) :
    newDelinquencies p now t receivable banned =
      .ok ((receivable.rows.filter (selectedByQuery t nowT banned)).map accountOf) := by
  simp only [newDelinquencies, delinquencyParams_ok p clock fits, ok_bind]
  refine Rows.queryMap_ok _ ?_ (fun row _ => createReceivableAccount_ok row)
  intro row _
  have debt_nonneg := (U64.bounds t.debtThresholdGwei).1
  have slope_le := slopeOf_le_neg_one fits.ordered fits.divides fits.short
  have negative : slopeOf t < 0 := by omega
  simp only [newDelinquenciesWhere, selectedByQuery]
  split
  next old =>
    rw [aboveSlopeDrop_ok p debt_nonneg negative old]
    cases above : decide (delinquencyLine t nowT row < row.balance.value) with
    | true =>
      have above' := of_decide_eq_true above
      unfold delinquencyLine debtWei at above'
      simp only [above', old, ok_bind, decide_true, if_true, Bool.true_and]
      rfl
    | false =>
      have above' := of_decide_eq_false above
      unfold delinquencyLine debtWei at above'
      simp only [above', ok_bind, decide_false, Bool.false_and, Bool.and_false]
      rfl
  next young =>
    simp only [young, decide_false, Bool.false_and]
    rfl

/-! ### The specification -/

/-- The accounts to ban: old enough, and above both the permanent debt and the sloped line. -/
def Delinquent (t : PaymentThresholds) (now : TimeT) (banned : List Wallet)
    (row : ReceivableRow) : Prop :=
  row.wallet ∉ banned ∧
    row.lastReceivedTimestamp.secs.val < t.graceLimit now.secs.val ∧
    t.permanentWei < row.balance.value ∧
    delinquencyLine t now row < row.balance.value

instance (t : PaymentThresholds) (now : TimeT) (banned : List Wallet) (row : ReceivableRow) :
    Decidable (Delinquent t now banned row) :=
  inferInstanceAs (Decidable (_ ∧ _ ∧ _ ∧ _))

lemma permanentSplit_high_nonneg (t) : 0 ≤ (permanentSplit t).high.val := by
  have bounds := wei_bounds t.permanentDebtAllowedGwei
  simp only [permanentSplit, SplitInt.ofInt, permanentWei]
  omega

/-- The test against zero instead of the high half of the permanent debt is wrong in both
directions: for balances of high half zero and for those that share the high half. -/
lemma abovePermanentDebt_eq_iff (nonneg : 0 ≤ permanent.high.val) :
    abovePermanentDebt permanent balance = decide (permanent.value < balance.value) ↔ permanent.high.val = 0 ∨
        (permanent.low.val < balance.low.val →
          balance.high.val ≠ 0 ∧ balance.high.val ≠ permanent.high.val) := by
  rw [Bool.eq_iff_iff, decide_eq_true_eq, SplitInt.value_lt_value]
  simp only [abovePermanentDebt, Bool.or_eq_true, Bool.and_eq_true, decide_eq_true_eq]
  omega

lemma accountOf_injOn (receivable : ReceivableTable) :
    ∀ a ∈ receivable.rows, ∀ b ∈ receivable.rows, accountOf a = accountOf b → a = b := by
  intro a ha b hb same
  exact Rows.eq_of_key_eq receivable.primaryKey ha hb (congrArg ReceivableAccount.wallet same)

lemma selectedByQuery_eq_iff (t : PaymentThresholds) (now : TimeT) (banned row) :
    selectedByQuery t now banned row = decide (Delinquent t now banned row) ↔
      (row.wallet ∉ banned → row.lastReceivedTimestamp.secs.val < t.graceLimit now.secs.val →
        delinquencyLine t now row < row.balance.value →
        (permanentSplit t).high.val = 0 ∨ ((permanentSplit t).low.val < row.balance.low.val →
            row.balance.high.val ≠ 0 ∧ row.balance.high.val ≠ (permanentSplit t).high.val)) := by
  rw [← abovePermanentDebt_eq_iff (permanentSplit_high_nonneg t)]
  have value : (permanentSplit t).value = t.permanentWei := SplitInt.value_ofInt _
  rw [value]
  by_cases free : row.wallet ∉ banned
  · by_cases old : row.lastReceivedTimestamp.secs.val < t.graceLimit now.secs.val
    · by_cases above : delinquencyLine t now row < row.balance.value
      · simp [selectedByQuery, Delinquent, free, old, above]
      · simp [selectedByQuery, Delinquent, above]
    · simp [selectedByQuery, Delinquent, old]
  · simp [selectedByQuery, Delinquent, free]

lemma permanentSplit_high_eq_zero_iff (t) :
    (permanentSplit t).high.val = 0 ↔ t.permanentWei < 2 ^ 63 := by
  have nonneg := (wei_bounds t.permanentDebtAllowedGwei).1
  simp only [permanentSplit, SplitInt.ofInt]
  unfold permanentWei
  omega

/-- A permanent debt that the low half holds is tested correctly. -/
lemma newDelinquencies_exact (p) (clock : toTimeT now = .ok nowT) (fits : QueryFits t nowT)
    (receivable banned) (narrow : t.permanentWei < 2 ^ 63) :
    newDelinquencies p now t receivable banned =
      .ok ((receivable.rows.filter (Delinquent t nowT banned)).map accountOf) := by
  rw [newDelinquencies_ok p clock fits]
  congr 2
  apply List.filter_congr
  intro row _
  rw [selectedByQuery_eq_iff]
  intro _ _ _
  exact .inl ((permanentSplit_high_eq_zero_iff t).mpr narrow)

/-- The query returns exactly the delinquent accounts if and only if the permanent debt has no
high half, or no row whose other conditions hold is one the test against zero misjudges. -/
theorem newDelinquencies_exact_iff (p : Profile) {now : SystemTime} {t : PaymentThresholds}
    {nowT : TimeT} (clock : toTimeT now = .ok nowT) (fits : QueryFits t nowT)
    (receivable : ReceivableTable) (banned : List Wallet) :
    newDelinquencies p now t receivable banned =
        .ok ((receivable.rows.filter (Delinquent t nowT banned)).map accountOf) ↔
      t.permanentWei < 2 ^ 63 ∨
        ∀ row ∈ receivable.rows, row.wallet ∉ banned →
          row.lastReceivedTimestamp.secs.val < t.graceLimit nowT.secs.val →
          delinquencyLine t nowT row < row.balance.value →
          t.permanentWei % 2 ^ 63 < row.balance.low.val →
          row.balance.high.val ≠ 0 ∧ row.balance.high.val ≠ t.permanentWei / 2 ^ 63 := by
  have halves : (permanentSplit t).high.val = t.permanentWei / 2 ^ 63 ∧
      (permanentSplit t).low.val = t.permanentWei % 2 ^ 63 := ⟨rfl, rfl⟩
  rw [newDelinquencies_ok p clock fits, Except.ok.injEq,
    Rows.map_filter_eq_iff (accountOf_injOn receivable), ← permanentSplit_high_eq_zero_iff]
  simp only [selectedByQuery_eq_iff, halves]
  by_cases zero : t.permanentWei / 2 ^ 63 = 0
  · simp only [zero, true_or, implies_true]
  · simp only [zero, false_or]

/-- Thresholds whose permanent debt, `10 ^ 19` wei, has the high half one. -/
def wideThresholds : PaymentThresholds where
  debtThresholdGwei := ⟨20000000000, by decide⟩
  maturityThresholdSec := ⟨100, u64_hundred⟩
  paymentGracePeriodSec := ⟨100, u64_hundred⟩
  permanentDebtAllowedGwei := ⟨10000000000, by decide⟩
  thresholdIntervalSec := ⟨1000, u64_thousand⟩
  unbanBelowGwei := ⟨10000000000, by decide⟩

/-- The same with a permanent debt of `10 ^ 18` wei, which the low half holds. -/
def narrowThresholds : PaymentThresholds :=
  { wideThresholds with permanentDebtAllowedGwei := ⟨1000000000, by decide⟩ }

def sampleNow : SystemTime := ⟨3000 * nanosInSecond⟩

def sampleNowT : TimeT := ⟨⟨3000, by decide⟩, by decide⟩

/-- Two debtors of the same age, owing `9 * 10 ^ 18` and `15 * 10 ^ 18` wei. -/
def sampleReceivable : ReceivableTable where
  rows := [⟨⟨1⟩, .ofInt 9000000000000000000 (by decide), ⟨⟨800, by decide⟩, by decide⟩⟩,
    ⟨⟨2⟩, .ofInt 15000000000000000000 (by decide), ⟨⟨800, by decide⟩, by decide⟩⟩]
  primaryKey := by decide

lemma sampleNow_toTimeT : toTimeT sampleNow = .ok sampleNowT := by rfl

lemma narrowThresholds_fit : QueryFits narrowThresholds sampleNowT := by
  constructor <;> decide

lemma wideThresholds_fit : QueryFits wideThresholds sampleNowT := by
  constructor <;> decide

theorem newDelinquencies_exact_narrow :
    newDelinquencies .debug sampleNow narrowThresholds sampleReceivable [⟨2⟩] =
      .ok ((sampleReceivable.rows.filter (Delinquent narrowThresholds sampleNowT [⟨2⟩])).map
        accountOf) := (newDelinquencies_exact_iff .debug sampleNow_toTimeT narrowThresholds_fit sampleReceivable
    [⟨2⟩]).mpr (.inl (by decide))

/-- Against the wide permanent debt the first debtor, who is below it, is returned, and the
second, who is above it, is not. -/
theorem newDelinquencies_misjudges_wide :
    toTimeT sampleNow = .ok sampleNowT ∧ QueryFits wideThresholds sampleNowT ∧
      newDelinquencies .release sampleNow wideThresholds sampleReceivable [] =
        .ok ((sampleReceivable.rows.take 1).map accountOf) ∧
      sampleReceivable.rows.filter (Delinquent wideThresholds sampleNowT []) =
        sampleReceivable.rows.drop 1 ∧
      newDelinquencies .release sampleNow wideThresholds sampleReceivable [] ≠
        .ok ((sampleReceivable.rows.filter (Delinquent wideThresholds sampleNowT [])).map
          accountOf) := ⟨sampleNow_toTimeT, wideThresholds_fit, by decide, by decide, by decide⟩

end PulseMesh.Accountant
