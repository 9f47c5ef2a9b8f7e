import PulseMesh.Lib.SplitInt
import PulseMesh.Accountant.Basic

/-!
# Big integers in the database

Balances are wider than a database integer, so they are stored as two columns.  The same
split is available inside queries through the two `slope_drop` functions registered with the
connection.
-/

namespace PulseMesh.Accountant.BigIntDivider

open Machine SplitInt

def upperHex (n : Nat) : String :=
  "0x" ++ String.ofList ((Nat.toDigits 16 n).map Char.toUpper)

def deconstructRangeCheck (num : I128) : Except Panic Unit :=
  let topTwoBits := (num.val >>> (126 : Nat)) % 4
  if topTwoBits = 1 then
    .error (.raised s!"Dividing big integer for special database storage: {upperHex (num.cast u128).val.toNat} is too big, maximally 0x3FFFFFFFFFFFFFFFFFFFFFFFFFFFFFFF allowed")
  else if topTwoBits = 2 then
    .error (.raised s!"Dividing big integer for special database storage: {upperHex (num.cast u128).val.toNat} is too small, minimally 0xC0000000000000000000000000000000 allowed")
  else
    .ok ()

variable {num : I128}

lemma deconstructRangeCheck_eq_ok : deconstructRangeCheck num = .ok () ↔ Fits num.val := by
  have bounds := I128.bounds num
  simp only [deconstructRangeCheck, Int.shiftRight_eq_div_pow, Fits]
  split
  · simp only [reduceCtorEq, false_iff]; omega
  · split
    · simp only [reduceCtorEq, false_iff]; omega
    · simp only [true_iff]; omega

lemma deconstructRangeCheck_eq_error (outside : ¬ Fits num.val) :
    ∃ panic, deconstructRangeCheck num = .error panic := by
  cases checked : deconstructRangeCheck num with
  | error panic => exact ⟨panic, rfl⟩
  | ok => exact absurd (deconstructRangeCheck_eq_ok.mp checked) outside

/-- `num >> 63` and `num & 0x7FFFFFFFFFFFFFFF`, each narrowed to a database integer. -/
def deconstructHighBytes (num : I128) : Except Panic I64 := do
  deconstructRangeCheck num
  return ⟨i64.wrap (num.val >>> (63 : Nat)), i64.wrap_holds _⟩

def deconstructLowBytes (num : I128) : I64 := ⟨num.val % 2 ^ 63, SplitInt.low_holds _⟩

def deconstruct (num : I128) : Except Panic SplitInt := do
  let high ← deconstructHighBytes num
  return { high, low := deconstructLowBytes num, low_nonneg := Int.emod_nonneg _ (by decide) }

lemma deconstructHighBytes_ok (fits : Fits num.val) :
    deconstructHighBytes num = .ok (ofInt num.val fits).high := by
  have high := high_holds_of_fits fits
  simp only [deconstructHighBytes, deconstructRangeCheck_eq_ok.mpr fits, ok_bind, Int.shiftRight_eq_div_pow]
  exact congrArg Except.ok (Word.ext (IntType.wrap_of_holds high))

lemma deconstruct_ok (fits : Fits num.val) : deconstruct num = .ok (ofInt num.val fits) := by
  simp only [deconstruct, deconstructHighBytes_ok fits, ok_bind]
  rfl

lemma deconstruct_eq_ok : deconstruct num = .ok split ↔ split.value = num.val := by
  by_cases fits : Fits num.val
  · rw [deconstruct_ok fits, Except.ok.injEq]
    constructor
    · rintro rfl
      simp
    · intro same
      exact value_injective (by simp [same])
  · obtain ⟨panic, checked⟩ := deconstructRangeCheck_eq_error fits
    refine iff_of_false ?_ ?_
    · simp [deconstruct, deconstructHighBytes, checked]
    · intro same
      exact fits (same ▸ split.value_fits)

def forbiddenLowBytesNegativityCheck (lowBytes : I64) : Except Panic Unit :=
  if lowBytes.val < 0 then
    .error (.raised s!"Reconstituting big integer from special database storage: the second, lower integer {upperHex (lowBytes.cast u64).val.toNat} is signed despite the requirement to be all-time positive")
  else
    .ok ()

/-- The halves occupy disjoint bits, so the disjunction of the source is a sum. -/
def reconstitute (highBytes lowBytes : I64) : Except Panic I128 := do
  forbiddenLowBytesNegativityCheck lowBytes
  return ⟨i128.wrap (highBytes.val * 2 ^ 63 + lowBytes.val), i128.wrap_holds _⟩

lemma value_holds_i128 (s : SplitInt) : i128.Holds s.value := by
  have fits := s.value_fits
  unfold Fits at fits
  rw [i128_holds]
  omega

lemma reconstitute_split (s : SplitInt) :
    reconstitute s.high s.low = .ok ⟨s.value, value_holds_i128 s⟩ := by
  have nonneg := s.low_nonneg
  have check : forbiddenLowBytesNegativityCheck s.low = .ok () := by
    simp [forbiddenLowBytesNegativityCheck, nonneg]
  simp only [reconstitute, check, ok_bind]
  exact congrArg Except.ok (Word.ext (IntType.wrap_of_holds (value_holds_i128 s)))

/-! ### The functions registered with the connection -/

/-- Query arithmetic leaves the integers when the result does not fit. -/
inductive SqlNumber where
  | integer (value : I64)
  | real

def sqlSub (a b : I64) : SqlNumber :=
  if fits : i64.Holds (a.val - b.val) then .integer ⟨a.val - b.val, fits⟩ else .real

lemma sqlSub_integer (fits : i64.Holds (a.val - b.val)) : sqlSub a b = .integer ⟨a.val - b.val, fits⟩ := by
  simp [sqlSub, fits]

inductive UserDefinedFunctionError where
  | invalidInputValue (fnName errMsg : String)

/-- What a registered function ends with when it does not return a number. -/
inductive SqlFnFailure where
  | panicked (panic : Panic)
  | failed (error : UserDefinedFunctionError)

def orPanicked {α : Type} (x : Except Panic α) : Except SqlFnFailure α :=
  match x with
  | .ok a => .ok a
  | .error panic => .error (.panicked panic)

@[simp] lemma orPanicked_ok {α : Type} (a : α) :
    orPanicked (.ok a : Except Panic α) = .ok a := rfl

def getI64FromArgs (fnName position : String) (argument : SqlNumber) : Except SqlFnFailure I64 :=
  match argument with
  | .integer value => .ok value
  | .real => .error (.failed (.invalidInputValue fnName s!"{position} argument takes only i64, not: Real"))

/-- Both parameters of the query are bound integers; only the third argument is computed. -/
def commonArgDistillation (p : Profile) (fnName : String)
    (startPointToDecreaseFromGwei slope : I64) (time : SqlNumber) : Except SqlFnFailure I128 := do
  let timeParameter ← getI64FromArgs fnName "Third" time
  if slope.val < 0 ∧ 0 < timeParameter.val then
    let start ← orPanicked (gweiToWei p i128 startPointToDecreaseFromGwei)
    let drop ← orPanicked (arith p i128 (slope.val * timeParameter.val))
    orPanicked (start.add p drop)
  else if 0 ≤ slope.val then
    .error (.failed (.invalidInputValue fnName s!"Nonnegative slope {slope.val}; delinquency slope must be negative, since debts must become more delinquent over time."))
  else
    .error (.failed (.invalidInputValue fnName s!"Negative time parameter {timeParameter.val}; debt age cannot go negative."))

def slopeDropHighBytes (p : Profile) (start slope : I64) (time : SqlNumber) :
    Except SqlFnFailure I64 := do
  let num ← commonArgDistillation p "slope_drop_high_bytes" start slope time
  orPanicked (deconstructHighBytes num)

def slopeDropLowBytes (p : Profile) (start slope : I64) (time : SqlNumber) :
    Except SqlFnFailure I64 := do
  let num ← commonArgDistillation p "slope_drop_low_bytes" start slope time
  return deconstructLowBytes num

/-- The number both functions split. -/
def slopeDrop (start slope time : I64) : Int := start.val * weisInGwei + slope.val * time.val

variable {slope : I64}

/-- A product of two database integers, the second positive, stays clear of the least split
integer by one radix. -/
lemma slopeDrop_fits (start_nonneg : 0 ≤ start.val) (negative : slope.val < 0) (positive : 0 < time.val) :
    Fits (slopeDrop start slope time) := by
  have startBounds := I64.bounds start
  have slopeBounds := I64.bounds slope
  have timeBounds := I64.bounds time
  have below : slope.val * time.val < 0 := Int.mul_neg_of_neg_of_pos negative positive
  have above : -2 ^ 63 * (2 ^ 63 - 1) ≤ slope.val * time.val := by
    calc -2 ^ 63 * (2 ^ 63 - 1) ≤ -2 ^ 63 * time.val :=
          Int.mul_le_mul_of_nonpos_left (by decide) (by omega)
      _ ≤ slope.val * time.val := Int.mul_le_mul_of_nonneg_right (by omega) (by omega)
  unfold Fits slopeDrop weisInGwei
  omega

lemma commonArgDistillation_ok (p) (fnName : String) (start_nonneg : 0 ≤ start.val)
    (negative : slope.val < 0) (positive : 0 < time.val) :
    ∃ num : I128, num.val = slopeDrop start slope time ∧
      commonArgDistillation p fnName start slope (.integer time) = .ok num := by
  have fits := slopeDrop_fits start_nonneg negative positive
  have startBounds := I64.bounds start
  have startFits : i128.Holds (start.val * weisInGwei) := by
    rw [i128_holds]
    unfold weisInGwei
    omega
  have dropFits : i128.Holds (slope.val * time.val) := by
    unfold Fits slopeDrop weisInGwei at fits
    rw [i128_holds]
    omega
  have sumFits : i128.Holds (start.val * weisInGwei + slope.val * time.val) := by
    unfold Fits slopeDrop at fits
    rw [i128_holds]
    omega
  refine ⟨⟨_, sumFits⟩, rfl, ?_⟩
  simp [commonArgDistillation, getI64FromArgs, negative, positive, gweiToWei,
    arith_ok p startFits, arith_ok p dropFits, Word.add, arith_ok p sumFits]

/-- Both functions return, and what they return are the halves of one number. -/
lemma slopeDrop_split (p) (start_nonneg : 0 ≤ start.val) (negative : slope.val < 0)
    (positive : 0 < time.val) :
    ∃ drop : SplitInt, drop.value = slopeDrop start slope time ∧
      slopeDropHighBytes p start slope (.integer time) = .ok drop.high ∧
      slopeDropLowBytes p start slope (.integer time) = .ok drop.low := by
  have fits := slopeDrop_fits start_nonneg negative positive
  obtain ⟨num, same, distilledHigh⟩ :=
    commonArgDistillation_ok p "slope_drop_high_bytes" start_nonneg negative positive
  obtain ⟨num', same', distilledLow⟩ :=
    commonArgDistillation_ok p "slope_drop_low_bytes" start_nonneg negative positive
  rw [← same] at fits
  have one : num' = num := Word.ext (by rw [same, same'])
  refine ⟨.ofInt num.val fits, by simp [same], ?_, ?_⟩
  · simp only [slopeDropHighBytes, distilledHigh, ok_bind, deconstructHighBytes_ok fits, orPanicked_ok]
  · simp only [slopeDropLowBytes, distilledLow, ok_bind, one]
    rfl

end PulseMesh.Accountant.BigIntDivider
