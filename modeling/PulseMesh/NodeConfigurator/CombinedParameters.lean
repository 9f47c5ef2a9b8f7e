import PulseMesh.Lib.Returns
import PulseMesh.NodeConfigurator.AccountantConfig

/-!
# Printed parameters

Whatever is printed between bars is read again as what it was.  A text with the right number of parts makes
the parser panic exactly if one of them is no number; with another number of parts it is refused.
-/

namespace PulseMesh.NodeConfigurator

open Machine Accountant List

/-- The numbers with bars between them. -/
def displayAll (values : List U64) : String :=
  .ofList (['|'].intercalate (values.map fun value => (toString value.val).toList))

def displayRatePack (pack : Neighborhood.RatePack) : String :=
  displayAll [pack.routingByteRate, pack.routingServiceRate, pack.exitByteRate, pack.exitServiceRate]

def displayPaymentThresholds (t : PaymentThresholds) : String :=
  displayAll [t.debtThresholdGwei, t.maturityThresholdSec, t.paymentGracePeriodSec, t.permanentDebtAllowedGwei,
    t.thresholdIntervalSec, t.unbanBelowGwei]

def displayScanIntervals (intervals : ScanIntervals) : String :=
  displayAll [intervals.pendingPayableScanInterval, intervals.payableScanInterval, intervals.receivableScanInterval]

/-! ### Single numbers -/

lemma parseDigits_append (soFar : U64) (front back) :
    parseDigits soFar (front ++ back) = parseDigits soFar front >>= (parseDigits · back) := by
  induction front generalizing soFar with
  | nil => rfl
  | cons digit digits ih =>
    simp only [cons_append, parseDigits]
    split_ifs <;> first | exact ih _ | rfl

lemma parseDigits_digitChar {soFar : U64} {digit : Nat} (small : digit < 10) (fits : u64.Holds (10 * soFar.val + digit)) :
    parseDigits soFar [digit.digitChar] = .ok ⟨_, fits⟩ := by
  interval_cases digit <;> exact dif_pos fits

lemma parseDigits_toDigits (n : Nat) (fits : u64.Holds n) :
    parseDigits ⟨0, by decide⟩ (Nat.toDigits 10 n) = .ok ⟨n, fits⟩ := by
  induction n using Nat.strongRecOn with
  | ind n ih =>
    rw [Nat.toDigits_eq_if (by decide)]
    have bounds := (u64_holds _).mp fits
    split_ifs with small
    · rw [parseDigits_digitChar small (by simpa using fits)]
      simp
    · have whole : 10 * ((n / 10 : Nat) : Int) + (n % 10 : Nat) = n := by omega
      rw [parseDigits_append, ih (n / 10) (by omega) ((u64_holds _).mpr (by omega)), ok_bind,
        parseDigits_digitChar (Nat.mod_lt _ (by decide)) (by simpa only [whole] using fits)]
      simp only [whole]

/-- What is printed for a number. -/
lemma toList_toString (value : U64) :
    ∃ n : Nat, value.val = n ∧ (toString value.val).toList = Nat.toDigits 10 n := by
  obtain ⟨n, isNat⟩ := Int.eq_ofNat_of_zero_le ((u64_holds _).mp value.holds).1
  exact ⟨n, isNat, by rw [isNat]; exact Nat.toList_repr⟩

lemma isDigit_of_mem_toString (member : c ∈ (toString (value : U64).val).toList) : c.isDigit := by
  obtain ⟨n, -, printed⟩ := toList_toString value
  exact Nat.isDigit_of_mem_toDigits (by decide) (by decide) (printed ▸ member)

lemma parseU64_toString (value : U64) : parseU64 (toString value.val).toList = .ok value := by
  obtain ⟨n, isNat, printed⟩ := toList_toString value
  have digits : ∀ c ∈ Nat.toDigits 10 n, c.isDigit := fun c member =>
    Nat.isDigit_of_mem_toDigits (by decide) (by decide) member
  rw [printed]
  unfold parseU64
  split
  next none => exact absurd none (by simp)
  next sign => exact absurd (digits '+' (by simp [sign])) (by decide)
  next sign => exact absurd (digits '+' (by simp [sign])) (by decide)
  next => exact (parseDigits_toDigits n (isNat ▸ value.holds)).trans (by simp only [← isNat])

/-! ### Texts -/

section

variable {T : Type} {pieces : List (List Char)} {initiate : List (String × U64) → Except Panic T}

/-- Every part is a number, or there are too few or too many. -/
def Numeric (count : Nat) (text : String) : Prop :=
  (text.toList.splitOn '|').length = count → ∀ piece ∈ text.toList.splitOn '|', ∃ value, parseU64 piece = .ok value

/-- What is printed is read again, and a text that can be read does not panic. -/
structure RoundTrips (count : Nat) (parse : String → Except Panic (Except String T)) (display : T → String)
    (text : String) : Prop where
  reads : ∀ values, parse (display values) = .ok (.ok values)
  returns : (∃ result, parse text = .ok result) ↔ Numeric count text

lemma mapM_parseValue (read : Forall₂ (fun piece number => parseU64 piece = .ok number) pieces numbers) (names) :
    (pieces.zip names).mapM (fun (piece, name) => parseValue piece name) = .ok (names.zip numbers) := by
  rw [Rows.mapM_eq_ok]
  induction read generalizing names with
  | nil => simp
  | cons isNumber _ ih =>
    cases names with
    | nil => exact .nil
    | cons name names => exact .cons (by simp [parseValue, isNumber]) (ih names)

lemma numeric_of_mapM (counted : pieces.length = names.length)
    (read : (pieces.zip names).mapM (fun (piece, name) => parseValue piece name) = .ok values)
    (member : piece ∈ pieces) : ∃ number, parseU64 piece = .ok number := by
  rw [← map_fst_zip counted.le] at member
  obtain ⟨⟨piece, name⟩, listed, rfl⟩ := mem_map.mp member
  obtain ⟨value, -, parsed⟩ := Rows.forall₂_mem_left (Rows.mapM_eq_ok.mp read) listed
  cases isNumber : parseU64 piece with
  | ok number => exact ⟨number, rfl⟩
  | error e => simp [parseValue, isNumber] at parsed

/-- A text with the right number of parts is read part by part. -/
lemma tryFrom_of_counted (counted : (text.toList.splitOn '|').length = names.length) :
    tryFrom names initiate text =
      ((text.toList.splitOn '|').zip names).mapM (fun (piece, name) => parseValue piece name) >>=
        fun values => .ok <$> initiate values := by
  rw [tryFrom, parseCombinedParams, if_pos counted]
  exact bind_assoc ..

lemma splitOn_displayAll (some : values ≠ []) :
    (displayAll values).toList.splitOn '|' = values.map fun value => (toString value.val).toList := by
  rw [displayAll, String.toList_ofList]
  apply splitOn_intercalate
  · intro piece member bar
    obtain ⟨value, -, rfl⟩ := mem_map.mp member
    exact absurd (isDigit_of_mem_toString bar) (by decide)
  · simpa using some

lemma roundTrips_tryFrom {count} {fields : T → List U64} (named : names.length = count)
    (displays : ∀ values, display values = displayAll (fields values))
    (initiates : ∀ values, initiate (names.zip (fields values)) = .ok values)
    (counted : ∀ values, (fields values).length = count) (positive : 0 < count)
    (complete : ∀ numbers, numbers.length = count → ∃ values, fields values = numbers) :
    RoundTrips count (tryFrom names initiate) display text where
  reads values := by
    have printed := splitOn_displayAll (ne_nil_of_length_pos (counted values ▸ positive))
    have read := mapM_parseValue (forall₂_map_left_iff.mpr
      (forall₂_same.mpr fun value (_ : value ∈ fields values) => parseU64_toString value)) names
    rw [displays, tryFrom_of_counted (by rw [printed, length_map, counted, named]), printed, read, ok_bind,
      initiates]
    rfl
  returns := by
    by_cases isCount : (text.toList.splitOn '|').length = count
    · rw [tryFrom_of_counted (isCount.trans named.symm)]
      constructor
      · rintro ⟨result, parsed⟩ - piece member
        obtain ⟨values, read, -⟩ := ok_of_bind parsed
        exact numeric_of_mapM (isCount.trans named.symm) read member
      · intro numeric
        obtain ⟨numbers, read, -⟩ := returns_mapM fun piece member =>
          (numeric isCount piece member).imp fun _ isNumber => ⟨isNumber, trivial⟩
        have related := Rows.mapM_eq_ok.mp read
        obtain ⟨values, rfl⟩ := complete numbers (related.length_eq.symm.trans isCount)
        exact ⟨.ok values, by rw [mapM_parseValue related, ok_bind, initiates]; rfl⟩
    · refine iff_of_true ?_ fun counted => absurd counted isCount
      rw [tryFrom, parseCombinedParams, if_neg (named ▸ isCount)]
      exact ⟨_, rfl⟩

end

end PulseMesh.NodeConfigurator
