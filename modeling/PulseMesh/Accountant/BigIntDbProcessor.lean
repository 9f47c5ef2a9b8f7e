import PulseMesh.Lib.Rows
import PulseMesh.Accountant.BigIntDivider

/-!
# Changing balances in the database

A statement adds the two halves of a change to the two columns of a balance.  When a sum
leaves the integers, the strict column refuses it, and the processor reads the row back,
carries into the high half itself and writes both halves.  Every call to the database can
fail; which ones do is a parameter.
-/

namespace PulseMesh.Accountant

open Machine BigIntDivider SplitInt List

inductive WeiChangeDirection where
  | addition
  | subtraction

structure WeiChange where
  amountToChange : U128
  direction : WeiChangeDirection

def WeiChange.oriented (change : WeiChange) : Int :=
  match change.direction with
  | .addition => change.amountToChange.val
  | .subtraction => -change.amountToChange.val

def weiChangeAsHighAndLowBytes (p : Profile) (change : WeiChange) : Except Panic SplitInt := do
  let sizeCheckedAmount ← checkedConversion i128 change.amountToChange
  let orientedAmount ← match change.direction with
    | .addition => .ok sizeCheckedAmount
    | .subtraction => sizeCheckedAmount.neg p
  deconstruct orientedAmount

lemma weiChangeAsHighAndLowBytes_eq_ok (p) :
    weiChangeAsHighAndLowBytes p change = .ok bytes ↔ bytes.value = change.oriented := by
  have amountBounds := U128.bounds change.amountToChange
  have bytesFit := bytes.value_fits
  unfold Fits at bytesFit
  by_cases fits : i128.Holds change.amountToChange.val
  · simp only [weiChangeAsHighAndLowBytes, checkedConversion_ok fits, ok_bind]
    cases direction : change.direction with
    | addition => simp only [deconstruct_eq_ok, WeiChange.oriented, direction]
    | subtraction =>
      have negFits : i128.Holds (-change.amountToChange.val) := by
        rw [i128_holds] at fits ⊢
        omega
      simp only [Word.neg, arith_ok p negFits, ok_bind, deconstruct_eq_ok, WeiChange.oriented, direction]
  · refine iff_of_false ?_ ?_
    · intro built
      obtain ⟨converted, conversion, -⟩ := ok_of_bind built
      exact fits (checkedConversion_eq_ok.mp conversion ▸ converted.holds)
    · rw [i128_holds] at fits
      cases direction : change.direction with
      | addition | subtraction => simp only [WeiChange.oriented, direction]; omega

lemma weiChange_subtraction (p) (fits : amount.val ≤ 2 ^ 126) :
    ∃ bytes, weiChangeAsHighAndLowBytes p ⟨amount, .subtraction⟩ = .ok bytes ∧ bytes.value = -amount.val := by
  have bounds := U128.bounds amount
  refine ⟨ofInt (-amount.val) ⟨by omega, by omega⟩, ?_, value_ofInt _⟩
  exact (weiChangeAsHighAndLowBytes_eq_ok p).mpr (value_ofInt _)

inductive BigIntDatabaseError where
  | general (msg : String)
  | rowChangeMismatch (rowKey : String) (detectedCountChanged : Nat)

def BigIntDatabaseError.display : BigIntDatabaseError → String
  | .general msg => msg
  | .rowChangeMismatch rowKey count =>
    s!"Expected 1 row to be changed for the unique key {rowKey} but got this count: {count}"

/-- A table with a balance: its name and the two columns. -/
structure BalanceTable (ρ : Type) where
  tableName : String
  balance : ρ → SplitInt
  setBalance : ρ → SplitInt → ρ

/-- The statement pair of a balance change.  Both statements have the same `where` clause on the
key and set the same other columns; an upsert has a row to insert where the key is new. -/
structure BigIntSqlConfig (ρ : Type) where
  isKey : ρ → Bool
  tableUniqueKey : String
  keyParamValue : String
  weiChange : SplitInt
  setOthers : ρ → ρ
  insertion : Option ρ

def BigIntSqlConfig.determineCommand {ρ : Type} (config : BigIntSqlConfig ρ) : String :=
  if config.insertion.isSome then "upsert" else "update"

/-- The calls of one balance change, in the order they are made. -/
inductive ProcessorCall where
  | prepareMain
  | executeMain
  | prepareSelect
  | queryRow
  | prepareOverflowUpdate
  | executeOverflowUpdate

/-- The calls that fail, with the error they fail with. -/
abbrev Faults (call : Type) := call → Option String

def noFaults {call : Type} : Faults call := fun _ => none

/-- `a + b` on both columns, where both sums are integers. -/
def addColumns (a b : SplitInt) : Option SplitInt :=
  if fits : i64.Holds (a.high.val + b.high.val) ∧ i64.Holds (a.low.val + b.low.val) then
    some { high := ⟨_, fits.1⟩, low := ⟨_, fits.2⟩,
           low_nonneg := Int.add_nonneg a.low_nonneg b.low_nonneg }
  else
    none

section

variable {ρ : Type} (p : Profile) (faults : Faults ProcessorCall) (table : BalanceTable ρ)
  (config : BigIntSqlConfig ρ)

def mainRow (row : ρ) : Option ρ :=
  if config.isKey row then
    (addColumns (table.balance row) config.weiChange).map (table.setBalance (config.setOthers row))
  else
    some row

/-- The main statement: the rows after it and how many it changed, or the refusal of a sum
that a strict integer column cannot hold. -/
def mainSql (rows : List ρ) : Option (List ρ × Nat) :=
  if rows.any config.isKey then
    (rows.mapM (mainRow table config)).map fun changed => (changed, rows.countP config.isKey)
  else
    match config.insertion with
    | some row => some (rows ++ [row], 1)
    | none => some (rows, 0)

def correctBytes (former change : SplitInt) : Except Panic SplitInt := do
  let high ← former.high.add p change.high
  let highBytesCorrection ← high.add p ⟨1, by decide⟩
  return { high := highBytesCorrection,
           low := ⟨(former.low.val + change.low.val) % 2 ^ 63, SplitInt.low_holds _⟩,
           low_nonneg := Int.emod_nonneg _ (by decide) }

def overflowRow (corrected : SplitInt) (row : ρ) : ρ :=
  if config.isKey row then table.setBalance (config.setOthers row) corrected else row

def executeUpdate (corrected : SplitInt) (rows : List ρ) : Except Panic (List ρ) :=
  if (faults .prepareOverflowUpdate).isSome then
    .error (.raised "internal rusqlite error")
  else if (faults .executeOverflowUpdate).isSome then
    .error (.raised "Logic problem in params selection for the SQL taking values with an already compensated overflow")
  else
    match rows.countP config.isKey with
    | 1 => .ok (rows.map (overflowRow table config corrected))
    | count => .error (.raised s!"Broken code: this code was written to handle one changed row a time, not {count}")

def updateErrorText (e : String) : String :=
  s!"Updating balance for {table.tableName} table and change of {config.weiChange.value} wei to '{config.tableUniqueKey} = {config.keyParamValue}' with error '{e}'"

def updateWithOverflow (rows : List ρ) : Except Panic (Except BigIntDatabaseError (List ρ)) :=
  if (faults .prepareSelect).isSome then
    .error (.raised "internal rusqlite error")
  else
    match faults .queryRow, rows.find? config.isKey with
    | some e, _ => .ok (.error (.general (updateErrorText table config e)))
    | none, none => .ok (.error (.general (updateErrorText table config "Query returned no rows")))
    | none, some row => do
      let corrected ← correctBytes p (table.balance row) config.weiChange
      let updated ← executeUpdate faults table config corrected rows
      return .ok updated

/-- The table after the change.  An error leaves it as it was: with a unique key a count other
than one is zero. -/
def execute (rows : List ρ) : Except Panic (Except BigIntDatabaseError (List ρ)) :=
  if (faults .prepareMain).isSome then
    .error (.raised "internal rusqlite error")
  else
    match faults .executeMain, mainSql table config rows with
    | some e, _ => .ok (.error (.general s!"Error from invalid {config.determineCommand} command for {table.tableName} table and change of {config.weiChange.value} wei to '{config.tableUniqueKey} = {config.keyParamValue}' with error '{e}'"))
    | none, some (changed, 1) => .ok (.ok changed)
    | none, some (_, count) => .ok (.error (.rowChangeMismatch config.keyParamValue count))
    | none, none => updateWithOverflow p faults table config rows

end

/-! ### One balance -/

/-- What becomes of a balance: the sums of the columns, or else the carried sum. -/
def changeBalance (p : Profile) (former change : SplitInt) : Except Panic SplitInt :=
  match addColumns former change with
  | some sum => .ok sum
  | none => correctBytes p former change

lemma addColumns_value {a b sum} (added : addColumns a b = some sum) :
    sum.value = a.value + b.value := by
  unfold addColumns at added
  split at added
  next =>
    cases added
    simp only [value]
    omega
  next => cases added

variable {change : SplitInt}

/-- Where the high halves do not add up to less than the least database integer, only a low
half can have overflowed, and the carry is one. -/
lemma correctBytes_exact (p) (refused : addColumns former change = none)
    (above : -2 ^ 63 ≤ former.high.val + change.high.val) (below : former.value + change.value < 2 ^ 126) :
    ∃ corrected, correctBytes p former change = .ok corrected ∧
      corrected.value = former.value + change.value := by
  have formerLow := I64.bounds former.low
  have changeLow := I64.bounds change.low
  have formerNonneg := former.low_nonneg
  have changeNonneg := change.low_nonneg
  simp only [value] at below ⊢
  have highFits : i64.Holds (former.high.val + change.high.val) := by
    rw [i64_holds]
    omega
  have carried : 2 ^ 63 ≤ former.low.val + change.low.val := by
    by_contra small
    have lowFits : i64.Holds (former.low.val + change.low.val) := by
      rw [i64_holds]
      omega
    simp [addColumns, highFits, lowFits] at refused
  have carryFits : i64.Holds (former.high.val + change.high.val + 1) := by
    rw [i64_holds] at highFits ⊢
    omega
  refine ⟨⟨⟨_, carryFits⟩, ⟨(former.low.val + change.low.val) % 2 ^ 63, low_holds _⟩,
    Int.emod_nonneg _ (by decide)⟩, ?_, ?_⟩
  · simp only [correctBytes, Word.add, arith_ok p highFits, ok_bind, arith_ok p carryFits]
    rfl
  · simp only
    omega

/-- The change is exact in every build for the sums one radix above the least split integer. -/
lemma changeBalance_ok (p) (above : -2 ^ 63 ≤ former.high.val + change.high.val)
    (below : former.value + change.value < 2 ^ 126) :
    ∃ changed, changeBalance p former change = .ok changed ∧ changed.value = former.value + change.value := by
  unfold changeBalance
  cases added : addColumns former change with
  | some sum => exact ⟨sum, rfl, addColumns_value added⟩
  | none => exact correctBytes_exact p added above below

lemma changeBalance_nonneg (p) (above : 0 ≤ former.value + change.value)
    (below : former.value + change.value < 2 ^ 126) :
    ∃ changed, changeBalance p former change = .ok changed ∧ changed.value = former.value + change.value := by
  apply changeBalance_ok p _ below
  have formerLow := I64.bounds former.low
  have changeLow := I64.bounds change.low
  simp only [value] at above
  omega

lemma high_eq_value_div (s : SplitInt) : s.high.val = s.value / 2 ^ 63 := by
  have low := I64.bounds s.low
  have nonneg := s.low_nonneg
  simp only [value]
  omega

/-- The released build never stops on a balance. -/
lemma changeBalance_release_ok (former change) :
    ∃ changed, changeBalance .release former change = .ok changed := by
  unfold changeBalance
  cases added : addColumns former change with
  | some sum => exact ⟨sum, rfl⟩
  | none =>
    obtain ⟨high, highOk, -⟩ := arith_release_eq_ok i64 (former.high.val + change.high.val)
    obtain ⟨carried, carriedOk, -⟩ := arith_release_eq_ok i64 (high.val + 1)
    simp only [correctBytes, Word.add, highOk, ok_bind, carriedOk]
    exact ⟨_, rfl⟩

/-- In the released build the carry also repairs a high half that wrapped by one. -/
lemma changeBalance_release_exact (fits : Fits (former.value + change.value)) :
    ∃ changed, changeBalance .release former change = .ok changed ∧
      changed.value = former.value + change.value := by
  obtain ⟨above, below⟩ := fits
  by_cases high : -2 ^ 63 ≤ former.high.val + change.high.val
  · exact changeBalance_ok .release high below
  · -- only a carry out of the low halves brings the sum back into the range
    have formerLow := I64.bounds former.low
    have changeLow := I64.bounds change.low
    simp only [value] at above below ⊢
    have sum : former.high.val + change.high.val = -2 ^ 63 - 1 := by omega
    have refused : addColumns former change = none := by
      have outside : ¬ i64.Holds (former.high.val + change.high.val) := by
        rw [i64_holds]
        omega
      simp [addColumns, outside]
    obtain ⟨highWord, highOk, highVal⟩ := arith_release_eq_ok i64 (former.high.val + change.high.val)
    obtain ⟨carried, carriedOk, carriedVal⟩ := arith_release_eq_ok i64 (highWord.val + 1)
    have wrapped : carried.val = -2 ^ 63 := by
      rw [carriedVal, highVal, sum]
      decide
    refine ⟨⟨carried, ⟨(former.low.val + change.low.val) % 2 ^ 63, low_holds _⟩,
      Int.emod_nonneg _ (by decide)⟩, ?_, ?_⟩
    · simp only [changeBalance, refused, correctBytes, Word.add, highOk, ok_bind, carriedOk]
      rfl
    · simp only [wrapped]
      omega

/-- A build with overflow checks stops exactly when the high halves add up to too little. -/
lemma changeBalance_debug_iff (below : former.value + change.value < 2 ^ 126) :
    (∃ changed, changeBalance .debug former change = .ok changed) ↔
      -2 ^ 63 ≤ former.high.val + change.high.val := by
  constructor
  · rintro ⟨changed, returned⟩
    unfold changeBalance at returned
    cases added : addColumns former change with
    | some sum =>
      unfold addColumns at added
      split at added
      next fits => exact ((i64_holds _).mp fits.1).1
      next => cases added
    | none =>
      simp only [added, correctBytes, Word.add, bind_eq_ok, arith_debug_eq_ok] at returned
      obtain ⟨high, highVal, -⟩ := returned
      rw [← highVal]
      exact (I64.bounds high).1
  · intro above
    obtain ⟨changed, returned, -⟩ := changeBalance_ok .debug above below
    exact ⟨changed, returned⟩

/-! ### One table -/

section

variable {ρ : Type} (p : Profile) (table : BalanceTable ρ) (config : BigIntSqlConfig ρ)
  {rows : List ρ}

lemma mapM_mainRow {sum} (added : ∀ row ∈ rows, config.isKey row = true →
      addColumns (table.balance row) config.weiChange = some sum) :
    rows.mapM (mainRow table config) = some (rows.map (overflowRow table config sum)) := by
  induction rows with
  | nil => rfl
  | cons row rows ih =>
    rw [forall_mem_cons] at added
    have head : mainRow table config row = some (overflowRow table config sum row) := by
      by_cases key : config.isKey row
      · simp [mainRow, overflowRow, key, added.1 key]
      · simp [mainRow, overflowRow, key]
    rw [mapM_cons, head, ih added.2]
    rfl

lemma mapM_mainRow_refused (member : row ∈ rows) (key : config.isKey row = true)
    (refused : addColumns (table.balance row) config.weiChange = none) :
    rows.mapM (mainRow table config) = none := by
  induction rows with
  | nil => cases member
  | cons head rows ih =>
    rcases mem_cons.mp member with rfl | member
    · simp [mainRow, key, refused]
    · simp [ih member]

/-- One row has the key: both statements, and the change of the balance decides which of them,
rewrite that row. -/
lemma execute_of_single (only : rows.filter config.isKey = [row]) :
    execute p noFaults table config rows = (do
      let changed ← changeBalance p (table.balance row) config.weiChange
      return .ok (rows.map (overflowRow table config changed))) := by
  have counted : rows.countP config.isKey = 1 := by
    rw [countP_eq_length_filter, only, length_singleton]
  have memberKey : row ∈ rows ∧ config.isKey row = true := mem_filter.mp (only ▸ mem_singleton.mpr rfl)
  have found : rows.find? config.isKey = some row := by
    rw [← head?_filter, only, head?_cons]
  have present : rows.any config.isKey = true := any_eq_true.mpr ⟨row, memberKey⟩
  cases added : addColumns (table.balance row) config.weiChange with
  | some sum =>
    have all : ∀ other ∈ rows, config.isKey other = true →
        addColumns (table.balance other) config.weiChange = some sum := by
      intro other member key
      rw [Rows.eq_of_filter_eq_singleton only member key, added]
    simp [execute, noFaults, mainSql, present, mapM_mainRow table config all, counted, changeBalance, added]
  | none =>
    simp [execute, noFaults, mainSql, present, counted, found, updateWithOverflow, executeUpdate,
      mapM_mainRow_refused table config memberKey.1 memberKey.2 added, changeBalance, added]

lemma execute_of_absent (absent : ∀ row ∈ rows, config.isKey row = false) :
    execute p noFaults table config rows = .ok (match config.insertion with
      | some row => .ok (rows ++ [row])
      | none => .error (.rowChangeMismatch config.keyParamValue 0)) := by
  have missing : rows.any config.isKey = false := by
    rw [any_eq_false]
    intro row member
    simp [absent row member]
  cases insertion : config.insertion with
  | some | none => simp [execute, noFaults, mainSql, missing, insertion]

variable {p table config}

lemma executeUpdate_faulty (returned : executeUpdate faults table config corrected rows = .ok updated) :
    executeUpdate noFaults table config corrected rows = .ok updated := by
  unfold executeUpdate at returned
  split at returned
  · cases returned
  · split at returned
    · cases returned
    · exact returned

variable {result : Except BigIntDatabaseError (List ρ)} (specific : ∀ msg, result ≠ .error (.general msg))
include specific

lemma updateWithOverflow_faulty (returned : updateWithOverflow p faults table config rows = .ok result) :
    updateWithOverflow p noFaults table config rows = .ok result := by
  unfold updateWithOverflow at returned
  split at returned
  · cases returned
  · split at returned
    · cases returned
      exact absurd rfl (specific _)
    · cases returned
      exact absurd rfl (specific _)
    next row _ found =>
      obtain ⟨corrected, corrects, returned⟩ := ok_of_bind returned
      obtain ⟨updated, updates, returned⟩ := ok_of_bind returned
      simp only [updateWithOverflow, noFaults, Option.isSome_none, found, corrects, ok_bind]
      exact bind_eq_ok.mpr ⟨updated, executeUpdate_faulty updates, returned⟩

/-- A failing call does not change what is stored: unless the change panics or reports a general error,
it ends as without failures. -/
lemma execute_faulty (returned : execute p faults table config rows = .ok result) :
    execute p noFaults table config rows = .ok result := by
  unfold execute at returned
  split at returned
  · cases returned
  · split at returned
    · cases returned
      exact absurd rfl (specific _)
    next main => simpa [execute, noFaults, main] using returned
    next other main => simpa [execute, noFaults, main] using returned
    next main =>
      simp only [execute, noFaults, Option.isSome_none, main]
      exact updateWithOverflow_faulty specific returned

end

section

variable {ρ : Type} (p : Profile) (table : BalanceTable ρ) (rows : List ρ) (change : WeiChange)

/-- A change below a quarter of the range is added exactly to a stored balance of that size, with or without
a carry, and nothing else changes.  The upsert of a new key stores the change itself. -/
theorem execute_exact (stores : ∀ row bytes, table.balance (table.setBalance row bytes) = bytes)
    (small : change.oriented.natAbs < 2 ^ 125) :
    ∃ bytes, weiChangeAsHighAndLowBytes p change = .ok bytes ∧
      ∀ config : BigIntSqlConfig ρ, config.weiChange = bytes →
        (∀ row ∈ config.insertion, table.balance row = bytes) →
        (∀ row, rows.filter config.isKey = [row] → (table.balance row).value.natAbs < 2 ^ 125 →
          ∃ updated, execute p noFaults table config rows = .ok (.ok updated) ∧
            List.Forall₂ (fun old new =>
              if config.isKey old then
                let stored := table.balance new
                stored.value = (table.balance old).value + change.oriented ∧
                  0 ≤ stored.low.val ∧ stored.low.val < 2 ^ 63
              else new = old) rows updated) ∧
        (∀ new, config.insertion = some new → (∀ row ∈ rows, config.isKey row = false) →
          execute p noFaults table config rows = .ok (.ok (rows ++ [new])) ∧
            (table.balance new).value = change.oriented) := by
  have fits : Fits change.oriented := ⟨by omega, by omega⟩
  refine ⟨ofInt _ fits, (weiChangeAsHighAndLowBytes_eq_ok p).mpr (value_ofInt fits), ?_⟩
  intro config isChange inserts
  have value : config.weiChange.value = change.oriented := by rw [isChange, value_ofInt]
  constructor
  · intro row only stored
    -- both high halves are at least half of the least one
    have above : -2 ^ 63 ≤ (table.balance row).high.val + config.weiChange.high.val := by
      rw [high_eq_value_div, high_eq_value_div]
      omega
    obtain ⟨changed, changes, exact_⟩ := changeBalance_ok p above (by omega)
    rw [execute_of_single p table config only, changes]
    refine ⟨_, rfl, ?_⟩
    rw [forall₂_map_right_iff, forall₂_same]
    intro other member
    by_cases key : config.isKey other
    · cases Rows.eq_of_filter_eq_singleton only member key
      simp only [key, overflowRow, ↓reduceIte, stores]
      exact ⟨by rw [exact_, value], changed.low_nonneg, (I64.bounds changed.low).2⟩
    · simp [key, overflowRow]
  · intro new inserted absent
    rw [execute_of_absent p table config absent, inserted, inserts new inserted, value_ofInt]
    exact ⟨rfl, rfl⟩

/-- Two low halves that overflow, in a table of one balance. -/
theorem execute_exact_carry :
    ∃ bytes, weiChangeAsHighAndLowBytes .debug ⟨⟨2 ^ 63 - 1, by decide⟩, .addition⟩ = .ok bytes ∧
      ∃ updated, execute .debug noFaults (⟨"payable", id, fun _ bytes => bytes⟩ : BalanceTable SplitInt)
        ⟨fun _ => true, "wallet_address", "", bytes, id, none⟩ [ofInt 1 (by decide)] = .ok (.ok updated) ∧
          updated.map value = [2 ^ 63] := by
  obtain ⟨bytes, converts, exact_⟩ := execute_exact .debug ⟨"payable", id, fun _ bytes => bytes⟩
    [ofInt 1 (by decide)] ⟨⟨2 ^ 63 - 1, by decide⟩, .addition⟩ (fun _ _ => rfl) (by decide)
  obtain ⟨updated, executes, sums⟩ := (exact_ ⟨fun _ => true, "wallet_address", "", bytes, id, none⟩ rfl
    (by simp)).1 _ rfl (by decide)
  refine ⟨bytes, converts, updated, executes, ?_⟩
  cases sums with
  | cons sum rest =>
    cases rest
    exact congrArg (fun balance => [balance]) sum.1

end

end PulseMesh.Accountant
