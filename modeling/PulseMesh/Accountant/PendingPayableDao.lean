import PulseMesh.Accountant.ThresholdConsumers

/-!
# Fingerprints of pending payments

Every transaction of a submitted batch leaves a fingerprint in the `pending_payable` table until
it is confirmed or given up.  A new row takes the successor of the greatest row id, so the id of
a deleted last row is used again.
-/

namespace PulseMesh.Accountant

open Machine BigIntDivider Rows List

abbrev H256 := BitVec 256

instance : LawfulBEq H256 := inferInstance

structure HashAndAmount where
  hash : H256
  amount : U128

structure PendingPayableFingerprint where
  rowid : Nat
  timestamp : SystemTime
  hash : H256
  attempt : U16
  amount : U128
  processError : Option String

/-- A row of the table.  Row ids start at one and stay within `i64`; the attempts are an integer
column that is read back as `u16`. -/
structure PendingPayableRow where
  rowid : Nat
  transactionHash : H256
  amount : SplitInt
  payableTimestamp : TimeT
  attempt : Nat
  processError : Option String
deriving DecidableEq

inductive PendingPayableDaoError where
  | insertionFailed (msg : String)

structure TransactionHashes where
  rowidResults : List (Nat × H256)
  noRowidResults : List H256

variable (rows : List PendingPayableRow)

def fingerprintsRowids (hashes : List H256) : TransactionHashes :=
  let allFoundRecords := (rows.filter fun row => decide (row.transactionHash ∈ hashes)).map
    fun row => (row.rowid, row.transactionHash)
  { rowidResults := allFoundRecords
    noRowidResults := hashes.filter fun hash => decide (hash ∉ allFoundRecords.map Prod.snd) }

def createFingerprint (row : PendingPayableRow) : Except Panic PendingPayableFingerprint :=
  if readable : u16.Holds row.attempt then do
    let amount ← reconstitute row.amount.high row.amount.low
    let amount ← checkedConversion u128 amount
    return { rowid := row.rowid
             timestamp := fromTimeT row.payableTimestamp
             hash := row.transactionHash
             attempt := ⟨row.attempt, readable⟩
             amount
             processError := none }
  else
    .error (.raised "database is corrupt")

def returnAllErrorlessFingerprints : Except Panic (List PendingPayableFingerprint) :=
  queryMap (fun row => .ok row.processError.isNone) createFingerprint rows

def nextRowid : Nat :=
  (rows.map PendingPayableRow.rowid).max?.getD 0 + 1

def valuesForFingerprint (hashAndAmount : HashAndAmount) : Except Panic (H256 × SplitInt) := do
  let amountChecked ← checkedConversion i128 hashAndAmount.amount
  let amount ← deconstruct amountChecked
  return (hashAndAmount.hash, amount)

def newRow (timeT : TimeT) (rows : List PendingPayableRow) (value : H256 × SplitInt) :
    PendingPayableRow :=
  ⟨nextRowid rows, value.1, value.2, timeT, 1, none⟩

/-- The rows after an insert statement; `none` where the unique index on the hashes refuses it. -/
def insertValues (timeT : TimeT) (rows : List PendingPayableRow) :
    List (H256 × SplitInt) → Option (List PendingPayableRow)
  | [] => some rows
  | value :: values =>
    if value.1 ∈ rows.map PendingPayableRow.transactionHash then
      none
    else
      insertValues timeT (rows ++ [newRow timeT rows value]) values

def insertNewFingerprints (hashesAndAmounts : List HashAndAmount) (batchWideTimestamp : SystemTime) :
    Except Panic (Except PendingPayableDaoError (List PendingPayableRow)) := do
  let timeT ← toTimeT batchWideTimestamp
  let values ← hashesAndAmounts.mapM valuesForFingerprint
  -- a statement without values does not parse
  if values.isEmpty then
    .error (.raised "Internal error")
  else
    match insertValues timeT rows values with
    | some inserted => return .ok inserted
    | none =>
      return .error (.insertionFailed "UNIQUE constraint failed: pending_payable.transaction_hash")

variable {rows}

/-- A statement on the rows with the given ids, which has to affect one row for every id.  The
change drops a row or rewrites it. -/
def executeOnIds (change : PendingPayableRow → Option PendingPayableRow)
    (mismatch : Nat → Nat → String) (rows : List PendingPayableRow) (ids : List Nat) :
    Except Panic (List PendingPayableRow) :=
  let affected := rows.countP fun row => decide (row.rowid ∈ ids)
  if affected = ids.length then
    .ok (rows.filterMap fun row => if row.rowid ∈ ids then change row else some row)
  else
    .error (.raised (mismatch ids.length affected))

def deleteFingerprints : List PendingPayableRow → List Nat → Except Panic (List PendingPayableRow) :=
  executeOnIds (fun _ => none) fun expected actual =>
    s!"deleting fingerprint, expected {expected} rows to be changed, but the actual number is {actual}"

def incrementScanAttempts : List PendingPayableRow → List Nat → Except Panic (List PendingPayableRow) :=
  executeOnIds (fun row => some { row with attempt := row.attempt + 1 }) fun expected actual =>
    s!"Database corrupt: updating fingerprints: expected to update {expected} rows but did {actual}"

def markFailures : List PendingPayableRow → List Nat → Except Panic (List PendingPayableRow) :=
  executeOnIds (fun row => some { row with processError := some "ERROR" }) fun expected actual =>
    s!"Database corrupt: marking failure at fingerprints: expected to change {expected} rows but did {actual}"

/-! ### What the statements do -/

section

lemma createFingerprint_ok (readable : row.attempt < 2 ^ 16) (nonneg : 0 ≤ row.amount.value) :
    ∃ fingerprint, createFingerprint row = .ok fingerprint ∧ fingerprint.rowid = row.rowid ∧
      fingerprint.hash = row.transactionHash ∧ fingerprint.amount.val = row.amount.value ∧
      fingerprint.timestamp = fromTimeT row.payableTimestamp := by
  have holds : u16.Holds row.attempt := by
    rw [u16_holds]
    omega
  have amountHolds : u128.Holds row.amount.value := by
    have fits := row.amount.value_fits
    unfold SplitInt.Fits at fits
    rw [u128_holds]
    omega
  refine ⟨⟨row.rowid, fromTimeT row.payableTimestamp, row.transactionHash, ⟨row.attempt, holds⟩,
    ⟨row.amount.value, amountHolds⟩, none⟩, ?_, rfl, rfl, rfl, rfl⟩
  have converted : checkedConversion u128 ⟨row.amount.value, value_holds_i128 row.amount⟩ =
      .ok ⟨row.amount.value, amountHolds⟩ := checkedConversion_ok amountHolds
  simp only [createFingerprint, holds, ↓reduceDIte, reconstitute_split, ok_bind, converted]
  rfl

lemma createFingerprint_eq_ok (created : createFingerprint row = .ok fingerprint) :
    fingerprint.rowid = row.rowid ∧ fingerprint.hash = row.transactionHash ∧
      fingerprint.amount.val = row.amount.value ∧
      fingerprint.timestamp = fromTimeT row.payableTimestamp := by
  unfold createFingerprint at created
  split at created
  next =>
    simp only [reconstitute_split, ok_bind] at created
    obtain ⟨amount, converted, built⟩ := ok_of_bind created
    have value := checkedConversion_eq_ok.mp converted
    cases built
    exact ⟨rfl, rfl, value, rfl⟩
  next => cases created

open PendingPayableRow

lemma lt_nextRowid (member : row ∈ rows) : row.rowid < nextRowid rows := by
  have bound : row.rowid ≤ (rows.map rowid).max?.getD 0 := le_max?_getD_of_mem (mem_map_of_mem member)
  unfold nextRowid
  omega

lemma insertValues_ok (timeT) (ids : (rows.map rowid).Nodup) (distinct : (values.map Prod.fst).Nodup)
    (fresh : ∀ value ∈ values, value.1 ∉ rows.map transactionHash) :
    ∃ inserted, insertValues timeT rows values = some (rows ++ inserted) ∧
      inserted.map (fun row => (row.transactionHash, row.amount)) = values ∧
      ((rows ++ inserted).map rowid).Nodup := by
  induction values generalizing rows with
  | nil => exact ⟨[], by simp [insertValues], rfl, by simpa using ids⟩
  | cons value values ih =>
    rw [forall_mem_cons] at fresh
    rw [map_cons, nodup_cons] at distinct
    -- the new id is above all others
    have newId : nextRowid rows ∉ rows.map rowid := by
      intro used
      obtain ⟨row, member, same⟩ := mem_map.mp used
      exact absurd (lt_nextRowid member) (by omega)
    have nextIds : ((rows ++ [newRow timeT rows value]).map rowid).Nodup := by
      rw [map_append, map_singleton, ← concat_eq_append]
      exact ids.concat newId
    have nextFresh : ∀ other ∈ values, other.1 ∉ (rows ++ [newRow timeT rows value]).map transactionHash := by
      intro other member used
      rw [map_append, map_singleton, mem_append, mem_singleton] at used
      rcases used with used | same
      · exact fresh.2 other member used
      · have same : other.1 = value.1 := same
        exact distinct.1 (same ▸ mem_map_of_mem member)
    obtain ⟨inserted, insertion, contents, idsAfter⟩ := ih nextIds distinct.2 nextFresh
    refine ⟨newRow timeT rows value :: inserted, ?_, ?_, ?_⟩
    · rw [insertValues, if_neg fresh.1, insertion, append_assoc, singleton_append]
    · rw [map_cons, contents]
      rfl
    · rwa [append_assoc, singleton_append] at idsAfter

lemma executeOnIds_ok (unique : (rows.map rowid).Nodup) (distinct : ids.Nodup)
    (present : ∀ id ∈ ids, ∃ row ∈ rows, row.rowid = id) :
    executeOnIds change mismatch rows ids =
      .ok (rows.filterMap fun row => if row.rowid ∈ ids then change row else some row) := by
  simp only [executeOnIds, countP_key_mem unique distinct present, ↓reduceIte]

/-- A statement without ids changes nothing, so the guards that skip it can be ignored. -/
@[simp] lemma executeOnIds_nil (change : PendingPayableRow → Option PendingPayableRow)
    (mismatch : Nat → Nat → String) (rows) : executeOnIds change mismatch rows [] = .ok rows := by
  simp [executeOnIds]

lemma deleteFingerprints_ok (unique : (rows.map rowid).Nodup) (distinct : ids.Nodup)
    (present : ∀ id ∈ ids, ∃ row ∈ rows, row.rowid = id) :
    deleteFingerprints rows ids = .ok (rows.filter fun row => decide (row.rowid ∉ ids)) := by
  rw [deleteFingerprints, executeOnIds_ok unique distinct present, filterMap_drop]
  intro row _
  rw [decide_eq_true_eq]

lemma fingerprintsRowids_all (present : ∀ hash ∈ hashes, ∃ row ∈ rows, row.transactionHash = hash) :
    (fingerprintsRowids rows hashes).noRowidResults = [] := by
  simp only [fingerprintsRowids, filter_eq_nil_iff, decide_eq_true_eq, not_not]
  intro hash member
  obtain ⟨row, rowMember, rfl⟩ := present hash member
  simp only [map_map, mem_map, mem_filter, decide_eq_true_eq]
  exact ⟨row, ⟨rowMember, member⟩, rfl⟩

end

end PulseMesh.Accountant
