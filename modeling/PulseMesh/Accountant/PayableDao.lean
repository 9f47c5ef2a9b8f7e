import PulseMesh.Accountant.BigIntDbProcessor
import PulseMesh.Accountant.PendingPayableDao

/-!
# Debts

The `payable` table: what is owed to each wallet and, while a payment is on its way, the row id
of its fingerprint.
-/

namespace PulseMesh.Accountant

open Machine BigIntDivider Rows List

structure PayableRow where
  wallet : Wallet
  balance : SplitInt
  lastPaidTimestamp : TimeT
  pendingPayableRowid : Option Nat
deriving DecidableEq

inductive PayableDaoError where
  | signConversion (amount : U128)
  | rusqliteError (msg : String)

def payableTable : BalanceTable PayableRow where
  tableName := "payable"
  balance := PayableRow.balance
  setBalance row balance := { row with balance }

def ofProcessor {α : Type} : Except BigIntDatabaseError α → Except PayableDaoError α
  | .ok rows => .ok rows
  | .error e => .error (.rusqliteError e.display)

def moreMoneyConfig (wallet : Wallet) (weiChange : SplitInt) (lastPaid : TimeT) :
    BigIntSqlConfig PayableRow where
  isKey row := decide (row.wallet = wallet)
  tableUniqueKey := "wallet_address"
  keyParamValue := wallet.display
  weiChange
  setOthers row := row
  insertion := some ⟨wallet, weiChange, lastPaid, none⟩

def moreMoneyPayable (p : Profile) (rows : List PayableRow) (timestamp : SystemTime)
    (wallet : Wallet) (amount : U128) : Except Panic (Except PayableDaoError (List PayableRow)) := do
  let lastPaid ← toTimeT timestamp
  let weiChange ← weiChangeAsHighAndLowBytes p ⟨amount, .addition⟩
  let result ← execute p noFaults payableTable (moreMoneyConfig wallet weiChange lastPaid) rows
  return ofProcessor result

/-! ### Marking -/

def pairsInPrettyString {α : Type} (write : α → String) (pairs : List (Wallet × α)) : String :=
  ", ".intercalate (pairs.map fun pair =>
    s!"( Wallet: {pair.1.display}, Rowid: {write pair.2} )")

def writeRowidOpt : Option Nat → String
  | some rowid => toString rowid
  | none => "N/A"

variable (rows : List PayableRow) (walletsAndRowids : List (Wallet × Nat))

/-- The rows are those after the update that affected too few or too many of them. -/
def explanatoryExtension : String :=
  let resultingPairs := (rows.filter fun row => decide (row.wallet ∈ walletsAndRowids.map Prod.fst)).map
    fun row => (row.wallet, row.pendingPayableRowid)
  let resultingPairsSummary :=
    if resultingPairs.isEmpty then
      "<Failing again: accounts with such wallets not found>"
    else
      pairsInPrettyString writeRowidOpt resultingPairs
  let demanded := pairsInPrettyString (fun rowid : Nat => toString rowid) walletsAndRowids
  s!"The demanded data according to {demanded} looks different from the resulting state {resultingPairsSummary}!. Operation failed.\n" ++
  "Notes:\n" ++
  "a) if row ids have stayed non-populated it points out that writing failed but without the double payment threat,\n" ++
  "b) if some accounts on the resulting side are missing, other kind of serious issues should be suspected but see other\n" ++
  "points to figure out if you were put in danger of double payment,\n" ++
  "c) seeing ids different from those demanded might be a sign of some payments having been doubled.\n" ++
  "The operation which is supposed to clear out the ids of the payments previously requested for this account\n" ++
  "probably had not managed to complete successfully before another payment was requested: preventive measures failed.\n"

def mismatchedRowCountPanic (actualCount : Nat) : Panic :=
  let serializedWallets := ", ".intercalate (walletsAndRowids.map fun pair => pair.1.display)
  let expectedCount := walletsAndRowids.length
  let extension := explanatoryExtension rows walletsAndRowids
  .raised s!"Marking pending payable rowid for wallets {serializedWallets} affected {actualCount} rows but expected {expectedCount}. {extension}"

def caseExpression (wallet : Wallet) : Option Nat :=
  (walletsAndRowids.find? fun pair => decide (pair.1 = wallet)).map Prod.snd

def isToMark (row : PayableRow) : Bool :=
  row.pendingPayableRowid.isNone && decide (row.wallet ∈ walletsAndRowids.map Prod.fst)

def markRow (row : PayableRow) : PayableRow :=
  if isToMark walletsAndRowids row then
    { row with pendingPayableRowid := caseExpression walletsAndRowids row.wallet }
  else
    row

/-- The statement returns the id of every row it updates, and only those that are not null count. -/
def markPendingPayablesRowids : Except Panic (List PayableRow) :=
  if walletsAndRowids.isEmpty then
    .error (.raised "broken code: empty input is not permit to enter this method")
  else
    let marked := rows.map (markRow walletsAndRowids)
    let rowsAffected := rows.countP fun row =>
      isToMark walletsAndRowids row && (caseExpression walletsAndRowids row.wallet).isSome
    if rowsAffected = walletsAndRowids.length then
      .ok marked
    else
      .error (mismatchedRowCountPanic marked walletsAndRowids rowsAffected)

variable {walletsAndRowids}

/-! ### Confirming and reading -/

def confirmationConfig (rowid : Nat) (weiChange : SplitInt) (lastPaid : TimeT) :
    BigIntSqlConfig PayableRow where
  isKey row := decide (row.pendingPayableRowid = some rowid)
  tableUniqueKey := "pending_payable_rowid"
  keyParamValue := toString rowid
  weiChange
  setOthers row := { row with lastPaidTimestamp := lastPaid, pendingPayableRowid := none }
  insertion := none

/-- Every confirmation is a statement of its own, kept when a later one fails.  The row ids of the
database are all `i64`, so their conversion cannot fail. -/
def transactionsConfirmed (p : Profile) (rows : List PayableRow) :
    List PendingPayableFingerprint → Except Panic (Except PayableDaoError (List PayableRow))
  | [] => .ok (.ok rows)
  | fingerprint :: fingerprints => do
    let lastPaid ← toTimeT fingerprint.timestamp
    let weiChange ← weiChangeAsHighAndLowBytes p ⟨fingerprint.amount, .subtraction⟩
    let result ← execute p noFaults payableTable
      (confirmationConfig fingerprint.rowid weiChange lastPaid) rows
    match ofProcessor result with
    | .ok confirmed => transactionsConfirmed p confirmed fingerprints
    | .error e => return .error e

def createPayableAccount (row : PayableRow) : Except Panic PayableAccount := do
  let balance ← reconstitute row.balance.high row.balance.low
  let balanceWei ← checkedConversion u128 balance
  return { wallet := row.wallet
           balanceWei
           lastPaidTimestamp := fromTimeT row.lastPaidTimestamp
           pendingPayableOpt := none }

def nonPendingPayables : Except Panic (List PayableAccount) :=
  queryMap (fun row => .ok row.pendingPayableRowid.isNone) createPayableAccount rows

variable {rows}

/-! ### What the statements do -/

section

variable (p : Profile)

lemma weiChange_addition (fits : amount.val < 2 ^ 126) :
    ∃ change, weiChangeAsHighAndLowBytes p ⟨amount, .addition⟩ = .ok change ∧ change.value = amount.val := by
  have nonneg := (U128.bounds amount).1
  refine ⟨SplitInt.ofInt amount.val ⟨by omega, fits⟩, ?_, SplitInt.value_ofInt _⟩
  exact (weiChangeAsHighAndLowBytes_eq_ok p).mpr (SplitInt.value_ofInt _)

variable {row : PayableRow}

/-- The debt grows where there is one; the time of the last payment stays. -/
lemma moreMoneyPayable_present (unique : (rows.map PayableRow.wallet).Nodup)
    (clock : toTimeT timestamp = .ok lastPaid) (member : row ∈ rows) (nonneg : 0 ≤ row.balance.value)
    (fits : row.balance.value + amount.val < 2 ^ 126) :
    ∃ balance : SplitInt, balance.value = row.balance.value + amount.val ∧
      moreMoneyPayable p rows timestamp row.wallet amount = .ok (.ok (rows.map fun other =>
        if other.wallet = row.wallet then { other with balance } else other)) := by
  have amountNonneg := (U128.bounds amount).1
  have amountFits : amount.val < 2 ^ 126 := by omega
  obtain ⟨change, changeOk, changeVal⟩ := weiChange_addition p amountFits
  have only : rows.filter (moreMoneyConfig row.wallet change lastPaid).isKey = [row] :=
    filter_key_eq_singleton unique member
  have above : 0 ≤ row.balance.value + change.value := by omega
  have below : row.balance.value + change.value < 2 ^ 126 := by omega
  obtain ⟨balance, balanceOk, balanceVal⟩ := changeBalance_nonneg p above below
  have changed : changeBalance p (payableTable.balance row)
      (moreMoneyConfig row.wallet change lastPaid).weiChange = .ok balance := balanceOk
  refine ⟨balance, by rw [balanceVal, changeVal], ?_⟩
  simp only [moreMoneyPayable, clock, changeOk, ok_bind, execute_of_single p _ _ only, changed]
  simp [overflowRow, moreMoneyConfig, payableTable, ofProcessor, pure, Except.pure]

lemma moreMoneyPayable_absent (clock : toTimeT timestamp = .ok lastPaid)
    (absent : ∀ row ∈ rows, row.wallet ≠ wallet) (fits : amount.val < 2 ^ 126) :
    ∃ balance : SplitInt, balance.value = amount.val ∧ moreMoneyPayable p rows timestamp wallet amount =
        .ok (.ok (rows ++ [⟨wallet, balance, lastPaid, none⟩])) := by
  obtain ⟨change, changeOk, changeVal⟩ := weiChange_addition p fits
  have missing : ∀ row ∈ rows, (moreMoneyConfig wallet change lastPaid).isKey row = false := by
    intro row member
    exact decide_eq_false (absent row member)
  refine ⟨change, changeVal, ?_⟩
  simp only [moreMoneyPayable, clock, changeOk, ok_bind, execute_of_absent p _ _ missing]
  rfl

/-- What confirmed fingerprints do to a row: the one of its pending payment clears the mark and
takes the amount off the balance, others leave it alone. -/
def Settled (fingerprints : List PendingPayableFingerprint) (row settled : PayableRow) : Prop :=
  settled.wallet = row.wallet ∧
    ((∃ fingerprint ∈ fingerprints, row.pendingPayableRowid = some fingerprint.rowid ∧
        settled.pendingPayableRowid = none ∧
        settled.balance.value = row.balance.value - fingerprint.amount.val) ∨
      ((∀ fingerprint ∈ fingerprints, row.pendingPayableRowid ≠ some fingerprint.rowid) ∧
        settled = row))

lemma settled_cons (first : Settled [fingerprint] row mid) (rest : Settled fingerprints mid settled) :
    Settled (fingerprint :: fingerprints) row settled := by
  obtain ⟨midWallet, ⟨one, member, pending, midPending, midBalance⟩ | ⟨others, rfl⟩⟩ := first
  · -- the first fingerprint settles the row, which is not pending for the others
    rw [mem_singleton] at member
    subst member
    obtain ⟨wallet, ⟨later, -, laterPending, -⟩ | ⟨-, rfl⟩⟩ := rest
    · rw [midPending] at laterPending
      cases laterPending
    · exact ⟨midWallet, .inl ⟨one, mem_cons_self, pending, midPending, midBalance⟩⟩
  · obtain ⟨wallet, ⟨later, member, pending, settledPending, balance⟩ | ⟨none_, rfl⟩⟩ := rest
    · exact ⟨wallet, .inl ⟨later, mem_cons_of_mem _ member, pending, settledPending, balance⟩⟩
    · refine ⟨rfl, .inr ⟨?_, rfl⟩⟩
      rw [forall_mem_cons]
      exact ⟨others fingerprint (mem_singleton.mpr rfl), none_⟩

section

variable {fingerprint : PendingPayableFingerprint}

/-- The rows of other fingerprints are not touched. -/
lemma filter_confirmed (differ : fingerprint.rowid ≠ rowid) :
    (rows.map (overflowRow payableTable (confirmationConfig fingerprint.rowid change lastPaid)
      balance)).filter (fun row => decide (row.pendingPayableRowid = some rowid)) =
        rows.filter fun row => decide (row.pendingPayableRowid = some rowid) := by
  apply filter_map_of_fixed
  · intro other _ pending
    rw [decide_eq_true_eq] at pending
    simp [overflowRow, confirmationConfig, pending, Ne.symm differ]
  · intro other _ pending
    -- a row that is confirmed loses its mark, so it is not found under another one either
    by_cases key : other.pendingPayableRowid = some fingerprint.rowid
    · simp [overflowRow, confirmationConfig, key, payableTable]
    · simp [overflowRow, confirmationConfig, key, pending]

lemma settled_confirmed
    (only : rows.filter (fun row => decide (row.pendingPayableRowid = some fingerprint.rowid)) = [row])
    (paid : balance.value = row.balance.value - fingerprint.amount.val) :
    Forall₂ (Settled [fingerprint]) rows (rows.map (overflowRow payableTable
      (confirmationConfig fingerprint.rowid change lastPaid) balance)) := by
  rw [forall₂_map_right_iff, forall₂_same]
  intro other member
  by_cases key : other.pendingPayableRowid = some fingerprint.rowid
  · rw [← eq_of_filter_eq_singleton only member (decide_eq_true key)] at paid
    simp [Settled, overflowRow, confirmationConfig, key, payableTable, paid]
  · simp [Settled, overflowRow, confirmationConfig, key]

/-- A fingerprint that one row owns, which owes at least its amount, is confirmed. -/
lemma transactionsConfirmed_cons (clock : toTimeT fingerprint.timestamp = .ok lastPaid)
    (only : rows.filter (fun row => decide (row.pendingPayableRowid = some fingerprint.rowid)) = [row])
    (covered : fingerprint.amount.val ≤ row.balance.value) :
    ∃ change balance, balance.value = row.balance.value - fingerprint.amount.val ∧
      ∀ fingerprints, transactionsConfirmed p rows (fingerprint :: fingerprints) =
        transactionsConfirmed p (rows.map (overflowRow payableTable
          (confirmationConfig fingerprint.rowid change lastPaid) balance)) fingerprints := by
  have amountNonneg := (U128.bounds fingerprint.amount).1
  have balanceFits := row.balance.value_fits
  unfold SplitInt.Fits at balanceFits
  have amountFits : fingerprint.amount.val < 2 ^ 126 := by omega
  obtain ⟨change, changeOk, changeVal⟩ := weiChange_subtraction p amountFits.le
  have above : 0 ≤ row.balance.value + change.value := by omega
  have below : row.balance.value + change.value < 2 ^ 126 := by omega
  obtain ⟨balance, balanceOk, balanceVal⟩ := changeBalance_nonneg p above below
  have changed : changeBalance p (payableTable.balance row)
      (confirmationConfig fingerprint.rowid change lastPaid).weiChange = .ok balance := balanceOk
  have single := execute_of_single p payableTable (confirmationConfig fingerprint.rowid change lastPaid) only
  refine ⟨change, balance, by omega, fun fingerprints => ?_⟩
  simp only [transactionsConfirmed, clock, changeOk, ok_bind, single, changed, ofProcessor, pure_bind]

end

/-- Fingerprints with distinct ids, each of them owned by one row that owes at least its amount,
are all confirmed. -/
lemma transactionsConfirmed_ok (distinct : (fingerprints.map PendingPayableFingerprint.rowid).Nodup)
    (clock : ∀ fingerprint ∈ fingerprints, ∃ time, toTimeT fingerprint.timestamp = .ok time)
    (owned : ∀ fingerprint ∈ fingerprints, ∃ row,
      rows.filter (fun row => decide (row.pendingPayableRowid = some fingerprint.rowid)) = [row] ∧
        fingerprint.amount.val ≤ row.balance.value) :
    ∃ settled, transactionsConfirmed p rows fingerprints = .ok (.ok settled) ∧
      Forall₂ (Settled fingerprints) rows settled := by
  induction fingerprints generalizing rows with
  | nil =>
    refine ⟨rows, rfl, forall₂_same.mpr fun row _ => ⟨rfl, .inr ⟨?_, rfl⟩⟩⟩
    intro fingerprint member
    cases member
  | cons fingerprint fingerprints ih =>
    rw [forall_mem_cons] at clock owned
    rw [map_cons, nodup_cons] at distinct
    obtain ⟨lastPaid, lastPaidOk⟩ := clock.1
    obtain ⟨row, only, covered⟩ := owned.1
    obtain ⟨change, balance, paid, confirms⟩ := transactionsConfirmed_cons p lastPaidOk only covered
    -- the later fingerprints find their rows as they were
    have stillOwned : ∀ later ∈ fingerprints, ∃ owner, (rows.map (overflowRow payableTable
          (confirmationConfig fingerprint.rowid change lastPaid) balance)).filter
            (fun row => decide (row.pendingPayableRowid = some later.rowid)) = [owner] ∧
        later.amount.val ≤ owner.balance.value := by
      intro later member
      have differ : fingerprint.rowid ≠ later.rowid := fun same =>
        distinct.1 (same ▸ mem_map_of_mem member)
      rw [filter_confirmed differ]
      exact owned.2 later member
    obtain ⟨settled, rest, related⟩ := ih distinct.2 clock.2 stillOwned
    refine ⟨settled, (confirms fingerprints).trans rest, ?_⟩
    refine forall₂_comp ?_ (settled_confirmed only paid) related
    intro row mid settled first later
    exact settled_cons first later

lemma caseExpression_of_mem (distinct : (walletsAndRowids.map Prod.fst).Nodup)
    (member : (wallet, rowid) ∈ walletsAndRowids) :
    caseExpression walletsAndRowids wallet = some rowid := by
  have single := filter_key_eq_singleton distinct member
  have found : walletsAndRowids.find? (fun pair => decide (pair.1 = wallet)) = some (wallet, rowid) := by
    rw [← head?_filter, single, head?_cons]
  rw [caseExpression, found, Option.map_some]

/-- Wallets that all have a row without a pending payment are marked, each with its row id. -/
lemma markPendingPayablesRowids_ok (unique : (rows.map PayableRow.wallet).Nodup)
    (distinct : (walletsAndRowids.map Prod.fst).Nodup) (nonempty : walletsAndRowids ≠ [])
    (unmarked : ∀ wallet ∈ walletsAndRowids.map Prod.fst,
      ∃ row ∈ rows, row.wallet = wallet ∧ row.pendingPayableRowid = none) :
    markPendingPayablesRowids rows walletsAndRowids = .ok (rows.map (markRow walletsAndRowids)) := by
  have affected : rows.countP (fun row =>
      isToMark walletsAndRowids row && (caseExpression walletsAndRowids row.wallet).isSome) =
      walletsAndRowids.length := by
    rw [← length_map Prod.fst]
    refine (countP_congr fun row member => ?_).trans (countP_key_mem unique distinct ?_)
    · -- a row with a listed wallet is the unmarked one
      simp only [isToMark, Bool.and_eq_true, decide_eq_true_eq, Option.isNone_iff_eq_none]
      constructor
      · rintro ⟨⟨-, listed⟩, -⟩
        exact listed
      · intro listed
        obtain ⟨other, otherMember, sameWallet, isNone⟩ := unmarked _ listed
        obtain ⟨pair, pairMember, pairWallet⟩ := mem_map.mp listed
        obtain ⟨wallet, rowid⟩ := pair
        have same := eq_of_key_eq unique otherMember member sameWallet
        refine ⟨⟨same ▸ isNone, listed⟩, ?_⟩
        rw [← show wallet = row.wallet from pairWallet, caseExpression_of_mem distinct pairMember]
        rfl
    · intro wallet listed
      obtain ⟨row, member, sameWallet, -⟩ := unmarked wallet listed
      exact ⟨row, member, sameWallet⟩
  simp only [markPendingPayablesRowids, List.isEmpty_iff, nonempty, ↓reduceIte, affected]

lemma createPayableAccount_eq_ok (created : createPayableAccount row = .ok account) :
    account.wallet = row.wallet ∧ account.balanceWei.val = row.balance.value ∧
      account.lastPaidTimestamp = fromTimeT row.lastPaidTimestamp := by
  simp only [createPayableAccount, reconstitute_split, ok_bind] at created
  obtain ⟨balanceWei, converted, built⟩ := ok_of_bind created
  have value := checkedConversion_eq_ok.mp converted
  cases built
  exact ⟨rfl, value, rfl⟩

lemma createPayableAccount_ok (nonneg : 0 ≤ row.balance.value) :
    ∃ account, createPayableAccount row = .ok account := by
  have holds : u128.Holds row.balance.value := by
    have fits := row.balance.value_fits
    unfold SplitInt.Fits at fits
    rw [u128_holds]
    omega
  have converted : checkedConversion u128 ⟨row.balance.value, value_holds_i128 row.balance⟩ =
      .ok ⟨row.balance.value, holds⟩ := checkedConversion_ok holds
  simp only [createPayableAccount, reconstitute_split, ok_bind, converted]
  exact ⟨_, rfl⟩

/-- The accounts offered for payment are rows without a pending payment, one for each wallet. -/
lemma nonPendingPayables_eq_ok (unique : (rows.map PayableRow.wallet).Nodup)
    (returned : nonPendingPayables rows = .ok accounts) :
    (accounts.map PayableAccount.wallet).Nodup ∧
      ∀ account ∈ accounts, ∃ row ∈ rows, row.wallet = account.wallet ∧
        row.pendingPayableRowid = none ∧ row.balance.value = account.balanceWei.val ∧
        account.lastPaidTimestamp = fromTimeT row.lastPaidTimestamp := by
  obtain ⟨selected, sub, passes, builds⟩ := queryMap_eq_ok returned
  constructor
  · have same : accounts.map PayableAccount.wallet = selected.map PayableRow.wallet :=
      map_eq_of_forall₂ builds fun row account created => (createPayableAccount_eq_ok created).1
    rw [same]
    exact unique.sublist (sub.map _)
  · intro account member
    obtain ⟨row, rowMember, created⟩ := forall₂_mem_right builds member
    obtain ⟨wallet, balance, paid⟩ := createPayableAccount_eq_ok created
    have pending : row.pendingPayableRowid = none := by simpa using passes row rowMember
    exact ⟨row, sub.subset rowMember, wallet.symm, pending, balance.symm, paid⟩

lemma nonPendingPayables_returns (nonneg : ∀ row ∈ rows, 0 ≤ row.balance.value) :
    ∃ accounts, nonPendingPayables rows = .ok accounts :=
  queryMap_returns (fun _ _ => ⟨_, rfl⟩) fun row member _ => createPayableAccount_ok (nonneg row member)

end

/-! ### What a failed batch leaves -/

abbrev Confirmation := PendingPayableFingerprint × Faults ProcessorCall

/-- A confirmation with the calls of it that fail: the table it leaves and its answer.  A main statement that
changed several rows is not undone. -/
def confirmOne (p : Profile) (rows : List PayableRow) (confirmed : Confirmation) :
    Except Panic (List PayableRow × Except PayableDaoError Unit) := do
  let lastPaid ← toTimeT confirmed.1.timestamp
  let weiChange ← weiChangeAsHighAndLowBytes p ⟨confirmed.1.amount, .subtraction⟩
  let config := confirmationConfig confirmed.1.rowid weiChange lastPaid
  match ofProcessor (← execute p confirmed.2 payableTable config rows) with
  | .ok changed => return (changed, .ok ())
  | .error e =>
    return (match confirmed.2 .executeMain, mainSql payableTable config rows with
      | none, some (changed, _) => changed
      | _, _ => rows, .error e)

/-- `transactions_confirmed` with the table it leaves: the loop ends with the first error. -/
def confirmBatch (p : Profile) (rows : List PayableRow) :
    List Confirmation → Except Panic (List PayableRow × Except PayableDaoError Unit)
  | [] => .ok (rows, .ok ())
  | confirmed :: batch => do
    match ← confirmOne p rows confirmed with
    | (changed, .ok ()) => confirmBatch p changed batch
    | failed => return failed

variable {p : Profile} {rows left : List PayableRow} {first : Confirmation} {e : PayableDaoError}

lemma transactionsConfirmed_eq (fingerprints) : transactionsConfirmed p rows fingerprints = (do
    let (left, answer) ← confirmBatch p rows (fingerprints.map (·, noFaults))
    return answer.map fun _ => left) := by
  induction fingerprints generalizing rows with
  | nil => rfl
  | cons fingerprint fingerprints ih =>
    simp only [transactionsConfirmed, map_cons, confirmBatch, confirmOne, bind_assoc]
    refine bind_congr fun lastPaid => bind_congr fun weiChange => bind_congr fun result => ?_
    cases ofProcessor result with
    | ok changed => exact ih
    | error => rfl

/-- Where at most one payable waits for the payment, a confirmation that fails has changed nothing. -/
lemma left_of_failed
    (unique : rows.countP (fun row => decide (row.pendingPayableRowid = some first.1.rowid)) ≤ 1)
    (fails : confirmOne p rows first = .ok (left, .error e)) : left = rows := by
  obtain ⟨lastPaid, -, fails⟩ := ok_of_bind fails
  obtain ⟨weiChange, -, fails⟩ := ok_of_bind fails
  obtain ⟨result, executes, fails⟩ := ok_of_bind fails
  split at fails
  · cases fails
  next failed =>
  cases fails
  split
  next changed count works main =>
    -- the statement was counted, and a count of one is a success
    have several : count ≠ 1 := by
      rintro rfl
      simp only [execute, works, main] at executes
      split at executes <;> cases executes
      cases failed
    simp only [mainSql] at main
    split at main
    next present =>
      obtain ⟨_, -, counted⟩ := Option.map_eq_some_iff.mp main
      cases counted
      obtain ⟨row, waits⟩ := any_eq_true.mp present
      exact absurd (Nat.le_antisymm unique (countP_pos_iff.mpr ⟨row, waits⟩)) several
    · cases main
      rfl
  · rfl

/-- A debt with its payment on the way. -/
def waitingPayable : PayableRow :=
  ⟨⟨1⟩, .ofInt 1000 SplitInt.fits_thousand, ⟨⟨0, i64_zero⟩, by decide⟩, some 1⟩

def paidFingerprint (rowid : Nat) : Confirmation :=
  (⟨rowid, ⟨0⟩, 0, ⟨1, by decide⟩, ⟨1000, by decide⟩, none⟩, noFaults)

end PulseMesh.Accountant
