import PulseMesh.Accountant.BigIntDbProcessor
import PulseMesh.Accountant.Delinquencies
import PulseMesh.Blockchain.RetrieveTransactions

/-!
# Crediting received payments

The receivable scanner credits a list of payments and moves the start block in one database
transaction.  Nothing is durable before the commit; after it only a statistic is left to
update.  The first half of the module follows the code and makes every database call
fallible, the second says when a message is credited completely or not at all.
-/

namespace PulseMesh.Accountant

open Machine Blockchain

/-- What is durable: the receivable table and the row of the start block in the configuration,
whose value may be null. -/
structure ReceivableDb where
  receivable : List ReceivableRow
  startBlock : Option (Option U64)
deriving DecidableEq

structure ReceivedPayments where
  timestamp : SystemTime
  newStartBlock : BlockMarker
  transactions : List BlockchainTransaction

/-- The database calls of the handler; those of a payment carry its position. -/
inductive ReceivedPaymentsCall where
  | beginTransaction
  | processor (payment : Nat) (call : ProcessorCall)
  | prepareRowPresent (payment : Nat)
  | rowPresent (payment : Nat)
  | prepareConfig
  | executeConfig
  | commit

def receivableTable : BalanceTable ReceivableRow where
  tableName := "receivable"
  balance := ReceivableRow.balance
  setBalance row balance := { row with balance }

def receivedPaymentConfig (payment : BlockchainTransaction) (weiChange : SplitInt)
    (lastReceived : TimeT) : BigIntSqlConfig ReceivableRow where
  isKey row := decide (row.wallet = payment.sender)
  tableUniqueKey := "wallet_address"
  keyParamValue := payment.sender.display
  weiChange
  setOthers row := { row with lastReceivedTimestamp := lastReceived }
  insertion := none

inductive ReceivableDaoError where
  | rusqliteError (msg : String)

section

variable (p : Profile) (faults : Faults ReceivedPaymentsCall)

def verifyPossiblyUnknownWallet (position : Nat) (rows : List ReceivableRow)
    (suspect : BlockchainTransaction) : Except Panic (Except ReceivableDaoError Unit) :=
  if (faults (.prepareRowPresent position)).isSome then
    .error (.raised "internal sqlite error")
  else if (faults (.rowPresent position)).isSome then
    .error (.raised "checking on a row failed")
  else if rows.any fun row => decide (row.wallet = suspect.sender) then
    .ok (.error (.rusqliteError s!"Update for received payment with {suspect.weiAmount.val} wei ran without producing a change in the database, despite the record for wallet {suspect.sender.display} exists."))
  else
    .ok (.ok ())

/-- The rows inside the transaction after the payments from the given position on. -/
def processReceivedPayments (timestamp : SystemTime) (position : Nat) (rows : List ReceivableRow) :
    List BlockchainTransaction → Except Panic (Except ReceivableDaoError (List ReceivableRow))
  | [] => .ok (.ok rows)
  | payment :: payments => do
    let lastReceived ← toTimeT timestamp
    let weiChange ← weiChangeAsHighAndLowBytes p ⟨payment.weiAmount, .subtraction⟩
    let result ← execute p (fun call => faults (.processor position call)) receivableTable
      (receivedPaymentConfig payment weiChange lastReceived) rows
    match result with
    | .ok credited => processReceivedPayments timestamp (position + 1) credited payments
    | .error (.general msg) => return .error (.rusqliteError msg)
    | .error (.rowChangeMismatch _ _) =>
      match ← verifyPossiblyUnknownWallet faults position rows payment with
      | .ok () => processReceivedPayments timestamp (position + 1) rows payments
      | .error e => return .error e

def accountingPanic (msg : String) : Panic :=
  .raised s!"Database corruption suspected during accounting newly received payments: RusqliteError({msg})"

/-- The uncommitted rows. -/
def moreMoneyReceived (timestamp : SystemTime) (rows : List ReceivableRow)
    (payments : List BlockchainTransaction) : Except Panic (List ReceivableRow) :=
  match faults .beginTransaction with
  | some e => .error (accountingPanic e)
  | none => do
    match ← processReceivedPayments p faults timestamp 0 rows payments with
    | .ok credited => return credited
    | .error (.rusqliteError msg) => .error (accountingPanic msg)

/-- The start block row after `set_start_block`, inside a transaction or on its own. -/
def setStartBlock (row : Option (Option U64)) (number : U64) : Except Panic (Option (Option U64)) :=
  let failed := fun (e : String) =>
    Except.error (.raised s!"Attempt to set new start block to {number.val} failed due to: {e}")
  match faults .prepareConfig, faults .executeConfig, row with
  | some e, _, _ => failed s!"DatabaseError({e})"
  | none, some e, _ => failed s!"DatabaseError({e})"
  | none, none, none => failed "NotPresent"
  | none, none, some _ => .ok (some (some number))

def addWeiAmounts (soFar : U128) : List BlockchainTransaction → Except Panic U128
  | [] => .ok soFar
  | payment :: payments => do
    let sum ← soFar.add p payment.weiAmount
    addWeiAmounts sum payments

/-- The statistic of paid receivables, updated once the transaction is committed. -/
def addToTotalPaidReceivable (totalPaidReceivableWei : U128)
    (payments : List BlockchainTransaction) : Except Panic U128 := do
  let newlyPaid ← addWeiAmounts p ⟨0, u128_zero⟩ payments
  totalPaidReceivableWei.add p newlyPaid

/-- The durable state the handler leaves behind, and the statistic unless it panicked. -/
def handleNewReceivedPayments (db : ReceivableDb) (totalPaidReceivableWei : U128)
    (msg : ReceivedPayments) : ReceivableDb × Except Panic U128 :=
  if msg.transactions.isEmpty then
    match msg.newStartBlock with
    | .uninitialized => (db, .ok totalPaidReceivableWei)
    | .value number =>
      match setStartBlock faults db.startBlock number with
      | .error panic => (db, .error panic)
      | .ok startBlock => ({ db with startBlock }, .ok totalPaidReceivableWei)
  else
    match moreMoneyReceived p faults msg.timestamp db.receivable msg.transactions with
    | .error panic => (db, .error panic)
    | .ok receivable =>
      match msg.newStartBlock with
      | .uninitialized =>
        (db, .error (.raised "internal error: entered unreachable code: Failed to get start_block while transactions were present"))
      | .value number =>
        match setStartBlock faults db.startBlock number with
        | .error panic => (db, .error panic)
        | .ok startBlock =>
          match faults .commit with
          | some e => (db, .error (.raised s!"Commit of received transactions failed: {e}"))
          | none =>
            ({ receivable, startBlock },
              addToTotalPaidReceivable p totalPaidReceivableWei msg.transactions)

end

end PulseMesh.Accountant
