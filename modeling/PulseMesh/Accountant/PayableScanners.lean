import PulseMesh.Accountant.PayableDao

/-!
# The accountant's handlers for debts

What the accountant does with a report of consumed services, with the fingerprints and the result
of a batch of payments, and with the receipts of pending transactions.  A handler reads the clock
once; log lines are left out, and SQLite executes every statement.
-/

namespace PulseMesh.Accountant

open Machine

/-- The payable side of the actor: two tables, the marks of running scans and a statistic. -/
structure AccountantState where
  payable : List PayableRow
  pendingPayable : List PendingPayableRow
  payableInitiatedAt : Option SystemTime
  pendingPayableInitiatedAt : Option SystemTime
  totalPaidPayableWei : U128

structure AccountantConfig where
  paymentThresholds : PaymentThresholds
  consumingWalletOpt : Option Wallet
  earningWallet : Wallet

/-! ### Services consumed -/

structure ExitServiceConsumed where
  earningWallet : Wallet
  payloadSize : U64
  serviceRate : U64
  byteRate : U64

structure RoutingServiceConsumed where
  earningWallet : Wallet
  serviceRate : U64
  byteRate : U64

structure ReportServicesConsumedMessage where
  timestamp : SystemTime
  exit : ExitServiceConsumed
  routingPayloadSize : U64
  routing : List RoutingServiceConsumed

def AccountantConfig.ourWallet (config : AccountantConfig) (wallet : Wallet) : Bool :=
  match config.consumingWalletOpt with
  | some consuming => decide (consuming = wallet) || decide (wallet = config.earningWallet)
  | none => decide (wallet = config.earningWallet)

/-- The product and the sum of three `u64` numbers fit `u128`. -/
def totalCharge (serviceRate byteRate payloadSize : U64) : U128 :=
  ⟨serviceRate.val + byteRate.val * payloadSize.val, by
    have service := U64.bounds serviceRate
    have byte := U64.bounds byteRate
    have payload := U64.bounds payloadSize
    have lower : 0 ≤ byteRate.val * payloadSize.val := Int.mul_nonneg byte.1 payload.1
    have upper : byteRate.val * payloadSize.val ≤ (2 ^ 64 - 1) * (2 ^ 64 - 1) :=
      Int.mul_le_mul (by omega) (by omega) payload.1 (by decide)
    rw [u128_holds]
    omega⟩

section

variable (p : Profile) (config : AccountantConfig)

def recordServiceConsumed (rows : List PayableRow) (timestamp : SystemTime) (wallet : Wallet)
    (charge : U128) : Except Panic (List PayableRow) :=
  if config.ourWallet wallet then
    .ok rows
  else do
    match ← moreMoneyPayable p rows timestamp wallet charge with
    | .ok charged => return charged
    -- logged only: the service was consumed and is never paid
    | .error (.signConversion _) => return rows
    | .error (.rusqliteError msg) =>
      .error (.raised s!"Recording services consumed from {wallet.display} but has hit fatal database error: RusqliteError({msg})")

/-- Whom a message makes the accountant owe how much, in the order of recording. -/
def ReportServicesConsumedMessage.charges (msg : ReportServicesConsumedMessage) : List (Wallet × U128) :=
  (msg.exit.earningWallet, totalCharge msg.exit.serviceRate msg.exit.byteRate msg.exit.payloadSize) ::
    msg.routing.map fun service =>
      (service.earningWallet, totalCharge service.serviceRate service.byteRate msg.routingPayloadSize)

def recordCharges (timestamp : SystemTime) (rows : List PayableRow) :
    List (Wallet × U128) → Except Panic (List PayableRow)
  | [] => .ok rows
  | (wallet, charge) :: charges => do
    let charged ← recordServiceConsumed p config rows timestamp wallet charge
    recordCharges timestamp charged charges

variable (accountant : AccountantState)

def handleReportServicesConsumedMessage
    (msg : ReportServicesConsumedMessage) : Except Panic AccountantState := do
  let payable ← recordCharges p config msg.timestamp accountant.payable msg.charges
  return { accountant with payable }

/-! ### Scans for payables -/

inductive BeginScanError where
  | nothingToProcess
  | noConsumingWalletFound
  | scanAlreadyRunning (startedAt : SystemTime)

/-- The mark of a scan is taken away whether or not there is one. -/
def markAsEnded (initiatedAtOpt : Option SystemTime) (now : SystemTime) :
    Except Panic (Option SystemTime) :=
  match initiatedAtOpt with
  | some timestamp =>
    if timestamp.nanos ≤ now.nanos then
      .ok none
    else
      .error (.raised "Unable to calculate elapsed time for the scan.")
  | none => .ok none

variable (now : SystemTime)

def sniffOutAlarmingPayables : List PayableAccount → Except Panic (List PayableAccount) :=
  Rows.queryMap
    (fun account => do
      let threshold ← payableExceededThreshold p config.paymentThresholds account now
      return threshold.isSome)
    .ok

/-- The state after the scan was begun, or not, and the qualified payables. -/
def beginPayableScan : Except Panic (AccountantState × Except BeginScanError (List PayableAccount)) :=
  match accountant.payableInitiatedAt with
  | some startedAt => .ok (accountant, .error (.scanAlreadyRunning startedAt))
  | none => do
    let allNonPendingPayables ← nonPendingPayables accountant.payable
    let qualifiedPayables ← sniffOutAlarmingPayables p config now allNonPendingPayables
    if qualifiedPayables.isEmpty then
      -- the mark was set before there was anything to look at
      let payableInitiatedAt ← markAsEnded (some now) now
      return ({ accountant with payableInitiatedAt }, .error .nothingToProcess)
    else
      return ({ accountant with payableInitiatedAt := some now }, .ok qualifiedPayables)

def handleRequestOfScanForPayable :
    Except Panic (AccountantState × Except BeginScanError (List PayableAccount)) :=
  match config.consumingWalletOpt with
  | some _ => beginPayableScan p config accountant now
  | none => .ok (accountant, .error .noConsumingWalletFound)

end

variable (accountant : AccountantState)

/-- The only failure that is logged and not handled is the refusal of the insertion. -/
def handleNewPendingPayableFingerprints
    (hashesAndBalances : List HashAndAmount) (batchWideTimestamp : SystemTime) :
    Except Panic AccountantState := do
  match ← insertNewFingerprints accountant.pendingPayable hashesAndBalances batchWideTimestamp with
  | .ok pendingPayable => return { accountant with pendingPayable }
  | .error _ => return accountant

/-! ### Sent payables -/

structure PendingPayable where
  recipientWallet : Wallet
  hash : H256

inductive ProcessedPayableFallible where
  | correct (pendingPayable : PendingPayable)
  | failed (rpcError : String) (recipientWallet : Wallet) (hash : H256)

inductive PayableTransactionError where
  | missingConsumingWallet
  | gasPriceQueryFailed (error : String)
  | transactionID (error : String)
  | unusableWallet (msg : String)
  | signing (msg : String)
  | sending (msg : String) (hashes : List H256)
  | uninitializedBlockchainInterface

abbrev PaymentProcedureResult := Except PayableTransactionError (List ProcessedPayableFallible)

inductive PayableTransactingErrorEnum where
  | locallyCausedError (error : PayableTransactionError)
  | remotelyCausedErrors (hashes : List H256)

def separateRpcResults : List ProcessedPayableFallible → List PendingPayable × List H256
  | [] => ([], [])
  | .correct pendingPayable :: results =>
    let (oks, errs) := separateRpcResults results
    (pendingPayable :: oks, errs)
  | .failed _ _ hash :: results =>
    let (oks, errs) := separateRpcResults results
    (oks, hash :: errs)

def separateErrors (result : PaymentProcedureResult) :
    Except Panic (List PendingPayable × Option PayableTransactingErrorEnum) :=
  match result with
  | .ok responses =>
    if responses.isEmpty then
      .error (.raised "Broken code: An empty vector of processed payments claiming to be an Ok value")
    else
      let (oks, errs) := separateRpcResults responses
      .ok (oks, if errs.isEmpty then none else some (.remotelyCausedErrors errs))
  -- a batch that failed as a whole has sent nothing
  | .error e => .ok ([], some (.locallyCausedError e))

structure PendingPayableMetadata where
  recipient : Wallet
  hash : H256
  rowidOpt : Option Nat

/-- A hash map collected from pairs: a later pair replaces an earlier one of the same key. -/
def collectHashMap (pairs : List (H256 × Wallet)) : List (H256 × Wallet) :=
  pairs.foldl (fun map pair => pair :: map.filter fun other => decide (other.1 ≠ pair.1)) []

/-- Takes the recipient of every hash out of the map. -/
def takeRecipients (map : List (H256 × Wallet)) :
    List (Option Nat × H256) → Except Panic (List PendingPayableMetadata × List (H256 × Wallet))
  | [] => .ok ([], map)
  | (rowidOpt, hash) :: hashes =>
    match map.find? fun pair => decide (pair.1 = hash) with
    | none => .error (.raised "expect transaction hash, but it disappear")
    | some (_, wallet) => do
      -- every recipient is taken once
      let (others, rest) ← takeRecipients (map.filter fun pair => decide (pair.1 ≠ hash)) hashes
      return (⟨wallet, hash, rowidOpt⟩ :: others, rest)

def isSymmetrical (sentPayablesHashes fingerprintHashes : List H256) : Bool :=
  sentPayablesHashes.all (fun hash => decide (hash ∈ fingerprintHashes)) &&
    fingerprintHashes.all fun hash => decide (hash ∈ sentPayablesHashes)

variable (rows : List PendingPayableRow)

def separateExistentAndNonexistentFingerprints (sentPayables : List PendingPayable) :
    Except Panic (List PendingPayableMetadata × List PendingPayableMetadata) := do
  let hashes := sentPayables.map PendingPayable.hash
  let sentPayablesHashmap := collectHashMap (sentPayables.map fun payable =>
    (payable.hash, payable.recipientWallet))
  let transactionHashes := fingerprintsRowids rows hashes
  let hashesFromDb := transactionHashes.rowidResults.map Prod.snd ++ transactionHashes.noRowidResults
  -- as sets, without regard to repetitions
  if isSymmetrical hashes hashesFromDb then
    let (withRowid, rest) ← takeRecipients sentPayablesHashmap
      (transactionHashes.rowidResults.map fun result => (some result.1, result.2))
    let (withoutRowid, _) ← takeRecipients rest
      (transactionHashes.noRowidResults.map fun hash => (none, hash))
    return (withRowid, withoutRowid)
  else
    .error (.raised "Inconsistency in two maps, they cannot be matched by hashes.")

def serializeHashes (hashes : List H256) : String :=
  ", ".intercalate (hashes.map fun hash => "0x" ++ hash.toHex)

def missingFingerprintsMsg (nonexistent : List PendingPayableMetadata) : String :=
  let listed := ", ".intercalate (nonexistent.map fun triple =>
    s!"(tx: 0x{triple.hash.toHex}, to wallet: {triple.recipient.display})")
  s!"Expected pending payable fingerprints for {listed} were not found; system unreliable"

def readyDataForSupply : List PendingPayableMetadata → Except Panic (List (Wallet × Nat)) :=
  List.mapM fun triple =>
    match triple.rowidOpt with
    | some rowid => .ok (triple.recipient, rowid)
    | none => .error (.raised "value for 'rowid' badly prepared")

def markPendingPayable (payable : List PayableRow) (pendingPayable : List PendingPayableRow)
    (sentPayments : List PendingPayable) : Except Panic (List PayableRow) := do
  let (existent, nonexistent) ← separateExistentAndNonexistentFingerprints pendingPayable sentPayments
  let markInputData ← readyDataForSupply existent
  -- what can be marked is marked before a missing fingerprint stops the scan
  let marked ← if markInputData.isEmpty then .ok payable
    else markPendingPayablesRowids payable markInputData
  if nonexistent.isEmpty then
    return marked
  else
    .error (.raised (missingFingerprintsMsg nonexistent))

def discardFailedTransactionsWithPossibleFingerprints
    (hashesOfFailed : List H256) : Except Panic (List PendingPayableRow) := do
  let existentAndNonexistent := fingerprintsRowids rows hashesOfFailed
  let ids := existentAndNonexistent.rowidResults.map Prod.fst
  -- what is there is deleted before anything missing stops the scan
  let kept ← if ids.isEmpty then .ok rows else deleteFingerprints rows ids
  if existentAndNonexistent.noRowidResults.isEmpty then
    return kept
  else
    .error (.raised s!"Ran into failed transactions {serializeHashes existentAndNonexistent.noRowidResults} with missing fingerprints. System no longer reliable")

def handleSentPayableErrors : Option PayableTransactingErrorEnum → Except Panic (List PendingPayableRow)
  | some (.locallyCausedError (.sending _ hashes)) =>
    discardFailedTransactionsWithPossibleFingerprints rows hashes
  | some (.remotelyCausedErrors hashes) =>
    discardFailedTransactionsWithPossibleFingerprints rows hashes
  -- before the sending nothing was signed, so there is no fingerprint to discard
  | some (.locallyCausedError _) => .ok rows
  | none => .ok rows

def finishPayableScan (result : PaymentProcedureResult)
    (now : SystemTime) : Except Panic AccountantState := do
  let (sentPayables, errOpt) ← separateErrors result
  let payable ← if sentPayables.isEmpty then .ok accountant.payable
    else markPendingPayable accountant.payable accountant.pendingPayable sentPayables
  -- the marking comes first and sees the fingerprints of the failed ones too
  let pendingPayable ← handleSentPayableErrors accountant.pendingPayable errOpt
  let payableInitiatedAt ← markAsEnded accountant.payableInitiatedAt now
  return { accountant with payable, pendingPayable, payableInitiatedAt }

/-! ### Receipts -/

inductive TxStatus where
  | failed
  | pending
  | succeeded

inductive TransactionReceiptResult where
  | rpcResponse (status : TxStatus)
  | localError (msg : String)

abbrev FingerprintsWithReceipts := List (TransactionReceiptResult × PendingPayableFingerprint)

structure PendingPayableScanReport where
  stillPending : List PendingPayableId
  failures : List PendingPayableId
  confirmed : List PendingPayableFingerprint

def PendingPayableFingerprint.id (fingerprint : PendingPayableFingerprint) : PendingPayableId :=
  ⟨fingerprint.rowid, fingerprint.hash⟩

def handleReceiptsForPendingTransactions : FingerprintsWithReceipts → PendingPayableScanReport
  | [] => ⟨[], [], []⟩
  | (receiptResult, fingerprint) :: receipts =>
    let report := handleReceiptsForPendingTransactions receipts
    match receiptResult with
    -- a receipt that could not be had counts as none
    | .rpcResponse .pending | .localError _ =>
      { report with stillPending := fingerprint.id :: report.stillPending }
    | .rpcResponse .failed => { report with failures := fingerprint.id :: report.failures }
    | .rpcResponse .succeeded => { report with confirmed := fingerprint :: report.confirmed }

def beginPendingPayableScan (now : SystemTime) :
    Except Panic (AccountantState × Except BeginScanError (List PendingPayableFingerprint)) :=
  match accountant.pendingPayableInitiatedAt with
  | some startedAt => .ok (accountant, .error (.scanAlreadyRunning startedAt))
  | none => do
    let filteredPendingPayable ← returnAllErrorlessFingerprints accountant.pendingPayable
    if filteredPendingPayable.isEmpty then
      let pendingPayableInitiatedAt ← markAsEnded (some now) now
      return ({ accountant with pendingPayableInitiatedAt }, .error .nothingToProcess)
    else
      return ({ accountant with pendingPayableInitiatedAt := some now }, .ok filteredPendingPayable)

variable {accountant}

def handleRequestOfScanForPendingPayable (config : AccountantConfig) (accountant : AccountantState)
    (now : SystemTime) :
    Except Panic (AccountantState × Except BeginScanError (List PendingPayableFingerprint)) :=
  match config.consumingWalletOpt with
  | some _ => beginPendingPayableScan accountant now
  | none => .ok (accountant, .error .noConsumingWalletFound)

section

variable (p : Profile)

def addToTheTotalOfPaidPayable (total : U128) : List PendingPayableFingerprint → Except Panic U128
  | [] => .ok total
  | fingerprint :: fingerprints => do
    let sum ← total.add p fingerprint.amount
    addToTheTotalOfPaidPayable sum fingerprints

variable (accountant : AccountantState)

def confirmTransactions (fingerprints : List PendingPayableFingerprint) : Except Panic AccountantState :=
  if fingerprints.isEmpty then
    .ok accountant
  else do
    match ← transactionsConfirmed p accountant.payable fingerprints with
    | .error (.rusqliteError msg) =>
      .error (.raised s!"Unable to cast confirmed pending payables {serializeHashes (fingerprints.map PendingPayableFingerprint.hash)} into adjustment in the corresponding payable records due to RusqliteError({msg})")
    | .error (.signConversion amount) =>
      .error (.raised s!"Unable to cast confirmed pending payables {serializeHashes (fingerprints.map PendingPayableFingerprint.hash)} into adjustment in the corresponding payable records due to SignConversion({amount.val})")
    | .ok payable =>
      -- the statistic is added up between the two tables
      let totalPaidPayableWei ← addToTheTotalOfPaidPayable p accountant.totalPaidPayableWei fingerprints
      let pendingPayable ← deleteFingerprints accountant.pendingPayable
        (fingerprints.map PendingPayableFingerprint.rowid)
      return { accountant with payable, totalPaidPayableWei, pendingPayable }

def cancelFailedTransactions (ids : List PendingPayableId) : Except Panic AccountantState :=
  if ids.isEmpty then
    .ok accountant
  else do
    let pendingPayable ← markFailures accountant.pendingPayable (ids.map PendingPayableId.rowid)
    return { accountant with pendingPayable }

def updateRemainingFingerprints (ids : List PendingPayableId) : Except Panic AccountantState :=
  if ids.isEmpty then
    .ok accountant
  else do
    let pendingPayable ← incrementScanAttempts accountant.pendingPayable
      (ids.map PendingPayableId.rowid)
    return { accountant with pendingPayable }

def processTransactionsByReportedState
    (report : PendingPayableScanReport) : Except Panic AccountantState := do
  let accountant ← confirmTransactions p accountant report.confirmed
  let accountant ← cancelFailedTransactions accountant report.failures
  updateRemainingFingerprints accountant report.stillPending

def finishPendingPayableScan (receipts : FingerprintsWithReceipts)
    (now : SystemTime) : Except Panic AccountantState := do
  let scanReport := handleReceiptsForPendingTransactions receipts
  -- a report without receipts is only logged
  let accountant ← if receipts.isEmpty then .ok accountant
    else processTransactionsByReportedState p accountant scanReport
  let pendingPayableInitiatedAt ← markAsEnded accountant.pendingPayableInitiatedAt now
  return { accountant with pendingPayableInitiatedAt }

end

end PulseMesh.Accountant
