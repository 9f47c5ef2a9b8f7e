import PulseMesh.Lib.Runs
import PulseMesh.Accountant.PayableScanners

/-!
# The payment protocol

The accountant and the blockchain bridge exchange messages about payments: a scan for payables
sends the qualified accounts out, the bridge answers with the fingerprints of the signed batch and,
one call to the blockchain service later, with the result of every payment.  Independently of that
a scan for pending payables asks for the receipts of all fingerprints.  The state below holds the
accountant, what is on its way between the two, and a record of what has happened that no handler
reads; an event is the handling of one message, and events come in any order.
-/

namespace PulseMesh.Accountant

open Machine

/-- Accounts handed to the bridge; the hashes are there once their fingerprints were handled. -/
structure Batch where
  accounts : List PayableAccount
  hashesOpt : Option (List H256)

/-- A payment that was signed: to whom, under which hash and of how much. -/
structure Payment where
  wallet : Wallet
  hash : H256
  amount : U128

structure PaymentSystem where
  accountant : AccountantState
  batches : List Batch
  /-- the `ScanError` messages about payables that wait to be handled -/
  scanErrors : Nat
  /-- the fingerprints whose receipts the bridge is asking for -/
  request : Option (List PendingPayableFingerprint)
  charges : List (Wallet × U128)
  payments : List Payment
  confirmed : List PendingPayableFingerprint

/-- How the submission of a batch ends: with one response for every transaction, with a failure of
the whole call, or before anything was signed. -/
inductive BatchOutcome where
  | answered (responses : List (Except String Unit))
  | sendingFailed (msg : String)
  | refused (error : PayableTransactionError)

inductive PaymentEvent where
  | servicesConsumed (msg : ReportServicesConsumedMessage)
  | scanForPayables (now : SystemTime)
  | agentFailed (batch : Nat)
  | fingerprintSeeds (batch : Nat) (hashes : List H256) (batchWideTimestamp : SystemTime)
  | sentPayables (batch : Nat) (outcome : BatchOutcome) (now : SystemTime)
  | scanError (now : SystemTime)
  | scanForPendingPayables (now : SystemTime)
  | reportTransactionReceipts (results : List TransactionReceiptResult) (now : SystemTime)
  | receiptsFailed (now : SystemTime)

def mergedOutputData (responses : List (Except String Unit)) (hashes : List H256)
    (accounts : List PayableAccount) : List ProcessedPayableFallible :=
  ((responses.zip hashes).zip accounts).map fun ((rpcResult, hash), account) =>
    match rpcResult with
    | .ok _ => .correct ⟨account.wallet, hash⟩
    | .error rpcError => .failed rpcError account.wallet hash

def paymentsOf (accounts : List PayableAccount) (hashes : List H256) : List Payment :=
  (accounts.zip hashes).map fun (account, hash) => ⟨account.wallet, hash, account.balanceWei⟩

def hashesAndAmountsOf (payments : List Payment) : List HashAndAmount :=
  payments.map fun payment => ⟨payment.hash, payment.amount⟩

def PaymentSystem.start : PaymentSystem where
  accountant := ⟨[], [], none, none, ⟨0, u128_zero⟩⟩
  batches := []
  scanErrors := 0
  request := none
  charges := []
  payments := []
  confirmed := []

section

variable (p : Profile) (config : AccountantConfig)

def AccountantConfig.recorded (charges : List (Wallet × U128)) : List (Wallet × U128) :=
  charges.filter fun charge => !config.ourWallet charge.1

/-- The bridge reports a failed submission twice: in the result and as a `ScanError`. -/
def finishBatch (s : PaymentSystem) (batch : Nat) (result : PaymentProcedureResult)
    (now : SystemTime) : Except Panic PaymentSystem := do
  let accountant ← finishPayableScan s.accountant result now
  let scanErrors := match result with
    | .ok _ => s.scanErrors
    | .error _ => s.scanErrors + 1
  return { s with accountant, scanErrors, batches := s.batches.eraseIdx batch }

/-- The handling of a message; where no such message is on its way, nothing happens. -/
def step (s : PaymentSystem) : PaymentEvent → Except Panic PaymentSystem
  | .servicesConsumed msg => do
    let accountant ← handleReportServicesConsumedMessage p config s.accountant msg
    return { s with accountant, charges := s.charges ++ config.recorded msg.charges }
  | .scanForPayables now => do
    match ← handleRequestOfScanForPayable p config s.accountant now with
    | (accountant, .ok accounts) =>
      return { s with accountant, batches := s.batches ++ [⟨accounts, none⟩] }
    | (accountant, .error _) => return { s with accountant }
  | .agentFailed batch =>
    match s.batches[batch]? with
    -- a batch that has been signed does not wait for the agent any more
    | some ⟨_, none⟩ =>
      .ok { s with batches := s.batches.eraseIdx batch, scanErrors := s.scanErrors + 1 }
    | _ => .ok s
  | .fingerprintSeeds batch hashes batchWideTimestamp =>
    match s.batches[batch]? with
    -- the seeds are the first that the accountant learns of the signed transactions
    | some ⟨accounts, none⟩ => do
      let payments := paymentsOf accounts hashes
      let accountant ← handleNewPendingPayableFingerprints s.accountant
        (hashesAndAmountsOf payments) batchWideTimestamp
      return { s with accountant, payments := s.payments ++ payments
                      batches := s.batches.set batch ⟨accounts, some hashes⟩ }
    | _ => .ok s
  | .sentPayables batch outcome now =>
    match s.batches[batch]?, outcome with
    | some ⟨accounts, some hashes⟩, .answered responses =>
      finishBatch s batch (.ok (mergedOutputData responses hashes accounts)) now
    | some ⟨_, some hashes⟩, .sendingFailed msg =>
      finishBatch s batch (.error (.sending msg hashes)) now
    -- before the signing, the submission is refused as a whole
    | some ⟨_, none⟩, .refused error => finishBatch s batch (.error error) now
    | _, _ => .ok s
  | .scanError now =>
    match s.scanErrors with
    | 0 => .ok s
    | scanErrors + 1 => do
      -- the mark goes, whichever scan has set it
      let payableInitiatedAt ← markAsEnded s.accountant.payableInitiatedAt now
      return { s with accountant := { s.accountant with payableInitiatedAt }, scanErrors }
  | .scanForPendingPayables now => do
    match ← handleRequestOfScanForPendingPayable config s.accountant now with
    | (accountant, .ok fingerprints) => return { s with accountant, request := some fingerprints }
    | (accountant, .error _) => return { s with accountant }
  | .reportTransactionReceipts results now =>
    match s.request with
    | none => .ok s
    | some fingerprints => do
      let receipts := results.zip fingerprints
      let accountant ← finishPendingPayableScan p s.accountant receipts now
      return { s with accountant, request := none
                      confirmed := s.confirmed ++ (handleReceiptsForPendingTransactions receipts).confirmed }
  | .receiptsFailed now =>
    match s.request with
    | none => .ok s
    | some _ => do
      let pendingPayableInitiatedAt ← markAsEnded s.accountant.pendingPayableInitiatedAt now
      return { s with accountant := { s.accountant with pendingPayableInitiatedAt }, request := none }

end

end PulseMesh.Accountant
