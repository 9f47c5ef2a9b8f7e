import PulseMesh.Accountant.Basic
import PulseMesh.Lib.Returns

/-!
# Retrieving transactions

One receivable scan asks the blockchain service for its block number, chooses an inclusive
interval of blocks, asks for the transfer logs of that interval and derives the block to
start the next scan from.
-/

namespace PulseMesh.Blockchain

open Machine Accountant List

inductive BlockchainError where
  | invalidResponse
  | queryFailed (msg : String)
deriving DecidableEq

inductive BlockMarker where
  | uninitialized
  | value (number : U64)
deriving DecidableEq

inductive BlockScanRange where
  | noLimit
  | range (number : U64)

/-- A bound of a log request. -/
inductive BlockNumber where
  | latest
  | number (number : U64)

structure Log where
  topics : List (BitVec 256)
  data : List UInt8
  blockNumber : Option U64

structure BlockchainTransaction where
  blockNumber : U64
  sender : Wallet
  weiAmount : U128
deriving DecidableEq

structure RetrievedBlockchainTransactions where
  newStartBlock : BlockMarker
  transactions : List BlockchainTransaction

/-- The big-endian number of a byte string. -/
def ofBigEndian (bytes : List UInt8) : Int :=
  bytes.foldl (fun number byte => number * 256 + byte.toNat) 0

def asU128 (number : Int) : Except Panic U128 :=
  if fits : u128.Holds number then
    .ok ⟨number, fits⟩
  else
    .error (.raised "Integer overflow when casting to u128")

/-- A log becomes a transaction unless its block is not known yet.  The sender is the second
topic without its leading twelve bytes. -/
def transactionFromLog (log : Log) : Except Panic (Option BlockchainTransaction) :=
  match log.blockNumber with
  | none => .ok none
  | some blockNumber =>
    match log.topics with
    | _ :: sender :: _ => do
      let weiAmount ← asU128 (ofBigEndian log.data)
      return some { blockNumber, sender := ⟨sender.setWidth 160⟩, weiAmount }
    | _ => .error (.raised "index out of bounds")

def extractTransactionsFromLogs : List Log → Except Panic (List BlockchainTransaction)
  | [] => .ok []
  | log :: logs => do
    let transactionOpt ← transactionFromLog log
    let transactions ← extractTransactionsFromLogs logs
    return transactionOpt.toList ++ transactions

def handleTransactionLogs (logsResult : Except BlockchainError (List Log)) :
    Except Panic (Except BlockchainError (List BlockchainTransaction)) :=
  match logsResult with
  | .error e => .ok (.error e)
  | .ok logs =>
    if logs.any fun log => log.topics.length < 2 || log.data.length > 32 then
      .ok (.error .invalidResponse)
    else do
      let transactions ← extractTransactionsFromLogs logs
      return .ok transactions

def higherMarker (max : BlockMarker) (tx : BlockchainTransaction) : BlockMarker :=
  match max with
  | .value currentMax => .value (if currentMax.val < tx.blockNumber.val then tx.blockNumber else currentMax)
  | .uninitialized => .value tx.blockNumber

def findHighestBlockMarkerFromTxs (transactions : List BlockchainTransaction) : BlockMarker :=
  transactions.foldl higherMarker .uninitialized

section

variable (p : Profile)

def nextBlock (number : U64) : Except Panic BlockMarker := do
  let next ← number.add p ⟨1, u64_one⟩
  return .value next

def findNewStartBlock (transactions : List BlockchainTransaction)
    (startBlockMarker endBlockMarker : BlockMarker) : Except Panic BlockMarker :=
  match endBlockMarker with
  | .value endBlockNumber => nextBlock p endBlockNumber
  | .uninitialized =>
    match findHighestBlockMarkerFromTxs transactions with
    | .value blockNumber => nextBlock p blockNumber
    | .uninitialized =>
      match startBlockMarker with
      | .value startBlock => nextBlock p startBlock
      | .uninitialized => .ok .uninitialized

variable (startBlockMarker : BlockMarker) (scanRange : BlockScanRange)

/-- The interval is inclusive, so a range of `n` blocks ends at `start + n - 1`. -/
def locallyDeterminedEndBlockMarker : Except Panic BlockMarker :=
  match startBlockMarker, scanRange with
  | .value startBlock, .range scanRangeNumber => do
    let sum ← startBlock.add p scanRangeNumber
    let endBlock ← sum.sub p ⟨1, u64_one⟩
    return .value endBlock
  | _, _ => .ok .uninitialized

variable (rpcBlockNumberResult : Except BlockchainError U64)

def calculateEndBlockMarker : Except Panic BlockMarker := do
  let localEnd ← locallyDeterminedEndBlockMarker p startBlockMarker scanRange
  match rpcBlockNumberResult with
  | .ok responseBlock =>
    match localEnd with
    | .uninitialized => return .value responseBlock
    | .value localEndBlockNumber =>
      return .value (if localEndBlockNumber.val ≤ responseBlock.val then localEndBlockNumber
        else responseBlock)
  | .error _ => return localEnd

def startBlockNumber : BlockNumber :=
  match startBlockMarker with
  | .uninitialized =>
    match rpcBlockNumberResult with
    | .ok latestBlock => .number latestBlock
    | .error _ => .latest
  | .value number => .number number

def endBlockNumber : BlockMarker → BlockNumber
  | .uninitialized => .latest
  | .value number => .number number

/-- `getTransactionLogs` is the service's answer to the log request, by its two bounds. -/
def retrieveTransactions
    (getTransactionLogs : BlockNumber → BlockNumber → Except BlockchainError (List Log)) :
    Except Panic (Except BlockchainError RetrievedBlockchainTransactions) := do
  let endBlockMarker ← calculateEndBlockMarker p startBlockMarker scanRange rpcBlockNumberResult
  let logsResult := getTransactionLogs (startBlockNumber startBlockMarker rpcBlockNumberResult)
    (endBlockNumber endBlockMarker)
  match ← handleTransactionLogs logsResult with
  | .error e => return .error e
  | .ok transactions =>
    let newStartBlock ← findNewStartBlock p transactions startBlockMarker endBlockMarker
    return .ok { newStartBlock, transactions }

end

lemma foldl_higherMarker (transactions : List BlockchainTransaction) (start : U64) :
    ∃ highest : U64, transactions.foldl higherMarker (.value start) = .value highest ∧
      start.val ≤ highest.val ∧ (∀ tx ∈ transactions, tx.blockNumber.val ≤ highest.val) ∧
      (highest = start ∨ ∃ tx ∈ transactions, tx.blockNumber = highest) := by
  induction transactions generalizing start with
  | nil => exact ⟨start, rfl, Int.le_refl _, by simp, .inl rfl⟩
  | cons tx transactions ih =>
    obtain ⟨highest, folded, above, all, source⟩ :=
      ih (if start.val < tx.blockNumber.val then tx.blockNumber else start)
    refine ⟨highest, folded, ?_, ?_, ?_⟩
    · split at above <;> omega
    · rw [forall_mem_cons]
      refine ⟨?_, all⟩
      split at above <;> omega
    · rcases source with same | ⟨other, member, same⟩
      · split at same
        · exact .inr ⟨tx, mem_cons_self, same.symm⟩
        · exact .inl same
      · exact .inr ⟨other, mem_cons_of_mem _ member, same⟩

/-- The highest block of a non-empty list is one of its blocks and bounds the others. -/
lemma findHighestBlockMarkerFromTxs_value (nonempty : transactions ≠ []) :
    ∃ highest : U64, findHighestBlockMarkerFromTxs transactions = .value highest ∧
      (∀ tx ∈ transactions, tx.blockNumber.val ≤ highest.val) ∧
      ∃ tx ∈ transactions, tx.blockNumber = highest := by
  cases transactions with
  | nil => exact absurd rfl nonempty
  | cons tx transactions =>
    obtain ⟨highest, folded, above, all, source⟩ := foldl_higherMarker transactions tx.blockNumber
    refine ⟨highest, folded, ?_, ?_⟩
    · rw [forall_mem_cons]
      exact ⟨above, all⟩
    · rcases source with rfl | ⟨other, member, same⟩
      · exact ⟨tx, mem_cons_self, rfl⟩
      · exact ⟨other, mem_cons_of_mem _ member, same⟩

lemma nextBlock_isValue (returned : nextBlock p number = .ok marker) : ∃ next, marker = .value next := by
  obtain ⟨next, -, built⟩ := ok_of_bind returned
  cases built
  exact ⟨next, rfl⟩

/-- A message with transactions always says where to start the next scan. -/
lemma retrieveTransactions_newStartBlock
    (returned : retrieveTransactions p startBlockMarker scanRange rpcBlockNumberResult
      getTransactionLogs = .ok (.ok retrieved)) (nonempty : retrieved.transactions ≠ []) :
    ∃ next, retrieved.newStartBlock = .value next := by
  obtain ⟨endBlockMarker, -, rest⟩ := ok_of_bind returned
  obtain ⟨handled, -, rest⟩ := ok_of_bind rest
  cases handled with
  | error e => cases rest
  | ok transactions =>
    obtain ⟨newStartBlock, found, built⟩ := ok_of_bind rest
    cases built
    unfold findNewStartBlock at found
    cases endBlockMarker with
    | value endBlock => exact nextBlock_isValue found
    | uninitialized =>
      obtain ⟨highest, isHighest, -⟩ := findHighestBlockMarkerFromTxs_value nonempty
      simp only [isHighest] at found
      exact nextBlock_isValue found

/-! ### Whatever the server answers -/

lemma ofBigEndian_nonneg (bytes) : 0 ≤ ofBigEndian bytes :=
  foldlRecOn bytes _ (Int.le_refl 0) fun _ nonneg byte _ => by omega

def IsTransaction (log : Log) (tx : BlockchainTransaction) : Prop :=
  log.blockNumber = some tx.blockNumber ∧ tx.weiAmount.val = ofBigEndian log.data

variable {logs : List Log}

/-- Logs with two topics become transactions if their values are narrow enough. -/
lemma extractTransactionsFromLogs_returns (formed : ∀ log ∈ logs, 2 ≤ log.topics.length)
    (narrow : ∀ log ∈ logs, log.blockNumber.isSome → ofBigEndian log.data < 2 ^ 128) :
    Returns (extractTransactionsFromLogs logs) fun transactions =>
      Forall₂ IsTransaction (logs.filter (·.blockNumber.isSome)) transactions := by
  induction logs with
  | nil => exact .ok .nil
  | cons log logs ih =>
    rw [forall_mem_cons] at formed narrow
    have rest := ih formed.2 narrow.2
    cases numbered : log.blockNumber with
    | none =>
      simp only [extractTransactionsFromLogs, transactionFromLog, numbered, ok_bind]
      exact rest.bind fun transactions related => .ok (by simpa [numbered] using related)
    | some blockNumber =>
      match topics : log.topics, formed.1 with
      | _ :: sender :: _, _ =>
        have fits : u128.Holds (ofBigEndian log.data) :=
          (u128_holds _).mpr ⟨ofBigEndian_nonneg _, narrow.1 (by simp [numbered])⟩
        simp only [extractTransactionsFromLogs, transactionFromLog, numbered, topics, asU128, fits, ↓reduceDIte,
          ok_bind]
        refine rest.bind fun transactions related => .ok ?_
        simpa [numbered] using ⟨⟨numbered, rfl⟩, related⟩

/-- A log of a transfer, with the value in its data. -/
def sampleLog (data : List UInt8) (blockNumber : U64) : Log := ⟨[0, 7], data, some blockNumber⟩

end PulseMesh.Blockchain
