import PulseMesh.Lib.Runs
import PulseMesh.Accountant.CreditAtomicity

/-!
# Receivable scans

A sequence of scans against one chain.  The service reports a block number that may lag behind
the chain, or fails to report one, and answers the log request truthfully.  The state keeps,
beside what the node stores, the payments credited so far and the block the coverage begins at.

A scan is sound when its interval does not end below the stored start block or above the tip
of the chain.  The runs of sound scans credit every payment between the first block and the
stored start block exactly once; a lagging service or a range that reaches past the tip
breaks this.
-/

namespace PulseMesh.Blockchain

open Machine Accountant Runs BlockchainTransaction List

/-- A transfer to the scanned wallet, with the log that reports it. -/
structure TransferLog where
  log : Log
  transaction : BlockchainTransaction
  decodes : transactionFromLog log = .ok (some transaction)
  enoughTopics : 2 ≤ log.topics.length
  shortData : log.data.length ≤ 32

def TransferLog.block (transfer : TransferLog) : Int := transfer.transaction.blockNumber.val

/-- The tag `latest` stands for the height of the chain. -/
def resolve (height : U64) : BlockNumber → U64
  | .latest => height
  | .number number => number

@[simp] lemma resolve_latest (height) : resolve height .latest = height := rfl

@[simp] lemma resolve_number (height number) : resolve height (.number number) = number := rfl

variable (chain : List TransferLog)

/-- The transfers of the blocks `first` to `last` that exist at the given height. -/
def transfersBetween (height : U64) (first last : Int) : List TransferLog :=
  chain.filter fun transfer =>
    decide (first ≤ transfer.block ∧ transfer.block ≤ last ∧ transfer.block ≤ height.val)

def truthfulLogs (height : U64) (first last : BlockNumber) : Except BlockchainError (List Log) :=
  .ok ((transfersBetween chain height (resolve height first).val (resolve height last).val).map
    TransferLog.log)

structure ScanState where
  db : ReceivableDb
  totalPaidReceivableWei : U128
  height : U64
  credited : List BlockchainTransaction
  firstBlock : Option Int

/-- What the outside world contributes to a scan: the setting, the answer to the block number
request, the height of the chain at the log request and the time. -/
structure Scan where
  scanRange : BlockScanRange
  rpcBlockNumber : Except BlockchainError U64
  height : U64
  timestamp : SystemTime

def startBlockMarker (db : ReceivableDb) : Except Panic BlockMarker :=
  match db.startBlock with
  | none => .error (.raised "Cannot retrieve start block from database; payments to you may not be processed: NotPresent")
  | some none => .ok .uninitialized
  | some (some number) => .ok (.value number)

/-- One scan: the request of the blockchain bridge and the handler of its answer. -/
def scanStep (p : Profile) (chain : List TransferLog) (s : ScanState) (scan : Scan) :
    Except Panic ScanState := do
  let start ← startBlockMarker s.db
  match ← retrieveTransactions p start scan.scanRange scan.rpcBlockNumber
      (truthfulLogs chain scan.height) with
  | .error _ => return { s with height := scan.height }
  | .ok retrieved =>
    let (db, result) := handleNewReceivedPayments p noFaults s.db s.totalPaidReceivableWei
      ⟨scan.timestamp, retrieved.newStartBlock, retrieved.transactions⟩
    let totalPaidReceivableWei ← result
    return {
      db, totalPaidReceivableWei
      height := scan.height
      credited := s.credited ++ retrieved.transactions
      firstBlock := match s.firstBlock, retrieved.newStartBlock with
        | some block, _ => some block
        | none, .uninitialized => none
        | none, .value _ =>
          some (resolve scan.height (startBlockNumber start scan.rpcBlockNumber)).val }

/-! ### What one scan requests -/

open TransferLog

lemma handleTransactionLogs_truthful (transfers : List TransferLog) :
    handleTransactionLogs (.ok (transfers.map log)) = .ok (.ok (transfers.map transaction)) := by
  have extracted : extractTransactionsFromLogs (transfers.map log) = .ok (transfers.map transaction) := by
    induction transfers with
    | nil => rfl
    | cons transfer transfers ih =>
      simp only [map_cons, extractTransactionsFromLogs, transfer.decodes, ok_bind, ih]
      rfl
  have valid : ((transfers.map log).any fun log =>
      decide (log.topics.length < 2) || decide (log.data.length > 32)) = false := by
    rw [any_eq_false]
    intro log member
    obtain ⟨transfer, -, rfl⟩ := mem_map.mp member
    have topics := transfer.enoughTopics
    have data := transfer.shortData
    simp only [Bool.or_eq_true, decide_eq_true_eq]
    omega
  simp only [handleTransactionLogs, valid, Bool.false_eq_true, if_false, extracted, ok_bind]
  rfl

/-- The payments of the blocks from `first` up to but not including `next`. -/
def paymentsBetween (first next : Int) : List BlockchainTransaction :=
  (chain.filter fun transfer => decide (first ≤ transfer.block ∧ transfer.block < next)).map
    TransferLog.transaction

variable {chain}

/-- The chain only grows, the service reports no block it does not have, and the clock works. -/
structure TruthfulScan (s : ScanState) (scan : Scan) : Prop where
  grows : s.height.val ≤ scan.height.val
  reported : ∀ number, scan.rpcBlockNumber = .ok number → number.val ≤ scan.height.val
  clock : ∃ time, toTimeT scan.timestamp = .ok time

/-- The end of the interval is a block number with a successor, lies on the chain and is at least
the block before the start. -/
def SoundScan (s : ScanState) (scan : Scan) : Prop :=
  scan.height.val + 1 < 2 ^ 64 ∧
    match s.db.startBlock with
    | some (some start) =>
      (∀ number, scan.scanRange = .range number →
        1 ≤ start.val + number.val ∧ start.val + number.val < 2 ^ 64) ∧
      match scan.rpcBlockNumber, scan.scanRange with
      | .ok responseBlock, _ => start.val ≤ responseBlock.val + 1
      | .error _, .range number =>
        number.val = 0 ∨ start.val + number.val ≤ scan.height.val + 1
      | .error _, .noLimit => start.val ≤ scan.height.val
    | _ => True

section

variable {chain : List TransferLog} {height : U64}

lemma transfersBetween_eq (exists_ : last ≤ height.val ∨ last < first) :
    (transfersBetween chain height first last).map transaction = paymentsBetween chain first (last + 1) := by
  congr 1
  apply filter_congr
  intro transfer _
  rw [decide_eq_decide]
  omega

lemma nextBlock_ok (p) (below : number.val + 1 < 2 ^ 64) :
    ∃ next : U64, next.val = number.val + 1 ∧ nextBlock p number = .ok (.value next) := by
  have bounds := U64.bounds number
  have fits : u64.Holds (number.val + 1) := by
    rw [u64_holds]
    omega
  refine ⟨⟨_, fits⟩, rfl, ?_⟩
  simp only [nextBlock, Word.add, arith_ok p fits, ok_bind]
  rfl

variable {start : BlockMarker} {scanRange : BlockScanRange} {rpc : Except BlockchainError U64}

/-- A scan of a truthful service, once its end is known. -/
lemma retrieve_truthful (p : Profile) (ends : calculateEndBlockMarker p start scanRange rpc = .ok endMarker)
    (requested : (transfersBetween chain height (resolve height (startBlockNumber start rpc)).val
      (resolve height (endBlockNumber endMarker)).val).map transaction = payments)
    (continues : findNewStartBlock p payments start endMarker = .ok newStart) :
    retrieveTransactions p start scanRange rpc (truthfulLogs chain height) =
      .ok (.ok ⟨newStart, payments⟩) := by
  simp only [retrieveTransactions, ends, ok_bind, truthfulLogs, handleTransactionLogs_truthful,
    requested, continues]
  rfl

/-- The scan asks for the payments from its first block up to the block that it continues from. -/
def ScanContinues (p : Profile) (chain : List TransferLog) (height : U64) (start : BlockMarker)
    (scanRange : BlockScanRange) (rpc : Except BlockchainError U64) : Prop :=
  ∃ next : U64, (resolve height (startBlockNumber start rpc)).val ≤ next.val ∧
    retrieveTransactions p start scanRange rpc (truthfulLogs chain height) =
      .ok (.ok ⟨.value next,
        paymentsBetween chain (resolve height (startBlockNumber start rpc)).val next.val⟩)

/-- A scan with a known end asks for the blocks up to it and continues after it. -/
lemma continues_of_end_value (p) (ends : calculateEndBlockMarker p start scanRange rpc = .ok (.value last))
    (below : last.val + 1 < 2 ^ 64)
    (starts : (resolve height (startBlockNumber start rpc)).val ≤ last.val + 1)
    (exists_ : last.val ≤ height.val ∨ last.val < (resolve height (startBlockNumber start rpc)).val) :
    ScanContinues p chain height start scanRange rpc := by
  obtain ⟨next, nextVal, nextOk⟩ := nextBlock_ok p below
  refine ⟨next, nextVal ▸ starts, retrieve_truthful p ends ?_ nextOk⟩
  rw [nextVal]
  exact transfersBetween_eq exists_

variable {next : Int}

/-- Without a payment up to the tip there is none up to a block on the chain. -/
lemma paymentsBetween_eq_nil (upper : next ≤ later) (empty : paymentsBetween chain first later = []) :
    paymentsBetween chain first next = [] := by
  unfold paymentsBetween at empty ⊢
  rw [map_eq_nil_iff, filter_eq_nil_iff] at empty ⊢
  intro transfer member inside
  apply empty transfer member
  rw [decide_eq_true_eq] at inside ⊢
  omega

/-- The payments up to some block are those up to the highest block with a payment. -/
lemma paymentsBetween_highest {highest : U64} (upper : highest.val < next)
    (above : ∀ tx ∈ paymentsBetween chain first next, tx.blockNumber.val ≤ highest.val) :
    paymentsBetween chain first next = paymentsBetween chain first (highest.val + 1) := by
  unfold paymentsBetween at above ⊢
  congr 1
  apply filter_congr
  intro transfer inChain
  rw [decide_eq_decide]
  constructor
  · intro between
    have highestAbove := above transfer.transaction (mem_map_of_mem
      (mem_filter.mpr ⟨inChain, decide_eq_true between⟩))
    unfold block at between ⊢
    omega
  · intro between
    omega

/-- A scan up to the tip continues after the last block with a payment, or else one block on. -/
lemma continues_of_end_latest (p)
    (ends : calculateEndBlockMarker p start scanRange rpc = .ok .uninitialized)
    (below : height.val + 1 < 2 ^ 64)
    (reached : ∀ number, start = .value number → number.val ≤ height.val) :
    (start = .uninitialized ∧ retrieveTransactions p start scanRange rpc (truthfulLogs chain height) =
        .ok (.ok ⟨.uninitialized, []⟩)) ∨
    ScanContinues p chain height start scanRange rpc := by
  have requested : (transfersBetween chain height (resolve height (startBlockNumber start rpc)).val
      (resolve height (endBlockNumber .uninitialized)).val).map transaction =
      paymentsBetween chain (resolve height (startBlockNumber start rpc)).val (height.val + 1) :=
    transfersBetween_eq (.inl (Int.le_refl _))
  by_cases empty : paymentsBetween chain (resolve height (startBlockNumber start rpc)).val
      (height.val + 1) = []
  · cases start with
    | uninitialized =>
      left
      exact ⟨rfl, retrieve_truthful p ends (requested.trans empty) rfl⟩
    | value number =>
      right
      have onChain := reached number rfl
      obtain ⟨next, nextVal, nextOk⟩ := nextBlock_ok p (show number.val + 1 < 2 ^ 64 by omega)
      have first : (resolve height (startBlockNumber (.value number) rpc)).val = number.val := rfl
      refine ⟨next, by omega, ?_⟩
      -- the start block is on the chain, so it has no payment either
      rw [paymentsBetween_eq_nil (by omega) empty]
      exact retrieve_truthful p ends (requested.trans empty) nextOk
  · right
    obtain ⟨highest, isHighest, above, tx, member, isTx⟩ := findHighestBlockMarkerFromTxs_value empty
    have inside : (resolve height (startBlockNumber start rpc)).val ≤ highest.val ∧
        highest.val < height.val + 1 := by
      obtain ⟨transfer, inFilter, rfl⟩ := mem_map.mp member
      have between := (mem_filter.mp inFilter).2
      rw [decide_eq_true_eq] at between
      rw [← isTx]
      exact between
    obtain ⟨next, nextVal, nextOk⟩ := nextBlock_ok p (show highest.val + 1 < 2 ^ 64 by omega)
    refine ⟨next, by omega, ?_⟩
    rw [nextVal, ← paymentsBetween_highest inside.2 above]
    apply retrieve_truthful p ends requested
    simp only [findNewStartBlock, isHighest, nextOk]

lemma locallyDetermined_ok (p) {start number} (above : 1 ≤ start.val + number.val)
    (below : start.val + number.val < 2 ^ 64) :
    ∃ last : U64, last.val = start.val + number.val - 1 ∧
      locallyDeterminedEndBlockMarker p (.value start) (.range number) = .ok (.value last) := by
  have sumFits : u64.Holds (start.val + number.val) := by
    rw [u64_holds]
    omega
  have lastFits : u64.Holds (start.val + number.val - 1) := by
    rw [u64_holds]
    omega
  refine ⟨⟨_, lastFits⟩, rfl, ?_⟩
  simp only [locallyDeterminedEndBlockMarker, Word.add, arith_ok p sumFits, ok_bind, Word.sub,
    arith_ok p lastFits]
  rfl

end

/-- A sound scan asks for the payments from its first block up to the block it continues from. -/
lemma retrieve_sound (p chain) {s scan start} (marker : startBlockMarker s.db = .ok start)
    (truthful : TruthfulScan s scan) (sound : SoundScan s scan) :
    (start = .uninitialized ∧
      retrieveTransactions p start scan.scanRange scan.rpcBlockNumber
        (truthfulLogs chain scan.height) = .ok (.ok ⟨.uninitialized, []⟩)) ∨
    ScanContinues p chain scan.height start scan.scanRange scan.rpcBlockNumber := by
  obtain ⟨below, sound⟩ := sound
  have reported := truthful.reported
  unfold startBlockMarker at marker
  split at marker
  · cases marker
  · -- no start block yet: the scan starts at the reported block or at the tip
    cases marker
    cases rpc : scan.rpcBlockNumber with
    | ok responseBlock =>
      right
      have onChain := reported responseBlock rpc
      have first : responseBlock.val ≤ responseBlock.val + 1 := by omega
      exact continues_of_end_value p rfl (by omega) first (.inl onChain)
    | error e => exact continues_of_end_latest p rfl below (by simp)
  next number stored =>
    cases marker
    simp only [stored] at sound
    obtain ⟨rangeFits, interval⟩ := sound
    cases setting : scan.scanRange with
    | noLimit =>
      rw [setting] at interval
      cases rpc : scan.rpcBlockNumber with
      | ok responseBlock =>
        right
        rw [rpc] at interval
        have onChain := reported responseBlock rpc
        exact continues_of_end_value p rfl (by omega) interval (.inl onChain)
      | error e =>
        rw [rpc] at interval
        apply continues_of_end_latest p rfl below
        rintro other ⟨⟩
        exact interval
    -- the range may end before the tip
    | range count =>
      right
      rw [setting] at interval
      obtain ⟨above, fits⟩ := rangeFits count setting
      have countBounds := U64.bounds count
      obtain ⟨last, lastVal, lastOk⟩ := locallyDetermined_ok p above fits
      cases rpc : scan.rpcBlockNumber with
      | ok responseBlock =>
        rw [rpc] at interval
        have onChain := reported responseBlock rpc
        have ends : calculateEndBlockMarker p (.value number) (.range count) (.ok responseBlock) =
            .ok (.value (if last.val ≤ responseBlock.val then last else responseBlock)) := by
          simp only [calculateEndBlockMarker, lastOk, ok_bind]
          rfl
        apply continues_of_end_value p ends
        · split <;> omega
        · simp only [startBlockNumber, resolve_number]
          split <;> omega
        · split <;> omega
      | error e =>
        rw [rpc] at interval
        have ends : calculateEndBlockMarker p (.value number) (.range count) (.error e) =
            .ok (.value last) := by
          simp only [calculateEndBlockMarker, lastOk, ok_bind]
          rfl
        apply continues_of_end_value p ends
        · omega
        all_goals
          simp only [startBlockNumber, resolve_number]
          omega

/-! ### Sums of payments -/

lemma totalWei_append (as bs) : totalWei (as ++ bs) = totalWei as + totalWei bs := by
  simp [totalWei]

lemma totalWei_perm (perm : as.Perm bs) : totalWei as = totalWei bs := (perm.map Word.val).sum_eq

lemma paidBy_append (wallet as bs) : paidBy wallet (as ++ bs) = paidBy wallet as + paidBy wallet bs := by
  simp [paidBy, amountsFrom, totalWei_append]

lemma paidBy_perm (wallet) (perm : as.Perm bs) : paidBy wallet as = paidBy wallet bs :=
  totalWei_perm ((perm.filter _).map _)

lemma paidBy_sublist (wallet) (sub : as.Sublist bs) : paidBy wallet as ≤ paidBy wallet bs :=
  totalWei_sublist ((sub.filter _).map _)

lemma paymentsBetween_sublist (chain) (first next : Int) :
    (paymentsBetween chain first next).Sublist (chain.map transaction) :=
  filter_sublist.map _

lemma paymentsBetween_append (chain) {first mid next} (lower : first ≤ mid) (upper : mid ≤ next) :
    (paymentsBetween chain first mid ++ paymentsBetween chain mid next).Perm
      (paymentsBetween chain first next) := by
  unfold paymentsBetween
  rw [← map_append]
  apply Perm.map
  -- one filter for each side of the middle block
  have split := filter_append_perm (fun transfer : TransferLog => decide (transfer.block < mid))
    (chain.filter fun transfer => decide (first ≤ transfer.block ∧ transfer.block < next))
  refine Perm.trans (.of_eq ?_) split
  rw [filter_filter, filter_filter]
  congr 1
  · apply filter_congr
    intro transfer _
    rw [← Bool.decide_and, decide_eq_decide]
    omega
  · apply filter_congr
    intro transfer _
    rw [← decide_not, ← Bool.decide_and, decide_eq_decide]
    omega

/-! ### Runs of scans -/

/-- The amounts on the chain stay within the columns and the statistic, all together. -/
structure AmountsFit (chain : List TransferLog) (s₀ : ScanState) : Prop where
  small : ∀ transfer ∈ chain, Small transfer.transaction.weiAmount
  statistic : s₀.totalPaidReceivableWei.val +
    totalWei ((chain.map TransferLog.transaction).map BlockchainTransaction.weiAmount) < 2 ^ 128
  balances : ∀ row ∈ s₀.db.receivable, -2 ^ 126 + 2 ^ 63 ≤
    row.balance.value - paidBy row.wallet (chain.map TransferLog.transaction)

/-- A stored start block, possibly null, and nothing credited yet. -/
structure Initial (s₀ : ScanState) : Prop where
  primaryKey : (s₀.db.receivable.map ReceivableRow.wallet).Nodup
  startBlock : ∃ stored, s₀.db.startBlock = some stored ∧ s₀.firstBlock = stored.map Word.val
  credited : s₀.credited = []

/-- The payments from the first block up to the stored start block have been credited, each of
them as often as it is on the chain, and no others. -/
def CoveredBlocks (chain : List TransferLog) (s : ScanState) : Prop :=
  match s.db.startBlock with
  | some (some next) => ∃ first, s.firstBlock = some first ∧ first ≤ next.val ∧
      s.credited.Perm (paymentsBetween chain first next.val)
  | some none => s.firstBlock = none ∧ s.credited = []
  | none => False

structure Covered (chain : List TransferLog) (s₀ s : ScanState) : Prop where
  blocks : CoveredBlocks chain s
  firstBlock : ∀ block, s₀.firstBlock = some block → s.firstBlock = some block
  balances : List.Forall₂ (fun row row' => row'.wallet = row.wallet ∧
    row'.balance.value = row.balance.value - paidBy row.wallet s.credited)
      s₀.db.receivable s.db.receivable
  statistic : s.totalPaidReceivableWei.val = s₀.totalPaidReceivableWei.val +
    totalWei (s.credited.map BlockchainTransaction.weiAmount)

/-- The stored start block did not decrease. -/
def StartBlockLe (before after : ScanState) : Prop :=
  ∀ start, before.db.startBlock = some (some start) →
    ∃ next, after.db.startBlock = some (some next) ∧ start.val ≤ next.val

lemma startBlockLe_refl (s) : StartBlockLe s s := fun start stored => ⟨start, stored, Int.le_refl _⟩

lemma startBlockLe_trans (first : StartBlockLe a b) (second : StartBlockLe b c) : StartBlockLe a c := by
  intro start stored
  obtain ⟨mid, midStored, lower⟩ := first start stored
  obtain ⟨next, nextStored, upper⟩ := second mid midStored
  exact ⟨next, nextStored, Int.le_trans lower upper⟩

lemma covered_initial (initial : Initial s₀) : Covered chain s₀ s₀ := by
  obtain ⟨stored, isStored, first⟩ := initial.startBlock
  refine ⟨?_, fun _ same => same, ?_, ?_⟩
  · unfold CoveredBlocks
    rw [isStored]
    cases stored with
    | none => exact ⟨first, initial.credited⟩
    | some start =>
      refine ⟨start.val, first, Int.le_refl _, ?_⟩
      have none : paymentsBetween chain start.val start.val = [] := by
        unfold paymentsBetween
        rw [map_eq_nil_iff, filter_eq_nil_iff]
        intro transfer _ inside
        rw [decide_eq_true_eq] at inside
        omega
      rw [none, initial.credited]
  · rw [forall₂_same]
    intro row _
    rw [initial.credited]
    exact ⟨rfl, by rw [paidBy_nil]; omega⟩
  · simp [initial.credited]

section

variable (p : Profile) {chain : List TransferLog} {s₀ s : ScanState}

section

variable (fits : AmountsFit chain s₀) (primaryKey : (s₀.db.receivable.map ReceivableRow.wallet).Nodup)
  (covered : Covered chain s₀ s)
include fits primaryKey covered

/-- A scan whose payments continue the coverage credits them. -/
lemma scanStep_continues {time} (clock : toTimeT scan.timestamp = .ok time) {start}
    (marker : startBlockMarker s.db = .ok start) (present : s.db.startBlock.isSome) {next}
    (retrieved : retrieveTransactions p start scan.scanRange scan.rpcBlockNumber
      (truthfulLogs chain scan.height) = .ok (.ok ⟨.value next, payments⟩))
    (fromChain : payments.Sublist (chain.map transaction)) {first}
    (begins : s.firstBlock.getD (resolve scan.height (startBlockNumber start scan.rpcBlockNumber)).val =
      first) (kept : ∀ block, s₀.firstBlock = some block → block = first) (lower : first ≤ next.val)
    (continues : (s.credited ++ payments).Perm (paymentsBetween chain first next.val)) :
    ∃ s', scanStep p chain s scan = .ok s' ∧ Covered chain s₀ s' ∧ s'.db.startBlock = some (some next) := by
  have sub := paymentsBetween_sublist chain first next.val
  have wallets : s.db.receivable.map ReceivableRow.wallet = s₀.db.receivable.map ReceivableRow.wallet :=
    Rows.map_eq_of_forall₂ covered.balances fun _ _ related => related.1
  have small : ∀ payment ∈ payments, Small payment.weiAmount := by
    intro payment member
    obtain ⟨transfer, inChain, rfl⟩ := mem_map.mp (fromChain.subset member)
    exact fits.small transfer inChain
  have storable : ∀ row ∈ s.db.receivable,
      StorableInTurn row.balance.value (amountsFrom row.wallet payments) := by
    intro row member
    obtain ⟨row₀, member₀, sameWallet, balance⟩ := Rows.forall₂_mem_right covered.balances member
    apply storableInTurn_of_le
    have bound := fits.balances row₀ member₀
    have paid := paidBy_sublist row₀.wallet sub
    rw [← paidBy_perm row₀.wallet continues, paidBy_append] at paid
    change _ ≤ row.balance.value - paidBy row.wallet payments
    rw [sameWallet]
    omega
  have statistic : s.totalPaidReceivableWei.val +
      totalWei (payments.map weiAmount) = s₀.totalPaidReceivableWei.val +
        totalWei ((s.credited ++ payments).map weiAmount) := by
    rw [covered.statistic, map_append, totalWei_append]
    omega
  have statisticFits : s.totalPaidReceivableWei.val + totalWei (payments.map weiAmount) < 2 ^ 128 := by
    have bound := fits.statistic
    have paid := totalWei_sublist (sub.map weiAmount)
    rw [← totalWei_perm (continues.map weiAmount)] at paid
    omega
  have clocked : toTimeT (⟨scan.timestamp, .value next, payments⟩ : ReceivedPayments).timestamp =
    .ok time := clock
  obtain ⟨after, sum, handled, complete, sumVal⟩ := handle_ok p clocked (wallets ▸ primaryKey) rfl
    present small storable statisticFits
  have startBlock : after.startBlock = some (some next) := complete.2
  refine ⟨⟨after, sum, scan.height, s.credited ++ payments, some first⟩, ?_, ⟨?_, ?_, ?_, ?_⟩, startBlock⟩
  · rw [scanStep, marker, ok_bind, retrieved, ok_bind]
    dsimp only
    rw [handled, ← begins]
    cases s.firstBlock with
    | none => rfl
    | some block => rfl
  · simp only [CoveredBlocks, startBlock]
    exact ⟨first, rfl, lower, continues⟩
  · intro block isBlock
    rw [kept block isBlock]
  · refine Rows.forall₂_comp ?_ covered.balances complete.1
    rintro row mid row' ⟨midWallet, midBalance⟩ ⟨wallet, balance, -⟩
    refine ⟨wallet.trans midWallet, ?_⟩
    rw [balance, midWallet, midBalance, paidBy_append]
    exact Int.sub_sub _ _ _
  · exact sumVal.trans statistic

/-- A sound scan succeeds, continues the coverage and does not move the start block back. -/
lemma scanStep_sound (truthful : TruthfulScan s scan) (sound : SoundScan s scan) :
    ∃ s', scanStep p chain s scan = .ok s' ∧ Covered chain s₀ s' ∧ StartBlockLe s s' := by
  obtain ⟨time, clock⟩ := truthful.clock
  have blocks := covered.blocks
  unfold CoveredBlocks at blocks
  split at blocks
  next start stored =>
    -- a start block is stored: the payments continue those credited before
    obtain ⟨first, isFirst, lower, credited⟩ := blocks
    have marker : startBlockMarker s.db = .ok (.value start) := by simp [startBlockMarker, stored]
    rcases retrieve_sound p chain marker truthful sound with
      ⟨impossible, -⟩ | ⟨next, upper, retrieved⟩
    · cases impossible
    · have kept : ∀ block, s₀.firstBlock = some block → block = first := fun block isBlock =>
        Option.some.inj ((covered.firstBlock block isBlock).symm.trans isFirst)
      obtain ⟨s', stepped, covered', startBlock⟩ := scanStep_continues p fits primaryKey covered clock
        marker (by simp [stored]) retrieved (paymentsBetween_sublist chain _ _) (by rw [isFirst]; rfl)
        kept (Int.le_trans lower upper)
        ((credited.append_right _).trans (paymentsBetween_append chain lower upper))
      refine ⟨s', stepped, covered', fun old isOld => ?_⟩
      rw [stored] at isOld
      cases isOld
      exact ⟨next, startBlock, upper⟩
  next stored =>
    obtain ⟨noFirst, none⟩ := blocks
    have marker : startBlockMarker s.db = .ok .uninitialized := by simp [startBlockMarker, stored]
    rcases retrieve_sound p chain marker truthful sound with
      ⟨-, retrieved⟩ | ⟨next, upper, retrieved⟩
    · refine ⟨{ s with height := scan.height }, ?_, ⟨?_, covered.firstBlock, covered.balances,
        covered.statistic⟩, startBlockLe_refl s⟩
      · simp [scanStep, marker, retrieved, handleNewReceivedPayments, noFirst]
      · simp only [CoveredBlocks, stored]
        exact ⟨noFirst, none⟩
    · -- no first block either: this scan sets it
      have kept : ∀ block, s₀.firstBlock = some block → block =
          (resolve scan.height (startBlockNumber .uninitialized scan.rpcBlockNumber)).val := by
        intro block isBlock
        cases noFirst.symm.trans (covered.firstBlock block isBlock)
      obtain ⟨s', stepped, covered', -⟩ := scanStep_continues p fits primaryKey covered clock
        marker (by simp [stored]) retrieved (paymentsBetween_sublist chain _ _) (by rw [noFirst]; rfl)
        kept upper (by rw [none, nil_append])
      refine ⟨s', stepped, covered', fun old isOld => ?_⟩
      rw [stored] at isOld
      cases isOld
  next => exact blocks.elim

end

end

/-- In every run of truthful and sound scans, no arithmetic overflows, the stored start block never
decreases and every payment from the first block up to it is credited exactly once. -/
theorem receivable_scans_cover_payments (p : Profile) (chain : List TransferLog) (s₀ : ScanState)
    (initial : Initial s₀) (fits : AmountsFit chain s₀) (before after : List Scan)
    (sound : Along (scanStep p chain) (fun s scan => TruthfulScan s scan ∧ SoundScan s scan) s₀
      (before ++ after)) :
    ∃ s s', run (scanStep p chain) s₀ before = .ok s ∧ run (scanStep p chain) s after = .ok s' ∧
      Covered chain s₀ s ∧ Covered chain s₀ s' ∧ StartBlockLe s s' := by
  have first : ∃ s, run (scanStep p chain) s₀ before = .ok s ∧ Covered chain s₀ s := by
    refine run_ok ?_ (along_of_append sound) (covered_initial initial)
    intro s scan covered good
    obtain ⟨next, stepped, nextCovered, -⟩ := scanStep_sound p fits initial.primaryKey covered good.1 good.2
    exact ⟨next, stepped, nextCovered⟩
  obtain ⟨s, reached, covered⟩ := first
  have second : ∃ s', run (scanStep p chain) s after = .ok s' ∧ Covered chain s₀ s' ∧ StartBlockLe s s' := by
    refine run_ok ?_ (along_append sound reached) ⟨covered, startBlockLe_refl s⟩
    rintro mid scan ⟨midCovered, midLe⟩ good
    obtain ⟨next, stepped, nextCovered, nextLe⟩ :=
      scanStep_sound p fits initial.primaryKey midCovered good.1 good.2
    exact ⟨next, stepped, nextCovered, startBlockLe_trans midLe nextLe⟩
  obtain ⟨s', reached', covered', le⟩ := second
  exact ⟨s, s', reached, reached', covered, covered', le⟩

/-- Five wei from wallet 1 in block 120. -/
def sampleTransfer : TransferLog where
  log := ⟨[0, 1], [5], some ⟨120, by decide⟩⟩
  transaction := ⟨⟨120, by decide⟩, ⟨1⟩, ⟨5, by decide⟩⟩
  decodes := by rfl
  enoughTopics := by decide
  shortData := by decide

/-- A node that knows wallet 1 as a debtor and starts from block 100. -/
def sampleState : ScanState where
  db := ⟨modestDb.receivable, some (some ⟨100, u64_hundred⟩)⟩
  totalPaidReceivableWei := ⟨0, u128_zero⟩
  height := ⟨100, u64_hundred⟩
  credited := []
  firstBlock := some 100

def reportedScan (responseBlock height : U64) : Scan where
  scanRange := .noLimit
  rpcBlockNumber := .ok responseBlock
  height
  timestamp := ⟨7 * nanosInSecond⟩

def unreportedScan (range height : U64) : Scan where
  scanRange := .range range
  rpcBlockNumber := .error (.queryFailed "timeout")
  height
  timestamp := ⟨7 * nanosInSecond⟩

lemma sampleState_initial : Initial sampleState := ⟨by decide, ⟨some ⟨100, by decide⟩, rfl, rfl⟩, rfl⟩

lemma sampleState_fits : AmountsFit [sampleTransfer] sampleState := by
  refine ⟨?_, by decide, ?_⟩
  · intro transfer member
    rw [mem_singleton.mp member]
    decide
  · intro row member
    rw [mem_singleton.mp member]
    decide

theorem sampleScans_cover :
    ∃ s s', run (scanStep .debug [sampleTransfer]) sampleState
        [reportedScan ⟨150, by decide⟩ ⟨150, by decide⟩] = .ok s ∧
      run (scanStep .debug [sampleTransfer]) s [] = .ok s' ∧
      Covered [sampleTransfer] sampleState s ∧ Covered [sampleTransfer] sampleState s' ∧
      StartBlockLe s s' := by
  refine receivable_scans_cover_payments .debug [sampleTransfer] sampleState sampleState_initial
    sampleState_fits [reportedScan ⟨150, by decide⟩ ⟨150, by decide⟩] [] ⟨⟨?_, ?_⟩, ?_⟩
  · refine ⟨by decide, ?_, ⟨_, rfl⟩⟩
    rintro number ⟨⟩
    decide
  · refine ⟨by decide, ?_, show (100 : Int) ≤ 150 + 1 by decide⟩
    rintro number ⟨⟩
  · intros
    trivial

/-- What a run stores and has credited. -/
def outcome (s : ScanState) : Option (Option U64) × List BlockchainTransaction :=
  (s.db.startBlock, s.credited)

/-- A service that lags behind moves the start block back, and a payment is credited twice; a range
past the tip of the chain, used when no block number is reported, skips a payment for good. -/
theorem lagging_service_credits_twice :
    (run (scanStep .release [sampleTransfer]) sampleState
        [reportedScan ⟨150, by decide⟩ ⟨200, by decide⟩]).map outcome =
      .ok (some (some ⟨151, by decide⟩), [sampleTransfer.transaction]) ∧
    (run (scanStep .release [sampleTransfer]) sampleState
        [reportedScan ⟨150, by decide⟩ ⟨200, by decide⟩,
          reportedScan ⟨110, by decide⟩ ⟨200, by decide⟩]).map outcome =
      .ok (some (some ⟨111, by decide⟩), [sampleTransfer.transaction]) ∧
    (run (scanStep .release [sampleTransfer]) sampleState
        [reportedScan ⟨150, by decide⟩ ⟨200, by decide⟩,
          reportedScan ⟨110, by decide⟩ ⟨200, by decide⟩,
          reportedScan ⟨200, by decide⟩ ⟨200, by decide⟩]).map outcome =
      .ok (some (some ⟨201, by decide⟩), [sampleTransfer.transaction, sampleTransfer.transaction]) ∧
    (run (scanStep .release [sampleTransfer]) sampleState
        [unreportedScan ⟨30, by decide⟩ ⟨105, by decide⟩,
          reportedScan ⟨200, by decide⟩ ⟨200, by decide⟩]).map outcome =
      .ok (some (some ⟨201, by decide⟩), []) := by
  refine ⟨by rfl, by rfl, by rfl, by rfl⟩

end PulseMesh.Blockchain
