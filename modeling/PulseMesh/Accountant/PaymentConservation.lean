import PulseMesh.Accountant.PaymentInterleavings

/-!
# Conservation of money
-/

namespace PulseMesh.Accountant

open Machine Runs Rows

/-- The books are in order and nobody is about to be paid twice. -/
structure Conserved (s : PaymentSystem) : Prop where
  wallets : (s.accountant.payable.map PayableRow.wallet).Nodup
  balances : ∀ wallet, balanceOf s.accountant.payable wallet =
    chargedTo s.charges wallet - paidTo s.payments s.confirmed wallet
  nonneg : ∀ row ∈ s.accountant.payable, 0 ≤ row.balance.value
  referenced : ∀ row ∈ s.accountant.payable, ∀ rowid, row.pendingPayableRowid = some rowid →
    ∃ fingerprint ∈ s.accountant.pendingPayable, fingerprint.rowid = rowid
  exclusive : ∀ row ∈ s.accountant.payable, ∀ other ∈ s.accountant.payable, ∀ rowid,
    row.pendingPayableRowid = some rowid → other.pendingPayableRowid = some rowid → row = other
  /-- a payment whose batch result was handled and whose fingerprint is stored is not repeated -/
  notOffered : ∀ payment ∈ s.payments, payment.hash ∉ s.inFlight →
    payment.hash ∈ s.accountant.pendingPayable.map PendingPayableRow.transactionHash →
    ∀ accounts, nonPendingPayables s.accountant.payable = .ok accounts →
      payment.wallet ∉ accounts.map PayableAccount.wallet

variable {s : PaymentSystem}

/-- The fingerprint of a handled payment is owned by the row of its recipient. -/
lemma owner_is_recipient (consistent : Consistent s) (isSigned : payment ∈ s.payments)
    (landed : payment.hash ∉ s.inFlight) (inTable : fingerprint ∈ s.accountant.pendingPayable)
    (sameHash : fingerprint.transactionHash = payment.hash) :
    ∃ row ∈ s.accountant.payable, row.wallet = payment.wallet ∧
      row.pendingPayableRowid = some fingerprint.rowid := by
  obtain ⟨row, member, pending⟩ := consistent.tables.owned fingerprint inTable (sameHash ▸ landed)
  obtain ⟨stored, inTable', sameRowid, -, other, otherSigned, ⟨otherHash, -⟩, wallet, -⟩ :=
    consistent.tables.marked row member fingerprint.rowid pending
  have sameRow : stored = fingerprint := eq_of_key_eq consistent.tables.rowids inTable' inTable sameRowid
  have samePayment : other = payment := by
    refine eq_of_key_eq consistent.signed otherSigned isSigned ?_
    rw [otherHash, sameRow, sameHash]
  exact ⟨row, member, (samePayment ▸ wallet).symm, pending⟩

lemma conserved_of_consistent (consistent : Consistent s) : Conserved s where
  wallets := consistent.tables.wallets
  balances := consistent.booked
  nonneg := consistent.tables.nonneg
  referenced row member rowid pending := by
    obtain ⟨fingerprint, inTable, same, -⟩ := consistent.tables.marked row member rowid pending
    exact ⟨fingerprint, inTable, same⟩
  exclusive row member other otherMember rowid pending otherPending :=
    marked_exclusive consistent.signed consistent.tables member otherMember pending otherPending
  notOffered payment isSigned landed stored accounts read := by
    intro offered
    obtain ⟨fingerprint, inTable, sameHash⟩ := List.mem_map.mp stored
    obtain ⟨owner, ownerMember, ownerWallet, pending⟩ :=
      owner_is_recipient consistent isSigned landed inTable sameHash
    obtain ⟨account, isAccount, sameWallet⟩ := List.mem_map.mp offered
    obtain ⟨row, member, rowWallet, isNone, -⟩ :=
      (nonPendingPayables_eq_ok consistent.tables.wallets read).2 account isAccount
    have same : row = owner := by
      refine eq_of_key_eq consistent.tables.wallets member ownerMember ?_
      rw [rowWallet, sameWallet, ownerWallet]
    rw [same, pending] at isNone
    cases isNone

section

variable (p : Profile) (config : AccountantConfig)

/-- Money is conserved in every run of legal messages whose reports come after the results of
their batches, as long as every step can be booked. -/
theorem payments_conserved {events : List PaymentEvent} {s : PaymentSystem}
    (along : Along (step p config)
      (fun s event => Legal s event ∧ AfterResult s event ∧ Bookable config s event) .start events)
    (reached : run (step p config) .start events = .ok s) : Conserved s := by
  refine conserved_of_consistent (invariant_of_run ?_ along consistent_start reached)
  rintro s event next consistent ⟨legal, afterResult, bookable⟩ stepped
  exact (step_sound p config consistent legal afterResult bookable).keeps next stepped

end

/-! ### Runs of a node that owes to two wallets -/

def sampleConfig : AccountantConfig := ⟨narrowThresholds, some ⟨100⟩, ⟨101⟩⟩

def atSecond (second : Int) : SystemTime := ⟨second * nanosInSecond⟩

/-- A service of the given price, consumed at second 1000. -/
def consumed (wallet : Wallet) (wei : U64) : PaymentEvent :=
  .servicesConsumed ⟨atSecond 1000, ⟨wallet, ⟨0, u64_zero⟩, wei, ⟨0, u64_zero⟩⟩, ⟨0, u64_zero⟩, []⟩

/-- A debt of `5 * 10 ^ 18` wei is paid and the payment confirmed. -/
def sampleRun : List PaymentEvent :=
  [consumed ⟨1⟩ ⟨5 * 10 ^ 18, by decide⟩, .scanForPayables (atSecond 5000),
    .fingerprintSeeds 0 [7] (atSecond 5001), .sentPayables 0 (.answered [.ok ()]) (atSecond 5002),
    .scanForPendingPayables (atSecond 5003),
    .reportTransactionReceipts [.rpcResponse .succeeded] (atSecond 5004)]

theorem sampleRun_conserved :
    ∃ s, run (step .debug sampleConfig) .start sampleRun = .ok s ∧ Conserved s := by
  obtain ⟨s, reached⟩ : ∃ s, run (step .debug sampleConfig) .start sampleRun = .ok s := by
    decide +kernel
  exact ⟨s, reached, payments_conserved .debug sampleConfig (by decide +kernel) reached⟩

/-- The receipt of a payment is requested while its batch is on its way.  The batch fails, its
fingerprint is deleted and the row id goes to the next payment, to another wallet. -/
def staleReportRun : List PaymentEvent :=
  [consumed ⟨2⟩ ⟨10 ^ 17, by decide⟩, consumed ⟨1⟩ ⟨5 * 10 ^ 18, by decide⟩,
    .scanForPayables (atSecond 5000), .fingerprintSeeds 0 [7] (atSecond 5001),
    .scanForPendingPayables (atSecond 5002),
    .sentPayables 0 (.answered [.error "already known"]) (atSecond 5003),
    consumed ⟨2⟩ ⟨6 * 10 ^ 18, by decide⟩, .scanForPayables (atSecond 6000),
    .fingerprintSeeds 0 [8, 9] (atSecond 6001),
    .sentPayables 0 (.answered [.ok (), .ok ()]) (atSecond 6002),
    .reportTransactionReceipts [.rpcResponse .succeeded] (atSecond 6003)]

/-- The report of the first payment is booked on the wallet of the second one, though every message
is legal and every receipt reported after the result of its batch. -/
theorem stale_report_books_on_another_wallet :
    Along (step .release sampleConfig) (fun s event => Legal s event ∧ AfterResult s event)
      .start staleReportRun ∧
    ∃ s, run (step .release sampleConfig) .start staleReportRun = .ok s ∧
      chargedTo s.charges ⟨2⟩ - paidTo s.payments s.confirmed ⟨2⟩ = 61 * 10 ^ 17 ∧
      balanceOf s.accountant.payable ⟨2⟩ = 11 * 10 ^ 17 ∧ ¬ Conserved s := by
  refine ⟨by decide +kernel, _, rfl, by decide +kernel, by decide +kernel, ?_⟩
  intro conserved
  exact absurd (conserved.balances ⟨2⟩) (by decide +kernel)

section

variable (p : Profile) (config : AccountantConfig)

/-- The row a confirmation was booked on is the only one that waited for it: its recipient's.  It
waits no longer and its balance is less by the amount. -/
def BookedOnce (before after : PaymentSystem) (fingerprint : PendingPayableFingerprint) : Prop :=
  ∃ row settled, before.accountant.payable.filter
      (fun row => decide (row.pendingPayableRowid = some fingerprint.rowid)) = [row] ∧
    recipientOf before.payments fingerprint.hash = some row.wallet ∧
    after.accountant.payable.filter (fun row => decide (row.wallet = settled.wallet)) = [settled] ∧
    settled.wallet = row.wallet ∧ settled.pendingPayableRowid = none ∧
    settled.balance.value = row.balance.value - fingerprint.amount.val

lemma report_books_once {next results now} (consistent : Consistent s)
    (afterResult : AfterResult s (.reportTransactionReceipts results now))
    (bookable : Bookable config s (.reportTransactionReceipts results now))
    (stepped : step p config s (.reportTransactionReceipts results now) = .ok next) :
    ∀ fingerprint ∈ (handleReceiptsForPendingTransactions
      (results.zip (s.request.getD []))).confirmed, BookedOnce s next fingerprint := by
  cases requested : s.request with
  | none => simp [handleReceiptsForPendingTransactions]
  | some fingerprints =>
    intro fingerprint member
    have kept := (reportTransactionReceipts_sound p config consistent afterResult bookable).keeps next stepped
    obtain ⟨-, confirmable⟩ := reported_confirmable config consistent afterResult bookable requested
    obtain ⟨booked, isBooked, stepEq⟩ := report_eq p config consistent afterResult bookable requested
    rw [stepEq] at stepped
    obtain ⟨accountant, ended, built⟩ := ok_of_bind stepped
    cases built
    obtain ⟨row, isRow, pending, only, recipient, -⟩ :=
      confirmable_owner consistent.signed consistent.tables confirmable member
    obtain ⟨settled, isSettled, wallet, change⟩ := forall₂_mem_left (isBooked.ended ended).settled isRow
    have single := filter_key_eq_singleton kept.tables.wallets isSettled
    rcases change with ⟨one, isOne, onePending, cleared, balance⟩ | ⟨others, -⟩
    · -- row ids of a report are distinct, so the row was settled by this fingerprint
      have same : one = fingerprint := by
        refine eq_of_key_eq confirmable.distinct isOne member ?_
        exact Option.some.inj (onePending.symm.trans pending)
      exact ⟨row, settled, only, recipient, single, wallet, cleared, same ▸ balance⟩
    · exact absurd pending (others fingerprint member)

/-- What a run has to meet for no handler to panic. -/
def Manageable (s : PaymentSystem) (event : PaymentEvent) : Prop :=
  Legal s event ∧ AfterResult s event ∧ Bookable config s event ∧ Timely config s event

instance (s : PaymentSystem) (event : PaymentEvent) : Decidable (Manageable config s event) :=
  inferInstanceAs (Decidable (_ ∧ _ ∧ _ ∧ _))

end

/-- The payment is confirmed between the fingerprints and the result of its batch. -/
def earlyReceiptRun : List PaymentEvent :=
  [consumed ⟨1⟩ ⟨5 * 10 ^ 18, by decide⟩, .scanForPayables (atSecond 5000),
    .fingerprintSeeds 0 [7] (atSecond 5001), .scanForPendingPayables (atSecond 5002),
    .reportTransactionReceipts [.rpcResponse .succeeded] (atSecond 5003)]

/-- The `ScanError` of a failed batch ends the next scan, and a third one pays the same debt. -/
def racingScansRun : List PaymentEvent :=
  [consumed ⟨1⟩ ⟨5 * 10 ^ 18, by decide⟩, .scanForPayables (atSecond 5000),
    .fingerprintSeeds 0 [7] (atSecond 5001), .sentPayables 0 (.sendingFailed "timeout") (atSecond 5002),
    .scanForPayables (atSecond 6000), .scanError (atSecond 6001), .scanForPayables (atSecond 6002),
    .fingerprintSeeds 0 [8] (atSecond 6003), .fingerprintSeeds 1 [9] (atSecond 6004),
    .sentPayables 0 (.answered [.ok ()]) (atSecond 6005),
    .sentPayables 0 (.answered [.ok ()]) (atSecond 6006)]

end PulseMesh.Accountant
