import PulseMesh.Accountant.PaymentProtocol

/-!
# The books of the payment protocol

What is recorded as owed, paid and pending, and the invariant that ties the two tables to the
messages on their way: every fingerprint belongs to one signed payment, and its recipient's row
either points to it or waits for the result of the batch.  The invariant is kept by every event
that meets the conditions stated here.
-/

namespace PulseMesh.Accountant

open Machine Runs Rows PendingPayableRow List Payment

/-! ### Sums -/

def balanceOf (rows : List PayableRow) (wallet : Wallet) : Int :=
  ((rows.filter fun row => decide (row.wallet = wallet)).map fun row => row.balance.value).sum

def chargedTo (charges : List (Wallet × U128)) (wallet : Wallet) : Int :=
  ((charges.filter fun charge => decide (charge.1 = wallet)).map fun charge => charge.2.val).sum

def recipientOf (payments : List Payment) (hash : H256) : Option Wallet :=
  (payments.find? fun payment => decide (payment.hash = hash)).map wallet

def paidTo (payments : List Payment) (confirmed : List PendingPayableFingerprint)
    (wallet : Wallet) : Int :=
  ((confirmed.filter fun fingerprint => decide (recipientOf payments fingerprint.hash = some wallet)).map
    fun fingerprint => fingerprint.amount.val).sum

variable {rows : List PayableRow} {wallet : Wallet}

lemma balanceOf_row (unique : (rows.map PayableRow.wallet).Nodup) (member : row ∈ rows) :
    balanceOf rows row.wallet = row.balance.value := by
  rw [balanceOf, filter_key_eq_singleton unique member]
  simp

lemma balanceOf_absent (absent : ∀ row ∈ rows, row.wallet ≠ wallet) : balanceOf rows wallet = 0 := by
  have none_ : rows.filter (fun row => decide (row.wallet = wallet)) = [] := by
    simpa using absent
  rw [balanceOf, none_]
  rfl

lemma balanceOf_lt (unique : (rows.map PayableRow.wallet).Nodup) (wallet) :
    balanceOf rows wallet < 2 ^ 126 := by
  by_cases! absent : ∃ row ∈ rows, row.wallet = wallet
  · obtain ⟨row, member, rfl⟩ := absent
    rw [balanceOf_row unique member]
    exact row.balance.value_fits.2
  · rw [balanceOf_absent absent]
    decide

lemma chargedTo_cons (creditor amount) (charges : List (Wallet × U128)) (wallet) :
    chargedTo ((creditor, amount) :: charges) wallet =
      (if creditor = wallet then amount.val else 0) + chargedTo charges wallet := by
  by_cases same : creditor = wallet
  · simp [chargedTo, same]
  · simp [chargedTo, same]

variable {s : PaymentSystem} {batch : Batch}

lemma chargedTo_absent (absent : ∀ charge ∈ charges, charge.1 ≠ wallet) : chargedTo charges wallet = 0 := by
  have none_ : charges.filter (fun charge => decide (charge.1 = wallet)) = [] := by
    simpa using absent
  rw [chargedTo, none_]
  rfl

lemma chargedTo_append (charges others : List (Wallet × U128)) (wallet) :
    chargedTo (charges ++ others) wallet = chargedTo charges wallet + chargedTo others wallet := by
  simp [chargedTo]

lemma chargedTo_nonneg (charges wallet) : 0 ≤ chargedTo charges wallet :=
  sum_map_le_of_sublist (fun (charge : Wallet × U128) => (U128.bounds charge.2).1) (nil_sublist _)

/-! ### Recording charges -/

/-- The rows after some charges: every balance grew by what its wallet was charged, new rows have
no pending payment, and no mark was touched. -/
structure Grown (charged : Wallet → Int) (rows grown : List PayableRow) : Prop where
  unique : (grown.map PayableRow.wallet).Nodup
  nonneg : ∀ row ∈ grown, 0 ≤ row.balance.value
  balances : ∀ wallet, balanceOf grown wallet = balanceOf rows wallet + charged wallet
  keeps : ∀ row ∈ rows, ∃ row' ∈ grown, row'.wallet = row.wallet ∧
    row'.pendingPayableRowid = row.pendingPayableRowid ∧ row.balance.value ≤ row'.balance.value
  adds : ∀ row' ∈ grown, row'.pendingPayableRowid = none ∨ ∃ row ∈ rows, row'.wallet = row.wallet ∧
    row'.pendingPayableRowid = row.pendingPayableRowid ∧ row.balance.value ≤ row'.balance.value

lemma grown_refl (unique : (rows.map PayableRow.wallet).Nodup)
    (nonneg : ∀ row ∈ rows, 0 ≤ row.balance.value) : Grown (fun _ => 0) rows rows where
  unique := unique
  nonneg := nonneg
  balances wallet := by omega
  keeps row member := ⟨row, member, rfl, rfl, Int.le_refl _⟩
  adds row member := .inr ⟨row, member, rfl, rfl, Int.le_refl _⟩

lemma grown_trans (toMid : Grown first rows mid) (fromMid : Grown second mid grown) :
    Grown (fun wallet => first wallet + second wallet) rows grown where
  unique := fromMid.unique
  nonneg := fromMid.nonneg
  balances wallet := by
    rw [fromMid.balances, toMid.balances]
    omega
  keeps row member := by
    obtain ⟨row₁, member₁, wallet₁, pending₁, le₁⟩ := toMid.keeps row member
    obtain ⟨row₂, member₂, wallet₂, pending₂, le₂⟩ := fromMid.keeps row₁ member₁
    exact ⟨row₂, member₂, wallet₂.trans wallet₁, pending₂.trans pending₁, Int.le_trans le₁ le₂⟩
  adds row₂ member₂ := by
    rcases fromMid.adds row₂ member₂ with isNone | ⟨row₁, member₁, wallet₂, pending₂, le₂⟩
    · exact .inl isNone
    · rcases toMid.adds row₁ member₁ with isNone | ⟨row, member, wallet₁, pending₁, le₁⟩
      · exact .inl (pending₂.trans isNone)
      · exact .inr ⟨row, member, wallet₂.trans wallet₁, pending₂.trans pending₁, Int.le_trans le₁ le₂⟩

/-- Rows rewritten in place, without touching wallets and marks. -/
lemma grown_of_rewritten (unique : (rows.map PayableRow.wallet).Nodup)
    (nonneg : ∀ row ∈ rows, 0 ≤ row.balance.value) (chargedNonneg : ∀ wallet, 0 ≤ charged wallet)
    (chargedKnown : ∀ wallet, (∀ row ∈ rows, row.wallet ≠ wallet) → charged wallet = 0)
    (related : Forall₂ (fun row row' => row'.wallet = row.wallet ∧
      row'.pendingPayableRowid = row.pendingPayableRowid ∧
      row'.balance.value = row.balance.value + charged row.wallet) rows grown) :
    Grown charged rows grown := by
  have keys : grown.map PayableRow.wallet = rows.map PayableRow.wallet :=
    map_eq_of_forall₂ related fun _ _ same => same.1
  have uniqueAfter : (grown.map PayableRow.wallet).Nodup := keys ▸ unique
  refine ⟨uniqueAfter, ?_, ?_, ?_, ?_⟩
  · intro row' member'
    obtain ⟨row, member, -, -, balance⟩ := forall₂_mem_right related member'
    have before := nonneg row member
    have added := chargedNonneg row.wallet
    omega
  · intro wallet
    by_cases! absent : ∃ row ∈ rows, row.wallet = wallet
    · obtain ⟨row, member, rfl⟩ := absent
      obtain ⟨row', member', sameWallet, -, balance⟩ := forall₂_mem_left related member
      rw [balanceOf_row unique member, ← balance, ← sameWallet, balanceOf_row uniqueAfter member']
    · have absentAfter : ∀ row' ∈ grown, row'.wallet ≠ wallet := by
        intro row' member'
        obtain ⟨row, member, sameWallet, -⟩ := forall₂_mem_right related member'
        rw [sameWallet]
        exact absent row member
      rw [balanceOf_absent absent, balanceOf_absent absentAfter, chargedKnown wallet absent]
      rfl
  · intro row member
    obtain ⟨row', member', sameWallet, samePending, balance⟩ := forall₂_mem_left related member
    have added := chargedNonneg row.wallet
    exact ⟨row', member', sameWallet, samePending, by omega⟩
  · intro row' member'
    obtain ⟨row, member, sameWallet, samePending, balance⟩ := forall₂_mem_right related member'
    have added := chargedNonneg row.wallet
    exact .inr ⟨row, member, sameWallet, samePending, by omega⟩

section

variable (p : Profile) {rows : List PayableRow} {timestamp : SystemTime} {lastPaid : TimeT}

section

variable (unique : (rows.map PayableRow.wallet).Nodup) (nonneg : ∀ row ∈ rows, 0 ≤ row.balance.value)
  (clock : toTimeT timestamp = .ok lastPaid)
include unique nonneg clock

lemma moreMoneyPayable_grown {amount} (fits : balanceOf rows wallet + amount.val < 2 ^ 126) :
    ∃ grown, moreMoneyPayable p rows timestamp wallet amount = .ok (.ok grown) ∧
      Grown (fun other => if wallet = other then amount.val else 0) rows grown := by
  have amountNonneg := (U128.bounds amount).1
  by_cases! absent : ∃ row ∈ rows, row.wallet = wallet
  · -- the row of the wallet is rewritten in place
    obtain ⟨row, member, rfl⟩ := absent
    rw [balanceOf_row unique member] at fits
    obtain ⟨balance, balanceVal, charged⟩ :=
      moreMoneyPayable_present p unique clock member (nonneg row member) fits
    refine ⟨_, charged, grown_of_rewritten unique nonneg ?_ ?_ ?_⟩
    · intro wallet
      split <;> omega
    · intro wallet absent
      exact if_neg (absent row member)
    · rw [forall₂_map_right_iff, forall₂_same]
      intro other otherMember
      by_cases same : other.wallet = row.wallet
      · have isRow := eq_of_key_eq unique otherMember member same
        subst isRow
        simp [balanceVal]
      · simp [same, Ne.symm same]
  · -- a row without a pending payment is appended
    rw [balanceOf_absent absent, Int.zero_add] at fits
    obtain ⟨balance, balanceVal, charged⟩ := moreMoneyPayable_absent p clock absent fits
    refine ⟨_, charged, ?_, ?_, ?_, ?_, ?_⟩
    · rw [map_append, map_singleton, ← concat_eq_append]
      refine unique.concat ?_
      intro used
      obtain ⟨row, member, same⟩ := mem_map.mp used
      exact absent row member same
    · intro row' member'
      rcases mem_append.mp member' with old | new
      · exact nonneg row' old
      · rw [mem_singleton.mp new, balanceVal]
        exact amountNonneg
    · intro other
      by_cases same : wallet = other
      · simp [balanceOf, same, balanceVal]
      · simp [balanceOf, same]
    · intro row member
      exact ⟨row, mem_append_left _ member, rfl, rfl, Int.le_refl _⟩
    · intro row' member'
      rcases mem_append.mp member' with old | new
      · exact .inr ⟨row', old, rfl, rfl, Int.le_refl _⟩
      · rw [mem_singleton.mp new]
        exact .inl rfl

/-- Charges that fit are all recorded, those to the node's own wallets aside. -/
lemma recordCharges_grown (config)
    (fits : ∀ wallet, balanceOf rows wallet + chargedTo (config.recorded charges) wallet < 2 ^ 126) :
    ∃ grown, recordCharges p config timestamp rows charges = .ok grown ∧
      Grown (chargedTo (config.recorded charges)) rows grown := by
  induction charges generalizing rows with
  | nil => exact ⟨rows, rfl, grown_refl unique nonneg⟩
  | cons charge charges ih =>
    obtain ⟨wallet, amount⟩ := charge
    by_cases ours : config.ourWallet wallet = true
    · have same : config.recorded ((wallet, amount) :: charges) = config.recorded charges := by
        simp [AccountantConfig.recorded, ours]
      rw [same] at fits ⊢
      obtain ⟨grown, recorded, growth⟩ := ih unique nonneg fits
      exact ⟨grown, by simp [recordCharges, recordServiceConsumed, ours, recorded], growth⟩
    · have same : config.recorded ((wallet, amount) :: charges) =
          (wallet, amount) :: config.recorded charges := by
        simp [AccountantConfig.recorded, ours]
      rw [same] at fits ⊢
      have laterNonneg := fun other => chargedTo_nonneg (config.recorded charges) other
      have first : balanceOf rows wallet + amount.val < 2 ^ 126 := by
        have bound := fits wallet
        have later := laterNonneg wallet
        rw [chargedTo_cons, if_pos rfl] at bound
        omega
      obtain ⟨mid, moneyOk, toMid⟩ := moreMoneyPayable_grown p unique nonneg clock first
      have rest : ∀ other, balanceOf mid other + chargedTo (config.recorded charges) other < 2 ^ 126 := by
        intro other
        have bound := fits other
        rw [chargedTo_cons] at bound
        rw [toMid.balances]
        omega
      obtain ⟨grown, recorded, fromMid⟩ := ih toMid.unique toMid.nonneg rest
      refine ⟨grown, ?_, ?_⟩
      · simp [recordCharges, recordServiceConsumed, ours, moneyOk, recorded]
      · have growth := grown_trans toMid fromMid
        rwa [show chargedTo ((wallet, amount) :: config.recorded charges) = fun other =>
          (if wallet = other then amount.val else 0) + chargedTo (config.recorded charges) other from
          funext fun other => chargedTo_cons _ _ _ _]

end

end

/-! ### The invariant -/

/-- The hashes of the batches whose result has not been handled yet. -/
def PaymentSystem.inFlight (s : PaymentSystem) : List H256 :=
  s.batches.flatMap fun batch => batch.hashesOpt.getD []

/-- The payment a fingerprint stands for. -/
def Records (fingerprint : PendingPayableRow) (payment : Payment) : Prop :=
  payment.hash = fingerprint.transactionHash ∧ payment.amount.val = fingerprint.amount.value

/-- The two tables agree with the signed payments: a row points to the fingerprint of a payment to
its wallet that it can cover, and a fingerprint nobody points to is waiting for its batch. -/
structure TablesAgree (payable : List PayableRow) (pendingPayable : List PendingPayableRow)
    (payments : List Payment) (inFlight : List H256) : Prop where
  wallets : (payable.map PayableRow.wallet).Nodup
  nonneg : ∀ row ∈ payable, 0 ≤ row.balance.value
  rowids : (pendingPayable.map PendingPayableRow.rowid).Nodup
  hashes : (pendingPayable.map PendingPayableRow.transactionHash).Nodup
  recorded : ∀ fingerprint ∈ pendingPayable, ∃ payment ∈ payments, Records fingerprint payment
  marked : ∀ row ∈ payable, ∀ rowid, row.pendingPayableRowid = some rowid →
    ∃ fingerprint ∈ pendingPayable, fingerprint.rowid = rowid ∧
      fingerprint.transactionHash ∉ inFlight ∧
      ∃ payment ∈ payments, Records fingerprint payment ∧ payment.wallet = row.wallet ∧
        payment.amount.val ≤ row.balance.value
  owned : ∀ fingerprint ∈ pendingPayable, fingerprint.transactionHash ∉ inFlight →
    ∃ row ∈ payable, row.pendingPayableRowid = some fingerprint.rowid

/-- The accounts of a batch have no other payment pending and still owe what is being paid. -/
structure BatchReady (accountant : AccountantState) (payments : List Payment) (batch : Batch) :
    Prop where
  nonempty : batch.accounts ≠ []
  distinct : (batch.accounts.map PayableAccount.wallet).Nodup
  waiting : ∀ account ∈ batch.accounts, ∃ row ∈ accountant.payable, row.wallet = account.wallet ∧
    row.pendingPayableRowid = none ∧ account.balanceWei.val ≤ row.balance.value
  seeded : ∀ hashes, batch.hashesOpt = some hashes →
    hashes.length = batch.accounts.length ∧ hashes.Nodup ∧
    (∀ hash ∈ hashes, ∃ fingerprint ∈ accountant.pendingPayable, fingerprint.transactionHash = hash) ∧
    ∀ payment ∈ paymentsOf batch.accounts hashes, payment ∈ payments

structure Consistent (s : PaymentSystem) : Prop where
  signed : (s.payments.map hash).Nodup
  tables : TablesAgree s.accountant.payable s.accountant.pendingPayable s.payments s.inFlight
  single : s.batches.length ≤ 1
  ready : ∀ batch ∈ s.batches, BatchReady s.accountant s.payments batch
  locked : s.accountant.payableInitiatedAt = none → s.batches = []
  failed : 0 < s.scanErrors → s.batches = []
  booked : ∀ wallet, balanceOf s.accountant.payable wallet =
    chargedTo s.charges wallet - paidTo s.payments s.confirmed wallet
  confirmedSigned : ∀ fingerprint ∈ s.confirmed, fingerprint.hash ∈ s.payments.map hash
  confirmedOnce : (s.confirmed.map PendingPayableFingerprint.hash).Nodup
  confirmedGone : ∀ fingerprint ∈ s.confirmed,
    fingerprint.hash ∉ s.accountant.pendingPayable.map PendingPayableRow.transactionHash
  requested : ∀ fingerprints, s.request = some fingerprints →
    (fingerprints.map PendingPayableFingerprint.rowid).Nodup ∧
    ∀ fingerprint ∈ fingerprints, (∃ time, toTimeT fingerprint.timestamp = .ok time) ∧
      ∃ payment ∈ s.payments, payment.hash = fingerprint.hash ∧
        payment.amount.val = fingerprint.amount.val

lemma consistent_start : Consistent .start where
  signed := nodup_nil
  tables := by constructor <;> simp [PaymentSystem.start]
  single := Nat.zero_le 1
  ready := by simp [PaymentSystem.start]
  locked _ := rfl
  failed _ := rfl
  booked _ := rfl
  confirmedSigned := by simp [PaymentSystem.start]
  confirmedOnce := nodup_nil
  confirmedGone := by simp [PaymentSystem.start]
  requested := by simp [PaymentSystem.start]

lemma batches_eq_singleton (consistent : Consistent s) (present : s.batches[index]? = some batch) :
    index = 0 ∧ s.batches = [batch] := by
  have short := consistent.single
  match batches : s.batches with
  | [] => simp [batches] at present
  | [only] =>
    rw [batches] at present
    cases index with
    | zero =>
      cases present
      exact ⟨rfl, rfl⟩
    | succ index => simp at present
  | _ :: _ :: _ =>
    rw [batches] at short
    simp at short

/-! ### Services consumed -/

section

lemma tablesAgree_grown (agree : TablesAgree payable pendingPayable payments inFlight)
    (growth : Grown charged payable grown) :
    TablesAgree grown pendingPayable payments inFlight where
  wallets := growth.unique
  nonneg := growth.nonneg
  rowids := agree.rowids
  hashes := agree.hashes
  recorded := agree.recorded
  marked row' member' rowid pending := by
    rcases growth.adds row' member' with isNone | ⟨row, member, sameWallet, samePending, le⟩
    · rw [isNone] at pending
      cases pending
    · obtain ⟨fingerprint, inTable, isRowid, landed, payment, isSigned, records, toWallet, covered⟩ :=
        agree.marked row member rowid (samePending ▸ pending)
      exact ⟨fingerprint, inTable, isRowid, landed, payment, isSigned, records,
        toWallet.trans sameWallet.symm, Int.le_trans covered le⟩
  owned fingerprint inTable landed := by
    obtain ⟨row, member, pending⟩ := agree.owned fingerprint inTable landed
    obtain ⟨row', member', -, samePending, -⟩ := growth.keeps row member
    exact ⟨row', member', samePending.trans pending⟩

lemma batchReady_grown (ready : BatchReady accountant payments batch)
    (growth : Grown charged accountant.payable grown) :
    BatchReady { accountant with payable := grown } payments batch where
  nonempty := ready.nonempty
  distinct := ready.distinct
  waiting account member := by
    obtain ⟨row, inTable, sameWallet, isNone, covered⟩ := ready.waiting account member
    obtain ⟨row', inGrown, walletKept, pendingKept, le⟩ := growth.keeps row inTable
    exact ⟨row', inGrown, walletKept.trans sameWallet, pendingKept.trans isNone, Int.le_trans covered le⟩
  seeded := ready.seeded

lemma consistent_grown (consistent : Consistent s)
    (growth : Grown (chargedTo charges) s.accountant.payable grown) :
    Consistent { s with accountant := { s.accountant with payable := grown }
                        charges := s.charges ++ charges } where
  signed := consistent.signed
  tables := tablesAgree_grown consistent.tables growth
  single := consistent.single
  ready batch member := batchReady_grown (consistent.ready batch member) growth
  locked := consistent.locked
  failed := consistent.failed
  booked wallet := by
    show balanceOf grown wallet =
      chargedTo (s.charges ++ charges) wallet - paidTo s.payments s.confirmed wallet
    rw [growth.balances, consistent.booked, chargedTo_append]
    omega
  confirmedSigned := consistent.confirmedSigned
  confirmedOnce := consistent.confirmedOnce
  confirmedGone := consistent.confirmedGone
  requested := consistent.requested

end

/-! ### Fingerprints of a new batch -/

section

lemma valuesForFingerprint_ok (fits : hashAndAmount.amount.val < 2 ^ 126) :
    ∃ amount, valuesForFingerprint hashAndAmount = .ok (hashAndAmount.hash, amount) ∧
      amount.value = hashAndAmount.amount.val := by
  have nonneg := (U128.bounds hashAndAmount.amount).1
  have holds : i128.Holds hashAndAmount.amount.val := by
    rw [i128_holds]
    omega
  refine ⟨SplitInt.ofInt hashAndAmount.amount.val ⟨by omega, fits⟩, ?_, SplitInt.value_ofInt _⟩
  have split : BigIntDivider.deconstruct ⟨hashAndAmount.amount.val, holds⟩ =
      .ok (SplitInt.ofInt hashAndAmount.amount.val ⟨by omega, fits⟩) :=
    BigIntDivider.deconstruct_eq_ok.mpr (SplitInt.value_ofInt _)
  simp only [valuesForFingerprint, checkedConversion_ok holds, ok_bind, split]
  rfl

lemma mapM_valuesForFingerprint (fits : ∀ payment ∈ payments, payment.amount.val < 2 ^ 126) :
    ∃ values, (hashesAndAmountsOf payments).mapM valuesForFingerprint = .ok values ∧
      Forall₂ (fun payment value => value.1 = payment.hash ∧ value.2.value = payment.amount.val)
        payments values := by
  induction payments with
  | nil => exact ⟨[], rfl, .nil⟩
  | cons payment payments ih =>
    rw [forall_mem_cons] at fits
    obtain ⟨values, rest, related⟩ := ih fits.2
    obtain ⟨amount, head, value⟩ := valuesForFingerprint_ok
      (show (⟨payment.hash, payment.amount⟩ : HashAndAmount).amount.val < 2 ^ 126 from fits.1)
    refine ⟨(payment.hash, amount) :: values, ?_, .cons ⟨rfl, value⟩ related⟩
    rw [hashesAndAmountsOf, map_cons, mapM_cons, head]
    rw [hashesAndAmountsOf] at rest
    rw [rest]
    rfl

lemma handleNewPendingPayableFingerprints_ok (clock : toTimeT timestamp = .ok timeT)
    (nonempty : payments ≠ []) (fits : ∀ payment ∈ payments, payment.amount.val < 2 ^ 126)
    (rowids : (accountant.pendingPayable.map rowid).Nodup) (distinct : (payments.map Payment.hash).Nodup)
    (fresh : ∀ payment ∈ payments, payment.hash ∉ accountant.pendingPayable.map transactionHash) :
    ∃ inserted, handleNewPendingPayableFingerprints accountant (hashesAndAmountsOf payments) timestamp =
        .ok { accountant with pendingPayable := accountant.pendingPayable ++ inserted } ∧
      Forall₂ Records inserted payments ∧
      ((accountant.pendingPayable ++ inserted).map rowid).Nodup := by
  obtain ⟨values, mapped, related⟩ := mapM_valuesForFingerprint fits
  have keys : values.map Prod.fst = payments.map hash :=
    map_eq_of_forall₂ related fun _ _ same => same.1
  have freshValues : ∀ value ∈ values, value.1 ∉ accountant.pendingPayable.map transactionHash := by
    intro value member
    obtain ⟨payment, paymentMember, same, -⟩ := forall₂_mem_right related member
    rw [same]
    exact fresh payment paymentMember
  obtain ⟨inserted, insertion, contents, rowidsAfter⟩ :=
    insertValues_ok timeT rowids (keys ▸ distinct) freshValues
  have filled : values ≠ [] := by
    cases related with
    | nil => exact absurd rfl nonempty
    | cons => exact cons_ne_nil _ _
  refine ⟨inserted, ?_, ?_, rowidsAfter⟩
  · simp [handleNewPendingPayableFingerprints, insertNewFingerprints, clock, mapped, filled, insertion]
  · rw [← contents, forall₂_map_right_iff] at related
    exact related.flip.imp fun _ _ same => ⟨same.1.symm, same.2.symm⟩

lemma mem_paymentsOf (member : payment ∈ paymentsOf accounts hashes) :
    payment.hash ∈ hashes ∧ ∃ account ∈ accounts, payment.wallet = account.wallet ∧
      payment.amount = account.balanceWei := by
  obtain ⟨⟨account, hash⟩, zipped, rfl⟩ := mem_map.mp member
  have both := of_mem_zip zipped
  exact ⟨both.2, account, both.1, rfl, rfl⟩

lemma map_hash_paymentsOf (sameLength : hashes.length = accounts.length) :
    (paymentsOf accounts hashes).map hash = hashes := by
  rw [paymentsOf, map_map]
  exact map_snd_zip (by omega)

lemma tablesAgree_seeded (agree : TablesAgree payable pendingPayable signed [])
    (records : Forall₂ Records inserted payments) (rowids : ((pendingPayable ++ inserted).map rowid).Nodup)
    (distinct : ((signed ++ payments).map hash).Nodup) :
    TablesAgree payable (pendingPayable ++ inserted) (signed ++ payments)
      (payments.map hash) := by
  have newHashes : inserted.map transactionHash = payments.map hash :=
    (map_eq_of_forall₂ records fun _ _ same => same.1).symm
  -- the old fingerprints belong to payments signed before
  have oldHashes : ∀ fingerprint ∈ pendingPayable,
      fingerprint.transactionHash ∉ payments.map hash := by
    intro fingerprint inTable isNew
    obtain ⟨payment, isSigned, same, -⟩ := agree.recorded fingerprint inTable
    rw [map_append, nodup_append] at distinct
    exact distinct.2.2 _ (mem_map_of_mem isSigned) _ (same ▸ isNew) rfl
  refine ⟨agree.wallets, agree.nonneg, rowids, ?_, ?_, ?_, ?_⟩
  · rw [map_append, newHashes, nodup_append]
    rw [map_append, nodup_append] at distinct
    refine ⟨agree.hashes, distinct.2.1, ?_⟩
    rintro _ old _ new rfl
    obtain ⟨fingerprint, inTable, rfl⟩ := mem_map.mp old
    exact oldHashes fingerprint inTable new
  · intro fingerprint inTable
    rcases mem_append.mp inTable with old | new
    · obtain ⟨payment, isSigned, same⟩ := agree.recorded fingerprint old
      exact ⟨payment, mem_append_left _ isSigned, same⟩
    · obtain ⟨payment, isNew, same⟩ := forall₂_mem_left records new
      exact ⟨payment, mem_append_right _ isNew, same⟩
  · intro row member rowid pending
    obtain ⟨fingerprint, inTable, isRowid, -, payment, isSigned, rest⟩ :=
      agree.marked row member rowid pending
    exact ⟨fingerprint, mem_append_left _ inTable, isRowid, oldHashes fingerprint inTable,
      payment, mem_append_left _ isSigned, rest⟩
  · intro fingerprint inTable landed
    rcases mem_append.mp inTable with old | new
    · exact agree.owned fingerprint old not_mem_nil
    · rw [← newHashes] at landed
      exact absurd (mem_map_of_mem new) landed

end

end PulseMesh.Accountant
