import PulseMesh.Accountant.PaymentConsistency

/-!
# Results of batches and receipts

The two handlers that write both tables: the one that learns which payments of a batch were sent,
and the one that learns what became of the pending ones.
-/

namespace PulseMesh.Accountant

open Machine Runs Rows PendingPayableFingerprint List Function
open Prod (fst snd)

/-! ### The result of a batch -/

/-- Without repetitions, no entry of the map is replaced. -/
lemma collectHashMap_of_nodup (distinct : (pairs.map fst).Nodup) :
    collectHashMap pairs = pairs.reverse := by
  suffices invariant : ∀ map : List (H256 × Wallet), (∀ old ∈ map, old.1 ∉ pairs.map fst) →
      pairs.foldl (fun map pair => pair :: map.filter fun other => decide (other.1 ≠ pair.1)) map =
        pairs.reverse ++ map by
    exact (invariant [] nofun).trans (append_nil _)
  induction pairs with
  | nil => exact fun map _ => rfl
  | cons head pairs ih =>
    intro map fresh
    rw [map_cons, nodup_cons] at distinct
    have kept : map.filter (fun other => decide (other.1 ≠ head.1)) = map :=
      filter_eq_self.mpr fun old member => decide_eq_true fun same =>
        fresh old member (same ▸ mem_cons_self)
    rw [foldl_cons, kept, ih distinct.2, reverse_cons, append_assoc]
    · rfl
    · rw [forall_mem_cons]
      exact ⟨distinct.1, fun old member later => fresh old member (mem_cons_of_mem _ later)⟩

lemma takeRecipients_ok {map queries} (distinct : (queries.map snd).Nodup)
    (present : ∀ query ∈ queries, query.2 ∈ map.map fst) :
    ∃ metadata rest, takeRecipients map queries = .ok (metadata, rest) ∧
      Forall₂ (fun query triple => triple.rowidOpt = query.1 ∧ (query.2, triple.recipient) ∈ map)
        queries metadata := by
  induction queries generalizing map with
  | nil => exact ⟨[], map, rfl, .nil⟩
  | cons query queries ih =>
    obtain ⟨rowidOpt, hash⟩ := query
    rw [forall_mem_cons] at present
    rw [map_cons, nodup_cons] at distinct
    obtain ⟨pair, member, key⟩ := mem_map.mp present.1
    have found : (map.find? fun pair => decide (pair.1 = hash)).isSome :=
      find?_isSome.mpr ⟨pair, member, decide_eq_true key⟩
    obtain ⟨⟨hash', wallet⟩, isFound⟩ := Option.isSome_iff_exists.mp found
    have sameHash : hash' = hash := by simpa using find?_some isFound
    subst sameHash
    have stillPresent : ∀ query ∈ queries, query.2 ∈
        (map.filter fun pair => decide (pair.1 ≠ hash')).map fst := by
      intro query queried
      obtain ⟨other, otherMember, otherKey⟩ := mem_map.mp (present.2 query queried)
      refine mem_map.mpr ⟨other, mem_filter.mpr ⟨otherMember, decide_eq_true ?_⟩, otherKey⟩
      intro same
      have again : hash' ∈ queries.map snd := mem_map.mpr ⟨query, queried, otherKey.symm.trans same⟩
      exact distinct.1 again
    obtain ⟨metadata, rest, taken, related⟩ := ih distinct.2 stillPresent
    refine ⟨⟨wallet, hash', rowidOpt⟩ :: metadata, rest, ?_, .cons ⟨rfl, ?_⟩ ?_⟩
    · simp only [takeRecipients, isFound, taken, ok_bind, pure_eq_ok]
    · exact mem_of_find?_eq_some isFound
    · exact related.imp fun query triple same => ⟨same.1, mem_of_mem_filter same.2⟩

section

variable {payable : List PayableRow} {pendingPayable : List PendingPayableRow}
  {sent : List PendingPayable}

/-- The fingerprints of what was sent. -/
abbrev fingerprintsOf (pendingPayable : List PendingPayableRow) (sent : List PendingPayable) :
    List PendingPayableRow :=
  pendingPayable.filter fun row => decide (row.transactionHash ∈ sent.map PendingPayable.hash)

/-- The recipient of a sent payable and the id of its fingerprint. -/
abbrev IsMark (sent : List PendingPayable) (fingerprint : PendingPayableRow) (pair : Wallet × Nat) : Prop :=
  pair.2 = fingerprint.rowid ∧ ⟨pair.1, fingerprint.transactionHash⟩ ∈ sent

lemma readyDataForSupply_ok
    (related : Forall₂ (fun fingerprint triple => triple.rowidOpt = some fingerprint.rowid ∧
        ⟨triple.recipient, fingerprint.transactionHash⟩ ∈ sent) fingerprints existent) :
    ∃ pairs, readyDataForSupply existent = .ok pairs ∧ Forall₂ (IsMark sent) fingerprints pairs := by
  simp only [readyDataForSupply, mapM_eq_ok]
  induction related with
  | nil => exact ⟨[], .nil, .nil⟩
  | @cons fingerprint triple _ _ same _ ih =>
    obtain ⟨pairs, mapped, rest⟩ := ih
    exact ⟨(triple.recipient, fingerprint.rowid) :: pairs, .cons (by simp [same.1]) mapped,
      .cons ⟨rfl, same.2⟩ rest⟩

/-- Every sent payable marks the row of its wallet with the id of its fingerprint. -/
structure Marks (pendingPayable : List PendingPayableRow) (sent : List PendingPayable)
    (walletsAndRowids : List (Wallet × Nat)) : Prop where
  distinct : (walletsAndRowids.map fst).Nodup
  sound : ∀ wallet rowid, (wallet, rowid) ∈ walletsAndRowids → ∃ fingerprint ∈ pendingPayable,
    fingerprint.rowid = rowid ∧ ⟨wallet, fingerprint.transactionHash⟩ ∈ sent
  complete : ∀ payable ∈ sent, ∃ fingerprint ∈ pendingPayable,
    fingerprint.transactionHash = payable.hash ∧
      (payable.recipientWallet, fingerprint.rowid) ∈ walletsAndRowids

section

variable (hashes : (pendingPayable.map PendingPayableRow.transactionHash).Nodup)
  (sentHashes : (sent.map PendingPayable.hash).Nodup)
  (present : ∀ payable ∈ sent, ∃ fingerprint ∈ pendingPayable, fingerprint.transactionHash = payable.hash)
include hashes sentHashes present

/-- Sent payables that all have a fingerprint are matched with its row id. -/
lemma separateExistent_ok :
    ∃ existent pairs, separateExistentAndNonexistentFingerprints pendingPayable sent = .ok (existent, []) ∧
      readyDataForSupply existent = .ok pairs ∧
      Forall₂ (IsMark sent) (fingerprintsOf pendingPayable sent) pairs := by
  have allFound : ∀ hash ∈ sent.map PendingPayable.hash,
      ∃ row ∈ pendingPayable, row.transactionHash = hash := by
    intro hash member
    obtain ⟨payable, isSent, rfl⟩ := mem_map.mp member
    exact present payable isSent
  have noneMissing := fingerprintsRowids_all allFound
  have symmetrical : isSymmetrical (sent.map PendingPayable.hash)
      ((fingerprintsRowids pendingPayable (sent.map PendingPayable.hash)).rowidResults.map
        snd) = true := by
    simp only [isSymmetrical, Bool.and_eq_true, all_eq_true, decide_eq_true_eq]
    constructor
    · intro hash member
      obtain ⟨row, inTable, rfl⟩ := allFound hash member
      simp only [fingerprintsRowids, map_map, mem_map, mem_filter, decide_eq_true_eq]
      exact ⟨row, ⟨inTable, mem_map.mp member⟩, rfl⟩
    · intro hash member
      simp only [fingerprintsRowids, map_map, mem_map, mem_filter,
        decide_eq_true_eq] at member
      obtain ⟨row, ⟨-, isSent⟩, rfl⟩ := member
      exact mem_map.mpr isSent
  have distinct : (((fingerprintsRowids pendingPayable (sent.map PendingPayable.hash)).rowidResults.map
      fun result => (some result.1, result.2)).map snd).Nodup := by
    simp only [fingerprintsRowids, map_map]
    exact hashes.sublist (filter_sublist.map _)
  have collected : collectHashMap (sent.map fun payable => (payable.hash, payable.recipientWallet)) =
      (sent.map fun payable => (payable.hash, payable.recipientWallet)).reverse := by
    apply collectHashMap_of_nodup
    rw [map_map]
    exact sentHashes
  have inMap : ∀ query ∈ (fingerprintsRowids pendingPayable
      (sent.map PendingPayable.hash)).rowidResults.map fun result => (some result.1, result.2),
      query.2 ∈ (sent.map fun payable => (payable.hash, payable.recipientWallet)).reverse.map fst := by
    intro query member
    simp only [fingerprintsRowids, map_map, mem_map, mem_filter,
      decide_eq_true_eq] at member
    obtain ⟨row, ⟨-, isSent⟩, rfl⟩ := member
    rw [map_reverse, mem_reverse, map_map]
    exact mem_map.mpr isSent
  obtain ⟨existent, rest, taken, related⟩ := takeRecipients_ok distinct inMap
  simp only [fingerprintsRowids, map_map, forall₂_map_left_iff] at related
  obtain ⟨pairs, supplied, marks⟩ := readyDataForSupply_ok (related.imp fun row triple same => by
    obtain ⟨⟨wallet, hash⟩, isSent, ⟨⟩⟩ := mem_map.mp (mem_reverse.mp same.2)
    exact ⟨same.1, isSent⟩)
  refine ⟨existent, pairs, ?_, supplied, marks⟩
  simp [separateExistentAndNonexistentFingerprints, noneMissing, symmetrical, collected, taken,
    takeRecipients]

lemma marks_of_pairs (wallets : (sent.map PendingPayable.recipientWallet).Nodup)
    (pairs : Forall₂ (IsMark sent) (fingerprintsOf pendingPayable sent) walletsAndRowids) :
    Marks pendingPayable sent walletsAndRowids := by
  have found : (fingerprintsOf pendingPayable sent).Nodup := (Nodup.of_map _ hashes).filter _
  refine ⟨?_, ?_, ?_⟩
  · -- one wallet is sent under one hash, and one hash has one row
    refine nodup_of_forall₂ (R := fun fingerprint wallet =>
      ⟨wallet, fingerprint.transactionHash⟩ ∈ sent) ?_ found ?_
    · rw [forall₂_map_right_iff]
      exact pairs.imp fun fingerprint pair same => same.2
    · intro one oneMember other otherMember wallet oneSent otherSent
      have sameHash : one.transactionHash = other.transactionHash :=
        congrArg PendingPayable.hash (eq_of_key_eq wallets oneSent otherSent rfl)
      exact eq_of_key_eq hashes (mem_of_mem_filter oneMember) (mem_of_mem_filter otherMember) sameHash
  · intro wallet rowid member
    obtain ⟨fingerprint, inTable, sameRowid, isSent⟩ := forall₂_mem_right pairs member
    exact ⟨fingerprint, mem_of_mem_filter inTable, sameRowid.symm, isSent⟩
  · intro payable isSent
    obtain ⟨fingerprint, inTable, sameHash⟩ := present payable isSent
    have isFound : fingerprint ∈ fingerprintsOf pendingPayable sent :=
      mem_filter.mpr ⟨inTable, decide_eq_true (sameHash ▸ mem_map_of_mem isSent)⟩
    obtain ⟨⟨wallet, rowid⟩, member, sameRowid, pairSent⟩ := forall₂_mem_left pairs isFound
    have samePayable := eq_of_key_eq sentHashes pairSent isSent sameHash
    have sameWallet : wallet = payable.recipientWallet := congrArg PendingPayable.recipientWallet samePayable
    exact ⟨fingerprint, inTable, sameHash, sameWallet ▸ sameRowid ▸ member⟩

lemma markPendingPayable_ok (unique : (payable.map PayableRow.wallet).Nodup) (nonempty : sent ≠ [])
    (wallets : (sent.map PendingPayable.recipientWallet).Nodup)
    (waiting : ∀ one ∈ sent, ∃ row ∈ payable, row.wallet = one.recipientWallet ∧
      row.pendingPayableRowid = none) :
    ∃ walletsAndRowids, Marks pendingPayable sent walletsAndRowids ∧
      markPendingPayable payable pendingPayable sent = .ok (payable.map (markRow walletsAndRowids)) := by
  obtain ⟨existent, pairs, separated, supplied, pairsRelated⟩ := separateExistent_ok hashes sentHashes present
  have marks := marks_of_pairs hashes sentHashes present wallets pairsRelated
  have filled : pairs ≠ [] := by
    rintro rfl
    obtain ⟨one, isSent⟩ := exists_mem_of_ne_nil sent nonempty
    obtain ⟨_, _, _, member⟩ := marks.complete one isSent
    cases member
  have unmarked : ∀ wallet ∈ pairs.map fst,
      ∃ row ∈ payable, row.wallet = wallet ∧ row.pendingPayableRowid = none := by
    intro wallet member
    obtain ⟨⟨_, rowid⟩, pairMember, rfl⟩ := mem_map.mp member
    obtain ⟨fingerprint, -, -, isSent⟩ := marks.sound _ rowid pairMember
    exact waiting _ isSent
  refine ⟨pairs, marks, ?_⟩
  simp [markPendingPayable, separated, supplied, filled,
    markPendingPayablesRowids_ok unique marks.distinct filled unmarked]

end

/-- The fingerprints that stay when some transactions could not be sent. -/
abbrev withoutFailed (pendingPayable : List PendingPayableRow) (failed : List H256) :
    List PendingPayableRow :=
  pendingPayable.filter fun row => decide (row.transactionHash ∉ failed)

/-- Failed transactions that all have a fingerprint lose it. -/
lemma discardFailed_ok (rowids : (pendingPayable.map PendingPayableRow.rowid).Nodup)
    (present : ∀ hash ∈ failed, ∃ fingerprint ∈ pendingPayable, fingerprint.transactionHash = hash) :
    discardFailedTransactionsWithPossibleFingerprints pendingPayable failed =
      .ok (withoutFailed pendingPayable failed) := by
  have noneMissing := fingerprintsRowids_all present
  have ids : (fingerprintsRowids pendingPayable failed).rowidResults.map fst =
      (pendingPayable.filter fun row => decide (row.transactionHash ∈ failed)).map
        PendingPayableRow.rowid := by
    simp [fingerprintsRowids]
  have deleted : deleteFingerprints pendingPayable ((pendingPayable.filter fun row =>
      decide (row.transactionHash ∈ failed)).map PendingPayableRow.rowid) =
      .ok (withoutFailed pendingPayable failed) := by
    rw [deleteFingerprints_ok rowids (rowids.sublist (filter_sublist.map _)), Except.ok.injEq]
    · refine filter_congr fun row member => decide_eq_decide.mpr (not_congr ⟨?_, ?_⟩)
      · intro listed
        obtain ⟨other, otherMember, same⟩ := mem_map.mp listed
        rw [mem_filter, decide_eq_true_eq] at otherMember
        rw [← eq_of_key_eq rowids otherMember.1 member same]
        exact otherMember.2
      · intro isFailed
        exact mem_map_of_mem (mem_filter.mpr ⟨member, decide_eq_true isFailed⟩)
    · intro id listed
      obtain ⟨row, member, same⟩ := mem_map.mp listed
      exact ⟨row, mem_of_mem_filter member, same⟩
  rw [discardFailedTransactionsWithPossibleFingerprints, noneMissing, ids]
  cases isFailed : pendingPayable.filter fun row => decide (row.transactionHash ∈ failed) with
  | nil =>
    rw [isFailed, map_nil, deleteFingerprints, executeOnIds_nil] at deleted
    rw [← Except.ok.inj deleted]
    rfl
  | cons row rows =>
    rw [isFailed] at deleted
    rw [deleted]
    rfl

variable {pairs : List (Wallet × Nat)}

lemma markRow_of_pending {rowid} (pending : row.pendingPayableRowid = some rowid) :
    markRow pairs row = row := by
  simp [markRow, isToMark, pending]

lemma markRow_of_mem {rowid} (distinct : (pairs.map fst).Nodup)
    (isNone : row.pendingPayableRowid = none) (member : (row.wallet, rowid) ∈ pairs) :
    markRow pairs row = { row with pendingPayableRowid := some rowid } := by
  have listed : row.wallet ∈ pairs.map fst := mem_map_of_mem member
  have toMark : isToMark pairs row = true := by
    rw [isToMark, isNone, decide_eq_true listed]
    rfl
  rw [markRow, if_pos toMark, caseExpression_of_mem distinct member]

lemma markRow_of_unlisted (unlisted : row.wallet ∉ pairs.map fst) : markRow pairs row = row := by
  simp only [markRow, isToMark, decide_eq_false unlisted, Bool.and_false, Bool.false_eq_true, ↓reduceIte]

/-- A marked row has changed its mark only. -/
lemma markRow_wallet_balance (pairs : List (Wallet × Nat)) (row) :
    (markRow pairs row).wallet = row.wallet ∧ (markRow pairs row).balance = row.balance := by
  unfold markRow
  split <;> exact ⟨rfl, rfl⟩

/-- How the payments of a batch were separated by their results. -/
structure Separated (accounts : List PayableAccount) (hashes : List H256)
    (sent : List PendingPayable) (failed : List H256) : Prop where
  covers : (sent.map PendingPayable.hash ++ failed).Perm hashes
  wallets : (sent.map PendingPayable.recipientWallet).Sublist (accounts.map PayableAccount.wallet)
  paid : ∀ one ∈ sent, ∃ payment ∈ paymentsOf accounts hashes,
    payment.wallet = one.recipientWallet ∧ payment.hash = one.hash

lemma separated_failed (accounts hashes) : Separated accounts hashes [] hashes :=
  ⟨Perm.refl _, nil_sublist _, fun _ member => absurd member not_mem_nil⟩

variable {accounts : List PayableAccount}

lemma separated_answered (answered : responses.length = accounts.length)
    (hashed : hashes.length = accounts.length) :
    ∃ sent failed, separateRpcResults (mergedOutputData responses hashes accounts) = (sent, failed) ∧
      Separated accounts hashes sent failed := by
  induction accounts generalizing responses hashes with
  | nil =>
    rw [length_nil, length_eq_zero_iff] at answered hashed
    subst answered hashed
    exact ⟨[], [], rfl, separated_failed [] []⟩
  | cons account accounts ih =>
    obtain ⟨response, responses, rfl⟩ := exists_cons_of_length_eq_add_one answered
    obtain ⟨hash, hashes, rfl⟩ := exists_cons_of_length_eq_add_one hashed
    rw [length_cons, length_cons, Nat.add_right_cancel_iff] at answered hashed
    obtain ⟨sent, failed, separated, rest⟩ := ih answered hashed
    have later : ∀ one ∈ sent, ∃ payment ∈ paymentsOf (account :: accounts) (hash :: hashes),
        payment.wallet = one.recipientWallet ∧ payment.hash = one.hash := by
      intro one isSent
      obtain ⟨payment, member, same⟩ := rest.paid one isSent
      exact ⟨payment, mem_cons_of_mem _ member, same⟩
    cases response with
    | ok _ =>
      refine ⟨⟨account.wallet, hash⟩ :: sent, failed, ?_, rest.covers.cons hash,
        rest.wallets.cons_cons _, forall_mem_cons.mpr ⟨?_, later⟩⟩
      · rw [mergedOutputData] at separated
        simp [mergedOutputData, separateRpcResults, separated]
      · exact ⟨⟨account.wallet, hash, account.balanceWei⟩, mem_cons_self, rfl, rfl⟩
    | error rpcError =>
      refine ⟨sent, hash :: failed, ?_, ?_, rest.wallets.cons _, later⟩
      · rw [mergedOutputData] at separated
        simp [mergedOutputData, separateRpcResults, separated]
      · exact perm_middle.trans (rest.covers.cons hash)

section

variable {accountant : AccountantState} {payments : List Payment} {accounts : List PayableAccount}
  {hashes : List H256} {failed : List H256} {pairs : List (Wallet × Nat)}

lemma sent_not_failed (distinct : hashes.Nodup) (separated : Separated accounts hashes sent failed) {hash}
    (isSent : hash ∈ sent.map PendingPayable.hash) : hash ∉ failed := by
  have nodup := separated.covers.nodup_iff.mpr distinct
  rw [nodup_append] at nodup
  exact fun isFailed => nodup.2.2 hash isSent hash isFailed rfl

variable (agree : TablesAgree accountant.payable accountant.pendingPayable payments hashes)
  (ready : BatchReady accountant payments ⟨accounts, some hashes⟩)
include ready

/-- The payment of a sent payable: its recipient's row is not pending and covers the amount. -/
lemma sent_covered (separated : Separated accounts hashes sent failed) (isSent : one ∈ sent) :
    ∃ payment ∈ payments, payment.hash = one.hash ∧ payment.wallet = one.recipientWallet ∧
      ∃ row ∈ accountant.payable, row.wallet = one.recipientWallet ∧
        row.pendingPayableRowid = none ∧ payment.amount.val ≤ row.balance.value := by
  obtain ⟨payment, inBatch, sameWallet, sameHash⟩ := separated.paid one isSent
  obtain ⟨-, account, isAccount, ofAccount, amount⟩ := mem_paymentsOf inBatch
  obtain ⟨row, member, rowWallet, isNone, covered⟩ := ready.waiting account isAccount
  have isSigned := (ready.seeded hashes rfl).2.2.2 payment inBatch
  refine ⟨payment, isSigned, sameHash, sameWallet, row, member, ?_, isNone, amount ▸ covered⟩
  rw [rowWallet, ← ofAccount, sameWallet]

include agree

lemma tablesAgree_sent (signed : (payments.map Payment.hash).Nodup) (separated : Separated accounts hashes sent failed)
    (marks : Marks accountant.pendingPayable sent pairs) :
    TablesAgree (accountant.payable.map (markRow pairs)) (withoutFailed accountant.pendingPayable failed)
      payments [] := by
  have distinct := (ready.seeded hashes rfl).2.1
  have keeps : ∀ fingerprint ∈ accountant.pendingPayable, fingerprint.transactionHash ∉ failed →
      fingerprint ∈ withoutFailed accountant.pendingPayable failed :=
    fun fingerprint inTable notFailed => mem_filter.mpr ⟨inTable, decide_eq_true notFailed⟩
  -- whatever failed belongs to this batch
  have failedInFlight : ∀ hash ∈ failed, hash ∈ hashes :=
    fun hash isFailed => separated.covers.subset (mem_append_right _ isFailed)
  refine ⟨?_, ?_, ?_, ?_, ?_, ?_, ?_⟩
  · rw [map_map]
    simpa only [comp_def, markRow_wallet_balance] using agree.wallets
  · intro row' member'
    obtain ⟨row, member, rfl⟩ := mem_map.mp member'
    rw [(markRow_wallet_balance pairs row).2]
    exact agree.nonneg row member
  · exact agree.rowids.sublist (filter_sublist.map _)
  · exact agree.hashes.sublist (filter_sublist.map _)
  · intro fingerprint inTable
    exact agree.recorded fingerprint (mem_of_mem_filter inTable)
  · intro row' member' rowid pending
    obtain ⟨row, member, rfl⟩ := mem_map.mp member'
    rw [(markRow_wallet_balance pairs row).1, (markRow_wallet_balance pairs row).2]
    cases before : row.pendingPayableRowid with
    | some old =>
      -- marked before: its fingerprint is not of this batch and stays
      rw [markRow_of_pending before, before] at pending
      cases pending
      obtain ⟨fingerprint, inTable, isRowid, landed, rest⟩ := agree.marked row member rowid before
      exact ⟨fingerprint, keeps fingerprint inTable fun isFailed =>
        landed (failedInFlight _ isFailed), isRowid, not_mem_nil, rest⟩
    | none =>
      by_cases listed : row.wallet ∈ pairs.map fst
      · -- marked now, by a payable of this batch
        obtain ⟨⟨wallet, marked⟩, inPairs, sameWallet⟩ := mem_map.mp listed
        subst sameWallet
        rw [markRow_of_mem marks.distinct before inPairs] at pending
        cases pending
        obtain ⟨fingerprint, inTable, isRowid, isSent⟩ := marks.sound _ rowid inPairs
        obtain ⟨payment, isSigned, sameHash, toWallet, owner, isOwner, ownerWallet, -, covered⟩ :=
          sent_covered ready separated isSent
        obtain ⟨recorded, isRecorded, records⟩ := agree.recorded fingerprint inTable
        have samePayment : recorded = payment :=
          eq_of_key_eq signed isRecorded isSigned (records.1.trans sameHash.symm)
        have sameRow : owner = row := eq_of_key_eq agree.wallets isOwner member ownerWallet
        have notFailed := sent_not_failed distinct separated (mem_map_of_mem isSent)
        exact ⟨fingerprint, keeps fingerprint inTable notFailed, isRowid, not_mem_nil, payment,
          isSigned, samePayment ▸ records, toWallet, sameRow ▸ covered⟩
      · rw [markRow_of_unlisted listed, before] at pending
        cases pending
  · intro fingerprint inFiltered _
    obtain ⟨inTable, notFailed⟩ := mem_filter.mp inFiltered
    rw [decide_eq_true_eq] at notFailed
    by_cases inFlight : fingerprint.transactionHash ∈ hashes
    · -- of this batch and not failed: its payable was sent
      rcases mem_append.mp (separated.covers.symm.subset inFlight) with wasSent | isFailed
      · obtain ⟨one, isSent, sameHash⟩ := mem_map.mp wasSent
        obtain ⟨marked, inTable', hash', inPairs⟩ := marks.complete one isSent
        have same : marked = fingerprint := eq_of_key_eq agree.hashes inTable' inTable (hash'.trans sameHash)
        obtain ⟨-, -, -, -, row, member, rowWallet, isNone, -⟩ := sent_covered ready separated isSent
        rw [← rowWallet, same] at inPairs
        refine ⟨_, mem_map_of_mem member, ?_⟩
        rw [markRow_of_mem marks.distinct isNone inPairs]
      · exact absurd isFailed notFailed
    · obtain ⟨row, member, pending⟩ := agree.owned fingerprint inTable inFlight
      refine ⟨_, mem_map_of_mem member, ?_⟩
      rw [markRow_of_pending pending]
      exact pending

/-- The accountant after the result of a batch, unless the clock reading at the end panics. -/
abbrev batchEnded (accountant : AccountantState) (pairs : List (Wallet × Nat)) (failed : List H256)
    (now : SystemTime) : Except Panic AccountantState := do
  let payableInitiatedAt ← markAsEnded accountant.payableInitiatedAt now
  return { accountant with
    payable := accountant.payable.map (markRow pairs)
    pendingPayable := withoutFailed accountant.pendingPayable failed
    payableInitiatedAt }

lemma finishPayableScan_eq (now) (separated : Separated accounts hashes sent failed)
    (separates : separateErrors result = .ok (sent, errOpt))
    (discards : handleSentPayableErrors accountant.pendingPayable errOpt =
      .ok (withoutFailed accountant.pendingPayable failed)) :
    ∃ pairs, Marks accountant.pendingPayable sent pairs ∧ finishPayableScan accountant result now =
        batchEnded accountant pairs failed now := by
  obtain ⟨-, distinct, fingerprinted, -⟩ := ready.seeded hashes rfl
  by_cases nothingSent : sent = []
  · subst nothingSent
    have marks : Marks accountant.pendingPayable [] [] := by constructor <;> simp
    have unchanged : accountant.payable.map (markRow []) = accountant.payable :=
      (map_congr_left fun row _ => markRow_of_unlisted not_mem_nil).trans (map_id _)
    refine ⟨[], marks, ?_⟩
    simp only [finishPayableScan, separates, ok_bind, isEmpty_nil, ↓reduceIte, discards,
      batchEnded, unchanged]
  · have present : ∀ one ∈ sent, ∃ fingerprint ∈ accountant.pendingPayable,
        fingerprint.transactionHash = one.hash := by
      intro one isSent
      exact fingerprinted one.hash (separated.covers.subset (mem_append_left _ (mem_map_of_mem isSent)))
    have waiting : ∀ one ∈ sent, ∃ row ∈ accountant.payable, row.wallet = one.recipientWallet ∧
        row.pendingPayableRowid = none := by
      intro one isSent
      obtain ⟨-, -, -, -, row, member, sameWallet, isNone, -⟩ := sent_covered ready separated isSent
      exact ⟨row, member, sameWallet, isNone⟩
    have sentHashes : (sent.map PendingPayable.hash).Nodup :=
      (nodup_append.mp (separated.covers.nodup_iff.mpr distinct)).1
    obtain ⟨pairs, marks, marked⟩ := markPendingPayable_ok agree.hashes sentHashes present agree.wallets
      nothingSent (ready.distinct.sublist separated.wallets) waiting
    refine ⟨pairs, marks, ?_⟩
    simp only [finishPayableScan, separates, ok_bind, List.isEmpty_iff, nothingSent, ↓reduceIte,
      marked, discards, batchEnded]

lemma finishPayableScan_answered (now) (answered : responses.length = accounts.length) :
    ∃ sent failed pairs, Separated accounts hashes sent failed ∧ Marks accountant.pendingPayable sent pairs ∧
      finishPayableScan accountant (.ok (mergedOutputData responses hashes accounts)) now =
        batchEnded accountant pairs failed now := by
  obtain ⟨hashed, -, fingerprinted, -⟩ := ready.seeded hashes rfl
  obtain ⟨sent, failed, results, separated⟩ := separated_answered answered hashed
  have filled : mergedOutputData responses hashes accounts ≠ [] := by
    have positive : 0 < accounts.length := length_pos_iff.mpr ready.nonempty
    have hashed : hashes.length = accounts.length := hashed
    rw [← length_pos_iff]
    simp only [mergedOutputData, length_map, length_zip]
    omega
  have discarded : discardFailedTransactionsWithPossibleFingerprints accountant.pendingPayable failed =
      .ok (withoutFailed accountant.pendingPayable failed) :=
    discardFailed_ok agree.rowids fun hash isFailed =>
      fingerprinted hash (separated.covers.subset (mem_append_right _ isFailed))
  have discards : handleSentPayableErrors accountant.pendingPayable
      (if failed.isEmpty then none else some (.remotelyCausedErrors failed)) =
      .ok (withoutFailed accountant.pendingPayable failed) := by
    cases failed with
    | nil => simp [handleSentPayableErrors, withoutFailed]
    | cons hash failed => exact discarded
  have separates : separateErrors (.ok (mergedOutputData responses hashes accounts)) =
      .ok (sent, if failed.isEmpty then none else some (.remotelyCausedErrors failed)) := by
    simp only [separateErrors, List.isEmpty_iff, filled, ↓reduceIte, results]
  obtain ⟨pairs, marks, finished⟩ := finishPayableScan_eq agree ready now separated separates discards
  exact ⟨sent, failed, pairs, separated, marks, finished⟩

lemma finishPayableScan_sendingFailed (msg : String) (now) :
    ∃ pairs, Marks accountant.pendingPayable [] pairs ∧
      finishPayableScan accountant (.error (.sending msg hashes)) now =
        batchEnded accountant pairs hashes now := by
  obtain ⟨-, -, fingerprinted, -⟩ := ready.seeded hashes rfl
  refine finishPayableScan_eq agree ready now (separated_failed accounts hashes) rfl ?_
  exact discardFailed_ok agree.rowids fingerprinted

end

lemma balanceOf_markRow (pairs : List (Wallet × Nat)) (rows wallet) :
    balanceOf (rows.map (markRow pairs)) wallet = balanceOf rows wallet := by
  unfold balanceOf
  rw [filter_map, map_map]
  simp only [comp_def, markRow_wallet_balance]

variable {s : PaymentSystem}

lemma inFlight_of_batches (batches : s.batches = [⟨accounts, hashesOpt⟩]) :
    s.inFlight = hashesOpt.getD [] := by
  simp [PaymentSystem.inFlight, batches]

lemma consistent_sent (consistent : Consistent s) (batches : s.batches = [⟨accounts, some hashes⟩])
    (separated : Separated accounts hashes sent failed)
    (marks : Marks s.accountant.pendingPayable sent pairs) (scanErrors : Nat) :
    Consistent { s with
      accountant := { s.accountant with
        payable := s.accountant.payable.map (markRow pairs)
        pendingPayable := withoutFailed s.accountant.pendingPayable failed
        payableInitiatedAt := none }
      scanErrors
      batches := [] } := by
  have ready := consistent.ready ⟨accounts, some hashes⟩ (batches ▸ mem_singleton.mpr rfl)
  have agree : TablesAgree s.accountant.payable s.accountant.pendingPayable s.payments hashes := by
    have tables := consistent.tables
    rwa [inFlight_of_batches batches] at tables
  refine ⟨consistent.signed, tablesAgree_sent agree ready consistent.signed separated marks,
    Nat.zero_le 1, by simp, fun _ => rfl, fun _ => rfl, ?_, consistent.confirmedSigned,
    consistent.confirmedOnce, ?_, consistent.requested⟩
  · intro wallet
    rw [balanceOf_markRow]
    exact consistent.booked wallet
  · intro fingerprint isConfirmed stored
    exact consistent.confirmedGone fingerprint isConfirmed
      ((filter_sublist.map _).subset stored)

end

/-! ### Receipts -/

section

variable {payable : List PayableRow} {pendingPayable : List PendingPayableRow}
  {payments : List Payment} {inFlight : List H256}

lemma recipientOf_payment (signed : (payments.map Payment.hash).Nodup) (isSigned : payment ∈ payments) :
    recipientOf payments payment.hash = some payment.wallet := by
  have found : payments.find? (fun other => decide (other.hash = payment.hash)) = some payment := by
    rw [← head?_filter, filter_key_eq_singleton signed isSigned, head?_cons]
  rw [recipientOf, found, Option.map_some]

/-- Fingerprints a report may confirm: those stored under their row id, of payments whose batch
has landed. -/
structure Confirmable (pendingPayable : List PendingPayableRow) (payments : List Payment)
    (inFlight : List H256) (fingerprints : List PendingPayableFingerprint) : Prop where
  distinct : (fingerprints.map PendingPayableFingerprint.rowid).Nodup
  clock : ∀ fingerprint ∈ fingerprints, ∃ time, toTimeT fingerprint.timestamp = .ok time
  stored : ∀ fingerprint ∈ fingerprints, ∃ row ∈ pendingPayable, row.rowid = fingerprint.rowid ∧
    row.transactionHash = fingerprint.hash
  landed : ∀ fingerprint ∈ fingerprints, fingerprint.hash ∉ inFlight
  priced : ∀ fingerprint ∈ fingerprints, ∃ payment ∈ payments, payment.hash = fingerprint.hash ∧
    payment.amount.val = fingerprint.amount.val

variable {confirmed : List PendingPayableFingerprint}

/-- The fingerprints that stay when some transactions are confirmed. -/
abbrev withoutConfirmed (pendingPayable : List PendingPayableRow)
    (confirmed : List PendingPayableFingerprint) : List PendingPayableRow :=
  pendingPayable.filter fun row =>
    decide (row.rowid ∉ confirmed.map PendingPayableFingerprint.rowid)

section

variable (signed : (payments.map Payment.hash).Nodup)
  (agree : TablesAgree payable pendingPayable payments inFlight)
  (confirmable : Confirmable pendingPayable payments inFlight confirmed)
include signed agree

/-- No two rows wait for the same fingerprint. -/
lemma marked_exclusive {row other} (member : row ∈ payable) (otherMember : other ∈ payable)
    {rowid} (pending : row.pendingPayableRowid = some rowid)
    (otherPending : other.pendingPayableRowid = some rowid) : row = other := by
  obtain ⟨one, inTable, isRowid, -, payment, isSigned, records, toWallet, -⟩ :=
    agree.marked row member rowid pending
  obtain ⟨two, inTable', isRowid', -, payment', isSigned', records', toWallet', -⟩ :=
    agree.marked other otherMember rowid otherPending
  have same : one = two := eq_of_key_eq agree.rowids inTable inTable' (isRowid.trans isRowid'.symm)
  subst same
  have samePayment : payment = payment' :=
    eq_of_key_eq signed isSigned isSigned' (records.1.trans records'.1.symm)
  subst samePayment
  exact eq_of_key_eq agree.wallets member otherMember (toWallet.symm.trans toWallet')

include confirmable

/-- The row a confirmation is booked on: the recipient's, alone, and it covers the amount. -/
lemma confirmable_owner (member : fingerprint ∈ confirmed) :
    ∃ row, row ∈ payable ∧ row.pendingPayableRowid = some fingerprint.rowid ∧
      payable.filter (fun row => decide (row.pendingPayableRowid = some fingerprint.rowid)) = [row] ∧
      recipientOf payments fingerprint.hash = some row.wallet ∧
      fingerprint.amount.val ≤ row.balance.value := by
  obtain ⟨stored, inTable, sameRowid, sameHash⟩ := confirmable.stored fingerprint member
  have landed : stored.transactionHash ∉ inFlight := sameHash ▸ confirmable.landed fingerprint member
  obtain ⟨row, isRow, pending⟩ := agree.owned stored inTable landed
  rw [sameRowid] at pending
  obtain ⟨pointed, inTable', isRowid, -, payment, isSigned, records, toWallet, covered⟩ :=
    agree.marked row isRow _ pending
  have same : pointed = stored := eq_of_key_eq agree.rowids inTable' inTable (isRowid.trans sameRowid.symm)
  subst same
  obtain ⟨priced, isPriced, pricedHash, price⟩ := confirmable.priced fingerprint member
  have samePayment : priced = payment :=
    eq_of_key_eq signed isPriced isSigned (pricedHash.trans (sameHash.symm.trans records.1.symm))
  subst samePayment
  refine ⟨row, isRow, pending, ?_, ?_, price ▸ covered⟩
  · refine filter_eq_singleton (Nodup.of_map _ agree.wallets) isRow (decide_eq_true pending) ?_
    intro other otherMember otherPending
    exact marked_exclusive signed agree otherMember isRow (of_decide_eq_true otherPending) pending
  · rw [← pricedHash, recipientOf_payment signed isPriced, toWallet]

lemma tablesAgree_settled (related : Forall₂ (Settled confirmed) payable settled) :
    TablesAgree settled (withoutConfirmed pendingPayable confirmed) payments inFlight := by
  refine ⟨?_, ?_, ?_, ?_, ?_, ?_, ?_⟩
  · rw [map_eq_of_forall₂ related fun _ _ same => same.1]
    exact agree.wallets
  · intro row' member'
    obtain ⟨row, member, -, ⟨fingerprint, isConfirmed, pending, -, balance⟩ | ⟨-, rfl⟩⟩ :=
      forall₂_mem_right related member'
    · obtain ⟨owner, isOwner, ownerPending, -, -, covered⟩ :=
        confirmable_owner signed agree confirmable isConfirmed
      have same := marked_exclusive signed agree isOwner member ownerPending pending
      rw [balance, ← same]
      omega
    · exact agree.nonneg row' member
  · exact agree.rowids.sublist (filter_sublist.map _)
  · exact agree.hashes.sublist (filter_sublist.map _)
  · intro fingerprint inTable
    exact agree.recorded fingerprint (mem_of_mem_filter inTable)
  · intro row' member' rowid pending'
    obtain ⟨row, member, -, ⟨-, -, -, isNone, -⟩ | ⟨others, rfl⟩⟩ := forall₂_mem_right related member'
    · rw [isNone] at pending'
      cases pending'
    · -- the fingerprint of an untouched row is not deleted
      obtain ⟨fingerprint, inTable, isRowid, rest⟩ := agree.marked row' member rowid pending'
      refine ⟨fingerprint, mem_filter.mpr ⟨inTable, decide_eq_true ?_⟩, isRowid, rest⟩
      intro listed
      obtain ⟨one, isConfirmed, same⟩ := mem_map.mp listed
      exact others one isConfirmed (by rw [pending', ← isRowid, same])
  · intro fingerprint inFiltered landed
    obtain ⟨inTable, unlisted⟩ := mem_filter.mp inFiltered
    rw [decide_eq_true_eq] at unlisted
    obtain ⟨row, member, pending⟩ := agree.owned fingerprint inTable landed
    obtain ⟨row', member', -, ⟨one, isConfirmed, onePending, -⟩ | ⟨-, rfl⟩⟩ :=
      forall₂_mem_left related member
    · rw [pending, Option.some.injEq] at onePending
      exact absurd (onePending ▸ mem_map_of_mem isConfirmed) unlisted
    · exact ⟨row', member', pending⟩

/-- A confirmed payment to a wallet is the pending one of the wallet's row. -/
lemma confirmable_recipient (isConfirmed : fingerprint ∈ confirmed)
    (recipient : recipientOf payments fingerprint.hash = some wallet) :
    ∃ row ∈ payable, row.wallet = wallet ∧ row.pendingPayableRowid = some fingerprint.rowid := by
  obtain ⟨row, isRow, pending, -, toWallet, -⟩ := confirmable_owner signed agree confirmable isConfirmed
  rw [toWallet, Option.some.injEq] at recipient
  exact ⟨row, isRow, recipient, pending⟩

lemma paidTo_unowned (unowned : ∀ row ∈ payable, row.wallet = wallet →
      ∀ fingerprint ∈ confirmed, row.pendingPayableRowid ≠ some fingerprint.rowid) :
    paidTo payments confirmed wallet = 0 := by
  have isEmpty : confirmed.filter (fun fingerprint =>
      decide (recipientOf payments fingerprint.hash = some wallet)) = [] := by
    rw [filter_eq_nil_iff]
    intro fingerprint member recipient
    obtain ⟨row, isRow, toWallet, pending⟩ :=
      confirmable_recipient signed agree confirmable member (of_decide_eq_true recipient)
    exact unowned row isRow toWallet fingerprint member pending
  rw [paidTo, isEmpty]
  rfl

lemma paidTo_owned {row} (member : row ∈ payable) (isConfirmed : fingerprint ∈ confirmed)
    (pending : row.pendingPayableRowid = some fingerprint.rowid) :
    paidTo payments confirmed row.wallet = fingerprint.amount.val := by
  obtain ⟨owned, isOwned, ownedPending, -, toWallet, -⟩ :=
    confirmable_owner signed agree confirmable isConfirmed
  rw [marked_exclusive signed agree isOwned member ownedPending pending] at toWallet
  have nodup : confirmed.Nodup := Nodup.of_map _ confirmable.distinct
  -- the marks are unique, so no other confirmed payment goes to the wallet
  have only : confirmed.filter (fun fingerprint =>
      decide (recipientOf payments fingerprint.hash = some row.wallet)) = [fingerprint] := by
    refine filter_eq_singleton nodup isConfirmed (decide_eq_true toWallet) ?_
    intro other otherConfirmed recipient
    obtain ⟨otherRow, isRow, otherWallet, otherPending⟩ :=
      confirmable_recipient signed agree confirmable otherConfirmed (of_decide_eq_true recipient)
    rw [eq_of_key_eq agree.wallets isRow member otherWallet, pending, Option.some.injEq] at otherPending
    exact eq_of_key_eq confirmable.distinct otherConfirmed isConfirmed otherPending.symm
  rw [paidTo, only]
  simp

/-- What the confirmations take off the balances is what they record as paid. -/
lemma balanceOf_settled (related : Forall₂ (Settled confirmed) payable settled) (wallet) :
    balanceOf settled wallet = balanceOf payable wallet - paidTo payments confirmed wallet := by
  have keys : settled.map PayableRow.wallet = payable.map PayableRow.wallet :=
    map_eq_of_forall₂ related fun _ _ same => same.1
  have unique : (settled.map PayableRow.wallet).Nodup := keys ▸ agree.wallets
  -- a wallet without a row has no balance and cannot be paid
  by_cases! absent : ∃ row ∈ payable, row.wallet = wallet
  · obtain ⟨row, member, rfl⟩ := absent
    obtain ⟨row', member', sameWallet, outcome⟩ := forall₂_mem_left related member
    have after := balanceOf_row unique member'
    rw [sameWallet] at after
    rw [after, balanceOf_row agree.wallets member]
    rcases outcome with ⟨fingerprint, isConfirmed, pending, -, balance⟩ | ⟨others, rfl⟩
    · rw [balance, paidTo_owned signed agree confirmable member isConfirmed pending]
    · rw [paidTo_unowned signed agree confirmable]
      · omega
      · intro other otherMember toWallet
        rw [eq_of_key_eq agree.wallets otherMember member toWallet]
        exact others
  · have absentAfter : ∀ row ∈ settled, row.wallet ≠ wallet := by
      intro row' member'
      obtain ⟨row, member, sameWallet, -⟩ := forall₂_mem_right related member'
      rw [sameWallet]
      exact absent row member
    rw [balanceOf_absent absent, balanceOf_absent absentAfter, paidTo_unowned signed agree confirmable
      fun row member toWallet => absurd toWallet (absent row member)]
    rfl

end

lemma confirmTransactions_eq (p) (signed : (payments.map Payment.hash).Nodup)
    (agree : TablesAgree accountant.payable accountant.pendingPayable payments inFlight)
    (confirmable : Confirmable accountant.pendingPayable payments inFlight confirmed) :
    ∃ settled, Forall₂ (Settled confirmed) accountant.payable settled ∧
      confirmTransactions p accountant confirmed = (do
        let totalPaidPayableWei ← addToTheTotalOfPaidPayable p accountant.totalPaidPayableWei confirmed
        return { accountant with
          payable := settled
          totalPaidPayableWei
          pendingPayable := withoutConfirmed accountant.pendingPayable confirmed }) := by
  have owned : ∀ fingerprint ∈ confirmed, ∃ row, accountant.payable.filter
      (fun row => decide (row.pendingPayableRowid = some fingerprint.rowid)) = [row] ∧
        fingerprint.amount.val ≤ row.balance.value := by
    intro fingerprint member
    obtain ⟨row, -, -, only, -, covered⟩ := confirmable_owner signed agree confirmable member
    exact ⟨row, only, covered⟩
  obtain ⟨settled, confirmedOk, related⟩ :=
    transactionsConfirmed_ok p confirmable.distinct confirmable.clock owned
  refine ⟨settled, related, ?_⟩
  have deleted : deleteFingerprints accountant.pendingPayable (confirmed.map rowid) =
      .ok (withoutConfirmed accountant.pendingPayable confirmed) := by
    refine deleteFingerprints_ok agree.rowids confirmable.distinct ?_
    intro id listed
    obtain ⟨fingerprint, member, rfl⟩ := mem_map.mp listed
    obtain ⟨row, inTable, sameRowid, -⟩ := confirmable.stored fingerprint member
    exact ⟨row, inTable, sameRowid⟩
  cases confirmed with
  | nil =>
    cases confirmedOk
    simp [confirmTransactions, addToTheTotalOfPaidPayable, withoutConfirmed]
  | cons fingerprint confirmed =>
    simp only [confirmTransactions, isEmpty_cons, Bool.false_eq_true, ↓reduceIte, confirmedOk,
      ok_bind, deleted]

/-- A fingerprint whose attempts or error have changed at most. -/
def SameFingerprint (row row' : PendingPayableRow) : Prop :=
  row'.rowid = row.rowid ∧ row'.transactionHash = row.transactionHash ∧ row'.amount = row.amount

/-- The tables after a report: what it confirms is settled, the other fingerprints stay. -/
structure Booked (confirmed : List PendingPayableFingerprint) (before after : AccountantState) : Prop where
  settled : List.Forall₂ (Settled confirmed) before.payable after.payable
  relabelled : List.Forall₂ SameFingerprint (withoutConfirmed before.pendingPayable confirmed)
    after.pendingPayable
  sameLock : after.payableInitiatedAt = before.payableInitiatedAt

/-- The end of a report, unless the statistic or the clock reading panics. -/
def reportEnded (p : Profile) (before booked : AccountantState)
    (confirmed : List PendingPayableFingerprint) (now : SystemTime) : Except Panic AccountantState := do
  let totalPaidPayableWei ← addToTheTotalOfPaidPayable p before.totalPaidPayableWei confirmed
  let pendingPayableInitiatedAt ← markAsEnded before.pendingPayableInitiatedAt now
  return { booked with totalPaidPayableWei, pendingPayableInitiatedAt }

lemma Booked.ended {p before booked after now} (isBooked : Booked confirmed before booked)
    (ended : reportEnded p before booked confirmed now = .ok after) : Booked confirmed before after := by
  obtain ⟨total, -, ended⟩ := ok_of_bind ended
  obtain ⟨initiatedAt, -, ended⟩ := ok_of_bind ended
  cases ended
  exact { isBooked with }

lemma relabelled_trans (first : Forall₂ SameFingerprint rows mid)
    (second : Forall₂ SameFingerprint mid rows') : Forall₂ SameFingerprint rows rows' :=
  forall₂_comp (fun _ _ _ same same' => ⟨same'.1.trans same.1, same'.2.1.trans same.2.1,
    same'.2.2.trans same.2.2⟩) first second

lemma executeOnIds_relabels {change : PendingPayableRow → PendingPayableRow} {ids : List Nat}
    (same : ∀ row, SameFingerprint row (change row))
    (unique : (pendingPayable.map PendingPayableRow.rowid).Nodup) (distinct : ids.Nodup)
    (present : ∀ id ∈ ids, ∃ row ∈ pendingPayable, row.rowid = id) :
    ∃ rows', executeOnIds (fun row => some (change row)) mismatch pendingPayable ids = .ok rows' ∧
      Forall₂ SameFingerprint pendingPayable rows' := by
  refine ⟨pendingPayable.map fun row => if row.rowid ∈ ids then change row else row, ?_, ?_⟩
  · rw [executeOnIds_ok unique distinct present, ← filterMap_eq_map, Except.ok.injEq]
    congr 1
    funext row
    simp only [comp_apply]
    split <;> rfl
  · rw [forall₂_map_right_iff, forall₂_same]
    intro row _
    split
    · exact same row
    · exact ⟨rfl, rfl, rfl⟩

lemma tablesAgree_relabelled (agree : TablesAgree payable pendingPayable payments inFlight)
    (related : Forall₂ SameFingerprint pendingPayable relabelled) :
    TablesAgree payable relabelled payments inFlight := by
  refine ⟨agree.wallets, agree.nonneg, ?_, ?_, ?_, ?_, ?_⟩
  · rw [map_eq_of_forall₂ related fun _ _ same => same.1]
    exact agree.rowids
  · rw [map_eq_of_forall₂ related fun _ _ same => same.2.1]
    exact agree.hashes
  · intro row' inTable'
    obtain ⟨row, inTable, -, sameHash, sameAmount⟩ := forall₂_mem_right related inTable'
    obtain ⟨payment, isSigned, records⟩ := agree.recorded row inTable
    exact ⟨payment, isSigned, records.1.trans sameHash.symm, sameAmount ▸ records.2⟩
  · intro row member rowid pending
    obtain ⟨one, inTable, isRowid, landed, payment, isSigned, records, rest⟩ :=
      agree.marked row member rowid pending
    obtain ⟨one', inTable', sameRowid, sameHash, sameAmount⟩ := forall₂_mem_left related inTable
    exact ⟨one', inTable', sameRowid.trans isRowid, sameHash ▸ landed, payment, isSigned,
      ⟨records.1.trans sameHash.symm, sameAmount ▸ records.2⟩, rest⟩
  · intro one' inTable' landed
    obtain ⟨one, inTable, sameRowid, sameHash, -⟩ := forall₂_mem_right related inTable'
    obtain ⟨row, member, pending⟩ := agree.owned one inTable (sameHash ▸ landed)
    exact ⟨row, member, sameRowid ▸ pending⟩

lemma cancelFailedTransactions_eq (accountant ids) :
    cancelFailedTransactions accountant ids = (do
      let pendingPayable ← markFailures accountant.pendingPayable (ids.map PendingPayableId.rowid)
      return { accountant with pendingPayable }) := by
  cases ids with
  | nil => simp [cancelFailedTransactions, markFailures]
  | cons id ids => rfl

lemma updateRemainingFingerprints_eq (accountant ids) :
    updateRemainingFingerprints accountant ids = (do
      let pendingPayable ← incrementScanAttempts accountant.pendingPayable (ids.map PendingPayableId.rowid)
      return { accountant with pendingPayable }) := by
  cases ids with
  | nil => simp [updateRemainingFingerprints, incrementScanAttempts]
  | cons id ids => rfl

/-- Failed and remaining transactions only relabel their fingerprints. -/
lemma cancelAndUpdate_ok {failures stillPending : List PendingPayableId}
    (unique : (pendingPayable.map PendingPayableRow.rowid).Nodup)
    (distinct : (failures.map PendingPayableId.rowid ++ stillPending.map PendingPayableId.rowid).Nodup)
    (present : ∀ id ∈ failures.map PendingPayableId.rowid ++ stillPending.map PendingPayableId.rowid,
      ∃ row ∈ pendingPayable, row.rowid = id) :
    ∃ relabelled, Forall₂ SameFingerprint pendingPayable relabelled ∧
      ∀ accountant : AccountantState, accountant.pendingPayable = pendingPayable →
        (do let cancelled ← cancelFailedTransactions accountant failures
            updateRemainingFingerprints cancelled stillPending) =
          .ok { accountant with pendingPayable := relabelled } := by
  rw [nodup_append] at distinct
  obtain ⟨mid, marked, toMid⟩ : ∃ mid, markFailures pendingPayable
      (failures.map PendingPayableId.rowid) = .ok mid ∧ _ :=
    executeOnIds_relabels (fun _ => ⟨rfl, rfl, rfl⟩) unique distinct.1
      fun id listed => present id (mem_append_left _ listed)
  have midRowids : mid.map PendingPayableRow.rowid = pendingPayable.map PendingPayableRow.rowid :=
    map_eq_of_forall₂ toMid fun _ _ same => same.1
  have stillPresent : ∀ id ∈ stillPending.map PendingPayableId.rowid, ∃ row ∈ mid, row.rowid = id := by
    intro id listed
    obtain ⟨row, inTable, rfl⟩ := present id (mem_append_right _ listed)
    obtain ⟨row', inMid, same⟩ := forall₂_mem_left toMid inTable
    exact ⟨row', inMid, same.1⟩
  obtain ⟨relabelled, incremented, fromMid⟩ : ∃ relabelled, incrementScanAttempts mid
      (stillPending.map PendingPayableId.rowid) = .ok relabelled ∧ _ :=
    executeOnIds_relabels (fun _ => ⟨rfl, rfl, rfl⟩) (midRowids ▸ unique) distinct.2.1 stillPresent
  refine ⟨relabelled, relabelled_trans toMid fromMid, ?_⟩
  rintro accountant rfl
  simp only [cancelFailedTransactions_eq, marked, updateRemainingFingerprints_eq, incremented,
    ok_bind, pure_eq_ok]

/-- A report sorts its fingerprints by their receipts. -/
lemma report_perm (receipts) :
    ((handleReceiptsForPendingTransactions receipts).confirmed.map rowid ++
      ((handleReceiptsForPendingTransactions receipts).failures.map PendingPayableId.rowid ++
        (handleReceiptsForPendingTransactions receipts).stillPending.map PendingPayableId.rowid)).Perm
      ((receipts.map snd).map rowid) := by
  induction receipts with
  | nil => exact .nil
  | cons receipt receipts ih =>
    obtain ⟨result, fingerprint⟩ := receipt
    -- the id is at the head of one of the three parts
    have toFailures := perm_middle.trans (ih.cons fingerprint.rowid)
    have toPending := (Perm.append_left _ perm_middle).trans toFailures
    match result with
    | .rpcResponse .succeeded => exact ih.cons fingerprint.rowid
    | .rpcResponse .failed => exact toFailures
    | .rpcResponse .pending => exact toPending
    | .localError _ => exact toPending

lemma report_confirmed_sublist (receipts) :
    (handleReceiptsForPendingTransactions receipts).confirmed.Sublist (receipts.map snd) := by
  induction receipts with
  | nil => exact .slnil
  | cons receipt receipts ih =>
    obtain ⟨result, fingerprint⟩ := receipt
    match result with
    | .rpcResponse .succeeded => exact ih.cons_cons _
    | .rpcResponse .failed | .rpcResponse .pending | .localError _ => exact ih.cons _

/-- The handler of a report, up to the statistic and the clock reading at its end. -/
lemma finishPendingPayableScan_eq (p) (now) (signed : (payments.map Payment.hash).Nodup)
    (agree : TablesAgree accountant.payable accountant.pendingPayable payments inFlight)
    (distinct : ((receipts.map snd).map rowid).Nodup)
    (stored : ∀ fingerprint ∈ receipts.map snd, ∃ row ∈ accountant.pendingPayable,
      row.rowid = fingerprint.rowid)
    (isConfirmed : (handleReceiptsForPendingTransactions receipts).confirmed = confirmed)
    (confirmable : Confirmable accountant.pendingPayable payments inFlight confirmed) :
    ∃ booked, Booked confirmed accountant booked ∧ finishPendingPayableScan p accountant receipts now =
        reportEnded p accountant booked confirmed now := by
  obtain ⟨settled, settledRelated, confirmation⟩ := confirmTransactions_eq p signed agree confirmable
  have sorted := report_perm receipts
  rw [isConfirmed] at sorted
  -- the three lists of the report have no fingerprint in common
  have idsDistinct := nodup_append.mp (sorted.nodup_iff.mpr distinct)
  -- a fingerprint that is not confirmed is still there
  have present : ∀ id ∈ (handleReceiptsForPendingTransactions receipts).failures.map PendingPayableId.rowid ++
        (handleReceiptsForPendingTransactions receipts).stillPending.map PendingPayableId.rowid,
      ∃ row ∈ withoutConfirmed accountant.pendingPayable confirmed, row.rowid = id := by
    intro id listed
    obtain ⟨fingerprint, reported, rfl⟩ := mem_map.mp (sorted.subset (mem_append_right _ listed))
    obtain ⟨row, inTable, sameRowid⟩ := stored fingerprint reported
    refine ⟨row, mem_filter.mpr ⟨inTable, decide_eq_true ?_⟩, sameRowid⟩
    rw [sameRowid]
    exact fun isConfirmed => idsDistinct.2.2 _ isConfirmed _ listed rfl
  obtain ⟨relabelled, related, relabels⟩ := cancelAndUpdate_ok
    (agree.rowids.sublist (filter_sublist.map _)) idsDistinct.2.1 present
  refine ⟨{ accountant with payable := settled, pendingPayable := relabelled },
    ⟨settledRelated, related, rfl⟩, ?_⟩
  have processed : processTransactionsByReportedState p accountant
      (handleReceiptsForPendingTransactions receipts) = (do
        let totalPaidPayableWei ← addToTheTotalOfPaidPayable p accountant.totalPaidPayableWei confirmed
        return { accountant with
          payable := settled, pendingPayable := relabelled, totalPaidPayableWei }) := by
    rw [processTransactionsByReportedState, isConfirmed, confirmation]
    cases addToTheTotalOfPaidPayable p accountant.totalPaidPayableWei confirmed with
    | error panic => rfl
    | ok total => exact relabels _ rfl
  -- an empty report would be processed to no effect
  have always : finishPendingPayableScan p accountant receipts now = (do
      let accountant ← processTransactionsByReportedState p accountant
        (handleReceiptsForPendingTransactions receipts)
      let pendingPayableInitiatedAt ← markAsEnded accountant.pendingPayableInitiatedAt now
      return { accountant with pendingPayableInitiatedAt }) := by
    cases receipts with
    | nil => rfl
    | cons receipt receipts => rfl
  rw [always, processed]
  simp only [bind_assoc, pure_bind, reportEnded]

lemma paidTo_append (payments earlier later wallet) : paidTo payments (earlier ++ later) wallet =
      paidTo payments earlier wallet + paidTo payments later wallet := by
  simp [paidTo]

/-- Stored fingerprints with distinct row ids have distinct hashes. -/
lemma confirmable_hashes (hashes : (pendingPayable.map PendingPayableRow.transactionHash).Nodup)
    (confirmable : Confirmable pendingPayable payments inFlight confirmed) :
    (confirmed.map hash).Nodup := by
  refine Nodup.map_on ?_ (Nodup.of_map _ confirmable.distinct)
  intro one isOne other isOther sameHash
  obtain ⟨row, inTable, rowid, hash⟩ := confirmable.stored one isOne
  obtain ⟨row', inTable', rowid', hash'⟩ := confirmable.stored other isOther
  have same := eq_of_key_eq hashes inTable inTable' (hash.trans (sameHash.trans hash'.symm))
  exact eq_of_key_eq confirmable.distinct isOne isOther
    (rowid.symm.trans ((congrArg PendingPayableRow.rowid same).trans rowid'))

/-- A fingerprint that stays is none of the confirmed ones. -/
lemma kept_not_confirmed (rowids : (pendingPayable.map PendingPayableRow.rowid).Nodup)
    (confirmable : Confirmable pendingPayable payments inFlight confirmed) (inTable : row ∈ pendingPayable)
    (listed : row.rowid ∈ confirmed.map rowid) :
    ∃ fingerprint ∈ confirmed, fingerprint.hash = row.transactionHash := by
  obtain ⟨fingerprint, member, same⟩ := mem_map.mp listed
  obtain ⟨stored, inTable', rowid, hash⟩ := confirmable.stored fingerprint member
  have sameRow := eq_of_key_eq rowids inTable' inTable (rowid.trans same)
  exact ⟨fingerprint, member, sameRow ▸ hash.symm⟩

lemma batchReady_settled
    (agree : TablesAgree accountant.payable accountant.pendingPayable payments inFlight)
    (confirmable : Confirmable accountant.pendingPayable payments inFlight confirmed)
    (ready : BatchReady accountant payments batch)
    (flying : ∀ hash ∈ batch.hashesOpt.getD [], hash ∈ inFlight)
    (booked : Booked confirmed accountant settledAccountant) :
    BatchReady settledAccountant payments batch := by
  refine ⟨ready.nonempty, ready.distinct, ?_, ?_⟩
  · intro account member
    obtain ⟨row, inTable, sameWallet, isNone, covered⟩ := ready.waiting account member
    obtain ⟨row', inTable', -, ⟨_, -, pending, -⟩ | ⟨-, rfl⟩⟩ := forall₂_mem_left booked.settled inTable
    · rw [isNone] at pending
      cases pending
    · exact ⟨row', inTable', sameWallet, isNone, covered⟩
  · intro hashes isHashes
    obtain ⟨sameLength, nodup, fingerprinted, signed⟩ := ready.seeded hashes isHashes
    refine ⟨sameLength, nodup, ?_, signed⟩
    intro hash member
    obtain ⟨row, inTable, sameHash⟩ := fingerprinted hash member
    have unlisted : row.rowid ∉ confirmed.map rowid := by
      intro listed
      obtain ⟨one, isConfirmed, oneHash⟩ := kept_not_confirmed agree.rowids confirmable inTable listed
      refine confirmable.landed one isConfirmed (flying _ ?_)
      rw [oneHash, sameHash, isHashes]
      exact member
    obtain ⟨row', inTable', same⟩ := forall₂_mem_left booked.relabelled
      (mem_filter.mpr ⟨inTable, decide_eq_true unlisted⟩)
    exact ⟨row', inTable', same.2.1.trans sameHash⟩

lemma consistent_reported (consistent : Consistent s)
    (confirmable : Confirmable s.accountant.pendingPayable s.payments s.inFlight confirmed)
    (booked : Booked confirmed s.accountant settledAccountant) :
    Consistent { s with
      accountant := settledAccountant, request := none, confirmed := s.confirmed ++ confirmed } := by
  have storedHash : ∀ fingerprint ∈ confirmed,
      fingerprint.hash ∈ s.accountant.pendingPayable.map PendingPayableRow.transactionHash := by
    intro fingerprint member
    obtain ⟨row, inTable, -, same⟩ := confirmable.stored fingerprint member
    exact same ▸ mem_map_of_mem inTable
  refine ⟨consistent.signed, tablesAgree_relabelled (tablesAgree_settled consistent.signed
    consistent.tables confirmable booked.settled) booked.relabelled, consistent.single, ?_, ?_, consistent.failed,
    ?_, ?_, ?_, ?_, ?_⟩
  · intro batch member
    refine batchReady_settled consistent.tables confirmable (consistent.ready batch member) ?_ booked
    intro hash flying
    exact mem_flatMap.mpr ⟨batch, member, flying⟩
  · intro unlocked
    exact consistent.locked (booked.sameLock ▸ unlocked)
  · intro wallet
    show balanceOf settledAccountant.payable wallet =
      chargedTo s.charges wallet - paidTo s.payments (s.confirmed ++ confirmed) wallet
    rw [balanceOf_settled consistent.signed consistent.tables confirmable booked.settled, paidTo_append,
      consistent.booked]
    omega
  · intro fingerprint member
    rcases mem_append.mp member with old | new
    · exact consistent.confirmedSigned fingerprint old
    · obtain ⟨payment, isSigned, same, -⟩ := confirmable.priced fingerprint new
      exact same ▸ mem_map_of_mem isSigned
  · rw [map_append, nodup_append]
    refine ⟨consistent.confirmedOnce, confirmable_hashes consistent.tables.hashes confirmable, ?_⟩
    rintro _ old _ new rfl
    obtain ⟨earlier, isEarlier, same⟩ := mem_map.mp old
    obtain ⟨later, isLater, same'⟩ := mem_map.mp new
    refine consistent.confirmedGone earlier isEarlier ?_
    rw [same, ← same']
    exact storedHash later isLater
  · intro fingerprint member stored
    obtain ⟨row', inTable', sameHash⟩ := mem_map.mp stored
    obtain ⟨row, inFiltered, -, relabelledHash, -⟩ := forall₂_mem_right booked.relabelled inTable'
    obtain ⟨inTable, unlisted⟩ := mem_filter.mp inFiltered
    rw [decide_eq_true_eq] at unlisted
    have hash : row.transactionHash = fingerprint.hash := relabelledHash.symm.trans sameHash
    rcases mem_append.mp member with old | new
    · exact consistent.confirmedGone fingerprint old (hash ▸ mem_map_of_mem inTable)
    · -- the confirmed fingerprint was stored under its own id
      obtain ⟨own, inTable'', rowid, ownHash⟩ := confirmable.stored fingerprint new
      have same := eq_of_key_eq consistent.tables.hashes inTable'' inTable (ownHash.trans hash.symm)
      exact unlisted (same ▸ rowid ▸ mem_map_of_mem new)
  · intro fingerprints requested
    cases requested

end

end PulseMesh.Accountant
