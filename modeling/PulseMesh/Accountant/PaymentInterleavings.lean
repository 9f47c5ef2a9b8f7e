import PulseMesh.Accountant.PaymentResults

/-!
# Interleavings of the payment protocol

Every event keeps the books in order as long as the messages arrive as the protocol means them to
and a report speaks of fingerprints that are still stored.  From the steps follow the two main
results: money is conserved and nobody is paid twice, and no handler panics.
-/

namespace PulseMesh.Accountant

open Machine Rows ThresholdUtils PendingPayableFingerprint List

/-- What the bridge guarantees: one hash for every account, all hashes distinct, and one response
for every payment. -/
def Legal (s : PaymentSystem) : PaymentEvent → Prop
  | .fingerprintSeeds index hashes _ => ∀ batch ∈ s.batches[index]?, batch.hashesOpt = none →
      hashes.length = batch.accounts.length ∧ (s.payments.map Payment.hash ++ hashes).Nodup
  | .sentPayables index (.answered responses) _ => ∀ batch ∈ s.batches[index]?,
      batch.hashesOpt ≠ none → responses.length = batch.accounts.length
  | .sentPayables _ (.refused (.sending _ _)) _ => False
  | _ => True

/-- Successful receipts are reported after the result of their batch was handled. -/
def AfterResult (s : PaymentSystem) : PaymentEvent → Prop
  | .reportTransactionReceipts results _ => ∀ fingerprint ∈ (handleReceiptsForPendingTransactions
      (results.zip (s.request.getD []))).confirmed, fingerprint.hash ∉ s.inFlight
  | _ => True

/-- Balances stay in range, no scan for payables starts before the failure of the last one was
handled, and reported fingerprints are those stored under their row ids. -/
def Bookable (config : AccountantConfig) (s : PaymentSystem) : PaymentEvent → Prop
  | .servicesConsumed msg => ∀ charge ∈ config.recorded msg.charges,
      balanceOf s.accountant.payable charge.1 +
        chargedTo (config.recorded msg.charges) charge.1 < 2 ^ 126
  | .scanForPayables _ => s.scanErrors = 0 ∨ s.accountant.payableInitiatedAt ≠ none
  | .reportTransactionReceipts results _ => ∀ fingerprint ∈
      (results.zip (s.request.getD [])).map Prod.snd, ∃ row ∈ s.accountant.pendingPayable,
        row.rowid = fingerprint.rowid ∧ row.transactionHash = fingerprint.hash
  | _ => True

def NotBefore (initiatedAtOpt : Option SystemTime) (now : SystemTime) : Prop :=
  ∀ timestamp ∈ initiatedAtOpt, timestamp.nanos ≤ now.nanos

/-- The clock does not run backwards, thresholds can be computed, and counters stay in range. -/
def Timely (config : AccountantConfig) (s : PaymentSystem) : PaymentEvent → Prop
  | .servicesConsumed msg => (toTimeT msg.timestamp).isOk
  | .scanForPayables now => Calculable config.paymentThresholds ∧
      ∀ row ∈ s.accountant.payable, (fromTimeT row.lastPaidTimestamp).nanos ≤ now.nanos
  | .agentFailed _ => True
  | .fingerprintSeeds _ _ batchWideTimestamp => (toTimeT batchWideTimestamp).isOk
  | .sentPayables _ _ now => NotBefore s.accountant.payableInitiatedAt now
  | .scanError now => NotBefore s.accountant.payableInitiatedAt now
  | .scanForPendingPayables _ => ∀ row ∈ s.accountant.pendingPayable, row.processError = none →
      row.attempt < 2 ^ 16
  | .reportTransactionReceipts results now =>
      NotBefore s.accountant.pendingPayableInitiatedAt now ∧
      s.accountant.totalPaidPayableWei.val + (((results.zip (s.request.getD [])).map Prod.snd).map
        fun fingerprint => fingerprint.amount.val).sum < 2 ^ 128
  | .receiptsFailed now => NotBefore s.accountant.pendingPayableInitiatedAt now

instance (s : PaymentSystem) (event : PaymentEvent) : Decidable (Legal s event) := by
  unfold Legal
  split <;> infer_instance

instance (s : PaymentSystem) (event : PaymentEvent) : Decidable (AfterResult s event) := by
  unfold AfterResult
  split <;> infer_instance

instance (config : AccountantConfig) (s : PaymentSystem) (event : PaymentEvent) :
    Decidable (Bookable config s event) := by
  unfold Bookable
  split <;> infer_instance

instance (initiatedAtOpt : Option SystemTime) (now : SystemTime) :
    Decidable (NotBefore initiatedAtOpt now) :=
  inferInstanceAs (Decidable (∀ timestamp ∈ initiatedAtOpt, timestamp.nanos ≤ now.nanos))

instance (config : AccountantConfig) (s : PaymentSystem) (event : PaymentEvent) :
    Decidable (Timely config s event) := by
  unfold Timely
  split <;> infer_instance

/-! ### Step by step -/

variable {now : SystemTime} {timely : Prop}

lemma markAsEnded_eq_ok (returned : markAsEnded initiatedAtOpt now = .ok ended) : ended = none := by
  unfold markAsEnded at returned
  split at returned
  · split at returned
    · cases returned
      rfl
    · cases returned
  · cases returned
    rfl

lemma markAsEnded_ok (timely : NotBefore initiatedAtOpt now) :
    markAsEnded initiatedAtOpt now = .ok none := by
  cases initiatedAtOpt with
  | none => rfl
  | some timestamp => rw [markAsEnded, if_pos (timely timestamp rfl)]

/-- The result of a step is consistent if there is one, and there is one in time. -/
structure Sound (timely : Prop) (result : Except Panic PaymentSystem) : Prop where
  keeps : ∀ next, result = .ok next → Consistent next
  returns : timely → ∃ next, result = .ok next

lemma sound_ok {next} (consistent : Consistent next) :
    Sound timely (.ok next) where
  keeps _ same := Except.ok.inj same ▸ consistent
  returns _ := ⟨next, rfl⟩

/-- Handlers end a scan with a clock reading. -/
lemma sound_markAsEnded {finish : Option SystemTime → PaymentSystem} (consistent : Consistent (finish none))
    (notBefore : timely → NotBefore initiatedAtOpt now) :
    Sound timely (do
      let initiatedAtOpt ← markAsEnded initiatedAtOpt now
      return finish initiatedAtOpt) where
  keeps next returned := by
    obtain ⟨ended, marked, built⟩ := ok_of_bind returned
    cases built
    cases markAsEnded_eq_ok marked
    exact consistent
  returns isTimely := ⟨finish none, by rw [markAsEnded_ok (notBefore isTimely)]; rfl⟩

section

variable (p : Profile) (config : AccountantConfig) {s : PaymentSystem} {timestamp : SystemTime}

abbrev StepSound (s : PaymentSystem) (event : PaymentEvent) : Prop :=
  Sound (Timely config s event) (step p config s event)

/-! ### Services consumed -/

/-- Without a usable timestamp only charges to own wallets, which are not recorded, return. -/
lemma recordCharges_of_bad_clock {panic} (clock : toTimeT timestamp = .error panic)
    {rows grown charges} (returned : recordCharges p config timestamp rows charges = .ok grown) :
    grown = rows ∧ config.recorded charges = [] := by
  induction charges generalizing rows with
  | nil =>
    cases returned
    exact ⟨rfl, rfl⟩
  | cons charge charges ih =>
    obtain ⟨wallet, amount⟩ := charge
    by_cases ours : config.ourWallet wallet = true
    · simp only [recordCharges, recordServiceConsumed, ours, ↓reduceIte, ok_bind] at returned
      obtain ⟨same, none_⟩ := ih returned
      exact ⟨same, by simpa [AccountantConfig.recorded, ours] using none_⟩
    · simp [recordCharges, recordServiceConsumed, ours, moreMoneyPayable, clock] at returned

/-- Wallets that are not charged keep a balance that is stored already. -/
lemma bookable_balances (consistent : Consistent s)
    (bookable : Bookable config s (.servicesConsumed msg)) (wallet) :
    balanceOf s.accountant.payable wallet + chargedTo (config.recorded msg.charges) wallet < 2 ^ 126 := by
  by_cases charged : wallet ∈ (config.recorded msg.charges).map Prod.fst
  · obtain ⟨charge, member, rfl⟩ := mem_map.mp charged
    exact bookable charge member
  · have nothing : chargedTo (config.recorded msg.charges) wallet = 0 :=
      chargedTo_absent fun charge member same => charged (same ▸ mem_map_of_mem member)
    have stored := balanceOf_lt consistent.tables.wallets wallet
    omega

lemma servicesConsumed_sound (consistent : Consistent s)
    (bookable : Bookable config s (.servicesConsumed msg)) :
    StepSound p config s (.servicesConsumed msg) := by
  cases clock : toTimeT msg.timestamp with
  | error panic =>
    refine ⟨fun next stepped => ?_, fun timely => ?_⟩
    case refine_2 => simp [Timely, clock, Except.isOk, Except.toBool] at timely
    obtain ⟨accountant, handled, built⟩ := ok_of_bind stepped
    obtain ⟨grown, recorded, charged⟩ := ok_of_bind handled
    cases charged
    cases built
    obtain ⟨same, none_⟩ := recordCharges_of_bad_clock p config clock recorded
    refine consistent_grown consistent ?_
    rw [same, none_]
    exact grown_refl consistent.tables.wallets consistent.tables.nonneg
  | ok time =>
    obtain ⟨grown, recorded, growth⟩ := recordCharges_grown p consistent.tables.wallets
      consistent.tables.nonneg clock config (bookable_balances config consistent bookable)
    have stepped : step p config s (.servicesConsumed msg) = .ok { s with
        accountant := { s.accountant with payable := grown }
        charges := s.charges ++ config.recorded msg.charges } := by
      simp [step, handleReportServicesConsumedMessage, recorded]
    rw [StepSound, stepped]
    exact sound_ok (consistent_grown consistent growth)

/-! ### A scan for payables -/

variable {now : SystemTime}

lemma payableExceededThreshold_returns (calculable : Calculable t)
    (earlier : payable.lastPaidTimestamp.nanos ≤ now.nanos) :
    ∃ threshold, payableExceededThreshold p t payable now = .ok threshold := by
  obtain ⟨permanent, -, permanentOk⟩ := gweiToWei_u128 p t.permanentDebtAllowedGwei
  obtain ⟨age, aged⟩ : ∃ age, durationSinceAsSecs now payable.lastPaidTimestamp = some age := by
    simp [durationSinceAsSecs, earlier]
  obtain ⟨threshold, -, thresholdOk⟩ := calculateFiniteDebtLimitByAge_ok p calculable.descends age
  simp only [payableExceededThreshold, aged, permanentOk, ok_bind,
    PayableThresholdsGauge.calculatePayoutThresholdInGwei, thresholdOk]
  split
  · exact ⟨_, rfl⟩
  · split
    · exact ⟨_, rfl⟩
    · split <;> exact ⟨_, rfl⟩

/-- The mark of a scan that has just been begun can be taken away. -/
lemma markAsEnded_now : markAsEnded (some now) now = .ok none := if_pos (Int.le_refl _)

/-- Nothing happens, or the scan takes some of the accounts without a pending payment. -/
lemma step_scanForPayables : step p config s (.scanForPayables now) = .ok s ∨
    s.accountant.payableInitiatedAt = none ∧ step p config s (.scanForPayables now) = (do
      let offered ← nonPendingPayables s.accountant.payable
      let accounts ← sniffOutAlarmingPayables p config now offered
      return if accounts.isEmpty then s else { s with
        accountant := { s.accountant with payableInitiatedAt := some now }
        batches := s.batches ++ [⟨accounts, none⟩] }) := by
  simp only [step, handleRequestOfScanForPayable, beginPayableScan]
  split
  · split
    · exact .inl rfl
    · next unlocked =>
      refine .inr ⟨unlocked, ?_⟩
      simp only [bind_assoc]
      refine bind_congr fun offered => bind_congr fun accounts => ?_
      split
      · rw [markAsEnded_now, ← unlocked]
        rfl
      · rfl
  · exact .inl rfl

lemma consistent_begun (consistent : Consistent s) (unlocked : s.accountant.payableInitiatedAt = none)
    (noError : s.scanErrors = 0) (filled : accounts ≠ []) (sub : accounts.Sublist offered)
    (read : nonPendingPayables s.accountant.payable = .ok offered) :
    Consistent { s with
      accountant := { s.accountant with payableInitiatedAt := some now }
      batches := s.batches ++ [⟨accounts, none⟩] } := by
  -- the mark excludes a second batch
  have noBatch : s.batches = [] := consistent.locked unlocked
  obtain ⟨distinct, rows⟩ := nonPendingPayables_eq_ok consistent.tables.wallets read
  have inFlight : ({ s with
      accountant := { s.accountant with payableInitiatedAt := some now }
      batches := s.batches ++ [⟨accounts, none⟩] } : PaymentSystem).inFlight = s.inFlight := by
    simp [PaymentSystem.inFlight]
  refine ⟨consistent.signed, inFlight ▸ consistent.tables, by simp [noBatch], ?_, ?_, ?_,
    consistent.booked, consistent.confirmedSigned, consistent.confirmedOnce,
    consistent.confirmedGone, consistent.requested⟩
  · intro batch member
    rw [noBatch, nil_append, mem_singleton] at member
    subst member
    refine ⟨filled, distinct.sublist (sub.map _), ?_, fun hashes none_ => by cases none_⟩
    intro account isAccount
    obtain ⟨row, inTable, sameWallet, isNone, balance, -⟩ := rows account (sub.subset isAccount)
    exact ⟨row, inTable, sameWallet, isNone, Int.le_of_eq balance.symm⟩
  · intro none_
    cases none_
  · intro errors
    rw [noError] at errors
    cases errors

lemma scanForPayables_sound (consistent : Consistent s) (bookable : Bookable config s (.scanForPayables now)) :
    StepSound p config s (.scanForPayables now) := by
  rcases step_scanForPayables p config with idle | ⟨unlocked, begins⟩
  · rw [StepSound, idle]
    exact sound_ok consistent
  · rw [StepSound, begins]
    constructor
    · intro next returned
      obtain ⟨offered, read, returned⟩ := ok_of_bind returned
      obtain ⟨accounts, sniffed, returned⟩ := ok_of_bind returned
      cases returned
      split
      · exact consistent
      · next filled =>
        obtain ⟨selected, sub, -, builds⟩ := queryMap_eq_ok sniffed
        have same : selected = accounts := forall₂_eq_eq_eq ▸ builds.imp fun _ _ built => Except.ok.inj built
        have noError : s.scanErrors = 0 := bookable.resolve_right fun locked => locked unlocked
        exact consistent_begun consistent unlocked noError (by simpa using filled) (same ▸ sub) read
    · rintro ⟨calculable, earlier⟩
      obtain ⟨offered, read⟩ := nonPendingPayables_returns consistent.tables.nonneg
      -- every account offered is older than now, so it can be judged
      have judged : ∀ account ∈ offered, ∃ chosen, (do
          let threshold ← payableExceededThreshold p config.paymentThresholds account now
          return threshold.isSome) = .ok chosen := by
        intro account isOffered
        obtain ⟨row, member, -, -, -, paid⟩ :=
          (nonPendingPayables_eq_ok consistent.tables.wallets read).2 account isOffered
        obtain ⟨threshold, exceeded⟩ :=
          payableExceededThreshold_returns p calculable (paid ▸ earlier row member)
        exact ⟨threshold.isSome, by rw [exceeded]; rfl⟩
      obtain ⟨accounts, sniffed⟩ := queryMap_returns judged fun account _ _ => ⟨account, rfl⟩
      exact ⟨_, by rw [read, ok_bind, sniffOutAlarmingPayables, sniffed]; rfl⟩

/-! ### The batch on its way -/

/-- Nothing signed is on its way and no batch remains. -/
lemma consistent_idle (consistent : Consistent s) (landed : s.inFlight = []) (idle : batches = []) :
    Consistent { s with
      accountant := { s.accountant with payableInitiatedAt := lock }, batches, scanErrors } := by
  subst idle
  refine ⟨consistent.signed, ?_, Nat.zero_le 1, ?_, fun _ => rfl, fun _ => rfl, consistent.booked,
    consistent.confirmedSigned, consistent.confirmedOnce, consistent.confirmedGone,
    consistent.requested⟩
  · have tables := consistent.tables
    rw [landed] at tables
    exact tables
  · intro batch member
    cases member

lemma agentFailed_sound (consistent : Consistent s) :
    Sound timely (step p config s (.agentFailed batch)) := by
  simp only [step]
  split
  · next accounts present =>
    obtain ⟨rfl, batches⟩ := batches_eq_singleton consistent present
    have idle : s.batches.eraseIdx 0 = [] := by simp [batches]
    exact sound_ok (consistent_idle consistent (inFlight_of_batches batches) idle)
  · exact sound_ok consistent

lemma recipientOf_signed_later {payments later hash} (isSigned : hash ∈ payments.map Payment.hash) :
    recipientOf (payments ++ later) hash = recipientOf payments hash := by
  obtain ⟨payment, member, same⟩ := mem_map.mp isSigned
  have found : (payments.find? fun payment => decide (payment.hash = hash)).isSome := by
    rw [find?_isSome]
    exact ⟨payment, member, decide_eq_true same⟩
  obtain ⟨first, isFirst⟩ := Option.isSome_iff_exists.mp found
  rw [recipientOf, recipientOf, find?_append, isFirst]
  rfl

lemma paidTo_signed_later {payments later confirmed}
    (signed : ∀ fingerprint ∈ confirmed, fingerprint.hash ∈ payments.map Payment.hash) (wallet) :
    paidTo (payments ++ later) confirmed wallet = paidTo payments confirmed wallet := by
  have same : ∀ fingerprint ∈ confirmed,
      decide (recipientOf (payments ++ later) fingerprint.hash = some wallet) =
        decide (recipientOf payments fingerprint.hash = some wallet) := by
    intro fingerprint member
    rw [recipientOf_signed_later (signed fingerprint member)]
  rw [paidTo, paidTo, filter_congr same]

section

variable (consistent : Consistent s)
include consistent

lemma consistent_seeded (batches : s.batches = [⟨accounts, none⟩])
    (sameLength : hashes.length = accounts.length)
    (distinct : (s.payments.map Payment.hash ++ hashes).Nodup)
    (records : Forall₂ Records inserted (paymentsOf accounts hashes))
    (rowids : ((s.accountant.pendingPayable ++ inserted).map PendingPayableRow.rowid).Nodup) :
    Consistent { s with
      accountant := { s.accountant with pendingPayable := s.accountant.pendingPayable ++ inserted }
      payments := s.payments ++ paymentsOf accounts hashes
      batches := [⟨accounts, some hashes⟩] } := by
  have newHashes := map_hash_paymentsOf sameLength
  have insertedHashes : inserted.map PendingPayableRow.transactionHash = hashes :=
    (map_eq_of_forall₂ records fun _ _ same => same.1).symm.trans newHashes
  have signed : ((s.payments ++ paymentsOf accounts hashes).map Payment.hash).Nodup := by
    rw [map_append, newHashes]
    exact distinct
  obtain ⟨-, distinctNew, fresh⟩ := nodup_append.mp distinct
  have tables := consistent.tables
  rw [inFlight_of_batches batches] at tables
  have seeded := tablesAgree_seeded tables records rowids signed
  rw [newHashes] at seeded
  obtain ⟨nonempty, wallets, waiting, -⟩ := consistent.ready ⟨accounts, none⟩ (by simp [batches])
  refine ⟨signed, ?_, Nat.le_refl 1, ?_, ?_, ?_, ?_, ?_, consistent.confirmedOnce, ?_, ?_⟩
  · simpa [PaymentSystem.inFlight] using seeded
  · intro batch member
    rw [mem_singleton] at member
    subst member
    refine ⟨nonempty, wallets, waiting, ?_⟩
    rintro _ ⟨⟩
    refine ⟨sameLength, distinctNew, ?_, fun payment member => mem_append_right _ member⟩
    intro hash isNew
    rw [← insertedHashes] at isNew
    obtain ⟨fingerprint, member, same⟩ := mem_map.mp isNew
    exact ⟨fingerprint, mem_append_right _ member, same⟩
  -- the batch is still there, so the mark is as well
  · intro unlocked
    have none_ := consistent.locked unlocked
    rw [batches] at none_
    cases none_
  · intro errors
    have none_ := consistent.failed errors
    rw [batches] at none_
    cases none_
  -- a later signature does not change who was paid by an earlier one
  · intro wallet
    rw [paidTo_signed_later consistent.confirmedSigned]
    exact consistent.booked wallet
  · intro fingerprint isConfirmed
    rw [map_append]
    exact mem_append_left _ (consistent.confirmedSigned fingerprint isConfirmed)
  · intro fingerprint isConfirmed
    rw [map_append, insertedHashes, mem_append, not_or]
    refine ⟨consistent.confirmedGone fingerprint isConfirmed, ?_⟩
    intro isNew
    exact fresh _ (consistent.confirmedSigned fingerprint isConfirmed) _ isNew rfl
  · intro fingerprints requested
    obtain ⟨distinctRowids, known⟩ := consistent.requested fingerprints requested
    refine ⟨distinctRowids, fun fingerprint member => ?_⟩
    obtain ⟨clock, payment, isSigned, same⟩ := known fingerprint member
    exact ⟨clock, payment, mem_append_left _ isSigned, same⟩

lemma fingerprintSeeds_sound (legal : Legal s (.fingerprintSeeds batch hashes timestamp)) :
    StepSound p config s (.fingerprintSeeds batch hashes timestamp) := by
  simp only [StepSound, step]
  split
  · next accounts present =>
    obtain ⟨sameLength, distinct⟩ := legal _ present rfl
    obtain ⟨-, distinctNew, fresh⟩ := nodup_append.mp distinct
    obtain ⟨rfl, batches⟩ := batches_eq_singleton consistent present
    have newHashes := map_hash_paymentsOf sameLength
    obtain ⟨nonempty, -, waiting, -⟩ := consistent.ready ⟨accounts, none⟩ (by simp [batches])
    -- the clock is the only thing that can stop the insertion
    cases clock : toTimeT timestamp with
    | error panic =>
      have stopped : handleNewPendingPayableFingerprints s.accountant
          (hashesAndAmountsOf (paymentsOf accounts hashes)) timestamp = .error panic := by
        simp [handleNewPendingPayableFingerprints, insertNewFingerprints, clock]
      rw [stopped]
      refine ⟨fun _ returned => (by cases returned), fun timely => ?_⟩
      simp [Timely, clock, Except.isOk, Except.toBool] at timely
    | ok time =>
      have filled : paymentsOf accounts hashes ≠ [] := by
        intro empty
        rw [empty] at newHashes
        rw [← newHashes] at sameLength
        exact nonempty (length_eq_zero_iff.mp sameLength.symm)
      have fits : ∀ payment ∈ paymentsOf accounts hashes, payment.amount.val < 2 ^ 126 := by
        intro payment member
        obtain ⟨-, account, isAccount, -, amount⟩ := mem_paymentsOf member
        obtain ⟨row, -, -, -, covered⟩ := waiting account isAccount
        have stored : row.balance.value < 2 ^ 126 := row.balance.value_fits.2
        rw [amount]
        omega
      -- the hashes are new, and every fingerprint is of an earlier payment
      have unused : ∀ payment ∈ paymentsOf accounts hashes,
          payment.hash ∉ s.accountant.pendingPayable.map PendingPayableRow.transactionHash := by
        intro payment member isOld
        obtain ⟨fingerprint, inTable, same⟩ := mem_map.mp isOld
        obtain ⟨old, isSigned, oldHash, -⟩ := consistent.tables.recorded fingerprint inTable
        refine fresh old.hash (mem_map_of_mem isSigned) payment.hash (mem_paymentsOf member).1 ?_
        rw [oldHash, same]
      obtain ⟨inserted, handled, records, rowids⟩ := handleNewPendingPayableFingerprints_ok clock
        filled fits consistent.tables.rowids (newHashes.symm ▸ distinctNew) unused
      simp only [handled, ok_bind, batches, set_cons_zero]
      exact sound_ok (consistent_seeded consistent batches sameLength distinct records rowids)
  · exact sound_ok consistent

lemma sentPayables_sound {outcome : BatchOutcome} (legal : Legal s (.sentPayables batch outcome now)) :
    StepSound p config s (.sentPayables batch outcome now) := by
  simp only [StepSound, step]
  split
  · next accounts hashes responses present =>
    have answered := legal _ present (Option.some_ne_none _)
    obtain ⟨rfl, batches⟩ := batches_eq_singleton consistent present
    have tables := consistent.tables
    rw [inFlight_of_batches batches, Option.getD_some] at tables
    obtain ⟨sent, failed, pairs, separated, marks, finished⟩ := finishPayableScan_answered tables
      (consistent.ready ⟨accounts, some hashes⟩ (by simp [batches])) now answered
    simp only [finishBatch, finished, batchEnded, bind_assoc, pure_bind, batches, eraseIdx_cons_zero]
    refine sound_markAsEnded ?_ id
    exact consistent_sent consistent batches separated marks _
  -- the whole call failed: everything signed is discarded
  · next accounts hashes msg present =>
    obtain ⟨rfl, batches⟩ := batches_eq_singleton consistent present
    have tables := consistent.tables
    rw [inFlight_of_batches batches, Option.getD_some] at tables
    obtain ⟨pairs, marks, finished⟩ := finishPayableScan_sendingFailed tables
      (consistent.ready ⟨accounts, some hashes⟩ (by simp [batches])) msg now
    simp only [finishBatch, finished, batchEnded, bind_assoc, pure_bind, batches, eraseIdx_cons_zero]
    refine sound_markAsEnded ?_ id
    exact consistent_sent consistent batches (separated_failed accounts hashes) marks _
  -- nothing was signed, so only the mark goes
  · next accounts error present =>
    obtain ⟨rfl, batches⟩ := batches_eq_singleton consistent present
    have finished : finishPayableScan s.accountant (.error error) now = (do
        let payableInitiatedAt ← markAsEnded s.accountant.payableInitiatedAt now
        return { s.accountant with payableInitiatedAt }) := by
      cases error with
      | sending msg hashes => exact legal.elim
      | _ => rfl
    simp only [finishBatch, finished, bind_assoc, pure_bind, batches, eraseIdx_cons_zero]
    refine sound_markAsEnded ?_ id
    exact consistent_idle consistent (inFlight_of_batches batches) rfl
  · exact sound_ok consistent

lemma scanError_sound : StepSound p config s (.scanError now) := by
  simp only [StepSound, step]
  split
  · exact sound_ok consistent
  · next scanErrors errors =>
    -- an error is only on its way once its batch is gone
    have idle : s.batches = [] := consistent.failed (by omega)
    have landed : s.inFlight = [] := by simp [PaymentSystem.inFlight, idle]
    refine sound_markAsEnded ?_ id
    exact consistent_idle consistent landed idle

end

/-! ### A scan for pending payables -/

/-- What the accountant asks receipts for: stored fingerprints, as they are at that moment. -/
lemma returnAllErrorlessFingerprints_eq_ok (unique : (rows.map PendingPayableRow.rowid).Nodup)
    (returned : returnAllErrorlessFingerprints rows = .ok fingerprints) :
    (fingerprints.map rowid).Nodup ∧
      ∀ fingerprint ∈ fingerprints, ∃ row ∈ rows, fingerprint.hash = row.transactionHash ∧
        fingerprint.amount.val = row.amount.value ∧
        fingerprint.timestamp = fromTimeT row.payableTimestamp := by
  obtain ⟨selected, sub, -, builds⟩ := queryMap_eq_ok returned
  constructor
  · have same : fingerprints.map rowid =
        selected.map PendingPayableRow.rowid :=
      map_eq_of_forall₂ builds fun row fingerprint created => (createFingerprint_eq_ok created).1
    rw [same]
    exact unique.sublist (sub.map _)
  · intro fingerprint member
    obtain ⟨row, isSelected, created⟩ := forall₂_mem_right builds member
    exact ⟨row, sub.subset isSelected, (createFingerprint_eq_ok created).2⟩

lemma step_scanForPendingPayables : step p config s (.scanForPendingPayables now) = .ok s ∨
    step p config s (.scanForPendingPayables now) = (do
      let fingerprints ← returnAllErrorlessFingerprints s.accountant.pendingPayable
      return if fingerprints.isEmpty then s else { s with
        accountant := { s.accountant with pendingPayableInitiatedAt := some now }
        request := some fingerprints }) := by
  simp only [step, handleRequestOfScanForPendingPayable, beginPendingPayableScan]
  split
  · split
    · exact .inl rfl
    · next unlocked =>
      refine .inr ?_
      simp only [bind_assoc]
      refine bind_congr fun fingerprints => ?_
      split
      · rw [markAsEnded_now, ← unlocked]
        rfl
      · rfl
  · exact .inl rfl

lemma toTimeT_fromTimeT (timeT) : ∃ time, toTimeT (fromTimeT timeT) = .ok time := by
  refine ⟨timeT, toTimeT_eq_ok.mpr ⟨?_, ?_⟩⟩
  · have nonneg := timeT.secs_nonneg
    simp only [fromTimeT, nanosInSecond]
    omega
  · simp only [fromTimeT, nanosInSecond]
    omega

lemma consistent_requested (consistent : Consistent s)
    (read : returnAllErrorlessFingerprints s.accountant.pendingPayable = .ok fingerprints) :
    Consistent { s with
      accountant := { s.accountant with pendingPayableInitiatedAt := some now }
      request := some fingerprints } := by
  refine { consistent with requested := ?_, ready := ?_ }
  · exact fun batch member => { consistent.ready batch member with }
  · rintro _ ⟨⟩
    obtain ⟨distinct, stored⟩ := returnAllErrorlessFingerprints_eq_ok consistent.tables.rowids read
    refine ⟨distinct, fun fingerprint member => ?_⟩
    obtain ⟨row, inTable, hash, amount, timestamp⟩ := stored fingerprint member
    obtain ⟨payment, isSigned, sameHash, sameAmount⟩ := consistent.tables.recorded row inTable
    refine ⟨timestamp ▸ toTimeT_fromTimeT row.payableTimestamp, payment, isSigned, ?_, ?_⟩
    · rw [sameHash, hash]
    · rw [sameAmount, amount]

lemma scanForPendingPayables_sound (consistent : Consistent s) :
    StepSound p config s (.scanForPendingPayables now) := by
  rcases step_scanForPendingPayables p config with idle | begins
  · rw [StepSound, idle]
    exact sound_ok consistent
  · rw [StepSound, begins]
    constructor
    · intro next returned
      obtain ⟨fingerprints, read, returned⟩ := ok_of_bind returned
      cases returned
      split
      · exact consistent
      · exact consistent_requested consistent read
    · intro readable
      have nonneg : ∀ row ∈ s.accountant.pendingPayable, 0 ≤ row.amount.value := by
        intro row inTable
        obtain ⟨payment, -, -, amount⟩ := consistent.tables.recorded row inTable
        exact amount ▸ (U128.bounds payment.amount).1
      obtain ⟨fingerprints, read⟩ : ∃ fingerprints,
          returnAllErrorlessFingerprints s.accountant.pendingPayable = .ok fingerprints := by
        refine queryMap_returns (fun _ _ => ⟨_, rfl⟩) ?_
        intro row member selected
        have errorless : row.processError = none := by simpa using Except.ok.inj selected
        obtain ⟨fingerprint, created, -⟩ :=
          createFingerprint_ok (readable row member errorless) (nonneg row member)
        exact ⟨fingerprint, created⟩
      exact ⟨_, by rw [read]; rfl⟩

/-! ### Receipts -/

lemma amount_nonneg (fingerprint : PendingPayableFingerprint) : 0 ≤ fingerprint.amount.val :=
  (U128.bounds fingerprint.amount).1

lemma addToTheTotalOfPaidPayable_ok (total : U128) (fingerprints : List PendingPayableFingerprint)
    (fits : total.val + (fingerprints.map fun fingerprint => fingerprint.amount.val).sum < 2 ^ 128) :
    ∃ sum, addToTheTotalOfPaidPayable p total fingerprints = .ok sum := by
  induction fingerprints generalizing total with
  | nil => exact ⟨total, rfl⟩
  | cons fingerprint fingerprints ih =>
    rw [map_cons, sum_cons] at fits
    have totalBounds := U128.bounds total
    have amountBounds := U128.bounds fingerprint.amount
    have rest : 0 ≤ (fingerprints.map fun fingerprint => fingerprint.amount.val).sum :=
      sum_map_le_of_sublist amount_nonneg (nil_sublist fingerprints)
    have holds : u128.Holds (total.val + fingerprint.amount.val) := by
      rw [u128_holds]
      omega
    have fitsRest : total.val + fingerprint.amount.val +
        (fingerprints.map fun fingerprint => fingerprint.amount.val).sum < 2 ^ 128 := by omega
    obtain ⟨sum, added⟩ := ih ⟨_, holds⟩ fitsRest
    exact ⟨sum, by rw [addToTheTotalOfPaidPayable, Word.add, arith_ok p holds, ok_bind, added]⟩

variable {results : List TransactionReceiptResult}

section

variable (consistent : Consistent s)
include consistent

section

variable (afterResult : AfterResult s (.reportTransactionReceipts results now))
  (bookable : Bookable config s (.reportTransactionReceipts results now))
include afterResult bookable

/-- What a report may confirm after the batch results were handled, if nothing was deleted. -/
lemma reported_confirmable (requested : s.request = some fingerprints) :
    (((results.zip fingerprints).map Prod.snd).map rowid).Nodup ∧
      Confirmable s.accountant.pendingPayable s.payments s.inFlight
        (handleReceiptsForPendingTransactions (results.zip fingerprints)).confirmed := by
  obtain ⟨distinct, known⟩ := consistent.requested fingerprints requested
  have reported := map_snd_zip_sublist results fingerprints
  have confirmed := report_confirmed_sublist (results.zip fingerprints)
  simp only [AfterResult, Bookable, requested, Option.getD_some] at afterResult bookable
  have distinctReported := distinct.sublist (reported.map rowid)
  refine ⟨distinctReported, distinctReported.sublist (confirmed.map _), ?_, ?_, afterResult, ?_⟩
  · exact fun fingerprint member => (known fingerprint (reported.subset (confirmed.subset member))).1
  · exact fun fingerprint member => bookable fingerprint (confirmed.subset member)
  · exact fun fingerprint member => (known fingerprint (reported.subset (confirmed.subset member))).2

/-- A report, up to the statistic and the clock reading, settles what it confirms. -/
lemma report_eq (requested : s.request = some fingerprints) :
    ∃ booked, Booked (handleReceiptsForPendingTransactions (results.zip fingerprints)).confirmed
        s.accountant booked ∧
      step p config s (.reportTransactionReceipts results now) = (do
        let accountant ← reportEnded p s.accountant booked
          (handleReceiptsForPendingTransactions (results.zip fingerprints)).confirmed now
        return { s with
          accountant
          request := none
          confirmed := s.confirmed ++
            (handleReceiptsForPendingTransactions (results.zip fingerprints)).confirmed }) := by
  obtain ⟨distinct, confirmable⟩ := reported_confirmable config consistent afterResult bookable requested
  simp only [Bookable, requested, Option.getD_some] at bookable
  have stored : ∀ fingerprint ∈ (results.zip fingerprints).map Prod.snd,
      ∃ row ∈ s.accountant.pendingPayable, row.rowid = fingerprint.rowid := by
    intro fingerprint member
    obtain ⟨row, inTable, sameRowid, -⟩ := bookable fingerprint member
    exact ⟨row, inTable, sameRowid⟩
  obtain ⟨booked, isBooked, finished⟩ := finishPendingPayableScan_eq p now consistent.signed
    consistent.tables distinct stored rfl confirmable
  refine ⟨booked, isBooked, ?_⟩
  simp only [step, requested, finished]

lemma reportTransactionReceipts_sound :
    StepSound p config s (.reportTransactionReceipts results now) := by
  cases requested : s.request with
  | none =>
    simp only [StepSound, step, requested]
    exact sound_ok consistent
  | some fingerprints =>
    obtain ⟨-, confirmable⟩ := reported_confirmable config consistent afterResult bookable requested
    obtain ⟨booked, isBooked, stepped⟩ := report_eq p config consistent afterResult bookable requested
    rw [StepSound, stepped]
    constructor
    · intro next returned
      obtain ⟨accountant, ended, built⟩ := ok_of_bind returned
      cases built
      exact consistent_reported consistent confirmable (isBooked.ended ended)
    · rintro ⟨notBefore, fits⟩
      rw [requested, Option.getD_some] at fits
      have part := sum_map_le_of_sublist amount_nonneg (report_confirmed_sublist (results.zip fingerprints))
      obtain ⟨total, added⟩ := addToTheTotalOfPaidPayable_ok p s.accountant.totalPaidPayableWei
        (handleReceiptsForPendingTransactions (results.zip fingerprints)).confirmed (by omega)
      exact ⟨_, by rw [reportEnded, added, markAsEnded_ok notBefore]; rfl⟩

end

lemma receiptsFailed_sound : StepSound p config s (.receiptsFailed now) := by
  simp only [StepSound, step]
  split
  · exact sound_ok consistent
  · refine sound_markAsEnded ?_ id
    refine { consistent with requested := fun _ none_ => (by cases none_), ready := ?_ }
    exact fun batch member => { consistent.ready batch member with }

/-- What one step does, whatever the event. -/
lemma step_sound (legal : Legal s event) (afterResult : AfterResult s event)
    (bookable : Bookable config s event) : StepSound p config s event := by
  cases event with
  | servicesConsumed msg => exact servicesConsumed_sound p config consistent bookable
  | scanForPayables now => exact scanForPayables_sound p config consistent bookable
  | agentFailed batch => exact agentFailed_sound p config consistent
  | fingerprintSeeds batch hashes timestamp => exact fingerprintSeeds_sound p config consistent legal
  | sentPayables batch outcome now => exact sentPayables_sound p config consistent legal
  | scanError now => exact scanError_sound p config consistent
  | scanForPendingPayables now => exact scanForPendingPayables_sound p config consistent
  | reportTransactionReceipts results now =>
    exact reportTransactionReceipts_sound p config consistent afterResult bookable
  | receiptsFailed now => exact receiptsFailed_sound p config consistent

end

end

end PulseMesh.Accountant
