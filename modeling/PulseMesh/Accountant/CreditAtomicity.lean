import PulseMesh.Accountant.ReceivedPayments

/-!
# Received payments are credited completely or not at all

A failing database call never leads to a commit, so what can be durable is decided by the run
without failures.  That run treats the rows independently: each is credited with the payments
of its own wallet, in order.
-/

namespace PulseMesh.Accountant

open Machine Blockchain BlockchainTransaction ReceivableRow List

def amountsFrom (wallet : Wallet) (payments : List BlockchainTransaction) : List U128 :=
  (payments.filter fun payment => decide (payment.sender = wallet)).map
    BlockchainTransaction.weiAmount

def totalWei (amounts : List U128) : Int := (amounts.map Word.val).sum

def paidBy (wallet : Wallet) (payments : List BlockchainTransaction) : Int :=
  totalWei (amountsFrom wallet payments)

@[simp] lemma totalWei_nil : totalWei [] = 0 := rfl

@[simp] lemma totalWei_cons (amount amounts) :
    totalWei (amount :: amounts) = amount.val + totalWei amounts := by
  simp [totalWei]

lemma totalWei_sublist (sub : amounts.Sublist others) : totalWei amounts ≤ totalWei others :=
  Rows.sum_map_le_of_sublist (fun amount => (U128.bounds amount).1) sub

lemma totalWei_nonneg (amounts) : 0 ≤ totalWei amounts := totalWei_sublist (nil_sublist amounts)

lemma amountsFrom_cons (wallet payment payments) :
    amountsFrom wallet (payment :: payments) =
      if payment.sender = wallet then payment.weiAmount :: amountsFrom wallet payments
      else amountsFrom wallet payments := by
  by_cases sent : payment.sender = wallet <;> simp [amountsFrom, sent]

/-! ### One row -/

/-- A balance after a list of payments. -/
def creditBalance (p : Profile) (balance : SplitInt) : List U128 → Except Panic SplitInt
  | [] => .ok balance
  | amount :: amounts => do
    let weiChange ← weiChangeAsHighAndLowBytes p ⟨amount, .subtraction⟩
    let credited ← changeBalance p balance weiChange
    creditBalance p credited amounts

/-- The payments that have a split form. -/
def Small (amount : U128) : Prop := amount.val ≤ 2 ^ 126

instance (amount : U128) : Decidable (Small amount) := inferInstanceAs (Decidable (_ ≤ _))

variable {amount : U128}

variable {bytes : SplitInt}

lemma small_of_weiChange (built : weiChangeAsHighAndLowBytes p ⟨amount, .subtraction⟩ = .ok bytes) :
    Small amount ∧ bytes.value = -amount.val := by
  have value : bytes.value = -amount.val := (weiChangeAsHighAndLowBytes_eq_ok p).mp built
  have fits := bytes.value_fits
  unfold SplitInt.Fits at fits
  exact ⟨by unfold Small; omega, value⟩

variable {balance : SplitInt}

lemma creditBalance_cons (p amounts)
    (built : weiChangeAsHighAndLowBytes p ⟨amount, .subtraction⟩ = .ok bytes) :
    creditBalance p balance (amount :: amounts) = (do
      let credited ← changeBalance p balance bytes
      creditBalance p credited amounts) := by
  simp only [creditBalance, built, ok_bind]

lemma balance_sub_lt (value : bytes.value = -amount.val) : balance.value + bytes.value < 2 ^ 126 := by
  have fits := balance.value_fits
  have bounds := U128.bounds amount
  unfold SplitInt.Fits at fits
  omega

variable {amounts : List U128}

lemma creditBalance_release_ok (balance) (small : ∀ amount ∈ amounts, Small amount) :
    ∃ credited, creditBalance .release balance amounts = .ok credited := by
  induction amounts generalizing balance with
  | nil => exact ⟨balance, rfl⟩
  | cons amount amounts ih =>
    rw [forall_mem_cons] at small
    obtain ⟨bytes, built, -⟩ := weiChange_subtraction .release small.1
    obtain ⟨changed, changedOk⟩ := changeBalance_release_ok balance bytes
    rw [creditBalance_cons .release amounts built, changedOk]
    exact ih changed small.2

/-- Balances only fall, so the last one decides whether all of them are stored exactly. -/
lemma creditBalance_release_exact (small : ∀ amount ∈ amounts, Small amount)
    (stays : -2 ^ 126 ≤ balance.value - totalWei amounts) :
    ∃ credited, creditBalance .release balance amounts = .ok credited ∧
      credited.value = balance.value - totalWei amounts := by
  induction amounts generalizing balance with
  | nil => exact ⟨balance, rfl, by simp⟩
  | cons amount amounts ih =>
    rw [forall_mem_cons] at small
    rw [totalWei_cons] at stays
    obtain ⟨bytes, built, value⟩ := weiChange_subtraction .release small.1
    have rest := totalWei_nonneg amounts
    have fits : SplitInt.Fits (balance.value + bytes.value) := by
      refine ⟨?_, balance_sub_lt value⟩
      omega
    obtain ⟨changed, changedOk, changedValue⟩ := changeBalance_release_exact fits
    have next : -2 ^ 126 ≤ changed.value - totalWei amounts := by omega
    obtain ⟨credited, creditedOk, creditedValue⟩ := ih small.2 next
    refine ⟨credited, ?_, by rw [totalWei_cons]; omega⟩
    rw [creditBalance_cons .release amounts built, changedOk, ok_bind, creditedOk]

/-- The balances a build with overflow checks can store one after the other. -/
def StorableInTurn (balance : Int) : List U128 → Prop
  | [] => True
  | amount :: amounts =>
    -2 ^ 63 ≤ balance / 2 ^ 63 + -amount.val / 2 ^ 63 ∧ StorableInTurn (balance - amount.val) amounts

lemma creditBalance_storable (p) (small : ∀ amount ∈ amounts, Small amount)
    (storable : StorableInTurn balance.value amounts) :
    ∃ credited, creditBalance p balance amounts = .ok credited ∧
      credited.value = balance.value - totalWei amounts := by
  induction amounts generalizing balance with
  | nil => exact ⟨balance, rfl, by simp⟩
  | cons amount amounts ih =>
    rw [forall_mem_cons] at small
    obtain ⟨bytes, built, value⟩ := weiChange_subtraction p small.1
    have above : -2 ^ 63 ≤ balance.high.val + bytes.high.val := by
      rw [high_eq_value_div, high_eq_value_div, value]
      exact storable.1
    obtain ⟨changed, changedOk, changedValue⟩ := changeBalance_ok p above (balance_sub_lt value)
    have next : StorableInTurn changed.value amounts := by
      rw [changedValue, value]
      exact storable.2
    obtain ⟨credited, creditedOk, creditedValue⟩ := ih small.2 next
    refine ⟨credited, ?_, by rw [totalWei_cons]; omega⟩
    rw [creditBalance_cons p amounts built, changedOk, ok_bind, creditedOk]

variable {credited : SplitInt}

lemma storable_of_creditBalance_debug (returned : creditBalance .debug balance amounts = .ok credited) :
    StorableInTurn balance.value amounts := by
  induction amounts generalizing balance with
  | nil => trivial
  | cons amount amounts ih =>
    obtain ⟨bytes, built, rest⟩ := ok_of_bind returned
    obtain ⟨changed, changedOk, rest⟩ := ok_of_bind rest
    have value := (small_of_weiChange built).2
    have below : balance.value + bytes.value < 2 ^ 126 := balance_sub_lt value
    have above := (changeBalance_debug_iff below).mp ⟨changed, changedOk⟩
    obtain ⟨changed', changedOk', changedValue⟩ := changeBalance_ok .debug above below
    have same : changed' = changed := Except.ok.inj (changedOk'.symm.trans changedOk)
    have next := ih rest
    rw [← same, changedValue, value] at next
    rw [high_eq_value_div, high_eq_value_div, value] at above
    exact ⟨above, next⟩

/-- Balances one radix above the least one can be stored in any order. -/
lemma storableInTurn_of_le {balance} (stays : -2 ^ 126 + 2 ^ 63 ≤ balance - totalWei amounts) :
    StorableInTurn balance amounts := by
  induction amounts generalizing balance with
  | nil => trivial
  | cons amount amounts ih =>
    rw [totalWei_cons] at stays
    have rest := totalWei_nonneg amounts
    exact ⟨by omega, ih (by omega)⟩

/-! ### All rows -/

/-- A row after the payments of its wallet. -/
def creditedRow (p : Profile) (lastReceived : TimeT) (payments : List BlockchainTransaction)
    (row : ReceivableRow) : ReceivableRow :=
  match creditBalance p row.balance (amountsFrom row.wallet payments) with
  | .error _ => row
  | .ok balance =>
    { row with
      balance
      lastReceivedTimestamp :=
        if (amountsFrom row.wallet payments).isEmpty then row.lastReceivedTimestamp
        else lastReceived }

@[simp] lemma creditedRow_wallet (p lastReceived payments row) :
    (creditedRow p lastReceived payments row).wallet = row.wallet := by
  unfold creditedRow
  split <;> rfl

/-- Every row can be credited with what its wallet paid. -/
def Creditable (p : Profile) (rows : List ReceivableRow) (payments : List BlockchainTransaction) :
    Prop :=
  ∀ row ∈ rows, ∃ credited,
    creditBalance p row.balance (amountsFrom row.wallet payments) = .ok credited

/-- The row one payment is credited to. -/
abbrev creditOne (payment : BlockchainTransaction) (bytes : SplitInt) (lastReceived : TimeT)
    (credited : SplitInt) : ReceivableRow → ReceivableRow :=
  overflowRow receivableTable (receivedPaymentConfig payment bytes lastReceived) credited

variable {payment : BlockchainTransaction} {row : ReceivableRow} {lastReceived : TimeT}

lemma creditOne_sender (sent : row.wallet = payment.sender) :
    creditOne payment bytes lastReceived credited row =
      { row with balance := credited, lastReceivedTimestamp := lastReceived } := by
  simp [overflowRow, receivedPaymentConfig, receivableTable, sent]

lemma creditOne_other (other : row.wallet ≠ payment.sender) :
    creditOne payment bytes lastReceived credited row = row := by
  simp [overflowRow, receivedPaymentConfig, other]

lemma creditOne_wallet :
    (creditOne payment bytes lastReceived credited row).wallet = row.wallet := by
  by_cases sent : row.wallet = payment.sender
  · rw [creditOne_sender sent]
  · rw [creditOne_other sent]

section

variable (p : Profile) {timestamp : SystemTime} {rows : List ReceivableRow}

lemma creditedRow_cons_other (other : row.wallet ≠ payment.sender) :
    creditedRow p lastReceived (payment :: payments) row = creditedRow p lastReceived payments row := by
  simp only [creditedRow, amountsFrom_cons, Ne.symm other, if_false]

section

variable (built : weiChangeAsHighAndLowBytes p ⟨payment.weiAmount, .subtraction⟩ = .ok bytes)

section

variable (clock : toTimeT timestamp = .ok lastReceived)
include clock built

lemma process_cons_known (primaryKey : (rows.map wallet).Nodup) (member : row ∈ rows)
    (sent : row.wallet = payment.sender) (position : Nat) :
    processReceivedPayments p noFaults timestamp position rows (payment :: payments) = (do
      let credited ← changeBalance p row.balance bytes
      processReceivedPayments p noFaults timestamp (position + 1)
        (rows.map (creditOne payment bytes lastReceived credited)) payments) := by
  have only : rows.filter (receivedPaymentConfig payment bytes lastReceived).isKey = [row] := by
    rw [← Rows.filter_key_eq_singleton primaryKey member, sent]
    rfl
  have executed := execute_of_single p receivableTable _ only
  simp only [processReceivedPayments, clock, built, ok_bind]
  change (execute p noFaults _ _ rows >>= _) = _
  rw [executed]
  change ((changeBalance p row.balance bytes >>= _) >>= _) = _
  cases changeBalance p row.balance bytes with
  | error panic => rfl
  | ok credited => rfl

lemma process_cons_unknown (unknown : ∀ row ∈ rows, row.wallet ≠ payment.sender) (position : Nat) :
    processReceivedPayments p noFaults timestamp position rows (payment :: payments) =
      processReceivedPayments p noFaults timestamp (position + 1) rows payments := by
  have absent : ∀ row ∈ rows, (receivedPaymentConfig payment bytes lastReceived).isKey row = false := by
    intro row member
    simp [receivedPaymentConfig, unknown row member]
  have executed := execute_of_absent p receivableTable _ absent
  have missing : (rows.any fun row => decide (row.wallet = payment.sender)) = false := by
    rw [any_eq_false]
    intro row member
    simp [unknown row member]
  simp only [processReceivedPayments, clock, built, ok_bind]
  change (execute p noFaults _ _ rows >>= _) = _
  rw [executed]
  simp [receivedPaymentConfig, verifyPossiblyUnknownWallet, noFaults, missing]

end

variable (sent : row.wallet = payment.sender)
include built sent

/-- The payments of a wallet before and after the first payment of the list. -/
lemma creditedRow_cons_sender (changed : changeBalance p row.balance bytes = .ok credited)
    (creditable : ∃ balance, creditBalance p credited (amountsFrom row.wallet payments) = .ok balance) :
    creditedRow p lastReceived (payment :: payments) row =
      creditedRow p lastReceived payments (creditOne payment bytes lastReceived credited row) := by
  obtain ⟨balance, balanceOk⟩ := creditable
  rw [creditOne_sender sent]
  simp only [creditedRow, amountsFrom_cons, sent.symm, if_true, creditBalance_cons p _ built, changed,
    ok_bind, balanceOk, isEmpty_cons]
  simp

variable (member : row ∈ rows)
include member

lemma creditable_cons_sender (creditable : Creditable p rows (payment :: payments)) :
    ∃ credited, changeBalance p row.balance bytes = .ok credited ∧
      ∃ balance, creditBalance p credited (amountsFrom row.wallet payments) = .ok balance := by
  obtain ⟨balance, balanceOk⟩ := creditable row member
  rw [amountsFrom_cons, if_pos sent.symm, creditBalance_cons p _ built] at balanceOk
  obtain ⟨credited, creditedOk, rest⟩ := ok_of_bind balanceOk
  exact ⟨credited, creditedOk, balance, rest⟩

variable (primaryKey : (rows.map wallet).Nodup) {credited : SplitInt}
  (changed : changeBalance p row.balance bytes = .ok credited)
include primaryKey changed

/-- Crediting the rest of the payments after the first one is possible for the same tables. -/
lemma creditable_map_creditOne :
    Creditable p (rows.map (creditOne payment bytes lastReceived credited)) payments ↔
      Creditable p rows (payment :: payments) := by
  unfold Creditable
  rw [forall_mem_map]
  apply forall₂_congr
  intro other otherMember
  rw [amountsFrom_cons]
  by_cases otherSent : other.wallet = payment.sender
  · have same : other = row := Rows.eq_of_key_eq primaryKey otherMember member (otherSent.trans sent.symm)
    rw [if_pos otherSent.symm, creditOne_sender otherSent, same, creditBalance_cons p _ built, changed,
      ok_bind]
  · rw [if_neg (Ne.symm otherSent), creditOne_other otherSent]

lemma map_creditedRow_cons (creditable : Creditable p rows (payment :: payments)) :
    (rows.map (creditOne payment bytes lastReceived credited)).map (creditedRow p lastReceived payments) =
      rows.map (creditedRow p lastReceived (payment :: payments)) := by
  rw [map_map]
  apply map_congr_left
  intro other otherMember
  rw [Function.comp_apply]
  by_cases otherSent : other.wallet = payment.sender
  · obtain ⟨credited', changed', rest⟩ := creditable_cons_sender p built sent member creditable
    cases changed.symm.trans changed'
    rw [Rows.eq_of_key_eq primaryKey otherMember member (otherSent.trans sent.symm)]
    exact (creditedRow_cons_sender p built sent changed rest).symm
  · rw [creditOne_other otherSent, creditedRow_cons_other p otherSent]

end

lemma primaryKey_map_creditOne (primaryKey : (rows.map wallet).Nodup) (payment bytes lastReceived credited) :
    ((rows.map (creditOne payment bytes lastReceived credited)).map wallet).Nodup := by
  have wallets : wallet ∘ creditOne payment bytes lastReceived credited = wallet :=
    funext fun _ => creditOne_wallet
  rwa [map_map, wallets]

lemma creditable_cons_unknown (unknown : ∀ row ∈ rows, row.wallet ≠ payment.sender) :
    Creditable p rows (payment :: payments) ↔ Creditable p rows payments := by
  apply forall₂_congr
  intro row member
  rw [amountsFrom_cons, if_neg (Ne.symm (unknown row member))]

lemma small_of_process (clock : toTimeT timestamp = .ok lastReceived)
    (returned : processReceivedPayments p noFaults timestamp position rows (payment :: payments) =
      .ok result) : Small payment.weiAmount := by
  simp only [processReceivedPayments, clock, ok_bind] at returned
  obtain ⟨bytes, built, -⟩ := ok_of_bind returned
  exact (small_of_weiChange built).1

/-- The run without failures credits every row, unless something cannot be stored. -/
lemma process_eq_ok_iff (clock : toTimeT timestamp = .ok lastReceived)
    (primaryKey : (rows.map wallet).Nodup) :
    processReceivedPayments p noFaults timestamp position rows payments = .ok result ↔
      (∀ payment ∈ payments, Small payment.weiAmount) ∧ Creditable p rows payments ∧
        .ok (rows.map (creditedRow p lastReceived payments)) = result := by
  induction payments generalizing rows position with
  | nil =>
    have same : creditedRow p lastReceived [] = id := by
      funext row
      simp [creditedRow, amountsFrom, creditBalance]
    have creditable : Creditable p rows [] := fun row _ => ⟨row.balance, rfl⟩
    simp [processReceivedPayments, same, creditable]
  | cons payment payments ih =>
    rw [forall_mem_cons]
    by_cases small : Small payment.weiAmount
    · obtain ⟨bytes, built, -⟩ := weiChange_subtraction p small
      by_cases! unknown : ∃ row ∈ rows, row.wallet = payment.sender
      · obtain ⟨row, member, sent⟩ := unknown
        have keys := primaryKey_map_creditOne primaryKey payment bytes lastReceived
        rw [process_cons_known p built clock primaryKey member sent, bind_eq_ok]
        constructor
        · rintro ⟨credited, changed, rest⟩
          obtain ⟨restSmall, restCreditable, rfl⟩ := (ih (keys credited)).mp rest
          have creditable := (creditable_map_creditOne p built sent member primaryKey changed).mp
            restCreditable
          refine ⟨⟨small, restSmall⟩, creditable, ?_⟩
          rw [map_creditedRow_cons p built sent member primaryKey changed creditable]
        · rintro ⟨⟨-, restSmall⟩, creditable, rfl⟩
          obtain ⟨credited, changed, -⟩ := creditable_cons_sender p built sent member creditable
          refine ⟨credited, changed, (ih (keys credited)).mpr ⟨restSmall, ?_, ?_⟩⟩
          · exact (creditable_map_creditOne p built sent member primaryKey changed).mpr creditable
          · rw [map_creditedRow_cons p built sent member primaryKey changed creditable]
      · have same : rows.map (creditedRow p lastReceived (payment :: payments)) =
            rows.map (creditedRow p lastReceived payments) :=
          map_congr_left fun row member => creditedRow_cons_other p (unknown row member)
        rw [process_cons_unknown p built clock unknown, ih primaryKey, creditable_cons_unknown p unknown,
          same]
        simp [small]
    · exact iff_of_false (fun returned => small (small_of_process p clock returned))
        fun holds => small holds.1.1

end

/-! ### Failing calls -/

section

variable {credited : List ReceivableRow}

lemma verifyPossiblyUnknownWallet_faulty
    (returned : verifyPossiblyUnknownWallet faults position rows suspect = .ok result) :
    verifyPossiblyUnknownWallet noFaults position rows suspect = .ok result := by
  unfold verifyPossiblyUnknownWallet at returned
  split at returned
  · cases returned
  · split at returned
    · cases returned
    · exact returned

/-- Payments that are processed to their end are processed as without failures. -/
lemma process_faulty
    (returned : processReceivedPayments p faults timestamp position rows payments = .ok (.ok credited)) :
    processReceivedPayments p noFaults timestamp position rows payments = .ok (.ok credited) := by
  induction payments generalizing rows position with
  | nil => exact returned
  | cons payment payments ih =>
    obtain ⟨lastReceived, clock, returned⟩ := ok_of_bind returned
    obtain ⟨bytes, built, returned⟩ := ok_of_bind returned
    obtain ⟨result, executed, returned⟩ := ok_of_bind returned
    simp only [processReceivedPayments, clock, built, ok_bind]
    rcases result with (msg | ⟨rowKey, count⟩) | stored
    · cases returned
    · obtain ⟨verified, verifies, returned⟩ := ok_of_bind returned
      refine bind_eq_ok.mpr ⟨_, execute_faulty (by simp) executed, ?_⟩
      refine bind_eq_ok.mpr ⟨_, verifyPossiblyUnknownWallet_faulty verifies, ?_⟩
      cases verified with
      | error e => cases returned
      | ok => exact ih returned
    · exact bind_eq_ok.mpr ⟨_, execute_faulty (by simp) executed, ih returned⟩

/-- What the transaction holds when it is handed over does not depend on the failures. -/
lemma moreMoneyReceived_faulty (returned : moreMoneyReceived p faults timestamp rows payments = .ok credited) :
    processReceivedPayments p noFaults timestamp 0 rows payments = .ok (.ok credited) := by
  unfold moreMoneyReceived at returned
  split at returned
  · cases returned
  · obtain ⟨result, processed, returned⟩ := ok_of_bind returned
    rcases result with ⟨⟨msg⟩⟩ | stored
    · cases returned
    · cases returned
      exact process_faulty processed

lemma setStartBlock_ok {row stored number} (returned : setStartBlock faults row number = .ok stored) :
    row.isSome ∧ stored = some (some number) := by
  unfold setStartBlock at returned
  split at returned
  · cases returned
  · cases returned
  · cases returned
  · cases returned
    exact ⟨rfl, rfl⟩

end

/-! ### The whole message -/

/-- Every known sender's balance is down by what it paid, the other rows are as they were and the
start block is the new one. -/
def CreditedCompletely (db : ReceivableDb) (msg : ReceivedPayments) (after : ReceivableDb) : Prop :=
  List.Forall₂ (fun row row' => row'.wallet = row.wallet ∧
      row'.balance.value = row.balance.value - paidBy row.wallet msg.transactions ∧
      ((∀ payment ∈ msg.transactions, payment.sender ≠ row.wallet) → row' = row))
    db.receivable after.receivable ∧
  after.startBlock = match msg.newStartBlock with
    | .value number => some (some number)
    | .uninitialized => db.startBlock

/-- Balances and start block are the same. -/
def Untouched (db after : ReceivableDb) : Prop :=
  after.receivable.map (fun row => (row.wallet, row.balance)) =
      db.receivable.map (fun row => (row.wallet, row.balance)) ∧
    after.startBlock = db.startBlock

/-- Whichever database calls fail, the message is credited completely or the handler panics and
has changed nothing. -/
def AllOrNothing (p : Profile) (db : ReceivableDb) (total : U128) (msg : ReceivedPayments) : Prop :=
  ∀ faults : Faults ReceivedPaymentsCall,
    match handleNewReceivedPayments p faults db total msg with
    | (after, .ok _) => CreditedCompletely db msg after
    | (after, .error _) => Untouched db after

section

lemma addWeiAmounts_release (soFar payments) :
    ∃ sum, addWeiAmounts .release soFar payments = .ok sum := by
  induction payments generalizing soFar with
  | nil => exact ⟨soFar, rfl⟩
  | cons payment payments ih =>
    obtain ⟨next, added, -⟩ := arith_release_eq_ok u128 (soFar.val + payment.weiAmount.val)
    simp only [addWeiAmounts, Word.add, added, ok_bind]
    exact ih next

lemma addWeiAmounts_ok (p) (fits : soFar.val + totalWei (payments.map weiAmount) < 2 ^ 128) :
    ∃ sum : U128, addWeiAmounts p soFar payments = .ok sum ∧
      sum.val = soFar.val + totalWei (payments.map weiAmount) := by
  induction payments generalizing soFar with
  | nil => exact ⟨soFar, rfl, by simp⟩
  | cons payment payments ih =>
    have rest := totalWei_nonneg (payments.map weiAmount)
    have soFarBounds := U128.bounds soFar
    have amountBounds := U128.bounds payment.weiAmount
    rw [map_cons, totalWei_cons] at fits ⊢
    have nextFits : u128.Holds (soFar.val + payment.weiAmount.val) := by
      rw [u128_holds]
      omega
    have below : (⟨_, nextFits⟩ : U128).val + totalWei (payments.map weiAmount) < 2 ^ 128 := by
      simp only
      omega
    obtain ⟨sum, sumOk, sumVal⟩ := ih below
    refine ⟨sum, ?_, by simp only at sumVal; omega⟩
    simp only [addWeiAmounts, Word.add, arith_ok p nextFits, ok_bind, sumOk]

lemma addWeiAmounts_debug_eq_ok {soFar sum} :
    addWeiAmounts .debug soFar payments = .ok sum ↔
      sum.val = soFar.val + totalWei (payments.map weiAmount) := by
  constructor
  · intro added
    induction payments generalizing soFar with
    | nil =>
      cases added
      simp
    | cons payment payments ih =>
      simp only [addWeiAmounts, bind_eq_ok, Word.add, arith_debug_eq_ok] at added
      obtain ⟨next, nextVal, rest⟩ := added
      rw [ih rest, map_cons, totalWei_cons]
      omega
  -- the sum fits because it is a value of the type
  · intro sumVal
    have below := (U128.bounds sum).2
    rw [sumVal] at below
    obtain ⟨other, added, otherVal⟩ := addWeiAmounts_ok .debug below
    rw [added, Word.ext (otherVal.trans sumVal.symm)]

lemma addToTotalPaidReceivable_release (total payments) :
    ∃ sum, addToTotalPaidReceivable .release total payments = .ok sum := by
  obtain ⟨newlyPaid, added⟩ := addWeiAmounts_release ⟨0, by decide⟩ payments
  obtain ⟨sum, summed, -⟩ := arith_release_eq_ok u128 (total.val + newlyPaid.val)
  exact ⟨sum, by simp only [addToTotalPaidReceivable, added, ok_bind, Word.add, summed]⟩

lemma addToTotalPaidReceivable_ok (p) (fits : total.val + totalWei (payments.map weiAmount) < 2 ^ 128) :
    ∃ sum : U128, addToTotalPaidReceivable p total payments = .ok sum ∧
      sum.val = total.val + totalWei (payments.map weiAmount) := by
  have totalBounds := U128.bounds total
  obtain ⟨newlyPaid, newlyPaidOk, newlyPaidVal⟩ := addWeiAmounts_ok p (show (⟨0, by decide⟩ : U128).val +
      totalWei (payments.map weiAmount) < 2 ^ 128 by simp only; omega)
  simp only [Int.zero_add] at newlyPaidVal
  have sumFits : u128.Holds (total.val + newlyPaid.val) := by
    have bounds := U128.bounds newlyPaid
    rw [u128_holds]
    omega
  exact ⟨⟨_, sumFits⟩,
    by simp only [addToTotalPaidReceivable, newlyPaidOk, ok_bind, Word.add, arith_ok p sumFits],
    by simp only [newlyPaidVal]⟩

/-- With overflow checks the statistic panics when it leaves its type, after the commit. -/
lemma addToTotalPaidReceivable_debug (total payments) :
    (∃ sum, addToTotalPaidReceivable .debug total payments = .ok sum) ↔
      total.val + totalWei (payments.map weiAmount) < 2 ^ 128 := by
  constructor
  · simp only [addToTotalPaidReceivable, bind_eq_ok, addWeiAmounts_debug_eq_ok, Word.add, arith_debug_eq_ok]
    rintro ⟨sum, newlyPaid, newlyPaidVal, sumVal⟩
    have sumBounds := U128.bounds sum
    omega
  · intro below
    obtain ⟨sum, added, -⟩ := addToTotalPaidReceivable_ok .debug below
    exact ⟨sum, added⟩

end

section

variable {p : Profile} {db : ReceivableDb} {total : U128} {msg : ReceivedPayments}
  {lastReceived : TimeT}

/-- The durable state after a commit. -/
def committed (p : Profile) (lastReceived : TimeT) (db : ReceivableDb)
    (payments : List BlockchainTransaction) (number : U64) : ReceivableDb where
  receivable := db.receivable.map (creditedRow p lastReceived payments)
  startBlock := some (some number)

section

variable (clock : toTimeT msg.timestamp = .ok lastReceived)
  (primaryKey : (db.receivable.map wallet).Nodup)
include clock primaryKey

variable (p total) in
/-- Everything the handler can do. -/
lemma handle_cases (faults : Faults ReceivedPaymentsCall) :
    (∃ panic, handleNewReceivedPayments p faults db total msg = (db, .error panic)) ∨
    (msg.transactions = [] ∧ msg.newStartBlock = .uninitialized ∧
      handleNewReceivedPayments p faults db total msg = (db, .ok total)) ∨
    (∃ number, msg.transactions = [] ∧ msg.newStartBlock = .value number ∧
      handleNewReceivedPayments p faults db total msg =
        ({ db with startBlock := some (some number) }, .ok total)) ∨
    (∃ number, msg.transactions ≠ [] ∧ msg.newStartBlock = .value number ∧
      db.startBlock.isSome ∧ (∀ payment ∈ msg.transactions, Small payment.weiAmount) ∧
      Creditable p db.receivable msg.transactions ∧
      handleNewReceivedPayments p faults db total msg = (committed p lastReceived db msg.transactions number,
          addToTotalPaidReceivable p total msg.transactions)) := by
  unfold handleNewReceivedPayments
  split
  next empty =>
    have nil : msg.transactions = [] := isEmpty_iff.mp empty
    cases marker : msg.newStartBlock with
    | uninitialized => exact .inr (.inl ⟨nil, rfl, rfl⟩)
    | value number =>
      simp only
      cases stored : setStartBlock faults db.startBlock number with
      | error panic => exact .inl ⟨panic, rfl⟩
      | ok startBlock =>
        obtain ⟨-, rfl⟩ := setStartBlock_ok stored
        exact .inr (.inr (.inl ⟨number, nil, rfl, rfl⟩))
  next nonempty =>
    have notNil : msg.transactions ≠ [] := fun nil => nonempty (isEmpty_iff.mpr nil)
    cases received : moreMoneyReceived p faults msg.timestamp db.receivable msg.transactions with
    | error panic => exact .inl ⟨panic, rfl⟩
    | ok receivable =>
      have processed := moreMoneyReceived_faulty received
      obtain ⟨small, creditable, rows⟩ := (process_eq_ok_iff p clock primaryKey).mp processed
      cases rows
      cases marker : msg.newStartBlock with
      | uninitialized => exact .inl ⟨_, rfl⟩
      | value number =>
        simp only
        cases stored : setStartBlock faults db.startBlock number with
        | error panic => exact .inl ⟨panic, rfl⟩
        | ok startBlock =>
          obtain ⟨present, rfl⟩ := setStartBlock_ok stored
          cases commit : faults .commit with
          | some e => exact .inl ⟨_, rfl⟩
          | none => exact .inr (.inr (.inr ⟨number, notNil, rfl, present, small, creditable, rfl⟩))

/-- Without failures a message that can be stored is committed. -/
lemma handle_commits (nonempty : msg.transactions ≠ []) (marker : msg.newStartBlock = .value number)
    (present : db.startBlock.isSome) (small : ∀ payment ∈ msg.transactions, Small payment.weiAmount)
    (creditable : Creditable p db.receivable msg.transactions) :
    handleNewReceivedPayments p noFaults db total msg = (committed p lastReceived db msg.transactions number,
        addToTotalPaidReceivable p total msg.transactions) := by
  have received : moreMoneyReceived p noFaults msg.timestamp db.receivable msg.transactions =
      .ok (db.receivable.map (creditedRow p lastReceived msg.transactions)) := by
    have begun : (noFaults : Faults ReceivedPaymentsCall) .beginTransaction = none := rfl
    simp only [moreMoneyReceived, begun,
      (process_eq_ok_iff p clock primaryKey).mpr ⟨small, creditable, rfl⟩, ok_bind]
    rfl
  obtain ⟨row, isRow⟩ := Option.isSome_iff_exists.mp present
  have stored : setStartBlock noFaults db.startBlock number = .ok (some (some number)) := by
    rw [isRow]
    rfl
  have notEmpty : msg.transactions.isEmpty = false := by
    simpa using nonempty
  simp [handleNewReceivedPayments, notEmpty, received, marker, stored, noFaults, committed]

end

variable {number : U64} {row : ReceivableRow}

lemma creditedRow_of_no_payment (none : ∀ payment ∈ payments, payment.sender ≠ row.wallet) :
    creditedRow p lastReceived payments row = row := by
  have empty : amountsFrom row.wallet payments = [] := by
    have filtered : payments.filter (fun payment => decide (payment.sender = row.wallet)) = [] := by
      rw [filter_eq_nil_iff]
      intro payment member
      simp [none payment member]
    simp [amountsFrom, filtered]
  simp [creditedRow, empty, creditBalance]

/-- A commit is complete when every row is credited exactly. -/
lemma committed_complete (marker : msg.newStartBlock = .value number) (exact_ : ∀ row ∈ db.receivable,
      (creditedRow p lastReceived msg.transactions row).balance.value =
        row.balance.value - paidBy row.wallet msg.transactions) :
    CreditedCompletely db msg (committed p lastReceived db msg.transactions number) := by
  refine ⟨?_, by simp only [marker, committed]⟩
  rw [committed, forall₂_map_right_iff, forall₂_same]
  intro row member
  exact ⟨creditedRow_wallet .., exact_ row member, creditedRow_of_no_payment⟩

lemma creditedRow_balance
    (returned : creditBalance p row.balance (amountsFrom row.wallet payments) = .ok credited) :
    (creditedRow p lastReceived payments row).balance = credited := by
  simp [creditedRow, returned]

lemma small_amountsFrom (wallet) (small : ∀ payment ∈ payments, Small payment.weiAmount) :
    ∀ amount ∈ amountsFrom wallet payments, Small amount := by
  intro amount member
  obtain ⟨payment, inFilter, rfl⟩ := mem_map.mp member
  exact small payment (mem_filter.mp inFilter).1

lemma creditedRow_value_debug (small : ∀ payment ∈ payments, Small payment.weiAmount)
    (returned : creditBalance .debug row.balance (amountsFrom row.wallet payments) = .ok credited) :
    (creditedRow .debug lastReceived payments row).balance.value =
      row.balance.value - paidBy row.wallet payments := by
  obtain ⟨stored, storedOk, storedValue⟩ := creditBalance_storable .debug
    (small_amountsFrom row.wallet small) (storable_of_creditBalance_debug returned)
  rw [creditedRow_balance storedOk, storedValue, paidBy]

lemma creditedRow_value_release (small : ∀ payment ∈ payments, Small payment.weiAmount)
    (stays : -2 ^ 126 ≤ row.balance.value - paidBy row.wallet payments) :
    (creditedRow .release lastReceived payments row).balance.value =
      row.balance.value - paidBy row.wallet payments := by
  obtain ⟨stored, storedOk, storedValue⟩ := creditBalance_release_exact
    (small_amountsFrom row.wallet small) stays
  rw [creditedRow_balance storedOk, storedValue, paidBy]

/-- A message that would change nothing. -/
def NothingToChange (db : ReceivableDb) (msg : ReceivedPayments) : Prop :=
  (∀ number, msg.newStartBlock = .value number → db.startBlock = some (some number)) ∧
    ∀ row ∈ db.receivable, paidBy row.wallet msg.transactions = 0

/-- The released build must be able to store every balance.  One with overflow checks stops on a
balance it cannot store, before the commit, but also on a statistic it cannot hold, after it. -/
def SafeArithmetic (p : Profile) (db : ReceivableDb) (total : U128) (msg : ReceivedPayments) : Prop :=
  match p with
  | .release => ∀ row ∈ db.receivable,
      -2 ^ 126 ≤ row.balance.value - paidBy row.wallet msg.transactions
  | .debug =>
      total.val + totalWei (msg.transactions.map BlockchainTransaction.weiAmount) < 2 ^ 128 ∨
        (∃ row ∈ db.receivable,
          ¬ StorableInTurn row.balance.value (amountsFrom row.wallet msg.transactions)) ∨
        NothingToChange db msg

/-- The messages that are credited completely or not at all: those that are refused before the
commit for another reason, and those whose arithmetic is safe. -/
def SafeToCredit (p : Profile) (db : ReceivableDb) (total : U128) (msg : ReceivedPayments) : Prop :=
  msg.transactions = [] ∨ msg.newStartBlock = .uninitialized ∨ db.startBlock = none ∨
    (∃ payment ∈ msg.transactions, ¬ Small payment.weiAmount) ∨ SafeArithmetic p db total msg

lemma untouched_refl (db) : Untouched db db := ⟨rfl, rfl⟩

lemma paidBy_nil (wallet) : paidBy wallet [] = 0 := rfl

lemma creditedCompletely_nil {after} (nil : msg.transactions = [])
    (rows : after.receivable = db.receivable) (start : after.startBlock = match msg.newStartBlock with
      | .value number => some (some number)
      | .uninitialized => db.startBlock) : CreditedCompletely db msg after := by
  refine ⟨?_, start⟩
  rw [rows, forall₂_same]
  intro row _
  exact ⟨rfl, by rw [nil, paidBy_nil]; omega, fun _ => rfl⟩

lemma map_creditedRow_eq_iff (payments number) :
    (committed p lastReceived db payments number).receivable.map (fun row => (row.wallet, row.balance)) =
        db.receivable.map (fun row => (row.wallet, row.balance)) ↔
      ∀ row ∈ db.receivable, (creditedRow p lastReceived payments row).balance = row.balance := by
  rw [committed, map_map, map_inj_left]
  simp only [Function.comp_apply, creditedRow_wallet, Prod.mk.injEq, true_and]

section

variable (clock : toTimeT msg.timestamp = .ok lastReceived)
  (primaryKey : (db.receivable.map wallet).Nodup)
include clock primaryKey

lemma allOrNothing_of_safe (safe : SafeToCredit p db total msg) : AllOrNothing p db total msg := by
  intro faults
  rcases handle_cases p total clock primaryKey faults with
    ⟨panic, handled⟩ | ⟨nil, marker, handled⟩ | ⟨number, nil, marker, handled⟩ |
    ⟨number, notNil, marker, present, small, creditable, handled⟩ <;> rw [handled]
  · exact untouched_refl db
  · exact creditedCompletely_nil nil rfl (by simp only [marker])
  · exact creditedCompletely_nil nil rfl (by simp only [marker])
  · have storable : SafeArithmetic p db total msg := by
      rcases safe with nil | uninitialized | none | ⟨payment, member, large⟩ | storable
      · exact absurd nil notNil
      · rw [marker] at uninitialized
        cases uninitialized
      · rw [none] at present
        cases present
      · exact absurd (small payment member) large
      · exact storable
    cases p with
    | release =>
      obtain ⟨sum, sumOk⟩ := addToTotalPaidReceivable_release total msg.transactions
      rw [sumOk]
      exact committed_complete marker fun row member =>
        creditedRow_value_release small (storable row member)
    | debug =>
      have exact_ : ∀ row ∈ db.receivable,
          (creditedRow .debug lastReceived msg.transactions row).balance.value =
            row.balance.value - paidBy row.wallet msg.transactions := by
        intro row member
        obtain ⟨credited, creditedOk⟩ := creditable row member
        exact creditedRow_value_debug small creditedOk
      cases summed : addToTotalPaidReceivable .debug total msg.transactions with
      | ok sum => exact committed_complete marker exact_
      | error panic =>
        -- the statistic does not fit and every row could be stored, so nothing was to change
        rcases storable with fits | ⟨row, member, unstorable⟩ | nothing
        · obtain ⟨sum, sumOk⟩ := (addToTotalPaidReceivable_debug total msg.transactions).mpr fits
          rw [sumOk] at summed
          cases summed
        · obtain ⟨credited, creditedOk⟩ := creditable row member
          exact absurd (storable_of_creditBalance_debug creditedOk) unstorable
        · refine ⟨(map_creditedRow_eq_iff msg.transactions number).mpr ?_, ?_⟩
          · intro row member
            apply SplitInt.value_injective
            rw [exact_ row member, nothing.2 row member, Int.sub_zero]
          · exact (nothing.1 number marker).symm

lemma safe_of_allOrNothing (atomic : AllOrNothing p db total msg) : SafeToCredit p db total msg := by
  by_contra unsafe_
  simp only [SafeToCredit, not_or, not_exists, not_and, not_not] at unsafe_
  obtain ⟨notNil, initialized, present, small, unstorable⟩ := unsafe_
  have isPresent : db.startBlock.isSome := Option.isSome_iff_ne_none.mpr present
  cases marker : msg.newStartBlock with
  | uninitialized => exact initialized marker
  | value number =>
    have outcome := atomic noFaults
    cases p with
    | release =>
      have creditable : Creditable .release db.receivable msg.transactions := fun row _ =>
        creditBalance_release_ok row.balance (small_amountsFrom row.wallet small)
      obtain ⟨sum, sumOk⟩ := addToTotalPaidReceivable_release total msg.transactions
      rw [handle_commits clock primaryKey notNil marker isPresent small creditable, sumOk] at outcome
      apply unstorable
      intro row member
      have rows := outcome.1
      rw [committed, forall₂_map_right_iff, forall₂_same] at rows
      rw [← (rows row member).2.1]
      exact (SplitInt.value_fits _).1
    | debug =>
      simp only [SafeArithmetic, not_or, not_exists, not_and, not_not] at unstorable
      obtain ⟨overflows, storable, changes⟩ := unstorable
      have creditable : Creditable .debug db.receivable msg.transactions := by
        intro row member
        obtain ⟨credited, creditedOk, -⟩ := creditBalance_storable .debug
          (small_amountsFrom row.wallet small) (storable row member)
        exact ⟨credited, creditedOk⟩
      rw [handle_commits clock primaryKey notNil marker isPresent small creditable] at outcome
      cases summed : addToTotalPaidReceivable .debug total msg.transactions with
      | ok sum =>
        exact overflows ((addToTotalPaidReceivable_debug total msg.transactions).mp ⟨sum, summed⟩)
      | error panic =>
        rw [summed] at outcome
        apply changes
        refine ⟨?_, ?_⟩
        · intro other otherMarker
          rw [marker] at otherMarker
          cases otherMarker
          exact outcome.2.symm
        · intro row member
          obtain ⟨credited, creditedOk⟩ := creditable row member
          have value : (creditedRow .debug lastReceived msg.transactions row).balance.value = _ :=
            creditedRow_value_debug small creditedOk
          rw [(map_creditedRow_eq_iff msg.transactions number).mp outcome.1 row member] at value
          omega

variable (p) in
/-- A message within the ranges of the columns and the statistic is handled without a panic. -/
lemma handle_ok (marker : msg.newStartBlock = .value number) (present : db.startBlock.isSome)
    (small : ∀ payment ∈ msg.transactions, Small payment.weiAmount)
    (storable : ∀ row ∈ db.receivable,
      StorableInTurn row.balance.value (amountsFrom row.wallet msg.transactions))
    (fits : total.val + totalWei (msg.transactions.map weiAmount) < 2 ^ 128) :
    ∃ (after : ReceivableDb) (sum : U128),
      handleNewReceivedPayments p noFaults db total msg = (after, .ok sum) ∧
      CreditedCompletely db msg after ∧
      sum.val = total.val + totalWei (msg.transactions.map weiAmount) := by
  have credits : ∀ row ∈ db.receivable, ∃ credited,
      creditBalance p row.balance (amountsFrom row.wallet msg.transactions) = .ok credited ∧
        credited.value = row.balance.value - paidBy row.wallet msg.transactions := fun row member =>
    creditBalance_storable p (small_amountsFrom row.wallet small) (storable row member)
  by_cases nonempty : msg.transactions = []
  · obtain ⟨row, isRow⟩ := Option.isSome_iff_exists.mp present
    refine ⟨{ db with startBlock := some (some number) }, total, ?_, ?_, by simp [nonempty]⟩
    · simp [handleNewReceivedPayments, nonempty, marker, setStartBlock, noFaults, isRow]
    · exact creditedCompletely_nil nonempty rfl (by simp only [marker])
  · have creditable : Creditable p db.receivable msg.transactions := by
      intro row member
      obtain ⟨credited, creditedOk, -⟩ := credits row member
      exact ⟨credited, creditedOk⟩
    obtain ⟨sum, sumOk, sumVal⟩ := addToTotalPaidReceivable_ok p fits
    refine ⟨committed p lastReceived db msg.transactions number, sum, ?_, ?_, sumVal⟩
    · rw [handle_commits clock primaryKey nonempty marker present small creditable, sumOk]
    · refine committed_complete marker ?_
      intro row member
      obtain ⟨credited, creditedOk, value⟩ := credits row member
      rw [creditedRow_balance creditedOk, value]

end

end

/-- A message is credited completely or not at all exactly if it is safe to credit, and a message
with transactions that the blockchain interface produced names a start block. -/
theorem receivedPayments_allOrNothing_iff (p : Profile) (db : ReceivableDb) (total : U128)
    (msg : ReceivedPayments) {lastReceived : TimeT}
    (clock : toTimeT msg.timestamp = .ok lastReceived)
    (primaryKey : (db.receivable.map ReceivableRow.wallet).Nodup) :
    (AllOrNothing p db total msg ↔ SafeToCredit p db total msg) ∧
      ∀ (q : Profile) (startBlockMarker : BlockMarker) (scanRange : BlockScanRange)
        (rpcBlockNumberResult : Except BlockchainError U64)
        (getTransactionLogs : BlockNumber → BlockNumber → Except BlockchainError (List Log))
        (retrieved : RetrievedBlockchainTransactions),
        retrieveTransactions q startBlockMarker scanRange rpcBlockNumberResult getTransactionLogs =
          .ok (.ok retrieved) →
        retrieved.transactions ≠ [] → retrieved.newStartBlock ≠ .uninitialized := by
  refine ⟨⟨safe_of_allOrNothing clock primaryKey, allOrNothing_of_safe clock primaryKey⟩, ?_⟩
  intro q startBlockMarker scanRange rpcBlockNumberResult getTransactionLogs retrieved returned
    nonempty uninitialized
  obtain ⟨next, isNext⟩ := retrieveTransactions_newStartBlock returned nonempty
  rw [isNext] at uninitialized
  cases uninitialized

/-- A debtor whose balance is the least one the table can hold. -/
def overdrawnDb : ReceivableDb where
  receivable := [⟨⟨1⟩, .ofInt (-2 ^ 126) (by decide), ⟨⟨5, by decide⟩, by decide⟩⟩]
  startBlock := some (some ⟨10, by decide⟩)

/-- One wei more from that debtor. -/
def oneWeiMsg : ReceivedPayments where
  timestamp := ⟨7 * nanosInSecond⟩
  newStartBlock := .value ⟨12, by decide⟩
  transactions := [⟨⟨11, by decide⟩, ⟨1⟩, ⟨1, by decide⟩⟩]

/-- Four payments of `2 ^ 126` wei from a stranger. -/
def hugeMsg : ReceivedPayments where
  timestamp := ⟨7 * nanosInSecond⟩
  newStartBlock := .value ⟨12, by decide⟩
  transactions := List.replicate 4 ⟨⟨11, by decide⟩, ⟨2⟩, ⟨2 ^ 126, by decide⟩⟩

/-- A debtor of one thousand wei. -/
def modestDb : ReceivableDb :=
  { overdrawnDb with receivable := [⟨⟨1⟩, .ofInt 1000 SplitInt.fits_thousand, ⟨⟨5, by decide⟩, by decide⟩⟩] }

theorem oneWeiMsg_allOrNothing : AllOrNothing .release modestDb ⟨0, by decide⟩ oneWeiMsg := by
  have safe : SafeArithmetic .release modestDb ⟨0, by decide⟩ oneWeiMsg := by
    intro row member
    rw [mem_singleton.mp member]
    decide
  exact ((receivedPayments_allOrNothing_iff .release modestDb ⟨0, by decide⟩ oneWeiMsg rfl
    (by decide)).1).mpr (.inr (.inr (.inr (.inr safe))))

/-- The released build stores a balance that is larger by `2 ^ 63 - 1` wei instead of smaller by
one, and commits it; a build with overflow checks panics after it has moved the start block. -/
theorem receivedPayments_not_allOrNothing :
    handleNewReceivedPayments .release noFaults overdrawnDb ⟨0, by decide⟩ oneWeiMsg =
        (⟨[⟨⟨1⟩, .ofInt (-2 ^ 126 + 2 ^ 63 - 1) (by decide), ⟨⟨7, by decide⟩, by decide⟩⟩],
          some (some ⟨12, by decide⟩)⟩, .ok ⟨1, by decide⟩) ∧
      ¬ AllOrNothing .release overdrawnDb ⟨0, by decide⟩ oneWeiMsg ∧
      handleNewReceivedPayments .debug noFaults overdrawnDb ⟨0, by decide⟩ hugeMsg =
        ({ overdrawnDb with startBlock := some (some ⟨12, by decide⟩) }, .error .overflow) ∧
      ¬ AllOrNothing .debug overdrawnDb ⟨0, by decide⟩ hugeMsg := by
  refine ⟨by decide +kernel, ?_, by decide, ?_⟩
  · intro atomic
    have rows := (atomic noFaults).1
    revert rows
    decide +kernel
  · intro atomic
    exact absurd (atomic noFaults).2 (by decide)

end PulseMesh.Accountant
