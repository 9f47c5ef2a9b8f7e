import PulseMesh.Accountant.PaymentThresholds
import PulseMesh.DbConfig.ConfigOperations
import PulseMesh.Neighborhood.RouteSearch

/-!
# Parameters of the Accountant

Payment thresholds, scan intervals and rate packs are given as numbers between bars.  What is given is
stored in the database as soon as it can be read and is not there yet.  Only then the thresholds are
checked and the next parameter is read.
-/

namespace PulseMesh.NodeConfigurator

open Machine Effects DbConfig Accountant PersistentConfiguration

/-! ### Numbers between bars -/

def parseDigits (soFar : U64) : List Char → Except String U64
  | [] => .ok soFar
  | digit :: digits =>
    if digit.isDigit then
      if fits : u64.Holds (10 * soFar.val + (digit.toNat - '0'.toNat : Nat)) then parseDigits ⟨_, fits⟩ digits
      else .error "number too large to fit in target type"
    else .error "invalid digit found in string"

/-- `str_value.parse::<u64>()` -/
def parseU64 : List Char → Except String U64
  | [] => .error "cannot parse integer from empty string"
  | ['+'] => .error "invalid digit found in string"
  | '+' :: digits => parseDigits ⟨0, u64_zero⟩ digits
  | digits => parseDigits ⟨0, u64_zero⟩ digits

def parseValue (piece : List Char) (paramName : String) : Except Panic (String × U64) :=
  match parseU64 piece with
  | .ok value => .ok (paramName, value)
  | .error e => .error (.raised s!"value for 'numeric value' badly prepared, got: {e.quote}")

def parseCombinedParams (input : String) (expectedCollection : List String) :
    Except Panic (Except String (List (String × U64))) :=
  let pieces := input.toList.splitOn '|'
  let hint := if pieces.length = 1 then ". Did you use the correct delimiter '|'?" else ""
  if pieces.length = expectedCollection.length then do
    let values ← (pieces.zip expectedCollection).mapM fun (piece, paramName) => parseValue piece paramName
    pure (.ok values)
  else
    .ok (.error (s!"Wrong number of values: expected {expectedCollection.length} but {pieces.length} supplied" ++
      hint))

variable (values : List (String × U64))

def getValue (parameterName : String) : Except Panic U64 :=
  match values.lookup parameterName with
  | some value => .ok value
  | none => .error (.raised s!"value for '{parameterName}' badly prepared")

structure ScanIntervals where
  payableScanInterval : U64
  pendingPayableScanInterval : U64
  receivableScanInterval : U64
deriving DecidableEq

def initiatePaymentThresholds : Except Panic PaymentThresholds := do
  let maturityThresholdSec ← getValue values "maturity_threshold_sec"
  let paymentGracePeriodSec ← getValue values "payment_grace_period_sec"
  let permanentDebtAllowedGwei ← getValue values "permanent_debt_allowed_gwei"
  let debtThresholdGwei ← getValue values "debt_threshold_gwei"
  let thresholdIntervalSec ← getValue values "threshold_interval_sec"
  let unbanBelowGwei ← getValue values "unban_below_gwei"
  pure ⟨debtThresholdGwei, maturityThresholdSec, paymentGracePeriodSec, permanentDebtAllowedGwei,
    thresholdIntervalSec, unbanBelowGwei⟩

def initiateScanIntervals : Except Panic ScanIntervals := do
  let pendingPayableScanInterval ← getValue values "pending_payable_scan_interval"
  let payableScanInterval ← getValue values "payable_scan_interval"
  let receivableScanInterval ← getValue values "receivable_scan_interval"
  pure ⟨payableScanInterval, pendingPayableScanInterval, receivableScanInterval⟩

def initiateRatePack : Except Panic Neighborhood.RatePack := do
  let routingByteRate ← getValue values "routing_byte_rate"
  let routingServiceRate ← getValue values "routing_service_rate"
  let exitByteRate ← getValue values "exit_byte_rate"
  let exitServiceRate ← getValue values "exit_service_rate"
  pure ⟨routingByteRate, routingServiceRate, exitByteRate, exitServiceRate⟩

variable {values}

def tryFrom {T : Type} (expectedCollection : List String) (initiate : List (String × U64) → Except Panic T)
    (parameters : String) : Except Panic (Except String T) := do
  match ← parseCombinedParams parameters expectedCollection with
  | .error e => pure (.error e)
  | .ok values => .ok <$> initiate values

def paymentThresholdsTryFrom : String → Except Panic (Except String PaymentThresholds) :=
  tryFrom ["debt_threshold_gwei", "maturity_threshold_sec", "payment_grace_period_sec",
    "permanent_debt_allowed_gwei", "threshold_interval_sec", "unban_below_gwei"] initiatePaymentThresholds

def scanIntervalsTryFrom : String → Except Panic (Except String ScanIntervals) :=
  tryFrom ["pending_payable_scan_interval", "payable_scan_interval", "receivable_scan_interval"]
    initiateScanIntervals

def ratePackTryFrom : String → Except Panic (Except String Neighborhood.RatePack) :=
  tryFrom ["routing_byte_rate", "routing_service_rate", "exit_byte_rate", "exit_service_rate"] initiateRatePack

/-! ### Parameters of the command line and of the database -/

/-- The values under which the parameters are found, wherever they come from. -/
structure MultiConfig where
  paymentThresholds : Option String
  scanIntervals : Option String
  ratePack : Option String
  scans : Option String

structure BootstrapperConfig where
  paymentThresholdsOpt : Option PaymentThresholds
  scanIntervalsOpt : Option ScanIntervals
  suppressInitialScans : Bool
  whenPendingTooLongSec : Nat

def defaultPendingTooLongSec : Nat := 21600

/-- An error of the persistent configuration as it is shown in a panic. -/
def debugError : PersistentConfigError → String
  | .notPresent => "NotPresent"
  | .passwordError => "PasswordError"
  | .transactionError => "TransactionError"
  | .databaseError msg => s!"DatabaseError({msg.quote})"
  | .badPortNumber msg => s!"BadPortNumber({msg.quote})"
  | .badHexFormat msg => s!"BadHexFormat({msg.quote})"
  | .badAddressFormat msg => s!"BadAddressFormat({msg.quote})"
  | .invalidUrl msg => s!"InvalidUrl({msg.quote})"
  | .collision msg => s!"Collision({msg.quote})"

/-- The result of a call, an error in the form it is shown in. -/
def attempt {ε α : Type} (x : Db String α) : Db ε (Except String α) := fun s =>
  match x s with
  | .ok a t => .ok (.ok a) t
  | .error (.err e) t => .ok (.error e) t
  | .error (.panicked panic) t => .error (.panicked panic) t

def unwrap {ε α : Type} (message : String) (result : Except String α) : Db ε α :=
  Db.orPanic (result.mapError fun e => .raised (message ++ e))

section

variable {T : Type}

/-- What was read, with an error in the form of the caller. -/
def orConvert {ε : Type} (convert : String → ε) : Except Panic (Except String T) → Db ε T
  | .error panic => Db.orPanic (.error panic)
  | .ok (.error e) => Db.err (convert e)
  | .ok (.ok values) => pure values

def combinedParamsGetMethod (valuesParser : String → Except Panic (Except String T)) (parameter : String) :
    Db String T := do
  match ← Db.mapErr (fun e => debugError (.ofConfigDaoError e)) (get parameter) with
  | none => Db.orPanic (.error (.raised s!"ever-supplied value missing: {parameter}; database is corrupt!"))
  | some stringParams => orConvert (fun e => s!"BadCoupledParamsFormat({e.quote})") (valuesParser stringParams)

def writeIfNew [DecidableEq T] (parameterName : String) (setter : String → Db PersistentConfigError Unit)
    (cliString : String) (cliValues pcValues : T) : Db ConfiguratorError Unit :=
  if cliValues = pcValues then
    pure ()
  else do
    let written ← attempt (Db.mapErr debugError (setter cliString))
    unwrap s!"{parameterName}: writing database failed due to: " written

def processCombinedParams [DecidableEq T] (parameterName : String) (cliOpt : Option String)
    (parser : String → Except Panic (Except String T)) (getter : Db String T)
    (setter : String → Db PersistentConfigError Unit) : Db ConfiguratorError T := do
  let pcResult ← attempt getter
  let pcValues := unwrap s!"{parameterName}: database query failed due to " pcResult
  match cliOpt with
  | some cliString =>
    let cliValues ← orConvert (.required parameterName) (parser cliString)
    writeIfNew parameterName setter cliString cliValues (← pcValues)
    pure cliValues
  | none => pcValues

end

variable (multiConfig : MultiConfig)

def configurePaymentThresholds : Db ConfiguratorError PaymentThresholds :=
  processCombinedParams "payment-thresholds" multiConfig.paymentThresholds paymentThresholdsTryFrom
    (combinedParamsGetMethod paymentThresholdsTryFrom "payment_thresholds")
    setPaymentThresholds

def configureScanIntervals : Db ConfiguratorError ScanIntervals :=
  processCombinedParams "scan-intervals" multiConfig.scanIntervals scanIntervalsTryFrom
    (combinedParamsGetMethod scanIntervalsTryFrom "scan_intervals") setScanIntervals

def configureRatePack : Db ConfiguratorError Neighborhood.RatePack :=
  processCombinedParams "rate-pack" multiConfig.ratePack ratePackTryFrom
    (combinedParamsGetMethod ratePackTryFrom "rate_pack") setRatePack

def orRefuse {α : Type} : Except ConfiguratorError α → Db ConfiguratorError α
  | .ok a => pure a
  | .error e => Db.err e

def configureAccountantConfig : Db ConfiguratorError BootstrapperConfig := do
  let paymentThresholds ← configurePaymentThresholds multiConfig
  orRefuse (checkPaymentThresholds paymentThresholds)
  let scanIntervals ← configureScanIntervals multiConfig
  pure {
    paymentThresholdsOpt := some paymentThresholds
    scanIntervalsOpt := some scanIntervals
    suppressInitialScans := multiConfig.scans.getD "on" = "off"
    whenPendingTooLongSec := defaultPendingTooLongSec }

variable {multiConfig}

/-! ### What is stored -/

section

variable {ε α T : Type} {parser : String → Except Panic (Except String T)} {cliOpt : Option String}
  {parameterName parameter text : String} {values : T}

lemma attempt_ok (attempted : (attempt x : Db ε _) s = .ok (.ok a) t) : x s = .ok a t := by
  unfold attempt at attempted
  split at attempted <;> cases attempted
  assumption

lemma attempt_ne_err {e : ε} : attempt x s ≠ .error (.err e) t := by
  unfold attempt
  split <;> simp

lemma reads_attempt (reads : Reads x) : Reads (attempt x : Db ε (Except String α)) := by
  intro s
  rw [← reads s]
  unfold stateAfter attempt
  cases x s with
  | ok a t => rfl
  | error stop t => cases stop <;> rfl

lemma orConvert_ok_iff :
    orConvert convert parsed s = .ok values t ↔ parsed = .ok (.ok values) ∧ t = s := by
  match parsed with
  | .error panic => simp [orConvert, Db.orPanic]
  | .ok (.error e) => simp [orConvert, Db.err]
  | .ok (.ok values) => simp [orConvert, pure, EStateM.pure, eq_comm]

lemma orConvert_err {e} (failed : orConvert convert parsed s = .error (.err e) t) :
    t = s ∧ ∃ msg, parsed = .ok (.error msg) := by
  match parsed with
  | .error panic => cases failed
  | .ok (.error msg) =>
    cases failed
    exact ⟨rfl, msg, rfl⟩
  | .ok (.ok values) => cases failed

lemma reads_orConvert : (parsed : Except Panic (Except String T)) → Reads (orConvert convert parsed)
  | .error panic => Reads.orPanic (.error panic)
  | .ok (.error e) => Reads.err (convert e)
  | .ok (.ok values) => Reads.pure values

lemma reads_orRefuse : (checked : Except ConfiguratorError α) → Reads (orRefuse checked)
  | .ok a => Reads.pure a
  | .error e => Reads.err e

lemma reads_combinedParamsGetMethod : Reads (combinedParamsGetMethod parser parameter) := by
  refine (((reads_getRecord parameter).bind fun record => .pure _).mapErr _).bind fun valueOpt => ?_
  cases valueOpt with
  | none => exact .orPanic _
  | some text => exact reads_orConvert _

lemma combinedParamsGetMethod_ok (got : combinedParamsGetMethod parser parameter s = .ok values t) :
    ∃ text, s.table.valueOf parameter = some text ∧ parser text = .ok (.ok values) := by
  obtain ⟨valueOpt, mid, found, got⟩ := bind_ok_iff.mp got
  obtain ⟨record, _, isRecord, same⟩ := bind_ok_iff.mp (Db.mapErr_ok_iff.mp found)
  cases same
  obtain ⟨read, _, isRead, same⟩ := bind_ok_iff.mp isRecord
  obtain ⟨-, present, -⟩ := ConfigDao.get_ok_iff.mp isRead
  split at same <;> cases same
  have stored : s.table.valueOf parameter = record.valueOpt := by rw [ConfigTable.valueOf, present, Option.bind_some]
  cases isText : record.valueOpt with
  | none =>
    rw [isText] at got
    cases got
  | some text =>
    rw [isText] at got stored
    exact ⟨text, stored, (orConvert_ok_iff.mp got).1⟩

lemma unwrap_ok (unwrapped : (unwrap message result : Db ε α) s = .ok a t) : result = .ok a ∧ t = s := by
  obtain ⟨same, rfl⟩ := Db.orPanic_ok_iff.mp unwrapped
  cases result <;> cases same
  exact ⟨rfl, rfl⟩

lemma unwrap_ne_err {e : ε} : unwrap message result s ≠ .error (.err e) t := by
  cases result <;> exact fun failed => nomatch failed

/-- What is given can be read and is not what the database has. -/
def IsNew (parser : String → Except Panic (Except String T)) (cliOpt storedOpt : Option String) : Prop :=
  ∃ text stored values storedValues, cliOpt = some text ∧ storedOpt = some stored ∧
    parser text = .ok (.ok values) ∧ parser stored = .ok (.ok storedValues) ∧ values ≠ storedValues

variable [DecidableEq T]

/-- A parameter as it is processed for the database. -/
abbrev processParameter (parameterName : String) (cliOpt : Option String)
    (parser : String → Except Panic (Except String T)) (parameter : String) : Db ConfiguratorError T :=
  processCombinedParams parameterName cliOpt parser (combinedParamsGetMethod parser parameter)
    fun text => setParameter parameter (some text)

lemma writeIfNew_ok
    (written : writeIfNew parameterName (fun text => setParameter parameter (some text)) text
      values pcValues s = .ok () t) :
    values = pcValues ∧ t.table = s.table ∨
      values ≠ pcValues ∧ (s.table.find? parameter).isSome ∧ t.table = s.table.update parameter (some text) := by
  unfold writeIfNew at written
  split at written
  next same =>
    cases written
    exact .inl ⟨same, rfl⟩
  next differs =>
    obtain ⟨result, mid, attempted, written⟩ := bind_ok_iff.mp written
    obtain ⟨rfl, rfl⟩ := unwrap_ok written
    have set := Db.mapErr_ok_iff.mp (Db.mapErr_ok_iff.mp (attempt_ok attempted))
    obtain ⟨-, present, rfl⟩ := ConfigDao.set_ok_iff.mp set
    exact .inr ⟨differs, present, rfl⟩

/-- A parameter that is processed is stored if it is new, and only then. -/
lemma processParameter_ok (processed : processParameter parameterName cliOpt parser parameter s = .ok values t) :
    IsNew parser cliOpt (s.table.valueOf parameter) ∧ (s.table.find? parameter).isSome ∧
        t.table = s.table.update parameter cliOpt ∨
      ¬ IsNew parser cliOpt (s.table.valueOf parameter) ∧ t.table = s.table := by
  obtain ⟨pcResult, mid, attempted, processed⟩ := bind_ok_iff.mp processed
  have left := (reads_attempt reads_combinedParamsGetMethod).of_ok attempted
  cases cliOpt with
  | none =>
    obtain ⟨-, rfl⟩ := unwrap_ok processed
    refine .inr ⟨?_, left⟩
    rintro ⟨_, _, _, _, given, -⟩
    cases given
  | some text =>
    obtain ⟨cliValues, _, parses, processed⟩ := bind_ok_iff.mp processed
    obtain ⟨pcValues, _, unwraps, processed⟩ := bind_ok_iff.mp processed
    obtain ⟨_, last, written, ended⟩ := bind_ok_iff.mp processed
    cases ended
    obtain ⟨isCli, rfl⟩ := orConvert_ok_iff.mp parses
    obtain ⟨rfl, rfl⟩ := unwrap_ok unwraps
    obtain ⟨stored, isStored, isPc⟩ := combinedParamsGetMethod_ok (attempt_ok attempted)
    have changed := writeIfNew_ok written
    rw [left] at changed
    refine changed.symm.imp (fun ⟨differs, there, updated⟩ => ?_) (fun ⟨same, kept⟩ => ⟨?_, kept⟩)
    · exact ⟨⟨text, stored, _, pcValues, rfl, isStored, isCli, isPc, differs⟩, there, updated⟩
    · rintro ⟨_, _, one, other, given, there, isOne, isOther, differs⟩
      cases given
      cases isStored.symm.trans there
      cases isCli.symm.trans isOne
      cases isPc.symm.trans isOther
      exact differs same

lemma writeIfNew_ne_err {setter : String → Db PersistentConfigError Unit} :
    writeIfNew parameterName setter text values pcValues s ≠ .error (.err e) t := by
  unfold writeIfNew
  split
  · exact fun failed => nomatch failed
  · intro failed
    obtain stopped | ⟨result, mid, attempted, stopped⟩ := bind_error_iff.mp failed
    · exact attempt_ne_err stopped
    · exact unwrap_ne_err stopped

/-- What is refused cannot be read. -/
lemma processParameter_err (refused : processParameter parameterName cliOpt parser parameter s = .error (.err e) t) :
    ¬ IsNew parser cliOpt (s.table.valueOf parameter) ∧ t.table = s.table := by
  obtain stopped | ⟨pcResult, mid, attempted, refused⟩ := bind_error_iff.mp refused
  · exact absurd stopped attempt_ne_err
  have left := (reads_attempt reads_combinedParamsGetMethod).of_ok attempted
  cases cliOpt with
  | none => exact absurd refused unwrap_ne_err
  | some text =>
    obtain unread | ⟨cliValues, mid', _, refused⟩ := bind_error_iff.mp refused
    · obtain ⟨rfl, msg, isMsg⟩ := orConvert_err unread
      refine ⟨?_, left⟩
      rintro ⟨_, _, _, _, given, -, isOk, -⟩
      cases given
      cases isMsg.symm.trans isOk
    · obtain stopped | ⟨pcValues, mid', _, refused⟩ := bind_error_iff.mp refused
      · exact absurd stopped unwrap_ne_err
      · obtain stopped | ⟨_, _, _, ended⟩ := bind_error_iff.mp refused
        · exact absurd stopped writeIfNew_ne_err
        · cases ended

end

/-- The thresholds that are given can be read and are not those of the database. -/
def NewThresholds (multiConfig : MultiConfig) (table : ConfigTable) : Prop :=
  IsNew paymentThresholdsTryFrom multiConfig.paymentThresholds (table.valueOf "payment_thresholds")

/-- **What a refused configuration leaves**: the scan intervals of the database are what they were, and so
are the payment thresholds exactly if those that were given are not new. -/
theorem refused_config_persists_iff (multiConfig : MultiConfig) {s t : DbState} {e : ConfiguratorError}
    (refused : configureAccountantConfig multiConfig s = .error (.err e) t) :
    t.table.valueOf "scan_intervals" = s.table.valueOf "scan_intervals" ∧
      (t.table.valueOf "payment_thresholds" = s.table.valueOf "payment_thresholds" ↔
        ¬ NewThresholds multiConfig s.table) := by
  obtain refused | ⟨thresholds, mid, processed, refused⟩ := bind_error_iff.mp refused
  · obtain ⟨notNew, left⟩ := processParameter_err refused
    rw [left]
    exact ⟨rfl, iff_of_true rfl notNew⟩
  -- whatever is refused later, nothing more is stored
  have later : t.table = mid.table := by
    obtain refused | ⟨_, mid', checked, refused⟩ := bind_error_iff.mp refused
    · exact (reads_orRefuse _).of_error refused
    · rw [← (reads_orRefuse _).of_ok checked]
      obtain refused | ⟨_, _, _, ended⟩ := bind_error_iff.mp refused
      · exact (processParameter_err refused).2
      · cases ended
  rw [later]
  obtain ⟨isNew, present, left⟩ | ⟨notNew, left⟩ := processParameter_ok processed
  · rw [left]
    refine ⟨ConfigTable.valueOf_update_of_ne _ _ (by decide), iff_of_false ?_ (not_not_intro isNew)⟩
    rw [ConfigTable.valueOf_update_self _ present]
    obtain ⟨text, stored, values, storedValues, given, isStored, isValues, isStoredValues, differs⟩ := isNew
    rw [given, isStored]
    rintro ⟨⟩
    cases isValues.symm.trans isStoredValues
    exact differs rfl
  · rw [left]
    exact ⟨rfl, iff_of_true rfl notNew⟩

def sampleDb : DbState where
  table := {
    records := [⟨"payment_thresholds", some "9|2|3|4|5|6", false⟩, ⟨"scan_intervals", some "600|600|600", false⟩]
    primaryKey := by decide }
  fates := []
  salt := 0

theorem unread_config_not_persisted :
    ∃ e t, configureAccountantConfig ⟨some "1|2", none, none, none⟩ sampleDb = .error (.err e) t ∧
      t.table.valueOf "scan_intervals" = some "600|600|600" ∧
      t.table.valueOf "payment_thresholds" = some "9|2|3|4|5|6" := by
  obtain ⟨e, t, refused⟩ : ∃ e t, configureAccountantConfig ⟨some "1|2", none, none, none⟩
      sampleDb = .error (.err e) t := ⟨_, _, rfl⟩
  obtain ⟨scans, thresholds⟩ := refused_config_persists_iff _ refused
  refine ⟨e, t, refused, scans, thresholds.mpr ?_⟩
  rintro ⟨_, _, _, _, given, -, read, -⟩
  cases given
  cases read

/-- Thresholds that are refused are stored, and so the next start is refused too.  Thresholds that are given
together with unreadable scan intervals are stored, and the next start runs with them. -/
theorem refused_config_is_persisted :
    (∃ t u, configureAccountantConfig ⟨some "1|2|3|4|5|6", none, none, none⟩ sampleDb =
        .error (.err (.required "payment-thresholds"
          "Value of DebtThresholdGwei (1) must be bigger than PermanentDebtAllowedGwei (4)")) t ∧
      t.table.valueOf "payment_thresholds" = some "1|2|3|4|5|6" ∧
      configureAccountantConfig ⟨none, none, none, none⟩ t = .error (.err (.required "payment-thresholds"
        "Value of DebtThresholdGwei (1) must be bigger than PermanentDebtAllowedGwei (4)")) u) ∧
    ∃ t config u, configureAccountantConfig ⟨some "8|2|3|4|5|6", some "600", none, none⟩ sampleDb =
        .error (.err (.required "scan-intervals" ("Wrong number of values: expected 3 but 1 supplied. " ++
          "Did you use the correct delimiter '|'?"))) t ∧
      configureAccountantConfig ⟨none, none, none, none⟩ t = .ok config u ∧
      config.paymentThresholdsOpt.map (·.debtThresholdGwei.val) = some 8 := ⟨⟨_, _, rfl, rfl, rfl⟩, _, _, _, rfl, rfl, rfl⟩

end PulseMesh.NodeConfigurator
