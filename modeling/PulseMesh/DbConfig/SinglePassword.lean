import PulseMesh.DbConfig.ConfigOperations
import PulseMesh.DbConfig.Guarded
import PulseMesh.Lib.Runs

/-!
# One password for all values

Two operations can leave a table whose values do not all have the one password that is accepted: a change
of the password that is cut off after a value was written back, and the setting of a wallet, whose private
key is encrypted under a password nobody has checked.
-/

namespace PulseMesh.DbConfig

open Effects SubLib Blockchain PersistentConfiguration ConfigTable

section

variable {libraries : ConfigLibraries} {s t : DbState}

/-! ### Every operation -/

lemma singlePassword_setParameter (valueOpt) (notExample : name ≠ exampleEncrypted)
    (plain : (name, true) ∉ s.table.columns) :
    SinglePassword bip39 (stateAfter (setParameter name valueOpt) s).table ↔
      SinglePassword bip39 s.table := by
  rcases setParameter_table name valueOpt s with same | written
  · rw [same]
  · rw [written]
    exact exists_congr fun _ => guarded_update_plain notExample plain

/-- A value that was encrypted under a checked password joins the others. -/
lemma singlePassword_setEncrypted (sound : bip39.Sound) (notExample : name ≠ exampleEncrypted)
    (single : SinglePassword bip39 s.table) (accepted : Accepts bip39 (some password) s.table)
    (opens : ∀ value, cryptOpt = some value → ∃ plain, bip39.decryptBytes value password = .ok plain) :
    SinglePassword bip39 (stateAfter (setParameter name cryptOpt) s).table := by
  rcases setParameter_table name cryptOpt s with same | written
  · rw [same]
    exact single
  · obtain ⟨passwordOpt, guarded⟩ := single
    cases password_unique sound guarded.accepted accepted
    rw [written]
    refine ⟨some password, guarded_update_encrypted notExample guarded fun value isValue => ?_⟩
    obtain ⟨plain, opened⟩ := opens value isValue
    exact ⟨password, plain, rfl, opened⟩

lemma singlePassword_setPastNeighbors (sound : libraries.bip39.Sound) (descriptorsOpt)
    (password : String) (encrypted : ("past_neighbors", true) ∈ s.table.columns)
    (single : SinglePassword libraries.bip39 s.table) :
    SinglePassword libraries.bip39
      (stateAfter (setPastNeighbors libraries descriptorsOpt password) s).table := by
  rw [setPastNeighbors]
  rcases Reads.bind_cases ((reads_encrypt _ _ _ _).mapErr _) _ s with
    ⟨stop, t, stopped, same⟩ | ⟨cryptOpt, mid, ran, same, rest⟩
  · rw [stateAfter_of_error stopped, same]
    exact single
  · obtain ⟨accepted, opens⟩ := encrypt_ok sound encrypted (Db.mapErr_ok_iff.mp ran)
    rw [stateAfter, rest]
    rw [← same] at single accepted
    exact singlePassword_setEncrypted sound (by decide) single accepted opens

lemma singlePassword_setCryptde (sound : libraries.bip39.Sound) (text password : String)
    (encrypted : ("last_cryptde", true) ∈ s.table.columns) (single : SinglePassword libraries.bip39 s.table) :
    SinglePassword libraries.bip39
      (stateAfter (setCryptde libraries text password) s).table := by
  rw [setCryptde]
  rcases Reads.bind_cases ((reads_encrypt _ _ _ _).mapErr _) _ s with
    ⟨stop, t, stopped, same⟩ | ⟨cryptOpt, mid, ran, same, rest⟩
  · rw [stateAfter_of_error stopped, same]
    exact single
  · obtain ⟨accepted, opens⟩ := encrypt_ok sound encrypted (Db.mapErr_ok_iff.mp ran)
    rw [stateAfter, rest]
    rw [← same] at single accepted
    cases cryptOpt with
    | none => exact single
    | some crypt => exact singlePassword_setEncrypted sound (by decide) single accepted opens

/-- An operation that does not break the invariant: a change of the password that is not cut off after a
value was written back under another password, and a private key whose password is the right one or that
is not stored. -/
def Harmless (libraries : ConfigLibraries) (s : DbState) :
    ConfigOperation × List (Option ConfigDaoError) → Prop
  | (.changePassword old new, fates) =>
    (∃ e t, SecureConfigLayer.changePassword libraries.bip39 libraries.exampleData old new
        { s with fates } = .error (.err e) t) →
      ¬ Accepts libraries.bip39 old s.table ∨ old = some new ∨
        ∀ record ∈ writtenBack { s with fates }, record.encrypted = true → record.valueOpt = none
  | (.setWalletInfo privateKey address password, fates) =>
    Accepts libraries.bip39 (some password) s.table ∨
      (stateAfter (PersistentConfiguration.setWalletInfo libraries privateKey address password)
        { s with fates }).table = s.table
  | _ => True

lemma singlePassword_changePassword_iff (sound : libraries.bip39.Sound)
    (single : SinglePassword libraries.bip39 s.table) (old) (new : String)
    (fates : List (Option ConfigDaoError)) :
    SinglePassword libraries.bip39 (stateAfter (changePassword libraries old new) { s with fates }).table ↔
      Harmless libraries s (.changePassword old new, fates) := by
  rw [changePassword, Db.stateAfter_mapErr, Harmless]
  cases ran : SecureConfigLayer.changePassword libraries.bip39 libraries.exampleData old new
      { s with fates } with
  | ok _ t =>
    rw [stateAfter_of_ok ran]
    exact iff_of_true ⟨some new, guarded_of_changed sound ran⟩ (by simp)
  | error stop t =>
    rw [stateAfter_of_error ran]
    cases stop with
    | panicked panic =>
      rw [changePassword_panicked sound ran]
      exact iff_of_true single (by simp)
    | err e =>
      by_cases accepted : Accepts libraries.bip39 old s.table
      · obtain ⟨done, related, left, counted⟩ := changePassword_error (s := { s with fates }) sound accepted ran
        obtain ⟨passwordOpt, guarded⟩ := single
        cases password_unique sound guarded.accepted accepted
        rw [left, singlePassword_writeBack_iff sound related guarded]
        simp [accepted, writtenBack, counted]
      · rw [changePassword_refused (s := { s with fates }) accepted ran]
        exact iff_of_true single (by simp [accepted])

lemma singlePassword_setWalletInfo_iff (sound : libraries.bip39.Sound)
    (columns : s.table.columns = initialColumns) (single : SinglePassword libraries.bip39 s.table)
    (privateKey address password : String) (fates : List (Option ConfigDaoError)) :
    SinglePassword libraries.bip39
        (stateAfter (setWalletInfo libraries privateKey address password)
          { s with fates }).table ↔
      Harmless libraries s (.setWalletInfo privateKey address password, fates) := by
  rw [Harmless]
  rcases setWalletInfo_cases sound privateKey address password { s with fates } with
    ⟨stop, t, stopped, same⟩ | ⟨crypt, plain, mid, opens, left, -, ran⟩
  · rw [stateAfter_of_error stopped, same]
    exact iff_of_true single (Or.inr rfl)
  have stored : SinglePassword libraries.bip39 (s.table.update "consuming_wallet_private_key" (some crypt)) ↔
        Accepts libraries.bip39 (some password) s.table := by
    constructor
    · rintro ⟨passwordOpt, accepted, opensAll⟩
      have listed : ("consuming_wallet_private_key", true) ∈
          (s.table.update "consuming_wallet_private_key" (some crypt)).columns := by
        rw [columns_update, columns]
        decide
      have there : (s.table.find? "consuming_wallet_private_key").isSome = true := by
        rw [columns_update] at listed
        obtain ⟨record, member, named⟩ := List.mem_map.mp listed
        rw [← (Prod.mk.inj named).1, find?_of_mem member]
        rfl
      obtain ⟨own, plain', rfl, opensOwn⟩ := opensAll _ listed crypt
        (valueOf_update_self _ there)
      cases sound.onePassword _ _ _ _ _ opensOwn opens
      exact (accepts_update (by decide)).mp accepted
    · intro accepted
      obtain ⟨passwordOpt, guarded⟩ := single
      cases password_unique sound guarded.accepted accepted
      refine ⟨some password, guarded_update_encrypted (by decide) guarded fun value isValue => ?_⟩
      cases isValue
      exact ⟨password, plain, rfl, opens⟩
  have plainColumn : ("earning_wallet_address", true) ∉ mid.table.columns := by
    rw [left, columns_update, columns]
    decide
  have whole : SinglePassword libraries.bip39
      (stateAfter (setWalletInfo libraries privateKey address password)
        { s with fates }).table ↔ Accepts libraries.bip39 (some password) s.table := by
    rw [← stored, stateAfter, ran]
    exact (singlePassword_setParameter _ (by decide) plainColumn).trans (by rw [left])
  constructor
  · exact fun kept => Or.inl (whole.mp kept)
  · rintro (accepted | same)
    · exact whole.mpr accepted
    · rw [same]
      exact single

/-! ### Names and flags -/

lemma columns_setParameter (name : String) (valueOpt s) :
    (stateAfter (setParameter name valueOpt) s).table.columns = s.table.columns := by
  rcases setParameter_table name valueOpt s with same | written
  · rw [same]
  · rw [written, columns_update]

lemma columns_changePassword (sound : libraries.bip39.Sound) (old) (new : String) (s) :
    (stateAfter (changePassword libraries old new) s).table.columns = s.table.columns := by
  rw [changePassword, Db.stateAfter_mapErr]
  cases ran : SecureConfigLayer.changePassword libraries.bip39 libraries.exampleData old new s with
  | ok _ t =>
    obtain ⟨-, records, crypt, plain, -, left, -⟩ := changePassword_ok sound ran
    rw [stateAfter_of_ok ran, left, columns_update, columns_writeBack]
  | error stop t =>
    rw [stateAfter_of_error ran]
    cases stop with
    | panicked panic => rw [changePassword_panicked sound ran]
    | err e =>
      by_cases accepted : Accepts libraries.bip39 old s.table
      · obtain ⟨done, -, left, -⟩ := changePassword_error sound accepted ran
        rw [left, columns_writeBack]
      · rw [changePassword_refused accepted ran]

lemma columns_setWalletInfo (sound : libraries.bip39.Sound) (privateKey address password : String) (s) :
    (stateAfter (setWalletInfo libraries privateKey address password) s).table.columns = s.table.columns := by
  rcases setWalletInfo_cases sound privateKey address password s with
    ⟨stop, t, stopped, same⟩ | ⟨crypt, plain, mid, -, left, -, ran⟩
  · rw [stateAfter_of_error stopped, same]
  · rw [stateAfter, ran]
    exact (columns_setParameter _ _ mid).trans (by rw [left, columns_update])

/-- After a computation that only reads, a write of one value. -/
lemma columns_bind {α : Type} {x : Db PersistentConfigError α} {f : α → Db PersistentConfigError Unit}
    (reads : Reads x) (rest : ∀ a s, (stateAfter (f a) s).table.columns = s.table.columns) (s) :
    (stateAfter (x >>= f) s).table.columns = s.table.columns := by
  rcases reads.bind_cases f s with ⟨stop, t, stopped, same⟩ | ⟨a, mid, -, same, ran⟩
  · rw [stateAfter_of_error stopped, same]
  · rw [stateAfter, ran]
    exact (rest a mid).trans (by rw [same])

variable (sound : libraries.bip39.Sound)
include sound

/-- No operation changes the names or the flags. -/
lemma columns_perform (operation : ConfigOperation) (s : DbState) :
    (stateAfter (operation.perform libraries) s).table.columns = s.table.columns := by
  cases operation with
  | changePassword old new => exact columns_changePassword sound old new s
  | setWalletInfo privateKey address password => exact columns_setWalletInfo sound privateKey address password s
  | setCryptde text password =>
    refine columns_bind ((reads_encrypt _ _ _ _).mapErr _) (fun cryptOpt s => ?_) s
    cases cryptOpt with
    | none => rfl
    | some crypt => exact columns_setParameter _ _ s
  | setPastNeighbors descriptors password =>
    exact columns_bind ((reads_encrypt _ _ _ _).mapErr _) (fun _ s => columns_setParameter _ _ s) s
  | setBlockchainServiceUrl url =>
    rw [ConfigOperation.perform, setBlockchainServiceUrl]
    split
    · rfl
    · exact columns_setParameter _ _ s
  | setClandestinePort isFree port =>
    rw [ConfigOperation.perform, setClandestinePort]
    split_ifs
    · rfl
    · exact columns_setParameter _ _ s
    · rfl
  | _ => exact columns_setParameter _ _ s

lemma singlePassword_perform_iff
    (columns : s.table.columns = initialColumns) (single : SinglePassword libraries.bip39 s.table)
    (call : ConfigOperation × List (Option ConfigDaoError)) :
    SinglePassword libraries.bip39 (stateAfter (call.1.perform libraries) { s with fates := call.2 }).table ↔
      Harmless libraries s call := by
  obtain ⟨operation, fates⟩ := call
  have plain : ∀ name valueOpt, name ≠ exampleEncrypted → (name, true) ∉ initialColumns →
      SinglePassword libraries.bip39 (stateAfter (setParameter name valueOpt) { s with fates }).table := by
    intro name valueOpt notExample isPlain
    rw [← columns] at isPlain
    exact (singlePassword_setParameter (s := { s with fates }) valueOpt notExample isPlain).mpr single
  cases operation with
  | changePassword old new => exact singlePassword_changePassword_iff sound single old new fates
  | setWalletInfo privateKey address password =>
    exact singlePassword_setWalletInfo_iff sound columns single privateKey address password fates
  | setCryptde text password =>
    refine iff_of_true (singlePassword_setCryptde (s := { s with fates }) sound text password ?_ single) trivial
    dsimp only
    rw [columns]
    decide
  | setPastNeighbors descriptors password =>
    refine iff_of_true
      (singlePassword_setPastNeighbors (s := { s with fates }) sound descriptors password ?_ single) trivial
    dsimp only
    rw [columns]
    decide
  | setBlockchainServiceUrl url =>
    refine iff_of_true ?_ trivial
    rw [ConfigOperation.perform, setBlockchainServiceUrl]
    split
    · exact single
    · exact plain _ _ (by decide) (by decide)
  | setClandestinePort isFree port =>
    refine iff_of_true ?_ trivial
    rw [ConfigOperation.perform, setClandestinePort]
    split_ifs
    · exact single
    · exact plain _ _ (by decide) (by decide)
    · exact single
  | _ => exact iff_of_true (plain _ _ (by decide) (by decide)) trivial

/-- A wallet that cannot be set leaves the table as it is, unless it is the fourth call that fails, the
write of the address after the write of the private key. -/
lemma setWalletInfo_error (columns : s.table.columns = initialColumns)
    (failed : setWalletInfo libraries privateKey address password s = .error (.err e) t)
    (notLast : failurePoint s.fates ≠ 3) : t.table = s.table := by
  rcases setWalletInfo_cases sound privateKey address password s with
    ⟨stop, t', stopped, same⟩ | ⟨crypt, plain, mid, -, left, last, ran⟩
  · cases stopped.symm.trans failed
    exact same
  · rw [failed] at ran
    obtain ⟨cause, fails, -⟩ := Db.mapErr_err_iff.mp ran.symm
    obtain ⟨-, e, -, fate | absent⟩ := ConfigDao.set_error fails
    · exact absurd (last e fate) notLast
    · have listed : ("earning_wallet_address", false) ∈ mid.table.columns := by
        rw [left, columns_update, columns]
        decide
      obtain ⟨record, member, named⟩ := List.mem_map.mp listed
      rw [← (Prod.mk.inj named).1, find?_of_mem member] at absent
      cases absent

end

/-! ### Runs -/

section

variable {libraries : ConfigLibraries}

lemma columns_initializeConfig (preset : String → Option String) :
    (initializeConfig preset).columns = initialColumns := by
  rw [columns, initializeConfig]
  rfl

lemma singlePassword_initializeConfig (bip39) (preset : String → Option String) :
    SinglePassword bip39 (initializeConfig preset) := by
  refine ⟨none, rfl, fun name listed value present => ?_⟩
  rw [columns_initializeConfig] at listed
  have empty : (initializeConfig preset).valueOf name = none := by
    obtain ⟨column, member, rfl⟩ : ∃ column ∈ initialColumns, column = (name, true) := ⟨_, listed, rfl⟩
    have stored : (⟨name, none, true⟩ : ConfigDaoRecord) ∈ (initializeConfig preset).records :=
      List.mem_map.mpr ⟨(name, true), listed, rfl⟩
    rw [valueOf_of_mem stored]
  rw [empty] at present
  cases present

lemma columns_of_step (sound : libraries.bip39.Sound) {s next call}
    (columns : s.table.columns = initialColumns) (performed : perform libraries s call = .ok next) :
    next.table.columns = initialColumns := by
  cases performed
  exact (columns_perform sound call.1 _).trans columns

end

/-! ### Two wallets -/

def sampleLibraries : ConfigLibraries where
  bip39 := markedBip39
  exampleData := fun _ => [7]
  fromHex := fun _ => some [1, 2]
  isWalletAddress := fun _ => true
  parseUrl := fun _ => .ok ()

def emptyConfig : DbState := ⟨initializeConfig fun _ => none, [], 0⟩

def setPassword : ConfigOperation × List (Option ConfigDaoError) := (.changePassword none "booga", [])

def setWallet (password : String) : ConfigOperation × List (Option ConfigDaoError) :=
  (.setWalletInfo "0102" "0xearning" password, [])

/-- The state after an operation whose calls all go through. -/
def afterwards (s : DbState) (call : ConfigOperation × List (Option ConfigDaoError)) : DbState :=
  stateAfter (call.1.perform sampleLibraries) { s with fates := call.2 }

lemma sample_password_set :
    Accepts markedBip39 (some "booga") (afterwards emptyConfig setPassword).table := by
  decide +kernel

end PulseMesh.DbConfig
