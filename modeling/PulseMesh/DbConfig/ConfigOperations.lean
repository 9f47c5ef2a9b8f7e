import PulseMesh.DbConfig.PasswordChange
import PulseMesh.DbConfig.PersistentConfiguration

/-!
# What the operations of the configuration write

Most operations write one value and nothing before.  A wallet takes two writes, with reads before them.
-/

namespace PulseMesh.DbConfig

open Effects SubLib Blockchain PersistentConfiguration ConfigDao

/-! ### What the operations leave behind -/

section

lemma setParameter_table (name : String) (valueOpt s) :
    (stateAfter (setParameter name valueOpt) s).table = s.table ∨
      (stateAfter (setParameter name valueOpt) s).table = s.table.update name valueOpt := by
  rw [setParameter, Db.stateAfter_mapErr]
  cases ran : set name valueOpt s with
  | ok _ t =>
    rw [stateAfter_of_ok ran]
    obtain ⟨-, -, rfl⟩ := set_ok_iff.mp ran
    exact Or.inr rfl
  | error stop t =>
    rw [stateAfter_of_error ran]
    obtain ⟨rfl, -⟩ := set_error ran
    exact Or.inl rfl

lemma setParameter_error (failed : setParameter name valueOpt s = .error stop t) : t.table = s.table := by
  have left := stateAfter_of_error failed
  rw [setParameter, Db.stateAfter_mapErr] at left
  cases ran : set name valueOpt s with
  | ok _ mid => simp [setParameter, Db.mapErr, ran] at failed
  | error cause mid =>
    rw [stateAfter_of_error ran] at left
    obtain ⟨rfl, -⟩ := set_error ran
    rw [← left]

lemma reads_checkPassword (bip39 passwordOpt) : Reads (SecureConfigLayer.checkPassword bip39 passwordOpt) :=
  ((Reads.get _).mapErr _).bind fun _ => .orPanic _

lemma reads_nextSalt {ε : Type} : Reads (nextSalt : Db ε Nat) := fun _ => rfl

lemma reads_encryptValue (bip39 plainValueOpt passwordOpt) (name : String) :
    Reads (DbEncryptionLayer.encryptValue bip39 plainValueOpt passwordOpt name) := by
  unfold DbEncryptionLayer.encryptValue
  split
  · refine reads_nextSalt.bind fun salt => ?_
    split
    · exact .orPanic _
    · exact .pure _
  · exact .err _
  · exact .pure _

lemma reads_encrypt (bip39) (name : String) (plainValueOpt passwordOpt) :
    Reads (SecureConfigLayer.encrypt bip39 name plainValueOpt passwordOpt) := by
  refine (reads_checkPassword bip39 passwordOpt).bind fun answer => ?_
  split
  · refine ((Reads.get _).mapErr _).bind fun record => ?_
    split
    · exact reads_encryptValue _ _ _ _
    · exact .pure _
  · exact .err _

/-- What is to be stored as an encrypted value opens under the password, which has been checked. -/
lemma encrypt_ok (sound : bip39.Sound) (encrypted : (name, true) ∈ s.table.columns)
    (returned : SecureConfigLayer.encrypt bip39 name plainValueOpt (some password) s = .ok cryptOpt t) :
    Accepts bip39 (some password) s.table ∧
      ∀ value, cryptOpt = some value → ∃ plain, bip39.decryptBytes value password = .ok plain := by
  obtain ⟨answer, mid, checked, later⟩ := bind_ok_iff.mp returned
  obtain ⟨-, ⟨example', found, answered⟩, rfl⟩ := checkPassword_ok_iff.mp checked
  cases answer with
  | false => cases later
  | true =>
    refine ⟨accepts_iff.mpr ⟨example', found, answered⟩, ?_⟩
    obtain ⟨record, mid, read, later⟩ := bind_ok_iff.mp later
    obtain ⟨-, recordFound, -⟩ := get_ok_iff.mp (Db.mapErr_ok_iff.mp read)
    obtain ⟨other, member, named⟩ := List.mem_map.mp encrypted
    obtain ⟨sameName, flag⟩ := Prod.mk.inj named
    have same := ConfigTable.find?_of_mem member
    rw [sameName] at same
    cases same.symm.trans recordFound
    rw [if_pos flag] at later
    intro value stored
    subst stored
    cases plainValueOpt with
    | none => cases later
    | some plainValue =>
      obtain ⟨salt, mid', salted, finished⟩ := bind_ok_iff.mp later
      obtain ⟨crypt, encrypts, opens⟩ := sound.encrypts salt (utf8Bytes plainValue) password
      simp only [encrypts] at finished
      cases finished
      exact ⟨_, opens⟩

/-! ### Wallets -/

lemma getRecord_ok (returned : getRecord name s = .ok record t) :
    s.fates.head?.join = none ∧ t = { s with fates := s.fates.tail } := by
  obtain ⟨found, mid, read, later⟩ := bind_ok_iff.mp returned
  obtain ⟨through, -, rfl⟩ := get_ok_iff.mp read
  split_ifs at later
  · cases later
    exact ⟨through, rfl⟩
  · cases later

lemma reads_getRecord (name : String) : Reads (getRecord name) := by
  refine (Reads.get name).bind fun record => ?_
  split
  · exact .pure _
  · exact .orPanic _

lemma reads_consumingWalletPrivateKey (password : String) :
    Reads (consumingWalletPrivateKey libraries password) := by
  refine ((reads_getRecord _).mapErr _).bind fun record => ?_
  split
  · exact .pure _
  · split
    · exact .pure _
    · exact .err _
    · exact .orPanic _

lemma consumingWalletPrivateKey_ok
    (returned : consumingWalletPrivateKey libraries password s = .ok keyOpt t) :
    s.fates.head?.join = none ∧ t = { s with fates := s.fates.tail } := by
  obtain ⟨record, mid, read, later⟩ := bind_ok_iff.mp returned
  obtain ⟨through, rfl⟩ := getRecord_ok (Db.mapErr_ok_iff.mp read)
  refine ⟨through, ?_⟩
  cases stored : record.valueOpt with
  | none =>
    simp only [stored] at later
    cases later
    rfl
  | some value =>
    cases opened : libraries.bip39.decryptBytes value password with
    | ok plain =>
      simp only [stored, opened] at later
      cases later
      rfl
    | error e =>
      simp only [stored, opened] at later
      cases e <;> cases later

lemma reads_earningWalletAddress : Reads earningWalletAddress :=
  ((reads_getRecord _).bind fun _ => .pure _).mapErr _

lemma earningWalletAddress_ok (returned : earningWalletAddress s = .ok addressOpt t) :
    s.fates.head?.join = none ∧ t = { s with fates := s.fates.tail } := by
  obtain ⟨record, mid, read, later⟩ := bind_ok_iff.mp (Db.mapErr_ok_iff.mp returned)
  cases later
  exact getRecord_ok read

lemma reads_rejectCollision (existingOpt) (same : String → Bool) (msg : String) :
    Reads (rejectCollision existingOpt same msg) := by
  unfold rejectCollision
  split
  · exact .pure _
  · split
    · exact .pure _
    · exact .err _

lemma rejectCollision_ok (returned : rejectCollision existingOpt same msg s = .ok () t) : t = s := by
  cases existingOpt with
  | none =>
    cases returned
    rfl
  | some existing =>
    simp only [rejectCollision] at returned
    split_ifs at returned
    · cases returned
      rfl
    · cases returned

lemma reads_encryptPrivateKey (privateKey password : String) :
    Reads (encryptPrivateKey libraries privateKey password) := by
  unfold encryptPrivateKey
  split
  · exact .err _
  · refine reads_nextSalt.bind fun salt => ?_
    split
    · exact .pure _
    · exact .orPanic _

lemma encryptPrivateKey_ok (sound : libraries.bip39.Sound)
    (returned : encryptPrivateKey libraries privateKey password s = .ok crypt t) :
    t.fates = s.fates ∧ ∃ plain, libraries.bip39.decryptBytes crypt password = .ok plain := by
  unfold encryptPrivateKey at returned
  cases parsed : libraries.fromHex privateKey with
  | none =>
    simp only [parsed] at returned
    cases returned
  | some bytes =>
    simp only [parsed] at returned
    obtain ⟨salt, mid, salted, later⟩ := bind_ok_iff.mp returned
    obtain ⟨other, encrypts, opens⟩ := sound.encrypts salt bytes password
    simp only [encrypts] at later
    cases salted
    cases later
    exact ⟨rfl, _, opens⟩

/-- Either nothing is written, or the private key is, and what is left to do is to write the address. -/
lemma setWalletInfo_cases (sound : libraries.bip39.Sound) (privateKey address password : String) (s) :
    (∃ stop t, setWalletInfo libraries privateKey address password s = .error stop t ∧ t.table = s.table) ∨
    ∃ crypt plain mid, libraries.bip39.decryptBytes crypt password = .ok plain ∧
      mid.table = s.table.update "consuming_wallet_private_key" (some crypt) ∧
      (∀ e, mid.fates.head?.join = some e → failurePoint s.fates = 3) ∧
      setWalletInfo libraries privateKey address password s =
        setParameter "earning_wallet_address" (some address) mid := by
  unfold setWalletInfo
  rcases Reads.bind_cases (reads_consumingWalletPrivateKey password) _ s with
    stopped | ⟨keyOpt, s₁, keyRead, -, ran⟩
  · exact Or.inl stopped
  rw [ran]
  obtain ⟨through₁, rfl⟩ := consumingWalletPrivateKey_ok keyRead
  rcases Reads.bind_cases (reads_rejectCollision keyOpt _ _) _ { s with fates := s.fates.tail } with
    stopped | ⟨⟨⟩, s₂, passed, -, ran⟩
  · exact Or.inl stopped
  rw [ran]
  cases rejectCollision_ok passed
  rcases Reads.bind_cases reads_earningWalletAddress _ { s with fates := s.fates.tail } with
    stopped | ⟨addressOpt, s₃, addressRead, -, ran⟩
  · exact Or.inl stopped
  rw [ran]
  obtain ⟨through₂, rfl⟩ := earningWalletAddress_ok addressRead
  rcases Reads.bind_cases (reads_rejectCollision addressOpt _ _) _ { s with fates := s.fates.tail.tail } with
    stopped | ⟨⟨⟩, s₄, passed, -, ran⟩
  · exact Or.inl stopped
  rw [ran]
  cases rejectCollision_ok passed
  rcases Reads.bind_cases (reads_encryptPrivateKey privateKey password) _
    { s with fates := s.fates.tail.tail } with stopped | ⟨crypt, s₅, encrypted, same, ran⟩
  · exact Or.inl stopped
  rw [ran]
  obtain ⟨sameFates, plain, opens⟩ := encryptPrivateKey_ok sound encrypted
  split_ifs with valid
  · cases written : setParameter "consuming_wallet_private_key" (some crypt) s₅ with
    | error stop t =>
      have kept := setParameter_error written
      exact Or.inl ⟨stop, t, bind_error_iff.mpr (Or.inl written), kept.trans same⟩
    | ok _ mid =>
      obtain ⟨through₃, -, rfl⟩ := set_ok_iff.mp (Db.mapErr_ok_iff.mp written)
      refine Or.inr ⟨crypt, plain, { s₅ with
          table := s₅.table.update "consuming_wallet_private_key" (some crypt)
          fates := s₅.fates.tail }, opens, by simp only [same], fun e fails => ?_, ?_⟩
      · rw [sameFates] at through₃
        rw [sameFates] at fails
        refine failurePoint_of_drop (fun i below => ?_) (by simpa using fails)
        match i, below with
        | 0, _ => exact through₁
        | 1, _ => simpa using through₂
        | 2, _ => simpa using through₃
      · change EStateM.bind _ _ s₅ = _
        rw [EStateM.bind, written]
  · exact Or.inl ⟨_, s₅, rfl, same⟩

end

end PulseMesh.DbConfig
