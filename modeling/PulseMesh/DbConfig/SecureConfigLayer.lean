import PulseMesh.Blockchain.Bip39
import PulseMesh.DbConfig.ConfigDao

/-!
# Encrypted configuration values

Some values of the configuration are encrypted under the database password.  The password itself is
nowhere: an encrypted example tells whether a password is the right one.  A change of the password
decrypts and encrypts all values, writes them back one by one and replaces the example at the end.

The changes of a table by a change of the password are the writes of `writeBack`.
-/

namespace PulseMesh.DbConfig

open Machine SubLib Blockchain

def exampleEncrypted : String := "example_encrypted"

inductive SecureConfigLayerError where
  | notPresent
  | passwordError
  | transactionError
  | databaseError (msg : String)

def SecureConfigLayerError.ofConfigDaoError : ConfigDaoError → SecureConfigLayerError
  | .notPresent => .notPresent
  | .transactionError => .transactionError
  | .databaseError msg => .databaseError msg

/-- Every encryption takes a salt of its own. -/
def nextSalt {ε : Type} : Db ε Nat := fun s => .ok s.salt { s with salt := s.salt + 1 }

namespace DbEncryptionLayer

variable (bip39 : Bip39)

def passwordMatches (dbPasswordOpt exampleEncryptedOpt : Option String) : Except Panic Bool :=
  match dbPasswordOpt, exampleEncryptedOpt with
  | none, none => .ok true
  | none, some _ => .ok false
  | some _, none => .ok false
  | some dbPassword, some encryptedExample =>
    match bip39.decryptBytes encryptedExample dbPassword with
    | .ok _ => .ok true
    | .error (.decryptionFailure _) => .ok false
    | .error e =>
      .error (.raised s!"Database is corrupt: password example value can't be read: {e.debug}")

def decryptValue (cryptValueOpt dbPasswordOpt : Option String) (name : String) :
    Db SecureConfigLayerError (Option String) :=
  match cryptValueOpt, dbPasswordOpt with
  | some value, some password =>
    match bip39.decryptBytes value password with
    | .error _ => Db.err .passwordError
    | .ok plainData =>
      match fromUtf8 plainData.data with
      | none => Db.orPanic (.error (.raised s!"Database is corrupt: contains a non-UTF-8 value for '{name}'"))
      | some plainValue => pure (some plainValue)
  | some _, none => Db.err .passwordError
  | none, _ => pure none

def encryptValue (plainValueOpt dbPasswordOpt : Option String) (name : String) :
    Db SecureConfigLayerError (Option String) :=
  match plainValueOpt, dbPasswordOpt with
  | some plainValue, some password => do
    let salt ← nextSalt
    match bip39.encryptBytes salt (utf8Bytes plainValue) password with
    | .error _ => Db.orPanic (.error (.raised s!"Encryption of '{plainValue}' for {name} failed"))
    | .ok cryptData => pure (some cryptData)
  | some _, none => Db.err .passwordError
  | none, _ => pure none

def reencryptValue (salt : Nat) (cryptValue oldPassword newPassword name : String) : Except Panic String :=
  match bip39.decryptBytes cryptValue oldPassword with
  | .error _ =>
    .error (.raised s!"Database is corrupt: configuration value '{name}' cannot be decrypted")
  | .ok plainData =>
    match bip39.encryptBytes salt plainData.data newPassword with
    | .ok crypt => .ok crypt
    | .error e => .error (.raised s!"Encryption failed: {e.debug}")

end DbEncryptionLayer

namespace SecureConfigLayer

open DbEncryptionLayer

variable (bip39 : Bip39)

def passwordMatchesExample (dbPasswordOpt : Option String) (exampleRecord : ConfigDaoRecord) :
    Except Panic Bool :=
  if exampleRecord.encrypted then
    passwordMatches bip39 dbPasswordOpt exampleRecord.valueOpt
  else
    .error (.raised "Database is corrupt: Password example value is not encrypted")

def checkPassword (dbPasswordOpt : Option String) : Db SecureConfigLayerError Bool := do
  let exampleRecord ← Db.mapErr .ofConfigDaoError (ConfigDao.get exampleEncrypted)
  Db.orPanic (passwordMatchesExample bip39 dbPasswordOpt exampleRecord)

def encrypt (name : String) (plainValueOpt passwordOpt : Option String) :
    Db SecureConfigLayerError (Option String) := do
  if ← checkPassword bip39 passwordOpt then
    let record ← Db.mapErr .ofConfigDaoError (ConfigDao.get name)
    if record.encrypted then
      encryptValue bip39 plainValueOpt passwordOpt record.name
    else
      pure plainValueOpt
  else
    Db.err .passwordError

def decrypt (record : ConfigDaoRecord) (passwordOpt : Option String) :
    Db SecureConfigLayerError (Option String) := do
  if ← checkPassword bip39 passwordOpt then
    if record.encrypted then
      decryptValue bip39 record.valueOpt passwordOpt record.name
    else
      pure record.valueOpt
  else
    Db.err .passwordError

/-- Only a value that is encrypted and present is encrypted anew. -/
def reencryptRecord (oldPasswordOpt : Option String) (newPassword : String) (oldRecord : ConfigDaoRecord) :
    Db SecureConfigLayerError ConfigDaoRecord :=
  match oldRecord.encrypted, oldRecord.valueOpt, oldPasswordOpt with
  | false, _, _ => pure oldRecord
  | true, none, _ => pure oldRecord
  | true, some _, none =>
    Db.orPanic (.error (.raised (s!"Database is corrupt: configuration value '{oldRecord.name}' is " ++
      "encrypted, but database has no password")))
  | true, some value, some oldPassword => do
    let salt ← nextSalt
    let reencryptedValue ←
      Db.orPanic (reencryptValue bip39 salt value oldPassword newPassword oldRecord.name)
    pure { oldRecord with valueOpt := some reencryptedValue }

def updateRecord (record : ConfigDaoRecord) : Db SecureConfigLayerError Unit :=
  Db.mapErr (fun e => .databaseError
      (s!"Aborting password change: configuration value '{record.name}' could not be set: " ++ e.debug))
    (ConfigDao.set record.name record.valueOpt)

/-- The first record that cannot be written ends the loop. -/
def updateRecords (reencryptedRecords : List ConfigDaoRecord) : Db SecureConfigLayerError Unit :=
  reencryptedRecords.forM updateRecord

def reencryptRecords (oldPasswordOpt : Option String) (newPassword : String) :
    Db SecureConfigLayerError Unit := do
  let existingRecords ← Db.mapErr .ofConfigDaoError ConfigDao.getAll
  let reencryptedRecords ←
    (existingRecords.filter fun record => decide (record.name ≠ exampleEncrypted)).mapM
      (reencryptRecord bip39 oldPasswordOpt newPassword)
  updateRecords reencryptedRecords

/-- The example is random data, encrypted under the password. -/
def installExampleForPassword (exampleData : Nat → Bytes) (newPassword : String) :
    Db SecureConfigLayerError Unit := do
  let salt ← nextSalt
  match bip39.encryptBytes salt (exampleData salt) newPassword with
  | .error e => Db.orPanic (.error (.raised s!"Encryption failed: {e.debug}"))
  | .ok example' =>
    Db.mapErr .ofConfigDaoError (ConfigDao.set exampleEncrypted (some example'))

def changePassword (exampleData : Nat → Bytes) (oldPasswordOpt : Option String) (newPassword : String) :
    Db SecureConfigLayerError Unit := do
  if ← checkPassword bip39 oldPasswordOpt then
    reencryptRecords bip39 oldPasswordOpt newPassword
    installExampleForPassword bip39 exampleData newPassword
  else
    Db.err .passwordError

end SecureConfigLayer

end PulseMesh.DbConfig
