import PulseMesh.DbConfig.SecureConfigLayer

/-!
# The persistent configuration

The operations that write to the configuration.  Most of them set one plain value; past neighbors and
the last key pair are encrypted under the password after it has been checked; the private key of the
consuming wallet is encrypted under the password that is passed, without a check.  Hexadecimal notation,
wallet addresses and URLs are recognized by libraries, which are parameters.
-/

namespace PulseMesh.DbConfig

open Machine Effects SubLib Blockchain Db

inductive PersistentConfigError where
  | notPresent
  | passwordError
  | transactionError
  | databaseError (msg : String)
  | badPortNumber (msg : String)
  | badHexFormat (msg : String)
  | badAddressFormat (msg : String)
  | invalidUrl (msg : String)
  | collision (msg : String)

namespace PersistentConfigError

def ofSecureConfigLayerError : SecureConfigLayerError → PersistentConfigError
  | .notPresent => .notPresent
  | .passwordError => .passwordError
  | .transactionError => .transactionError
  | .databaseError msg => .databaseError msg

def ofConfigDaoError (e : ConfigDaoError) : PersistentConfigError :=
  ofSecureConfigLayerError (.ofConfigDaoError e)

end PersistentConfigError

inductive AutomapProtocol where
  | pmp
  | pcp
  | igdp

def AutomapProtocol.display : AutomapProtocol → String
  | .pmp => "PMP"
  | .pcp => "PCP"
  | .igdp => "IGDP"

inductive Hops where
  | oneHop
  | twoHops
  | threeHops
  | fourHops
  | fiveHops
  | sixHops

def Hops.display : Hops → String
  | .oneHop => "1"
  | .twoHops => "2"
  | .threeHops => "3"
  | .fourHops => "4"
  | .fiveHops => "5"
  | .sixHops => "6"

inductive NeighborhoodModeLight where
  | standard
  | consumeOnly
  | originateOnly
  | zeroHop

def NeighborhoodModeLight.display : NeighborhoodModeLight → String
  | .standard => "standard"
  | .consumeOnly => "consume-only"
  | .originateOnly => "originate-only"
  | .zeroHop => "zero-hop"

def lowestUsableInsecurePort : UInt16 := 1025

structure ConfigLibraries where
  bip39 : Bip39
  exampleData : Nat → Bytes
  fromHex : String → Option Bytes
  isWalletAddress : String → Bool
  parseUrl : String → Except String Unit

namespace PersistentConfiguration

def getRecord (name : String) : Db ConfigDaoError ConfigDaoRecord := do
  let record ← ConfigDao.get name
  if record.name = name then
    pure record
  else
    orPanic (.error (.raised (s!"ConfigDao (or more likely ConfigDaoMock) returned record for " ++
      s!"'{record.name}' when asked for '{name}'")))

def get (name : String) : Db ConfigDaoError (Option String) := do
  let record ← getRecord name
  pure record.valueOpt

/-! ### Plain values -/

def setParameter (name : String) (valueOpt : Option String) : Db PersistentConfigError Unit :=
  mapErr .ofConfigDaoError (ConfigDao.set name valueOpt)

def setGasPrice (gasPrice : U64) := setParameter "gas_price" (some (toString gasPrice.val))

def setMappingProtocol (valueOpt : Option AutomapProtocol) :=
  setParameter "mapping_protocol" (valueOpt.map AutomapProtocol.display)

def setMinHops (value : Hops) := setParameter "min_hops" (some value.display)

def setNeighborhoodMode (value : NeighborhoodModeLight) := setParameter "neighborhood_mode" (some value.display)

def setStartBlock (valueOpt : Option U64) :=
  setParameter "start_block" (valueOpt.map fun number => toString number.val)

def setMaxBlockCount (valueOpt : Option U64) :=
  setParameter "max_block_count" (valueOpt.map fun number => toString number.val)

/-- The value is set inside the caller's transaction. -/
def setStartBlockFromTxn (valueOpt : Option U64) :=
  setParameter "start_block" (valueOpt.map fun number => toString number.val)

def setPaymentThresholds (curves : String) := setParameter "payment_thresholds" (some curves)

def setRatePack (ratePack : String) := setParameter "rate_pack" (some ratePack)

def setScanIntervals (intervals : String) := setParameter "scan_intervals" (some intervals)

def setClandestinePort (isFree : Bool) (port : UInt16) : Db PersistentConfigError Unit :=
  if port < lowestUsableInsecurePort then
    err (.badPortNumber s!"Must be greater than 1024; not {port}")
  else if isFree then
    setParameter "clandestine_port" (some (toString port.toNat))
  else
    err (.badPortNumber s!"Must be open port: {port} is in use")

section

variable (libraries : ConfigLibraries)

def setBlockchainServiceUrl (url : String) : Db PersistentConfigError Unit :=
  match libraries.parseUrl url with
  | .error e => err (.invalidUrl e)
  | .ok () => setParameter "blockchain_service_url" (some url)

/-! ### Encrypted values -/

def checkPassword (dbPasswordOpt : Option String) : Db PersistentConfigError Bool :=
  mapErr .ofSecureConfigLayerError (SecureConfigLayer.checkPassword libraries.bip39 dbPasswordOpt)

def changePassword (oldPasswordOpt : Option String) (newPassword : String) : Db PersistentConfigError Unit :=
  mapErr .ofSecureConfigLayerError
    (SecureConfigLayer.changePassword libraries.bip39 libraries.exampleData oldPasswordOpt newPassword)

def setCryptde (cryptdeText dbPassword : String) : Db PersistentConfigError Unit := do
  let cryptOpt ← mapErr .ofSecureConfigLayerError
    (SecureConfigLayer.encrypt libraries.bip39 "last_cryptde" (some cryptdeText) (some dbPassword))
  match cryptOpt with
  | none => orPanic (.error
      (.raised "Can't be None here: both cryptde_text and db_password are supplied"))
  | some cryptdeCrypt => setParameter "last_cryptde" (some cryptdeCrypt)

/-- The descriptors as their serialization. -/
def setPastNeighbors (nodeDescriptorsOpt : Option Bytes) (dbPassword : String) :
    Db PersistentConfigError Unit := do
  let cryptOpt ← mapErr .ofSecureConfigLayerError
    (SecureConfigLayer.encrypt libraries.bip39 "past_neighbors" (nodeDescriptorsOpt.map hexDigits)
      (some dbPassword))
  setParameter "past_neighbors" cryptOpt

/-! ### Wallets -/

def consumingWalletPrivateKey (dbPassword : String) : Db PersistentConfigError (Option String) := do
  let record ← mapErr .ofConfigDaoError (getRecord "consuming_wallet_private_key")
  match record.valueOpt with
  | none => pure none
  | some encryptedValue =>
    match libraries.bip39.decryptBytes encryptedValue dbPassword with
    | .ok decryptedBytes => pure (some (hexDigits decryptedBytes.data))
    | .error (.decryptionFailure _) => err .passwordError
    | .error e => orPanic (.error
        (.raised s!"Database corruption {e.debug}: consuming private key can't be decrypted"))

def earningWalletAddress : Db PersistentConfigError (Option String) :=
  mapErr .ofConfigDaoError (get "earning_wallet_address")

def encryptPrivateKey (privateKey dbPassword : String) : Db PersistentConfigError String :=
  match libraries.fromHex privateKey with
  | none => err (.badHexFormat privateKey)
  | some privateKeyBytes => do
    let salt ← nextSalt
    match libraries.bip39.encryptBytes salt privateKeyBytes dbPassword with
    | .ok crypt => pure crypt
    | .error e => orPanic (.error (.raised s!"Failure to encrypt consuming private key: {e.debug}"))

/-- A wallet that is already there may only be set again to what it is. -/
def rejectCollision (existingOpt : Option String) (same : String → Bool) (msg : String) :
    Db PersistentConfigError Unit :=
  match existingOpt with
  | none => pure ()
  | some existing => if same existing then pure () else err (.collision msg)

def setWalletInfo (privateKey walletAddress dbPassword : String) : Db PersistentConfigError Unit := do
  let consumingWalletPrivateKeyOpt ← consumingWalletPrivateKey libraries dbPassword
  rejectCollision consumingWalletPrivateKeyOpt (fun existing => decide (privateKey.toUpper = existing.toUpper))
    "Consuming wallet private key already populated; cannot replace"
  let earningWalletAddressOpt ← earningWalletAddress
  rejectCollision earningWalletAddressOpt (fun existing => decide (walletAddress = existing))
    "Earning wallet address already populated; cannot replace"
  let encryptedPrivateKey ← encryptPrivateKey libraries privateKey dbPassword
  if libraries.isWalletAddress walletAddress then
    setParameter "consuming_wallet_private_key" (some encryptedPrivateKey)
    setParameter "earning_wallet_address" (some walletAddress)
  else
    err (.badAddressFormat walletAddress)

end

end PersistentConfiguration

/-! ### The operations, one after the other -/

inductive ConfigOperation where
  | changePassword (oldPasswordOpt : Option String) (newPassword : String)
  | setWalletInfo (privateKey walletAddress dbPassword : String)
  | setCryptde (cryptdeText dbPassword : String)
  | setPastNeighbors (nodeDescriptorsOpt : Option Bytes) (dbPassword : String)
  | setBlockchainServiceUrl (url : String)
  | setClandestinePort (isFree : Bool) (port : UInt16)
  | setGasPrice (gasPrice : U64)
  | setMappingProtocol (valueOpt : Option AutomapProtocol)
  | setMinHops (value : Hops)
  | setNeighborhoodMode (value : NeighborhoodModeLight)
  | setStartBlock (valueOpt : Option U64)
  | setMaxBlockCount (valueOpt : Option U64)
  | setStartBlockFromTxn (valueOpt : Option U64)
  | setPaymentThresholds (curves : String)
  | setRatePack (ratePack : String)
  | setScanIntervals (intervals : String)

def ConfigOperation.perform (libraries : ConfigLibraries) : ConfigOperation → Db PersistentConfigError Unit
  | .changePassword old new => PersistentConfiguration.changePassword libraries old new
  | .setWalletInfo privateKey address password =>
    PersistentConfiguration.setWalletInfo libraries privateKey address password
  | .setCryptde text password => PersistentConfiguration.setCryptde libraries text password
  | .setPastNeighbors descriptors password =>
    PersistentConfiguration.setPastNeighbors libraries descriptors password
  | .setBlockchainServiceUrl url => PersistentConfiguration.setBlockchainServiceUrl libraries url
  | .setClandestinePort isFree port => PersistentConfiguration.setClandestinePort isFree port
  | .setGasPrice price => PersistentConfiguration.setGasPrice price
  | .setMappingProtocol value => PersistentConfiguration.setMappingProtocol value
  | .setMinHops value => PersistentConfiguration.setMinHops value
  | .setNeighborhoodMode value => PersistentConfiguration.setNeighborhoodMode value
  | .setStartBlock value => PersistentConfiguration.setStartBlock value
  | .setMaxBlockCount value => PersistentConfiguration.setMaxBlockCount value
  | .setStartBlockFromTxn value => PersistentConfiguration.setStartBlockFromTxn value
  | .setPaymentThresholds curves => PersistentConfiguration.setPaymentThresholds curves
  | .setRatePack ratePack => PersistentConfiguration.setRatePack ratePack
  | .setScanIntervals intervals => PersistentConfiguration.setScanIntervals intervals

/-- The rows of a new database, with the flag of their encryption. -/
def initialColumns : List (String × Bool) :=
  [("example_encrypted", true), ("blockchain_service_url", false), ("chain_name", false),
    ("clandestine_port", false), ("consuming_wallet_private_key", true), ("earning_wallet_address", false),
    ("neighborhood_mode", false), ("schema_version", false), ("start_block", false), ("gas_price", false),
    ("last_cryptde", true), ("past_neighbors", true), ("mapping_protocol", false), ("min_hops", false),
    ("payment_thresholds", false), ("rate_pack", false), ("scan_intervals", false), ("max_block_count", false)]

/-- Only plain values are preset. -/
def initializeConfig (preset : String → Option String) : ConfigTable where
  records := initialColumns.map fun column =>
    ⟨column.1, if column.2 then none else preset column.1, column.2⟩
  primaryKey := by
    rw [List.map_map]
    change (initialColumns.map Prod.fst).Nodup
    decide

/-- One operation, with what becomes of its calls.  What it leaves in the table stays there, whether it
returns, returns an error or panics. -/
def perform (libraries : ConfigLibraries) (s : DbState)
    (call : ConfigOperation × List (Option ConfigDaoError)) : Except Panic DbState :=
  .ok (stateAfter (call.1.perform libraries) { s with fates := call.2 })

end PulseMesh.DbConfig
