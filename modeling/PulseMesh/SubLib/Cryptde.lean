import PulseMesh.Lib.Machine

/-!
# CryptDE and wallets

What routes are made with: public keys, the encrypting and decrypting of serialized items, and the
signatures by which a wallet answers for a hop.  The ciphers, the serialization of `serde_cbor`, the
signatures and the hash come from libraries; they are records of functions here, with the laws that
are relied on.
-/

namespace PulseMesh.SubLib

open Machine

abbrev Bytes := List UInt8

def utf8Bytes (text : String) : Bytes := text.toUTF8.data.toList

def fromUtf8 (bytes : Bytes) : Option String := String.fromUTF8? ⟨bytes.toArray⟩

def hexDigits (bytes : Bytes) : String :=
  String.join (bytes.map fun byte => (BitVec.ofNat 8 byte.toNat).toHex)

structure PublicKey where
  data : Bytes
deriving DecidableEq

def PublicKey.debug (key : PublicKey) : String := "0x" ++ (hexDigits key.data).toUpper

structure PlainData where
  data : Bytes
deriving DecidableEq

structure CryptData where
  data : Bytes
deriving DecidableEq

inductive CryptdecError where
  | emptyKey
  | emptyData
  | invalidKey (msg : String)
  | invalidSignature (msg : String)
  | openingFailed
  | otherError (msg : String)
deriving DecidableEq

structure SerdeCborError where
  delegate : String
deriving DecidableEq

inductive RouteError where
  | hopDecodeProblem (msg : String)
  | emptyRoute
  | tooFewKeysInRouteSegment
  | disjointRouteSegments
deriving DecidableEq

inductive CodexError where
  | serializationError (error : SerdeCborError)
  | deserializationError (error : SerdeCborError)
  | encryptionError (error : CryptdecError)
  | decryptionError (error : CryptdecError)
  | routingError (error : RouteError)
deriving DecidableEq

def CryptdecError.debug : CryptdecError → String
  | .emptyKey => "EmptyKey"
  | .emptyData => "EmptyData"
  | .invalidKey msg => s!"InvalidKey(\"{msg}\")"
  | .invalidSignature msg => s!"InvalidSignature(\"{msg}\")"
  | .openingFailed => "OpeningFailed"
  | .otherError msg => s!"OtherError(\"{msg}\")"

def RouteError.debug : RouteError → String
  | .hopDecodeProblem msg => s!"HopDecodeProblem(\"{msg}\")"
  | .emptyRoute => "EmptyRoute"
  | .tooFewKeysInRouteSegment => "TooFewKeysInRouteSegment"
  | .disjointRouteSegments => "DisjointRouteSegments"

def CodexError.debug : CodexError → String
  | .serializationError error => s!"SerializationError({error.delegate})"
  | .deserializationError error => s!"DeserializationError({error.delegate})"
  | .encryptionError error => s!"EncryptionError({error.debug})"
  | .decryptionError error => s!"DecryptionError({error.debug})"
  | .routingError error => s!"RoutingError({error.debug})"

/-- The part of the trait that routes use; the private key stays inside `decode`. -/
structure CryptDE where
  publicKey : PublicKey
  encode : PublicKey → PlainData → Except CryptdecError CryptData
  decode : CryptData → Except CryptdecError PlainData

/-- A serialization; what it writes it reads back. -/
structure Codec (α : Type) where
  serialize : α → Except SerdeCborError PlainData
  deserialize : PlainData → Except SerdeCborError α
  deserialize_serialize : ∀ {item data}, serialize item = .ok data → deserialize data = .ok item

section

variable {α : Type} (codec : Codec α)

def encodex (cryptde : CryptDE) (publicKey : PublicKey) (item : α) : Except CodexError CryptData :=
  match codec.serialize item with
  | .error e => .error (.serializationError e)
  | .ok serialized =>
    match cryptde.encode publicKey serialized with
    | .ok c => .ok c
    | .error e => .error (.encryptionError e)

def decodex (cryptde : CryptDE) (data : CryptData) : Except CodexError α :=
  match cryptde.decode data with
  | .error e => .error (.decryptionError e)
  | .ok decrypted =>
    match codec.deserialize decrypted with
    | .ok item => .ok item
    | .error e => .error (.deserializationError e)

end

/-- A correct public-key scheme: every valid key has its CryptDE, whatever anybody encrypts to the
key that one decrypts, and the CryptDE of no other valid key does. -/
structure PublicKeyScheme (cryptdeOf : PublicKey → CryptDE) (valid : PublicKey → Prop) : Prop where
  publicKey : ∀ {key}, valid key → (cryptdeOf key).publicKey = key
  decodes : ∀ {sender key plain crypt}, valid key → (cryptdeOf sender).encode key plain = .ok crypt →
    (cryptdeOf key).decode crypt = .ok plain
  others : ∀ {sender key other plain crypt}, valid key → valid other → other ≠ key →
    (cryptdeOf sender).encode key plain = .ok crypt → ∃ e, (cryptdeOf other).decode crypt = .error e

section

variable {α : Type}

lemma encodex_eq_ok (encoded : encodex codec cryptde key item = .ok crypt) :
    ∃ plain, codec.serialize item = .ok plain ∧ cryptde.encode key plain = .ok crypt := by
  unfold encodex at encoded
  split at encoded
  · cases encoded
  · next plain serialized =>
    split at encoded
    · next c encrypted =>
      cases encoded
      exact ⟨plain, serialized, encrypted⟩
    · cases encoded

lemma decodex_encodex (scheme : PublicKeyScheme cryptdeOf valid) (validKey : valid key)
    (encoded : encodex codec (cryptdeOf sender) key item = .ok crypt) :
    decodex codec (cryptdeOf key) crypt = .ok item := by
  obtain ⟨plain, serialized, encrypted⟩ := encodex_eq_ok encoded
  simp only [decodex, scheme.decodes validKey encrypted, codec.deserialize_serialize serialized]

lemma decodex_other_key (scheme : PublicKeyScheme cryptdeOf valid) (validKey : valid key)
    (validOther : valid other) (different : other ≠ key)
    (encoded : encodex codec (cryptdeOf sender) key item = .ok crypt) :
    ∃ e, decodex codec (cryptdeOf other) crypt = .error e := by
  obtain ⟨plain, -, encrypted⟩ := encodex_eq_ok encoded
  obtain ⟨e, fails⟩ := scheme.others validKey validOther different encrypted
  exact ⟨.decryptionError e, by simp only [decodex, fails]⟩

end

/-! ### Wallets and payers -/

abbrev Address := BitVec 160

def addressBytes (address : Address) : Bytes :=
  (List.range 20).map fun index => UInt8.ofNat (address.toNat >>> (8 * (19 - index)))

structure Signature where
  v : UInt8
  r : BitVec 256
  s : BitVec 256
deriving DecidableEq

structure Bip32EncryptionKeyProvider where
  address : Address
  sign : Bytes → Except String Signature

inductive WalletKind where
  | address (address : Address)
  | secretKey (keyProvider : Bip32EncryptionKeyProvider)
  | publicKey (address : Address)
  | uninitialized

structure Wallet where
  kind : WalletKind

inductive WalletError where
  | invalidAddress
  | signature (msg : String)

def WalletError.debug : WalletError → String
  | .invalidAddress => "InvalidAddress"
  | .signature msg => s!"Signature(\"{msg}\")"

def WalletKind.debug : WalletKind → String
  | .address own => s!"Address(0x{own.toHex})"
  | .secretKey _ => "SecretKey"
  | .publicKey own => s!"PublicKey(0x{own.toHex})"
  | .uninitialized => "Uninitialized"

def Wallet.sign (wallet : Wallet) (msg : Bytes) : Except WalletError Signature :=
  match wallet.kind with
  | .secretKey keyProvider =>
    match keyProvider.sign msg with
    | .ok signature => .ok signature
    | .error e => .error (.signature e)
  | kind => .error (.signature s!"Cannot sign with non-keypair wallet: {kind.debug}.")

def Wallet.address (wallet : Wallet) : Except Panic Address :=
  match wallet.kind with
  | .address own => .ok own
  | .publicKey own => .ok own
  | .secretKey keyProvider => .ok keyProvider.address
  | .uninitialized => .error (.raised "No address for an uninitialized wallet!")

/-- Who pays for a hop; the wallet is reduced to its address. -/
structure Payer where
  wallet : Address
  proof : Signature
deriving DecidableEq

section

variable (keccak256 : Bytes → Bytes)

def createDigest (msg address : Bytes) : Bytes := keccak256 (msg ++ address)

def Wallet.asPayer (wallet : Wallet) (publicKey : PublicKey) (contractAddress : Address) :
    Except Panic Payer :=
  match wallet.sign (createDigest keccak256 publicKey.data (addressBytes contractAddress)) with
  | .ok proof => do
    let address ← wallet.address
    return ⟨address, proof⟩
  | .error e =>
    .error (.raised s!"Trying to sign for {publicKey.debug} encountered {e.debug}")

/-- The proof of payment a hop carries, if there is a wallet. -/
def payerOpt (walletOpt : Option Wallet) (contractAddressOpt : Option Address)
    (publicKey : PublicKey) : Except Panic (Option Payer) :=
  match walletOpt with
  | none => .ok none
  | some wallet => do
    let payer ← wallet.asPayer keccak256 publicKey (contractAddressOpt.getD 0)
    return some payer

end

end PulseMesh.SubLib
