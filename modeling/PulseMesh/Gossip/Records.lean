import PulseMesh.Accountant.Basic
import PulseMesh.Lib.SortedSet
import PulseMesh.Neighborhood.RouteSearch
import PulseMesh.SubLib.Messages

/-!
# Node records

What a Node knows of another Node: the inner data that the other one signs, and metadata of its own.
The records travel serialized, with the signature over the serialized data.  The signatures, the
serialization of `serde_cbor`, the table of the countries of IP addresses and the texts of IP
addresses come from libraries and are parameters.
-/

namespace PulseMesh.Gossip

open Machine SubLib Neighborhood

/-- Keys are compared byte by byte. -/
instance : LinearOrder PublicKey :=
  LinearOrder.lift' (fun key => key.data.map UInt8.toNat) fun _ _ same =>
    congrArg PublicKey.mk (List.map_injective_iff.mpr (fun _ _ => UInt8.toNat_inj.mp) same)

/-- The part of the trait that gossip uses. -/
structure SigningCryptDE extends CryptDE where
  sign : PlainData → Except CryptdecError CryptData
  verifySignature : PlainData → CryptData → PublicKey → Except Panic Bool

structure NodeLocation where
  countryCode : String
deriving DecidableEq

structure NodeRecordInner where
  publicKey : PublicKey
  earningWallet : Accountant.Wallet
  ratePack : RatePack
  neighbors : SortedSet PublicKey
  acceptsConnections : Bool
  routesData : Bool
  version : U32
  countryCodeOpt : Option String
deriving DecidableEq

structure NodeRecordMetadata where
  lastUpdate : U32
  nodeAddrOpt : Option NodeAddr
  unreachableHosts : List String
  nodeLocationOpt : Option NodeLocation
  countryUndesirability : U32
deriving DecidableEq

structure NodeRecord where
  inner : NodeRecordInner
  metadata : NodeRecordMetadata
  signedGossip : PlainData
  signature : CryptData
deriving DecidableEq

structure AccessibleGossipRecord where
  signedGossip : PlainData
  signature : CryptData
  nodeAddrOpt : Option NodeAddr
  inner : NodeRecordInner

/-- What stays the same as long as a Node runs. -/
structure Environment where
  profile : Profile
  cryptde : SigningCryptDE
  innerCodec : Codec NodeRecordInner
  findCountry : IpAddr → Option String
  displayIp : IpAddr → String

/-! ### Texts -/

def base64Alphabet : List Char :=
  "ABCDEFGHIJKLMNOPQRSTUVWXYZabcdefghijklmnopqrstuvwxyz0123456789+/".toList

/-- Three bytes make four digits of six bits, the last digits stay away without their bytes. -/
def base64Digits : Bytes → List Nat
  | [] => []
  | [a] => [a.toNat / 4, a.toNat % 4 * 16]
  | [a, b] => [a.toNat / 4, a.toNat % 4 * 16 + b.toNat / 16, b.toNat % 16 * 4]
  | a :: b :: c :: rest =>
    [a.toNat / 4, a.toNat % 4 * 16 + b.toNat / 16, b.toNat % 16 * 4 + c.toNat / 64, c.toNat % 64] ++
      base64Digits rest

def displayKey (key : PublicKey) : String :=
  String.ofList ((base64Digits key.data).map fun digit => base64Alphabet.getD digit '=')

def displayRatePack (ratePack : RatePack) : String :=
  s!"{ratePack.routingByteRate.val}|{ratePack.routingServiceRate.val}|" ++
    s!"{ratePack.exitByteRate.val}|{ratePack.exitServiceRate.val}"

section

variable (env : Environment)

def displaySocketAddr (socketAddr : SocketAddr) : String :=
  match socketAddr.ip with
  | .v4 _ => s!"{env.displayIp socketAddr.ip}:{socketAddr.port}"
  | .v6 _ => s!"[{env.displayIp socketAddr.ip}]:{socketAddr.port}"

def displayNodeAddr (nodeAddr : NodeAddr) : String :=
  let portList := String.intercalate "/" (nodeAddr.ports.map fun port => s!"{port}")
  s!"{env.displayIp nodeAddr.ipAddr}:{portList}"

end

/-! ### Signing -/

section

variable (env : Environment)

def getNodeLocation (ipOpt : Option IpAddr) : Option NodeLocation :=
  ipOpt.bind fun ip => (env.findCountry ip).map NodeLocation.mk

def serializeInner (inner : NodeRecordInner) : Except Panic PlainData :=
  match env.innerCodec.serialize inner with
  | .ok signedData => .ok signedData
  | .error _ => .error (.raised "Serialization failed")

def regenerateSignedGossip (inner : NodeRecordInner) : Except Panic (PlainData × CryptData) := do
  let signedGossip ← serializeInner env inner
  match env.cryptde.sign signedGossip with
  | .ok signature => return (signedGossip, signature)
  | .error e => .error (.raised s!"not implemented: TODO: Signing error: {e.debug}")

/-- A record made for one answer only; here a failed signature is expected away. -/
def gossipNodeRecordOf (inner : NodeRecordInner) (nodeAddrOpt : Option NodeAddr) :
    Except Panic GossipNodeRecord := do
  let signedData ← serializeInner env inner
  match env.cryptde.sign signedData with
  | .ok signature => return ⟨signedData, signature, nodeAddrOpt⟩
  | .error e => .error (.raised s!"Signing failed: {e.debug}")

def AccessibleGossipRecord.tryFrom (record : GossipNodeRecord) :
    Except SerdeCborError AccessibleGossipRecord :=
  match env.innerCodec.deserialize record.signedData with
  | .ok inner => .ok ⟨record.signedData, record.signature, record.nodeAddrOpt, inner⟩
  | .error e => .error e

end

def AccessibleGossipRecord.clone (agr : AccessibleGossipRecord) : AccessibleGossipRecord :=
  { agr with nodeAddrOpt := agr.nodeAddrOpt.map NodeAddr.clone }

def NodeRecordMetadata.new (now : U32) : NodeRecordMetadata := ⟨now, none, [], none, ⟨0, u32_zero⟩⟩

namespace NodeRecord

variable (record : NodeRecord)

def publicKey : PublicKey := record.inner.publicKey

def version : U32 := record.inner.version

def nodeAddrOpt : Option NodeAddr :=
  record.metadata.nodeAddrOpt.map NodeAddr.clone

def hasHalfNeighbor (key : PublicKey) : Bool :=
  decide (key ∈ record.inner.neighbors)

def withNeighbors (neighbors : SortedSet PublicKey) : NodeRecord :=
  { record with inner := { record.inner with neighbors } }

def withNodeAddr (nodeAddrOpt : Option NodeAddr) : NodeRecord :=
  { record with metadata := { record.metadata with nodeAddrOpt } }

def unsetNodeAddr : NodeRecord := record.withNodeAddr none

/-- A Node is not its own neighbor. -/
def addHalfNeighborKey (key : PublicKey) : Option NodeRecord :=
  if key = record.publicKey then
    none
  else
    some (record.withNeighbors (record.inner.neighbors.insert key))

def clearHalfNeighbors : NodeRecord := record.withNeighbors ∅

def toGossipNodeRecord : GossipNodeRecord :=
  ⟨record.signedGossip, record.signature, record.nodeAddrOpt⟩

variable {record}

section

variable (env : Environment)

def regenerateSignedGossip (record : NodeRecord) : Except Panic NodeRecord := do
  let (signedGossip, signature) ← Gossip.regenerateSignedGossip env record.inner
  return { record with signedGossip, signature }

def incrementVersion (record : NodeRecord) : Except Panic NodeRecord := do
  let version ← record.version.add env.profile ⟨1, u32_one⟩
  return { record with inner := { record.inner with version } }

def ofAgr (now : U32) (agr : AccessibleGossipRecord) : NodeRecord :=
  let nodeLocationOpt := getNodeLocation env (agr.nodeAddrOpt.map NodeAddr.ipAddr)
  ⟨agr.inner, { NodeRecordMetadata.new now with nodeLocationOpt, nodeAddrOpt := agr.nodeAddrOpt },
    agr.signedGossip, agr.signature⟩

/-- What is new in the incoming record; a refused one leaves the record as it is. -/
def update (now : U32) (agr : AccessibleGossipRecord) (record : NodeRecord) : Except String NodeRecord :=
  if agr.inner.publicKey ≠ record.publicKey then
    .error ("Updating a NodeRecord must not change its public key: " ++
      s!"{displayKey record.publicKey} -> {displayKey agr.inner.publicKey}")
  else if agr.inner.ratePack ≠ record.inner.ratePack then
    .error ("Updating a NodeRecord must not change its rate pack: " ++
      s!"{displayRatePack record.inner.ratePack} -> {displayRatePack agr.inner.ratePack}")
  else
    let updated (nodeAddrOpt : Option NodeAddr) : NodeRecord :=
      ⟨agr.inner, { record.metadata with lastUpdate := now, nodeAddrOpt },
        agr.signedGossip, agr.signature⟩
    match record.metadata.nodeAddrOpt, agr.nodeAddrOpt with
    | none, none => .ok (updated none)
    | none, some incoming => .ok (updated (some incoming.clone))
    | some existing, none => .ok (updated (some existing))
    | some existing, some incoming =>
      if existing ≠ incoming then
        .error ("Updating a NodeRecord must not change its node_addr_opt: " ++
          s!"{displayNodeAddr env existing} -> {displayNodeAddr env incoming}")
      else
        .ok (updated (some existing))

end

/-! ### What the operations keep -/

section

variable {agr : AccessibleGossipRecord} {record record' : NodeRecord}

@[simp]
lemma publicKey_withNeighbors (neighbors : SortedSet PublicKey) :
    (record.withNeighbors neighbors).publicKey = record.publicKey := rfl

@[simp]
lemma addHalfNeighborKey_eq_some :
    record.addHalfNeighborKey key = some record' ↔
      key ≠ record.publicKey ∧ record.withNeighbors (record.inner.neighbors.insert key) = record' := by
  unfold addHalfNeighborKey
  split
  next self => simp [self]
  next other => simp [other]

/-- A record and what it has become by an incoming one. -/
structure Updated (agr : AccessibleGossipRecord) (record record' : NodeRecord) : Prop where
  publicKey : agr.inner.publicKey = record.publicKey
  ratePack : agr.inner.ratePack = record.inner.ratePack
  inner : record'.inner = agr.inner
  signedGossip : record'.signedGossip = agr.signedGossip
  signature : record'.signature = agr.signature
  /-- an address can come, but it cannot go or change -/
  nodeAddr : record'.metadata.nodeAddrOpt = record.metadata.nodeAddrOpt ∨
    record.metadata.nodeAddrOpt = none ∧
      record'.metadata.nodeAddrOpt = agr.nodeAddrOpt.map NodeAddr.clone
  incoming : agr.nodeAddrOpt.isSome → record'.metadata.nodeAddrOpt.isSome

lemma Updated.publicKey_eq (updated : Updated agr record record') :
    record'.publicKey = record.publicKey := by
  rw [NodeRecord.publicKey, updated.inner, updated.publicKey]

lemma update_eq_ok (accepted : record.update env now agr = .ok record') : Updated agr record record' := by
  unfold update at accepted
  split at accepted
  · cases accepted
  next sameKey =>
    split at accepted
    · cases accepted
    next sameRates =>
      rw [not_not] at sameKey sameRates
      -- the four combinations of a known and an incoming address
      split at accepted
      next unknown silent =>
        cases accepted
        exact ⟨sameKey, sameRates, rfl, rfl, rfl, .inl unknown.symm, by simp [silent]⟩
      next unknown told =>
        cases accepted
        exact ⟨sameKey, sameRates, rfl, rfl, rfl, .inr ⟨unknown, by rw [told]; rfl⟩, by simp⟩
      next known silent =>
        cases accepted
        exact ⟨sameKey, sameRates, rfl, rfl, rfl, .inl known.symm, by simp⟩
      next known _ =>
        split at accepted
        · cases accepted
        · cases accepted
          exact ⟨sameKey, sameRates, rfl, rfl, rfl, .inl known.symm, by simp⟩

lemma regenerateSignedGossip_inner_eq_ok {inner signedGossip signature}
    (regenerated : Gossip.regenerateSignedGossip env inner = .ok (signedGossip, signature)) :
    env.innerCodec.serialize inner = .ok signedGossip ∧ env.cryptde.sign signedGossip = .ok signature := by
  obtain ⟨serialized, serializes, regenerated⟩ := ok_of_bind regenerated
  unfold serializeInner at serializes
  split at serializes
  next written =>
    cases serializes
    split at regenerated
    next signs =>
      cases regenerated
      exact ⟨written, signs⟩
    · cases regenerated
  · cases serializes

lemma regenerateSignedGossip_eq_ok (signed : record.regenerateSignedGossip env = .ok record') :
    record'.inner = record.inner ∧ record'.metadata = record.metadata ∧
      env.innerCodec.serialize record'.inner = .ok record'.signedGossip ∧
      env.cryptde.sign record'.signedGossip = .ok record'.signature := by
  obtain ⟨⟨signedGossip, signature⟩, regenerated, result⟩ := ok_of_bind signed
  cases result
  exact ⟨rfl, rfl, regenerateSignedGossip_inner_eq_ok regenerated⟩

lemma incrementVersion_eq_ok (incremented : record.incrementVersion env = .ok record') :
    ∃ version, record.version.add env.profile ⟨1, by decide⟩ = .ok version ∧
      record' = { record with inner := { record.inner with version } } := by
  obtain ⟨version, added, result⟩ := ok_of_bind incremented
  cases result
  exact ⟨version, added, rfl⟩

end

end NodeRecord

end PulseMesh.Gossip
