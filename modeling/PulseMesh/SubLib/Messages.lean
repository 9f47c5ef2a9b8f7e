import PulseMesh.SubLib.Route

/-!
# Messages between Nodes

The payloads that travel in CORES packages, the three lives of a package (incipient, live, expired)
and the messages with which the actors of a Node hand them on.  Serialized payloads are versioned;
what their migrations make of the bytes is a parameter.
-/

namespace PulseMesh.SubLib

open Machine List

/-- The length of a vector as a machine integer. -/
def usize (length : Nat) : U64 := ⟨u64.wrap length, u64.wrap_holds _⟩

inductive IpAddr where
  | v4 (address : BitVec 32)
  | v6 (address : BitVec 128)
deriving DecidableEq

structure SocketAddr where
  ip : IpAddr
  port : UInt16
deriving DecidableEq

structure StreamKey where
  hash : BitVec 160
deriving DecidableEq

structure SequencedPacket where
  data : Bytes
  sequenceNumber : U64
  lastData : Bool
deriving DecidableEq

inductive ProxyProtocol where
  | http
  | tls
deriving DecidableEq

structure ClientRequestPayload where
  streamKey : StreamKey
  sequencedPacket : SequencedPacket
  targetHostname : Option String
  targetPort : UInt16
  protocol : ProxyProtocol
  originatorPublicKey : PublicKey
deriving DecidableEq

structure ClientResponsePayload where
  streamKey : StreamKey
  sequencedPacket : SequencedPacket
deriving DecidableEq

structure DnsResolveFailure where
  streamKey : StreamKey
deriving DecidableEq

structure NodeAddr where
  ipAddr : IpAddr
  ports : List UInt16
deriving DecidableEq

namespace NodeAddr

def new (ipAddr : IpAddr) (ports : List UInt16) : NodeAddr :=
  ⟨ipAddr, (ports.insertionSort (· ≤ ·)).destutter (· ≠ ·)⟩

/-- A deserialized address has its ports as they were sent; a copy of it has them in order. -/
def clone (nodeAddr : NodeAddr) : NodeAddr := new nodeAddr.ipAddr nodeAddr.ports

def ofSocketAddr (socketAddr : SocketAddr) : NodeAddr := new socketAddr.ip [socketAddr.port]

def toSocketAddrs (nodeAddr : NodeAddr) : List SocketAddr :=
  nodeAddr.ports.map fun port => ⟨nodeAddr.ipAddr, port⟩

@[simp]
lemma ipAddr_new (ipAddr ports) : (new ipAddr ports).ipAddr = ipAddr := rfl

@[simp]
lemma ipAddr_clone (nodeAddr : NodeAddr) : nodeAddr.clone.ipAddr = nodeAddr.ipAddr := rfl

lemma ports_new_eq_nil {ipAddr ports} : (new ipAddr ports).ports = [] ↔ ports = [] := by
  rw [new, destutter_eq_nil, ← length_eq_zero_iff, length_insertionSort,
    length_eq_zero_iff]

lemma ports_clone_eq_nil {nodeAddr : NodeAddr} : nodeAddr.clone.ports = [] ↔ nodeAddr.ports = [] :=
  ports_new_eq_nil

end NodeAddr

structure GossipNodeRecord where
  signedData : PlainData
  signature : CryptData
  nodeAddrOpt : Option NodeAddr
deriving DecidableEq

structure Gossip where
  nodeRecords : List GossipNodeRecord
deriving DecidableEq

inductive GossipFailure where
  | noNeighbors
  | noSuitableNeighbors
  | manualRejection
  | unknown
deriving DecidableEq

structure DataVersion where
  major : UInt16
  minor : UInt16
deriving DecidableEq

structure VersionedData (α : Type) where
  version : DataVersion
  bytes : Bytes
deriving DecidableEq

inductive MessageType where
  | clientRequest (data : VersionedData ClientRequestPayload)
  | clientResponse (data : VersionedData ClientResponsePayload)
  | gossip (data : VersionedData Gossip)
  | gossipFailure (data : VersionedData GossipFailure)
  | dnsResolveFailed (data : VersionedData DnsResolveFailure)
deriving DecidableEq

/-- What the migrations make of versioned bytes. -/
structure Migrations where
  clientRequest : VersionedData ClientRequestPayload → Except String ClientRequestPayload
  clientResponse : VersionedData ClientResponsePayload → Except String ClientResponsePayload
  gossip : VersionedData Gossip → Except String Gossip
  gossipFailure : VersionedData GossipFailure → Except String GossipFailure
  dnsResolveFailed : VersionedData DnsResolveFailure → Except String DnsResolveFailure

/-! ### Packages -/

structure IncipientCoresPackage where
  route : Route
  payload : CryptData

structure LiveCoresPackage where
  version : DataVersion
  route : Route
  payload : CryptData
deriving DecidableEq

structure ExpiredCoresPackage (α : Type) where
  immediateNeighbor : SocketAddr
  payingWallet : Option Address
  /-- topped by the hop that brought the package here -/
  remainingRoute : Route
  payload : α
  payloadLen : U64
deriving DecidableEq

inductive Endpoint where
  | key (publicKey : PublicKey)
  | socket (addr : SocketAddr)
deriving DecidableEq

structure TransmitDataMsg where
  endpoint : Endpoint
  lastData : Bool
  sequenceNumber : Option U64
  data : Bytes
deriving DecidableEq

def IncipientCoresPackage.new (messageCodec : Codec MessageType) (cryptde : CryptDE) (route : Route)
    (payload : MessageType) (payloadDestinationKey : PublicKey) :
    Except String IncipientCoresPackage :=
  match encodex messageCodec cryptde payloadDestinationKey payload with
  | .ok encryptedPayload => .ok ⟨route, encryptedPayload⟩
  | .error e => .error s!"Could not encrypt payload: {e.debug}"

section

variable (hopCodec : Codec LiveHop)

def Route.nextHop (cryptde : CryptDE) (route : Route) : Except CodexError LiveHop :=
  match route.hops with
  | [] => .error (.routingError .emptyRoute)
  | first :: _ => decodex hopCodec cryptde first

def LiveCoresPackage.new (route : Route) (payload : CryptData) : LiveCoresPackage :=
  ⟨⟨0, 0⟩, route, payload⟩

def LiveCoresPackage.intoNextLive (cryptde : CryptDE) (random : Random) (package : LiveCoresPackage) :
    Except CodexError (LiveHop × LiveCoresPackage) :=
  match package.route.shift hopCodec cryptde random with
  | (.error e, _) => .error e
  | (.ok nextHop, route) => .ok (nextHop, .new route package.payload)

def LiveCoresPackage.toExpired (messageCodec : Codec MessageType) (immediateNeighborAddr : SocketAddr)
    (mainCryptde payloadCryptde : CryptDE) (package : LiveCoresPackage) :
    Except CodexError (ExpiredCoresPackage MessageType) := do
  let topHop ← package.route.nextHop hopCodec mainCryptde
  let decodedPayload ← decodex messageCodec payloadCryptde package.payload
  return ⟨immediateNeighborAddr, topHop.payer.map Payer.wallet, package.route, decodedPayload,
    usize package.payload.data.length⟩

end

end PulseMesh.SubLib
