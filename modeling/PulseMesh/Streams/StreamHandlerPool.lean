import PulseMesh.Lib.Runs
import PulseMesh.SubLib.Messages

/-!
# The stream handler pool

The dispatcher's pool has the writers of all streams between this Node and its neighbors and clients.  Writers
are stored under a key, which is the peer's address for local streams and only its IP address for others.  A
writer is stored when a stream is opened.  It is removed when the stream's reader reports that the stream has
closed, when a packet with the last data has been sent to it, or when it turns out to be disabled.

What the pool does not do by itself is an effect.  The network that the pool is part of has the effects:
streams that live and end, attempts to connect, and messages on their way.  Messages to the pool may be handled
in any order.
-/

namespace PulseMesh.Streams

open Machine SubLib

/-! ### Addresses -/

def isLoopback : IpAddr → Bool
  | .v4 address => address >>> 24 == 127#32
  | .v6 address => address == 1#128

def localhost : IpAddr := .v4 0x7F000001#32

structure StreamWriterKey where
  socketAddr : SocketAddr
deriving DecidableEq

def StreamWriterKey.ofSocketAddr (socketAddr : SocketAddr) : StreamWriterKey :=
  if isLoopback socketAddr.ip then ⟨socketAddr⟩ else ⟨⟨socketAddr.ip, 0⟩⟩

/-! ### Messages -/

structure AddStreamMsg where
  peerAddr : SocketAddr
  isClandestine : Bool

structure NonClandestineAttributes where
  receptionPort : UInt16
  sequenceNumber : U64
deriving DecidableEq

inductive RemovedStreamType where
  | clandestine
  | nonClandestine (attributes : NonClandestineAttributes)

structure RemoveStreamMsg where
  peerAddr : SocketAddr
  streamType : RemovedStreamType

structure StreamShutdownMsg where
  peerAddr : SocketAddr
  streamType : RemovedStreamType
  reportToCounterpart : Bool

structure NodeQueryResponseMetadata where
  publicKey : PublicKey
  nodeAddrOpt : Option NodeAddr
deriving DecidableEq

structure DispatcherNodeQueryResponse where
  result : Option NodeQueryResponseMetadata
  context : TransmitDataMsg

def sequencedPacketOf (tdm : TransmitDataMsg) : SequencedPacket :=
  ⟨tdm.data, tdm.sequenceNumber.getD ⟨0, u64_zero⟩, tdm.lastData⟩

/-! ### The pool -/

/-- The end of a channel that packets are sent into.  Channels are numbered as they are made. -/
structure Sender where
  channel : Nat
  peerAddr : SocketAddr

/-- A key without a sender is that of a stream that is being opened. -/
structure StreamHandlerPool where
  streamWriters : AList fun _ : StreamWriterKey => Option Sender

/-- What the pool has others do. -/
inductive PoolEffect where
  /-- writer and reader of a new stream -/
  | spawn (channel : Nat) (peerAddr : SocketAddr) (isClandestine : Bool)
  | send (channel : Nat) (packet : SequencedPacket) (lastData : Bool)
  | askNeighborhood (key : PublicKey) (context : TransmitDataMsg)
  /-- a message to the pool itself, now or later -/
  | submit (response : DispatcherNodeQueryResponse)
  | connect (peerAddr : SocketAddr) (response : DispatcherNodeQueryResponse)
  | streamShutdown (msg : StreamShutdownMsg)
  | logError (text : String)

/-- What data look like in a masquerader's JSON, and how values are written in messages. -/
structure PoolEnvironment where
  json : Bytes → Bytes
  showAddr : SocketAddr → String
  showKey : PublicKey → String
  showEndpoint : Endpoint → String

/-- The JSON masquerader can mask any data. -/
def PoolEnvironment.mask (env : PoolEnvironment) (data : Bytes) : Except String Bytes := .ok (env.json data)

namespace StreamHandlerPool

def new : StreamHandlerPool := ⟨∅⟩

variable (pool : StreamHandlerPool)

def setUpStreamWriter (channel : Nat) (peerAddr : SocketAddr) : StreamHandlerPool :=
  ⟨pool.streamWriters.insert (.ofSocketAddr peerAddr) (some ⟨channel, peerAddr⟩)⟩

def handleAddStreamMsg (channel : Nat) (msg : AddStreamMsg) : StreamHandlerPool × List PoolEffect :=
  (pool.setUpStreamWriter channel msg.peerAddr, [.spawn channel msg.peerAddr msg.isClandestine])

def handleRemoveStreamMsg (msg : RemoveStreamMsg) : StreamHandlerPool × List PoolEffect :=
  let streamWriterKey := StreamWriterKey.ofSocketAddr msg.peerAddr
  let reportToCounterpart := match pool.streamWriters.lookup streamWriterKey with
    | none => false
    | some none => false
    | some (some _) => true
  (⟨pool.streamWriters.erase streamWriterKey⟩,
    [.streamShutdown ⟨msg.peerAddr, msg.streamType, reportToCounterpart⟩])

variable {pool}

def handleTransmitDataMsg (msg : TransmitDataMsg) : List PoolEffect :=
  match msg.endpoint with
  | .key key => [.askNeighborhood key msg]
  | .socket socketAddr => [.submit ⟨some ⟨⟨[]⟩, some (.ofSocketAddr socketAddr)⟩, msg⟩]

section

variable (env : PoolEnvironment)

def extractNodeAddr (msg : DispatcherNodeQueryResponse) : Except String NodeAddr :=
  match msg.result with
  | some metadata =>
    match metadata.nodeAddrOpt with
    | some nodeAddr => .ok nodeAddr.clone
    | none => .error s!"No known IP for neighbor in route with key: {env.showKey metadata.publicKey}"
  | none => .error s!"No Node found at endpoint {env.showEndpoint msg.context.endpoint}"

variable (receives : Nat → Bool)

/-- Whether the writer is to be removed, and what is sent to it.  A send fails if nothing `receives` from the
channel any more. -/
def sendPacketOnOpenStream (msg : DispatcherNodeQueryResponse) (peerAddr : SocketAddr)
    (tx : Sender) : Except String (Bool × List PoolEffect) := do
  let packet ←
    if msg.context.sequenceNumber.isNone then
      match env.mask msg.context.data with
      | .ok maskedData => Except.ok ⟨maskedData, ⟨0, u64_zero⟩, false⟩
      | .error e =>
        .error s!"Masking failed for {env.showAddr peerAddr}: {e}. Discarding {msg.context.data.length} bytes."
    else
      .ok (sequencedPacketOf msg.context)
  if !receives tx.channel then
    return (true, [])
  else
    return (msg.context.lastData, [.send tx.channel packet msg.context.lastData])

def sendOrQueuePacket (pool : StreamHandlerPool) (msg : DispatcherNodeQueryResponse)
    (peerAddr : SocketAddr) : Except String (StreamHandlerPool × List PoolEffect) :=
  match pool.streamWriters.lookup (.ofSocketAddr peerAddr) with
  | some (some tx) => do
    let (removeStreamWriter, effects) ← sendPacketOnOpenStream env receives msg peerAddr tx
    return (if removeStreamWriter then ⟨pool.streamWriters.erase (.ofSocketAddr peerAddr)⟩ else pool, effects)
  | some none =>
    -- resubmitted after a tenth of a second
    return (pool, [.submit msg])
  | none =>
    if peerAddr.ip = localhost then
      .error s!"Local connection {env.showAddr peerAddr} not found. Discarding {msg.context.data.length} bytes."
    else
      return (⟨pool.streamWriters.insert (.ofSocketAddr peerAddr) none⟩, [.connect peerAddr msg])

def handleDispatcherNodeQueryResponse (pool : StreamHandlerPool)
    (msg : DispatcherNodeQueryResponse) : Except Panic (StreamHandlerPool × List PoolEffect) :=
  match extractNodeAddr env msg with
  | .error e => return (pool, [.logError e])
  | .ok nodeAddr =>
    match nodeAddr.ports with
    | [] =>
      .error (.raised
        "Neighborhood has returned a NodeDescriptor with no ports. This indicates an unrecoverable error.")
    | port :: _ =>
      match sendOrQueuePacket env receives pool msg ⟨nodeAddr.ipAddr, port⟩ with
      | .ok handled => return handled
      | .error e => return (pool, [.logError e])

end

end StreamHandlerPool

/-! ### The network -/

/-- A stream from when its writer is stored until its removal has been handled. -/
structure PeerStream where
  channel : Nat
  peerAddr : SocketAddr
  isClandestine : Bool
  /-- what its reader reports when the stream has closed -/
  removal : Option RemovedStreamType
  /-- its writer has stopped by itself -/
  stopped : Bool
  /-- it has been sent its last data -/
  finished : Bool

def PeerStream.key (stream : PeerStream) : StreamWriterKey := .ofSocketAddr stream.peerAddr

/-- A connection that is being made, with the packet it is made for. -/
structure Attempt where
  peerAddr : SocketAddr
  response : DispatcherNodeQueryResponse

def Attempt.key (attempt : Attempt) : StreamWriterKey := .ofSocketAddr attempt.peerAddr

structure Network where
  pool : StreamHandlerPool
  streams : List PeerStream
  /-- the number of channels made so far -/
  channels : Nat
  attempts : List Attempt
  /-- packets that the Neighborhood has been asked about -/
  queries : List TransmitDataMsg
  /-- packets on their way to the pool -/
  mailbox : List DispatcherNodeQueryResponse
  /-- all that has been sent into channels -/
  sent : List (Nat × SequencedPacket)
  shutdowns : List StreamShutdownMsg
  errors : List String

inductive NetworkEvent where
  /-- a peer or a client has connected -/
  | accepted (msg : AddStreamMsg)
  | transmit (msg : TransmitDataMsg)
  /-- the Neighborhood answers a query -/
  | answered (query : Nat) (result : Option NodeQueryResponseMetadata)
  /-- the pool handles a packet of its mailbox -/
  | response (index : Nat)
  | connected (attempt : Nat)
  | rejected (attempt : Nat)
  /-- a reader finds its stream closed, and reports that -/
  | closed (channel : Nat) (streamType : RemovedStreamType)
  /-- the pool handles the report -/
  | removed (channel : Nat)
  | stopped (channel : Nat)

namespace Network

def new : Network := ⟨.new, [], 0, [], [], [], [], [], []⟩

variable (network : Network)

/-- A writer that has not stopped receives what is sent to it. -/
def receives (channel : Nat) : Bool :=
  network.streams.any fun stream => stream.channel == channel && !stream.stopped

def updateStream (channel : Nat) (update : PeerStream → PeerStream) : Network :=
  { network with
    streams := network.streams.map fun stream => if stream.channel = channel then update stream else stream }

def perform : PoolEffect → Network
  | .spawn channel peerAddr isClandestine =>
    { network with streams := network.streams ++ [⟨channel, peerAddr, isClandestine, none, false, false⟩] }
  | .send channel packet lastData =>
    let network := { network with sent := network.sent ++ [(channel, packet)] }
    if lastData then
      network.updateStream channel fun stream => { stream with finished := true }
    else
      network
  | .askNeighborhood _ context => { network with queries := network.queries ++ [context] }
  | .submit response => { network with mailbox := network.mailbox ++ [response] }
  | .connect peerAddr response => { network with attempts := network.attempts ++ [⟨peerAddr, response⟩] }
  | .streamShutdown msg => { network with shutdowns := network.shutdowns ++ [msg] }
  | .logError text => { network with errors := network.errors ++ [text] }

/-- The pool has handled a message. -/
def handled (outcome : StreamHandlerPool × List PoolEffect) : Network :=
  outcome.2.foldl perform { network with pool := outcome.1 }

def addStream (msg : AddStreamMsg) : Network :=
  { network with channels := network.channels + 1 }.handled
    (network.pool.handleAddStreamMsg network.channels msg)

variable {network}

def step (env : PoolEnvironment) (network : Network) : NetworkEvent → Except Panic Network
  | .accepted msg => return network.addStream msg
  | .transmit msg => return network.handled (network.pool, StreamHandlerPool.handleTransmitDataMsg msg)
  | .answered query result =>
    match network.queries[query]? with
    | none => return network
    | some context =>
      return { network with
        queries := network.queries.eraseIdx query
        mailbox := network.mailbox ++ [⟨result, context⟩] }
  | .response index =>
    match network.mailbox[index]? with
    | none => return network
    | some msg => do
      let network := { network with mailbox := network.mailbox.eraseIdx index }
      let outcome ← network.pool.handleDispatcherNodeQueryResponse env network.receives msg
      return network.handled outcome
  | .connected index =>
    match network.attempts[index]? with
    | none => return network
    | some attempt =>
      -- the packet that the connection was made for is tried again
      return { network with
        attempts := network.attempts.eraseIdx index
        mailbox := network.mailbox ++ [attempt.response] }.addStream ⟨attempt.peerAddr, true⟩
  | .rejected index =>
    match network.attempts[index]? with
    | none => return network
    | some attempt =>
      return { network with attempts := network.attempts.eraseIdx index }.handled
        (network.pool.handleRemoveStreamMsg ⟨attempt.peerAddr, .clandestine⟩)
  | .closed channel streamType =>
    return network.updateStream channel fun stream =>
      { stream with removal := stream.removal.or (some streamType) }
  | .removed channel =>
    match network.streams.find? fun stream => stream.channel == channel with
    | none => return network
    | some stream =>
      match stream.removal with
      | none => return network
      | some streamType =>
        return { network with streams := network.streams.filter fun stream => stream.channel != channel }.handled
          (network.pool.handleRemoveStreamMsg ⟨stream.peerAddr, streamType⟩)
  | .stopped channel => return network.updateStream channel fun stream => { stream with stopped := true }

end Network

end PulseMesh.Streams
