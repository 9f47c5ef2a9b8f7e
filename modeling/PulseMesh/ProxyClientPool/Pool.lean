import PulseMesh.ProxyClient.ExitService
import PulseMesh.Streams.StreamWriters

/-!
# The streams of the pool

The pool of streams of the ProxyClient, with the streams told apart: a stream is known by its number in
the order of the connections, since several of them may have the same stream key.

The actor's thread processes packages and polls the futures that were spawned for them.  The readers and
the writers of the streams run in other threads and tell the pool through two channels: a new stream
waits in the adder, the key of a stream that its reader found dead waits in the killer, and both wait
until the next package comes.  A reader is spawned before its stream is handed to the adder.

What was sent to the ProxyClient is kept with the part of the pool that sent it, and the streams whose
kill messages were consumed are kept in a list; the code has no such records.
-/

namespace PulseMesh.ProxyClientPool

open Machine SubLib Accountant ProxyClient
open Streams (ErrorKind indicatesDeadStream)

/-! ### Readers -/

structure Sequencer where
  currentSequenceNumber : U64

def Sequencer.new : Sequencer := ⟨⟨0, u64_zero⟩⟩

def Sequencer.nextSequenceNumber (p : Profile) (sequencer : Sequencer) : Except Panic (U64 × Sequencer) := do
  let next ← arith p u64 (sequencer.currentSequenceNumber.val + 1)
  return (sequencer.currentSequenceNumber, ⟨next⟩)

/-- A reader looks for a shutdown signal before each read. -/
inductive Phase where
  | looking
  | reading
  | ended
deriving DecidableEq

structure StreamReader where
  streamKey : StreamKey
  peerAddr : SocketAddr
  shutdownSignal : Bool
  sequencer : Sequencer
  phase : Phase

def StreamReader.new (streamKey : StreamKey) (peerAddr : SocketAddr) : StreamReader :=
  ⟨streamKey, peerAddr, false, Sequencer.new, .looking⟩

/-- What the socket gives to a reader. -/
inductive ReadResult where
  | notReady
  | ready (data : Bytes)
  | error (kind : ErrorKind)

/-! ### The pool -/

/-- The channels to the writer and to the reader of a stream. -/
structure StreamSenders where
  stream : Nat
  peerAddr : SocketAddr
deriving DecidableEq

/-- A message to the stream killer, with the stream whose reader sent it. -/
structure Kill where
  streamKey : StreamKey
  sequenceNumber : U64
  stream : Nat

/-- What was spawned for a package.  A packet for a stream of the pool is already queued, or was refused,
when the future is spawned. -/
inductive SpawnedFuture where
  | write (write : Write) (queued : Bool) (source : SocketAddr)
  | establish (write : Write)

/-- A stream whose reader is running, but that was not yet handed to the pool. -/
structure Establishing where
  write : Write
  senders : StreamSenders

/-- The sender of a message to the ProxyClient: the reader of a stream; the killer, on behalf of the
reader of `killed`, when the writer of `removed` was removed; or the failure of a request. -/
inductive Sender where
  | reader (stream : Nat)
  | killer (killed removed : Nat)
  | failure

structure Posted where
  sender : Sender
  mail : Mail

structure World where
  streamWriterChannels : StreamKey → Option StreamSenders
  streamAdder : List (StreamKey × StreamSenders)
  streamKiller : List Kill
  futures : List SpawnedFuture
  establishing : Option Establishing
  readers : List StreamReader
  endedWriters : List Nat
  mailbox : List Posted
  reports : List ReportExitServiceProvidedMessage
  consumed : List Nat

def World.initial : World := ⟨fun _ => none, [], [], [], none, [], [], [], [], []⟩

variable (world : World)

def post (sender : Sender) (mail : Mail) : World :=
  { world with mailbox := world.mailbox ++ [⟨sender, mail⟩] }

def setReader (stream : Nat) (reader : StreamReader) : World :=
  { world with readers := world.readers.set stream reader }

/-- The signal waits in a channel; that of a reader that has ended is gone. -/
def sendShutdownSignalToStreamReader (stream : Nat) : World :=
  { world with readers := world.readers.modify stream fun reader => { reader with shutdownSignal := true } }

/-- The writer under the key is removed, whichever stream it belongs to. -/
def removeWriter (streamKey : StreamKey) : World :=
  match world.streamWriterChannels streamKey with
  | some senders =>
    { sendShutdownSignalToStreamReader world senders.stream with
      streamWriterChannels := Function.update world.streamWriterChannels streamKey none }
  | none => world

def cleanUpBadStream (streamKey : StreamKey) (source : SocketAddr) : World :=
  post (removeWriter world streamKey) .failure (terminatingPackage streamKey ⟨0, u64_zero⟩ source)

/-! ### Housekeeping -/

def cleanUpDeadStream (kill : Kill) : World :=
  let world := { world with consumed := world.consumed ++ [kill.stream] }
  match world.streamWriterChannels kill.streamKey with
  | some senders =>
    post (removeWriter world kill.streamKey) (.killer kill.stream senders.stream)
      (terminatingPackage kill.streamKey kill.sequenceNumber senders.peerAddr)
  | none => world

/-- The messages are taken out of the channel one by one. -/
def cleanUpDeadStreams (world : World) : List Kill → World
  | [] => { world with streamKiller := [] }
  | kill :: kills => cleanUpDeadStreams (cleanUpDeadStream { world with streamKiller := kills } kill) kills

def addNewStream (stream : StreamKey × StreamSenders) : World :=
  { world with
    streamWriterChannels := Function.update world.streamWriterChannels stream.1 (some stream.2) }

def addNewStreams (world : World) : List (StreamKey × StreamSenders) → World
  | [] => { world with streamAdder := [] }
  | stream :: streams => addNewStreams (addNewStream { world with streamAdder := streams } stream) streams

def doHousekeeping : World :=
  let cleaned := cleanUpDeadStreams world world.streamKiller
  addNewStreams cleaned cleaned.streamAdder

/-! ### Packages -/

/-- Packets are taken as long as the writer has not dropped its end of the channel. -/
def queueWrite (senders : StreamSenders) : Bool :=
  !world.endedWriters.contains senders.stream

def spawn (future : SpawnedFuture) : World :=
  { world with futures := world.futures ++ [future] }

/-- An empty request does not open a stream. -/
def processPackage (payload : ClientRequestPayload) (payingWalletOpt : Option Address) : World :=
  let kept := doHousekeeping world
  match kept.streamWriterChannels payload.streamKey with
  | some senders =>
    spawn kept (.write ⟨payload, payingWalletOpt, true⟩ (queueWrite kept senders) senders.peerAddr)
  | none =>
    if payload.sequencedPacket.data.isEmpty then
      kept
    else
      spawn kept (.establish ⟨payload, payingWalletOpt, false⟩)

variable {world}

section

variable (config : ProxyClientConfig) (now : SystemTime) (world : World) (write : Write)

/-- What remains to be done for a packet that was queued. -/
def tend : World :=
  let payloadSize := usize write.payload.sequencedPacket.data.length
  let reports :=
    if 0 < payloadSize.val then reportExitService config now write.payingWalletOpt payloadSize else []
  let reported := { world with reports := world.reports ++ reports }
  if write.payload.sequencedPacket.lastData then
    removeWriter reported write.payload.streamKey
  else
    reported

def writeAndTend (queued : Bool) (source : SocketAddr) : World :=
  if queued then
    tend config now world write
  else
    cleanUpBadStream world write.payload.streamKey source

/-- The failure is reported as a DNS failure whenever a name was looked up. -/
def failToEstablish : World :=
  let told :=
    if failsInLookup config write then
      post world .failure (.dnsResolveFailed ⟨write.payload.streamKey⟩)
    else
      world
  cleanUpBadStream told write.payload.streamKey errorSocketAddr

/-- The reader of the new stream is spawned. -/
def spawnStreamReader (peerAddr : SocketAddr) : World :=
  { world with
    readers := world.readers ++ [StreamReader.new write.payload.streamKey peerAddr]
    establishing := some ⟨write, ⟨world.readers.length, peerAddr⟩⟩ }

/-- A host is connected to if there is one in the request and the connection succeeds. -/
def makeStreamWithKey (connected : Option SocketAddr) : World :=
  match write.payload.targetHostname, connected with
  | some _, some peerAddr => spawnStreamReader world write peerAddr
  | _, _ => failToEstablish config world write

variable {write}

def poll (index : Nat) (connected : Option SocketAddr) : World :=
  match world.futures[index]? with
  | some (.write write queued source) =>
    writeAndTend config now { world with futures := world.futures.eraseIdx index } write queued source
  | some (.establish write) =>
    makeStreamWithKey config { world with futures := world.futures.eraseIdx index } write connected
  | none => world

/-- The stream is handed to the pool and the packet is queued. -/
def endEstablishing : World :=
  match world.establishing with
  | some ⟨write, senders⟩ =>
    let added := { world with
      streamAdder := world.streamAdder ++ [(write.payload.streamKey, senders)]
      establishing := none }
    writeAndTend config now added write (queueWrite added senders) errorSocketAddr
  | none => world

end

/-! ### The threads of the readers -/

def checkShutdownSignal (world : World) (stream : Nat) : World :=
  match world.readers[stream]? with
  | some reader =>
    if reader.phase = .looking then
      setReader world stream { reader with phase := if reader.shutdownSignal then .ended else .reading }
    else
      world
  | none => world

variable (p : Profile)

/-- The reader of a dead stream takes a number for the report. -/
def shutdown (world : World) (stream : Nat) (reader : StreamReader) : Except Panic World := do
  let taken ← reader.sequencer.nextSequenceNumber p
  return { setReader world stream { reader with sequencer := taken.2, phase := .ended } with
    streamKiller := world.streamKiller ++ [⟨reader.streamKey, taken.1, stream⟩] }

def sendInboundServerData (world : World) (stream : Nat) (reader : StreamReader)
    (data : Bytes) : Except Panic World := do
  let taken ← reader.sequencer.nextSequenceNumber p
  return post (setReader world stream { reader with sequencer := taken.2, phase := .looking })
    (.reader stream) (.inboundServerData ⟨reader.streamKey, false, taken.1, reader.peerAddr, data⟩)

def pollRead (world : World) (stream : Nat) (reader : StreamReader) : ReadResult → Except Panic World
  | .notReady => .ok (setReader world stream { reader with phase := .looking })
  | .ready data =>
    if data.isEmpty then shutdown p world stream reader
    else sendInboundServerData p world stream reader data
  | .error kind =>
    if indicatesDeadStream kind then shutdown p world stream reader
    else .ok (setReader world stream { reader with phase := .looking })

def read (world : World) (stream : Nat) (result : ReadResult) : Except Panic World :=
  match world.readers[stream]? with
  | some reader => if reader.phase = .reading then pollRead p world stream reader result else .ok world
  | none => .ok world

/-! ### Events -/

/-- A package comes, a future is polled, the establishing of a stream ends; a reader looks for its signal
or reads, a writer ends. -/
inductive Event where
  | package (payload : ClientRequestPayload) (payingWalletOpt : Option Address)
  | poll (now : SystemTime) (index : Nat) (connected : Option SocketAddr)
  | established (now : SystemTime)
  | look (stream : Nat)
  | read (stream : Nat) (result : ReadResult)
  | writerEnds (stream : Nat)

/-- The actor's thread does nothing else while it establishes a stream. -/
def step (config : ProxyClientConfig) (world : World) : Event → Except Panic World
  | .package payload payingWalletOpt =>
    .ok (if world.establishing.isSome then world else processPackage world payload payingWalletOpt)
  | .poll now index connected =>
    .ok (if world.establishing.isSome then world else poll config now world index connected)
  | .established now => .ok (endEstablishing config now world)
  | .look stream => .ok (checkShutdownSignal world stream)
  | .read stream result => read p world stream result
  | .writerEnds stream => .ok { world with endedWriters := world.endedWriters ++ [stream] }

/-! ### An exchange with a server -/

def sampleConfig : ProxyClientConfig :=
  ⟨⟨0, u64_zero⟩, ⟨0, u64_zero⟩, true, fun _ => true, fun _ => true⟩

def sampleKey : StreamKey := ⟨1⟩

def sampleServer : SocketAddr := ⟨.v4 0xC0000201#32, 80⟩

/-- A packet of the client with some data. -/
def sampleRequest (sequenceNumber : U64) : Event :=
  .package ⟨sampleKey, ⟨[1, 2, 3], sequenceNumber, false⟩, some "192.0.2.1", 80, .http, ⟨[1]⟩⟩ (some ⟨1⟩)

/-- The server is connected to, and the stream is handed to the pool. -/
def sampleConnection : List Event :=
  [sampleRequest ⟨0, u64_zero⟩, .poll ⟨0⟩ 0 (some sampleServer), .established ⟨0⟩]

/-- The stream gives some data, or is at its end. -/
def sampleRead (stream : Nat) (data : Bytes) : List Event := [.look stream, .read stream (.ready data)]

/-- The server closes the stream after the pool has got it. -/
def closedLater : List Event :=
  sampleConnection ++ [sampleRequest ⟨1, u64_one⟩] ++ sampleRead 0 [7] ++ sampleRead 0 [] ++
    [sampleRequest ⟨2, u64_two⟩]

end PulseMesh.ProxyClientPool
