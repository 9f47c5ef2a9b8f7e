import PulseMesh.Accountant.PayableScanners
import PulseMesh.SubLib.Messages

/-!
# The exit service

The ProxyClient of an exit Node: a request that comes out of the Hopper goes to the pool of streams,
which writes it to a server; what a server answers goes back over the return route the last request
of the stream has brought along.  Writes end some time after they have begun, and what the pool and
the stream readers tell the ProxyClient waits in its mailbox.

A handler returns the new state, the packages it gives to the Hopper and its reports to the
accountant.  Of a route back only the id counts that its originator finds behind the last hop, and
whether a package can be encrypted for a key is a parameter.
-/

namespace PulseMesh.ProxyClient

open Machine SubLib Accountant Function

structure InboundServerData where
  streamKey : StreamKey
  lastData : Bool
  sequenceNumber : U64
  source : SocketAddr
  data : Bytes
deriving DecidableEq

structure StreamContext where
  returnRouteId : UInt32
  payloadDestinationKey : PublicKey
  payingWallet : Option Address

structure ReportExitServiceProvidedMessage where
  timestamp : SystemTime
  payingWallet : Address
  payloadSize : U64
  serviceRate : U64
  byteRate : U64

structure ProxyClientConfig where
  exitServiceRate : U64
  exitByteRate : U64
  isDecentralized : Bool
  isIp : String → Bool
  encrypts : PublicKey → Bool

/-- A request out of the Hopper. -/
structure RequestPackage where
  payingWallet : Option Address
  returnRouteId : UInt32
  payload : ClientRequestPayload

/-- A write that was spawned, over a stream the pool knew or over one still to be established. -/
structure Write where
  payload : ClientRequestPayload
  payingWalletOpt : Option Address
  streamKnown : Bool

inductive WriteOutcome where
  | notEstablished
  | notQueued (peer : SocketAddr)
  | written (peer : SocketAddr)

inductive Mail where
  | inboundServerData (msg : InboundServerData)
  | dnsResolveFailed (msg : DnsResolveFailure)

structure ProxyClientState where
  streamContexts : StreamKey → Option StreamContext
  streamWriterChannels : StreamKey → Option SocketAddr
  streamAdder : List (StreamKey × SocketAddr)
  streamKiller : List (StreamKey × U64)
  writes : List Write
  mailbox : List Mail

/-- A package for the originator of a stream. -/
inductive ResponsePackage where
  | clientResponse (returnRouteId : UInt32) (payload : ClientResponsePayload)
  | dnsResolveFailed (returnRouteId : UInt32) (payload : DnsResolveFailure)

structure Outcome where
  state : ProxyClientState
  packages : List ResponsePackage
  reports : List ReportExitServiceProvidedMessage

/-! ### The pool of streams -/

def errorSocketAddr : SocketAddr := ⟨.v4 0, 0⟩

def terminatingPackage (streamKey : StreamKey) (sequenceNumber : U64) (source : SocketAddr) : Mail :=
  .inboundServerData ⟨streamKey, true, sequenceNumber, source, []⟩

variable (state : ProxyClientState)

def cleanUpDeadStream (kill : StreamKey × U64) : ProxyClientState :=
  match state.streamWriterChannels kill.1 with
  | some peer =>
    { state with
      streamWriterChannels := update state.streamWriterChannels kill.1 none
      mailbox := state.mailbox ++ [terminatingPackage kill.1 kill.2 peer] }
  | none => state

def addNewStream (stream : StreamKey × SocketAddr) : ProxyClientState :=
  { state with
    streamWriterChannels := update state.streamWriterChannels stream.1 (some stream.2) }

def doHousekeeping : ProxyClientState :=
  let cleaned := state.streamKiller.foldl cleanUpDeadStream state
  let added := cleaned.streamAdder.foldl addNewStream cleaned
  { added with streamKiller := [], streamAdder := [] }

/-- An empty request does not open a stream. -/
def processPackage (payload : ClientRequestPayload)
    (payingWalletOpt : Option Address) : ProxyClientState :=
  let kept := doHousekeeping state
  match kept.streamWriterChannels payload.streamKey with
  | some _ => { kept with writes := kept.writes ++ [⟨payload, payingWalletOpt, true⟩] }
  | none =>
    if payload.sequencedPacket.data.isEmpty then
      kept
    else
      { kept with writes := kept.writes ++ [⟨payload, payingWalletOpt, false⟩] }

variable {state}

section

variable (config : ProxyClientConfig) (now : SystemTime)

def reportExitService (payingWalletOpt : Option Address) (payloadSize : U64) :
    List ReportExitServiceProvidedMessage :=
  match payingWalletOpt with
  | some wallet => [⟨now, wallet, payloadSize, config.exitServiceRate, config.exitByteRate⟩]
  | none => []

/-- The failure to establish a stream is reported as a DNS failure whenever a name was looked up. -/
def failsInLookup (write : Write) : Bool :=
  !write.streamKnown && write.payload.targetHostname.any fun hostname => !config.isIp hostname

variable (state : ProxyClientState)

def cleanUpBadStream (streamKey : StreamKey) (source : SocketAddr) : ProxyClientState :=
  { state with
    streamWriterChannels := update state.streamWriterChannels streamKey none
    mailbox := state.mailbox ++ [terminatingPackage streamKey ⟨0, u64_zero⟩ source] }

/-- A stream that was established for the write is handed to the pool. -/
def established (write : Write) (peer : SocketAddr) : ProxyClientState :=
  if write.streamKnown then
    state
  else
    { state with streamAdder := state.streamAdder ++ [(write.payload.streamKey, peer)] }

/-- The end of a write: an empty one costs nothing, and neither does one that fails. -/
def writeAndTend (state : ProxyClientState) (write : Write) :
    WriteOutcome → ProxyClientState × List ReportExitServiceProvidedMessage
  | .written peer =>
    let opened := established state write peer
    let payloadSize := usize write.payload.sequencedPacket.data.length
    let reports :=
      if 0 < payloadSize.val then reportExitService config now write.payingWalletOpt payloadSize else []
    if write.payload.sequencedPacket.lastData then
      ({ opened with
        streamWriterChannels :=
          update opened.streamWriterChannels write.payload.streamKey none }, reports)
    else
      (opened, reports)
  | .notQueued peer =>
    let source := if write.streamKnown then peer else errorSocketAddr
    (cleanUpBadStream (established state write peer) write.payload.streamKey source, [])
  | .notEstablished =>
    let told :=
      if failsInLookup config write then
        { state with mailbox := state.mailbox ++ [.dnsResolveFailed ⟨write.payload.streamKey⟩] }
      else
        state
    (cleanUpBadStream told write.payload.streamKey errorSocketAddr, [])

/-! ### The handlers of the ProxyClient -/

def handleClientRequest (msg : RequestPackage) : ProxyClientState :=
  if msg.payingWallet.isSome || !config.isDecentralized then
    processPackage
      { state with
        streamContexts := update state.streamContexts msg.payload.streamKey
          (some ⟨msg.returnRouteId, msg.payload.originatorPublicKey, msg.payingWallet⟩) }
      msg.payload msg.payingWallet
  else
    state

def handleInboundServerData (state : ProxyClientState) (msg : InboundServerData) : Outcome :=
  match state.streamContexts msg.streamKey with
  | none => ⟨state, [], []⟩
  | some streamContext =>
    if config.encrypts streamContext.payloadDestinationKey then
      let package := ResponsePackage.clientResponse streamContext.returnRouteId
        ⟨msg.streamKey, ⟨msg.data, msg.sequenceNumber, msg.lastData⟩⟩
      let reports := reportExitService config now streamContext.payingWallet (usize msg.data.length)
      if msg.lastData then
        ⟨{ state with streamContexts := update state.streamContexts msg.streamKey none },
          [package], reports⟩
      else
        ⟨state, [package], reports⟩
    else
      ⟨state, [], []⟩

def handleDnsResolveFailure (msg : DnsResolveFailure) : Except Panic Outcome :=
  match state.streamContexts msg.streamKey with
  | none => .ok ⟨state, [], []⟩
  | some streamContext =>
    if config.encrypts streamContext.payloadDestinationKey then
      .ok ⟨{ state with streamContexts := update state.streamContexts msg.streamKey none },
        [.dnsResolveFailed streamContext.returnRouteId msg], []⟩
    else
      .error (.raised "Failed to create IncipientCoresPackage")

variable {state}

def handleMail (state : ProxyClientState) : Mail → Except Panic Outcome
  | .inboundServerData msg => .ok (handleInboundServerData config now state msg)
  | .dnsResolveFailed msg => handleDnsResolveFailure config state msg

end

end PulseMesh.ProxyClient
