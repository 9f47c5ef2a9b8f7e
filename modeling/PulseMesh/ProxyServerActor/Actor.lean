import PulseMesh.NeighborhoodActor.RouteQueries
import PulseMesh.ProxyServer.ProtocolPacks
import PulseMesh.ProxyServer.Responses
import PulseMesh.Streams.StreamHandlerPool
import PulseMesh.SubLib.BidiHashMap

/-!
# The proxy server

The proxy server stands between the clients of a Node and the network.  For each client stream it has a
stream key, and under this key the route that the stream uses, the host it tunnels to, the request that
is tried again if its host cannot be resolved, and the time when the client closed the stream.

What the actor sends is an effect.  Some effects come back to it: the return routes, the results of
route queries, the shutdowns and the delayed purges that it sends to itself, and the answers to its route
queries.  The world that it is part of has the effects that have not come back yet, and may bring them
back in any order, between any other messages.
-/

namespace PulseMesh.ProxyServerActor

open Machine SubLib Accountant Streams Function
open PulseMesh.ProxyServer

/-! ### Messages -/

inductive ExpectedServices where
  | oneWay (services : List ExpectedService)
  | roundTrip (overServices backServices : List ExpectedService) (returnRouteId : UInt32)

structure RouteQueryResponse where
  route : Route
  expectedServices : ExpectedServices

/-- What the Neighborhood answers is always a round trip. -/
def RouteQueryResponse.ofNeighborhood (response : NeighborhoodActor.RouteQueryResponse) :
    RouteQueryResponse :=
  ⟨response.route, .roundTrip response.overServices response.backServices response.returnRouteId⟩

structure AddRouteResultMessage where
  streamKey : StreamKey
  result : Except String RouteQueryResponse

inductive MailboxError where
  | closed
  | timeout

def MailboxError.debug : MailboxError → String
  | .closed => "Closed"
  | .timeout => "Timeout"

structure TransmitToHopperArgs where
  payload : ClientRequestPayload
  clientAddr : SocketAddr
  timestamp : SystemTime
  retireStreamKey : Bool

/-- On what occasion the dispatcher is told to send data to a client. -/
inductive Occasion where
  | acknowledgement
  /-- a packet from the exit, with the number that it has there -/
  | response (sequenceNumber : U64)
  | failure
deriving DecidableEq

inductive Effect where
  | transmitData (occasion : Occasion) (msg : TransmitDataMsg)
  | toHopper (package : IncipientCoresPackage)
  | reportServicesConsumed (msg : ReportServicesConsumedMessage)
  | addUnreachableHost (publicKey : PublicKey) (hostname : String)
  | requestRoute (args : TransmitToHopperArgs)
  | addReturnRoute (msg : AddReturnRouteMessage)
  | addRouteResult (msg : AddRouteResultMessage)
  | streamShutdown (msg : StreamShutdownMsg)
  | streamKeyPurge (streamKey : StreamKey)

/-! ### The actor -/

/-- What does not change as long as the actor runs. -/
structure ProxyServerConfig where
  profile : Profile
  isDecentralized : Bool
  consumingWalletBalance : Option I64
  isRunningInIntegrationTest : Bool
  mainCryptde : CryptDE
  aliasPublicKey : PublicKey
  hopCodec : Codec LiveHop
  idCodec : Codec UInt32
  messageCodec : Codec MessageType
  versioned : ClientRequestPayload → VersionedData ClientRequestPayload
  random : Random
  /-- a hash of the public key and the address -/
  makeStreamKey : PublicKey → SocketAddr → StreamKey
  displayStreamKey : StreamKey → String
  /-- the host in a URL, as a regular expression finds it, or else the text itself -/
  hostname : String → String
  parseIpAddr : String → Option IpAddr

structure ProxyServer where
  keysAndAddrs : BidiHashMap StreamKey SocketAddr
  tunneledHosts : StreamKey → Option String
  dnsFailureRetries : StreamKey → Option DNSFailureRetry
  streamKeyRoutes : StreamKey → Option RouteQueryResponse
  streamKeyTtl : StreamKey → Option SystemTime
  routeIdsToReturnRoutes : UInt32 → Option AddReturnRouteMessage
  browserProxySequenceOffset : Bool

def ProxyServer.new : ProxyServer where
  keysAndAddrs := .new
  tunneledHosts := fun _ => none
  dnsFailureRetries := fun _ => none
  streamKeyRoutes := fun _ => none
  streamKeyTtl := fun _ => none
  routeIdsToReturnRoutes := fun _ => none
  browserProxySequenceOffset := false

section

variable (config : ProxyServerConfig)

def ProxyServerConfig.streamKeyOf (clientAddr : SocketAddr) : StreamKey :=
  config.makeStreamKey config.mainCryptde.publicKey clientAddr

def validateNonLoopbackHost (hostname : String) : Except String Unit :=
  match config.parseIpAddr (config.hostname hostname) with
  | some (.v4 address) =>
    if address = 0 then .error "0.0.0.0"
    else if address = 0x7F000001#32 then .error "127.0.0.1"
    else .ok ()
  | some (.v6 address) =>
    if address = 0 then .error "::"
    else if address = 1 then .error "::1"
    else .ok ()
  | none => if config.hostname hostname = "localhost" then .error "localhost" else .ok ()

variable (proxy : ProxyServer)

def findOrGenerateStreamKey (clientAddr : SocketAddr) : StreamKey × ProxyServer :=
  match proxy.keysAndAddrs.bToA clientAddr with
  | some streamKey => (streamKey, proxy)
  | none =>
    (config.streamKeyOf clientAddr,
      { proxy with keysAndAddrs := proxy.keysAndAddrs.insert (config.streamKeyOf clientAddr) clientAddr })

def purgeStreamKey (streamKey : StreamKey) : ProxyServer :=
  { proxy with
    keysAndAddrs := proxy.keysAndAddrs.removeA streamKey
    streamKeyRoutes := update proxy.streamKeyRoutes streamKey none
    tunneledHosts := update proxy.tunneledHosts streamKey none
    streamKeyTtl := update proxy.streamKeyTtl streamKey none }

def removeDnsFailureRetry (streamKey : StreamKey) : ProxyServer :=
  { proxy with dnsFailureRetries := update proxy.dnsFailureRetries streamKey none }

/-! ### Requests -/

variable (ibcd : InboundClientData)

/-- `ClientRequestPayloadFactoryReal::make` -/
def makeClientRequestPayload (streamKey : StreamKey) : Except Panic (Option ClientRequestPayload) :=
  match fromIbcd ibcd with
  | .error _ => .ok none
  | .ok protocolPack =>
    match ibcd.sequenceNumber with
    | none => .ok none
    | some sequenceNumber => do
      let targetHost ← protocolPack.findHost ibcd.data
      return some {
        streamKey
        sequencedPacket := ⟨ibcd.data, sequenceNumber, ibcd.lastData⟩
        targetHostname := targetHost.map Host.name
        targetPort := (targetHost.map Host.port).getD protocolPack.standardPort
        protocol := protocolPack.proxyProtocol
        originatorPublicKey := config.aliasPublicKey }

/-- The data of a tunnel are taken as if they had been received at the TLS port. -/
def tunneledIbcd (streamKey : StreamKey) : InboundClientData :=
  match proxy.tunneledHosts streamKey with
  | some _ => { ibcd with receptionPort := some tlsPort }
  | none => ibcd

def makePayload (streamKey : StreamKey) : Except Panic (Except String ClientRequestPayload) := do
  match ← makeClientRequestPayload config (tunneledIbcd proxy ibcd streamKey) streamKey with
  | none => return .error "Couldn't create ClientRequestPayload"
  | some payload =>
    match proxy.tunneledHosts streamKey with
    | some hostname => return .ok { payload with targetHostname := some hostname }
    | none => return .ok payload

variable (payload : ClientRequestPayload)

def hostnameOf : String := payload.targetHostname.getD "<unknown>"

/-- A page or an alert in the name of the server; it is always the first packet. -/
def failureMsg (clientAddr : SocketAddr) (data : Bytes) : Effect :=
  .transmitData .failure ⟨.socket clientAddr, true, some ⟨0, u64_zero⟩, data⟩

def sendRouteFailure (sourceAddr : SocketAddr) : Effect :=
  failureMsg sourceAddr
    ((fromProtocol payload.protocol).serverImpersonator.routeQueryFailureResponse (hostnameOf payload))

def handleRouteFailure (sourceAddr : SocketAddr) : String × Effect :=
  (s!"Failed to find route to {hostnameOf payload} for stream key: " ++
    config.displayStreamKey payload.streamKey, sendRouteFailure payload sourceAddr)

/-- The shutdown with which the last data of a stream retire its key. -/
def retireStreamMsg (clientAddr : SocketAddr) : StreamShutdownMsg :=
  ⟨clientAddr, .nonClandestine ⟨0, ⟨0, u64_zero⟩⟩, false⟩

def destinationKeyOpt (expectedServices : List ExpectedService) : Option PublicKey :=
  if config.isDecentralized then findExitNodeKey expectedServices
  else some config.mainCryptde.publicKey

variable (args : TransmitToHopperArgs)

/-- In zero-hop mode nobody is paid. -/
def requestReport (expectedServices : List ExpectedService)
    (package : IncipientCoresPackage) : Except Panic (Option ReportServicesConsumedMessage) :=
  if config.isDecentralized then do
    let report ← reportRequestServicesConsumed args.timestamp expectedServices
      (usize args.payload.sequencedPacket.data.length) (usize package.payload.data.length)
    return some report
  else .ok none

def reportEffects (report : Option ReportServicesConsumedMessage) : List Effect :=
  (report.map Effect.reportServicesConsumed).toList

def transmitToHopper (route : Route)
    (expectedServices : List ExpectedService) : Except Panic (Except String Unit × List Effect) :=
  match destinationKeyOpt config expectedServices with
  | none =>
    let (error, effect) := handleRouteFailure config args.payload args.clientAddr
    .ok (.error error, [effect])
  | some payloadDestinationKey =>
    match IncipientCoresPackage.new config.messageCodec config.mainCryptde route
        (.clientRequest (config.versioned args.payload)) payloadDestinationKey with
    | .error e => .error (.raised ("Key magically disappeared: \"" ++ e ++ "\""))
    | .ok package => do
      let report ← requestReport config args expectedServices package
      let shutdowns :=
        if args.retireStreamKey then [Effect.streamShutdown (retireStreamMsg args.clientAddr)] else []
      return (.ok (), reportEffects report ++ [.toHopper package] ++ shutdowns)

def tryTransmitToHopper (routeQueryResponse : RouteQueryResponse) :
    Except Panic (Except String Unit × List Effect) :=
  match routeQueryResponse.expectedServices with
  | .roundTrip overServices backServices returnRouteId => do
    let returnRouteInfo : AddReturnRouteMessage :=
      ⟨returnRouteId, backServices, args.payload.protocol, args.payload.targetHostname⟩
    let (result, effects) ← transmitToHopper config args routeQueryResponse.route overServices
    return (result, .addReturnRoute returnRouteInfo :: effects)
  | .oneWay _ => .error (.raised "Expected RoundTrip ExpectedServices but got OneWay")

def routeResult : Except MailboxError (Option RouteQueryResponse) →
      Except Panic (Except String RouteQueryResponse × List Effect)
  | .ok (some routeQueryResponse) => do
    let (transmitted, effects) ← tryTransmitToHopper config args routeQueryResponse
    return (transmitted.map fun _ => routeQueryResponse, effects)
  | .ok none =>
    let (error, effect) := handleRouteFailure config args.payload args.clientAddr
    .ok (.error error, [effect])
  | .error e => .ok (.error s!"Neighborhood refused to answer route request: {e.debug}", [])

/-- Whatever the answer to a route query is, the actor gets a result. -/
def resolveMessage
    (routeResultOpt : Except MailboxError (Option RouteQueryResponse)) : Except Panic (List Effect) := do
  let (result, effects) ← routeResult config args routeResultOpt
  return effects ++ [.addRouteResult ⟨args.payload.streamKey, result⟩]

/-- A stream has an entry as long as its first request may have to be tried again. -/
def ensureRetry (streamKey : StreamKey) (payload : ClientRequestPayload) : ProxyServer :=
  match proxy.dnsFailureRetries streamKey with
  | some _ => proxy
  | none =>
    { proxy with
      dnsFailureRetries := update proxy.dnsFailureRetries streamKey
        (some ⟨payload, if config.isDecentralized then 3 else 0⟩) }

def transmitOrRequest : Except Panic (Except String Unit × List Effect) :=
  match proxy.streamKeyRoutes args.payload.streamKey with
  | some routeQueryResponse => tryTransmitToHopper config args routeQueryResponse
  | none => .ok (.ok (), [.requestRoute args])

/-- Hosts on this machine are not asked for, except in tests. -/
def validateTarget : Except String Unit :=
  match payload.targetHostname with
  | none => .ok ()
  | some hostname =>
    if config.isRunningInIntegrationTest then .ok ()
    else
      (validateNonLoopbackHost config hostname).mapError fun e =>
        s!"Request to wildcard IP detected - {e} (Most likely because Blockchain Service URL is not set)"

variable {payload}

def serveClientData (streamKey : StreamKey) (msg : InboundClientData)
    (retireStreamKey : Bool) : Except Panic (Except String Unit × ProxyServer × List Effect) := do
  match ← makePayload config proxy msg streamKey with
  | .error e => return (.error e, proxy, [])
  | .ok payload =>
    match validateTarget config payload with
    | .error e => return (.error e, proxy, [])
    | .ok () =>
      let proxy := ensureRetry config proxy streamKey payload
      let (result, effects) ← transmitOrRequest config proxy
        ⟨payload, msg.clientAddr, msg.timestamp, retireStreamKey⟩
      return (result, proxy, effects)

variable (msg : InboundClientData)

def handleNormalClientData (retireStreamKey : Bool) :
    Except Panic (Except String Unit × ProxyServer × List Effect) :=
  if config.consumingWalletBalance.isNone && config.isDecentralized then
    match fromIbcd msg with
    | .error e => .ok (.error e, proxy, [])
    | .ok protocolPack =>
      .ok (.error "Browser request rejected due to missing consuming wallet", proxy,
        [failureMsg msg.clientAddr protocolPack.serverImpersonator.consumingWalletAbsent])
  else
    let found := findOrGenerateStreamKey config proxy msg.clientAddr
    serveClientData config found.2 found.1 msg retireStreamKey

def connectAnswer (lastData : Bool) (data : String) : Effect :=
  .transmitData .acknowledgement ⟨.socket msg.clientAddr, lastData, msg.sequenceNumber, utf8Bytes data⟩

def tlsConnect : ProxyServer × List Effect :=
  match HttpProtocolPack.findHost msg.data with
  | some host =>
    if host.port = tlsPort then
      let found := findOrGenerateStreamKey config proxy msg.clientAddr
      ({ found.2 with tunneledHosts := update found.2.tunneledHosts found.1 (some host.name) },
        [connectAnswer msg false "HTTP/1.1 200 OK\r\n\r\n"])
    else (proxy, [connectAnswer msg true "HTTP/1.1 400 Bad Request\r\nContent-Length: 0\r\n\r\n"])
  | none => (proxy, [connectAnswer msg true "HTTP/1.1 400 Bad Request\r\nContent-Length: 0\r\n\r\n"])

def handleInboundClientData : Except Panic (ProxyServer × List Effect) :=
  if HttpProtocolPack.isConnect msg.data then
    let (proxy, effects) := tlsConnect config proxy msg
    .ok ({ proxy with browserProxySequenceOffset := true }, effects)
  else do
    let (_, proxy, effects) ← handleNormalClientData config proxy msg false
    return (proxy, effects)

variable {msg}

/-! ### Routes -/

def handleAddReturnRoute (msg : AddReturnRouteMessage) : ProxyServer :=
  { proxy with
    routeIdsToReturnRoutes := update proxy.routeIdsToReturnRoutes msg.returnRouteId (some msg) }

def handleAddRouteResult (msg : AddRouteResultMessage) : Except Panic ProxyServer :=
  match proxy.dnsFailureRetries msg.streamKey with
  | none =>
    .error (.raised ("AddRouteResultMessage Handler: stream key: " ++
      config.displayStreamKey msg.streamKey ++ " not found within dns_failure_retries"))
  | some _ =>
    match msg.result with
    | .ok routeQueryResponse =>
      .ok { proxy with
        streamKeyRoutes := update proxy.streamKeyRoutes msg.streamKey (some routeQueryResponse) }
    | .error _ => .ok proxy

def getReturnRouteInfo (remainingRoute : Route) : Except Panic (Option AddReturnRouteMessage) :=
  match remainingRoute.shift config.hopCodec config.mainCryptde config.random with
  | (.error e, _) =>
    .error (.raised s!"Internal error: remaining route in ProxyServer with no hops: {e.debug}")
  | (.ok _, rest) =>
    match rest.id config.idCodec config.mainCryptde with
    | .error _ => .ok none
    | .ok returnRouteId => .ok (proxy.routeIdsToReturnRoutes returnRouteId)

/-! ### Responses -/

/-- The overflow that a debug build would panic at. -/
def offsetSequenceNumber (sequenceNumber : U64) : Except Panic U64 :=
  arith config.profile u64 (sequenceNumber.val + proxy.browserProxySequenceOffset.toNat)

variable (now : SystemTime)

def relayResponse (response : ClientResponsePayload) : Except Panic (ProxyServer × List Effect) :=
  match proxy.streamKeyTtl response.streamKey with
  | some oldTimestamp =>
    -- a straggling packet is only logged, with the time since the stream was closed
    if now.nanos < oldTimestamp.nanos then .error (.raised "time calculation error")
    else .ok (proxy, [])
  | none =>
    match proxy.keysAndAddrs.aToB response.streamKey with
    | none => .ok (proxy, [])
    | some socketAddr => do
      let packet := response.sequencedPacket
      let sequenceNumber ← offsetSequenceNumber config proxy packet.sequenceNumber
      let relayed := Effect.transmitData (.response packet.sequenceNumber)
        ⟨.socket socketAddr, packet.lastData, some sequenceNumber, packet.data⟩
      if packet.lastData then return (purgeStreamKey proxy response.streamKey, [relayed])
      else return (proxy, [relayed])

def handleClientResponsePayload
    (msg : ExpiredCoresPackage ClientResponsePayload) : Except Panic (ProxyServer × List Effect) := do
  match ← getReturnRouteInfo config proxy msg.remainingRoute with
  | none => return (proxy, [])
  | some returnRouteInfo =>
    let report ← reportResponseServicesConsumed now returnRouteInfo.expectedServices
      (usize msg.payload.sequencedPacket.data.length) msg.payloadLen
    let (proxy, effects) ← relayResponse config (removeDnsFailureRetry proxy msg.payload.streamKey) now
      msg.payload
    return (proxy, reportEffects report ++ effects)

/-- The exit that could not resolve the name; of a zero-hop route this Node itself. -/
def exitPublicKey (returnRouteInfo : AddReturnRouteMessage) : Except Panic PublicKey :=
  match findExitNodeKey returnRouteInfo.expectedServices with
  | some publicKey => .ok publicKey
  | none =>
    if config.isDecentralized then
      .error (.raised
        s!"Internal error: return_route_info for {returnRouteInfo.returnRouteId} has no exit Node")
    else .ok config.mainCryptde.publicKey

/-- The request is tried again over another route, or the client is told that it failed. -/
def retryOrFail (streamKey : StreamKey) (clientAddr : SocketAddr)
    (returnRouteInfo : AddReturnRouteMessage) : ProxyServer × List Effect :=
  match proxy.dnsFailureRetries streamKey with
  | none => (proxy, [])
  | some retry =>
    if 0 < retry.retriesLeft then
      ({ proxy with
          dnsFailureRetries := update proxy.dnsFailureRetries streamKey
            (some { retry with retriesLeft := retry.retriesLeft - 1 }) },
        [.requestRoute ⟨retry.unsuccessfulRequest, clientAddr, now, false⟩])
    else
      (purgeStreamKey (removeDnsFailureRetry proxy streamKey) streamKey,
        [failureMsg clientAddr ((fromProtocol returnRouteInfo.protocol).serverImpersonator.dnsResolutionFailureResponse
          returnRouteInfo.hostnameOpt)])

def handleDnsResolveFailure
    (msg : ExpiredCoresPackage DnsResolveFailure) : Except Panic (ProxyServer × List Effect) := do
  match ← getReturnRouteInfo config proxy msg.remainingRoute with
  | none => return (proxy, [])
  | some returnRouteInfo =>
    let exitKey ← exitPublicKey config returnRouteInfo
    match proxy.keysAndAddrs.aToB msg.payload.streamKey with
    | none => return (proxy, [])
    | some clientAddr =>
      let complaint := (returnRouteInfo.hostnameOpt.map (Effect.addUnreachableHost exitKey)).toList
      let report ← reportResponseServicesConsumed now returnRouteInfo.expectedServices ⟨0, u64_zero⟩
        msg.payloadLen
      let (proxy, effects) := retryOrFail proxy now msg.payload.streamKey clientAddr returnRouteInfo
      return (proxy, complaint ++ reportEffects report ++ effects)

/-! ### Shutdowns -/

def scheduleStreamKeyPurge (streamKey : StreamKey) : ProxyServer :=
  { proxy with streamKeyTtl := update proxy.streamKeyTtl streamKey (some now) }

/-- The exit is told by a packet without data, which is the client's last. -/
def shutdownIbcd (peerAddr : SocketAddr) (attributes : NonClandestineAttributes) : InboundClientData :=
  ⟨now, peerAddr, some attributes.receptionPort, true, some attributes.sequenceNumber, []⟩

def handleStreamShutdownMsg (msg : StreamShutdownMsg) : Except Panic (ProxyServer × List Effect) :=
  match msg.streamType with
  | .clandestine =>
    .error (.raised "ProxyServer should never get ShutdownStreamMsg about clandestine stream")
  | .nonClandestine attributes =>
    match proxy.keysAndAddrs.bToA msg.peerAddr with
    | none => .ok (proxy, [])
    | some streamKey =>
      let scheduled := scheduleStreamKeyPurge proxy now streamKey
      if msg.reportToCounterpart then do
        let (_, proxy, effects) ← handleNormalClientData config scheduled
          (shutdownIbcd now msg.peerAddr attributes) true
        return (proxy, .streamKeyPurge streamKey :: effects)
      else .ok (scheduled, [.streamKeyPurge streamKey])

end

/-! ### The world -/

structure World where
  proxy : ProxyServer
  /-- the effects so far, without those that have come back -/
  sent : List Effect
  now : SystemTime
  /-- the connections whose keys have been scheduled for a purge -/
  ended : List (SocketAddr × StreamKey)

def World.initial : World := ⟨.new, [], ⟨0⟩, []⟩

inductive Event where
  | clientData (msg : InboundClientData)
  | clientResponse (msg : ExpiredCoresPackage ClientResponsePayload)
  | dnsResolveFailure (msg : ExpiredCoresPackage DnsResolveFailure)
  | streamShutdown (msg : StreamShutdownMsg)
  /-- the Neighborhood answers the query with the index -/
  | answer (index : Nat) (routeResultOpt : Except MailboxError (Option RouteQueryResponse))
  /-- the actor gets its own message with the index -/
  | deliver (index : Nat)
  | returnRouteExpires (returnRouteId : UInt32)
  | clock (now : SystemTime)

section

variable (config : ProxyServerConfig) (world : World)

def World.proceed (handled : ProxyServer × List Effect) : World :=
  { world with proxy := handled.1, sent := world.sent ++ handled.2 }

def World.withoutEffect (index : Nat) : World :=
  { world with sent := world.sent.eraseIdx index }

/-- The connection that a shutdown is about, if there is one. -/
def endedConnection (proxy : ProxyServer) (msg : StreamShutdownMsg) : List (SocketAddr × StreamKey) :=
  ((proxy.keysAndAddrs.bToA msg.peerAddr).map fun streamKey => (msg.peerAddr, streamKey)).toList

def World.shutdown (msg : StreamShutdownMsg) : Except Panic World := do
  let handled ← handleStreamShutdownMsg config world.proxy world.now msg
  return { world with ended := world.ended ++ endedConnection world.proxy msg }.proceed handled

def World.receive : Effect → Except Panic World
  | .addReturnRoute msg => .ok (world.proceed (handleAddReturnRoute world.proxy msg, []))
  | .addRouteResult msg => do
    let proxy ← handleAddRouteResult config world.proxy msg
    return world.proceed (proxy, [])
  | .streamShutdown msg => world.shutdown config msg
  | .streamKeyPurge streamKey => .ok (world.proceed (purgeStreamKey world.proxy streamKey, []))
  | _ => .ok world

def Effect.comesBack : Effect → Bool
  | .addReturnRoute _ | .addRouteResult _ | .streamShutdown _ | .streamKeyPurge _ => true
  | _ => false

def step : Event → Except Panic World
  | .clientData msg => do
    let handled ← handleInboundClientData config world.proxy msg
    return world.proceed handled
  | .clientResponse msg => do
    let handled ← handleClientResponsePayload config world.proxy world.now msg
    return world.proceed handled
  | .dnsResolveFailure msg => do
    let handled ← handleDnsResolveFailure config world.proxy world.now msg
    return world.proceed handled
  | .streamShutdown msg => world.shutdown config msg
  | .answer index routeResultOpt =>
    match world.sent[index]? with
    | some (.requestRoute args) => do
      let effects ← resolveMessage config args routeResultOpt
      return (world.withoutEffect index).proceed (world.proxy, effects)
    | _ => .ok world
  | .deliver index =>
    match world.sent[index]? with
    | some effect =>
      if effect.comesBack then (world.withoutEffect index).receive config effect else .ok world
    | none => .ok world
  | .returnRouteExpires returnRouteId =>
    .ok (world.proceed ({ world.proxy with
      routeIdsToReturnRoutes := update world.proxy.routeIdsToReturnRoutes returnRouteId none }, []))
  | .clock now => .ok { world with now }

end

/-! ### A small Node -/

/-- Of messages it writes only requests of the first version, and of those the data. -/
def sampleMessageCodec : Codec MessageType where
  serialize
    | .clientRequest ⟨⟨0, 0⟩, bytes⟩ => .ok ⟨bytes⟩
    | _ => .error ⟨"not a request"⟩
  deserialize plain := .ok (.clientRequest ⟨⟨0, 0⟩, plain.data⟩)
  deserialize_serialize := by
    intro item data serialized
    split at serialized
    · cases serialized
      rfl
    · cases serialized

def addrCode (addr : SocketAddr) : Nat :=
  match addr.ip with
  | .v4 address => 2 * (65536 * address.toNat + addr.port.toNat)
  | .v6 address => 2 * (65536 * address.toNat + addr.port.toNat) + 1

variable (isDecentralized : Bool)

/-- It is the exit itself if it is in zero-hop mode, and its neighbor otherwise. -/
def sampleConfig : ProxyServerConfig where
  profile := .debug
  isDecentralized
  consumingWalletBalance := some ⟨0, i64_zero⟩
  isRunningInIntegrationTest := false
  mainCryptde := labelled ⟨[1]⟩
  aliasPublicKey := ⟨[2]⟩
  hopCodec := tableCodec [⟨⟨[1]⟩, none, .proxyServer⟩]
  idCodec := tableCodec [7, 8]
  messageCodec := sampleMessageCodec
  versioned payload := ⟨⟨0, 0⟩, payload.sequencedPacket.data⟩
  random := zeros
  makeStreamKey _ addr := ⟨BitVec.ofNat 160 (addrCode addr)⟩
  displayStreamKey _ := "key"
  hostname := id
  parseIpAddr _ := none

lemma sampleConfig_injective :
    Function.Injective (sampleConfig isDecentralized).streamKeyOf := by
  rintro ⟨ip, port⟩ ⟨ip', port'⟩ same
  have codes : addrCode ⟨ip, port⟩ % 2 ^ 160 = addrCode ⟨ip', port'⟩ % 2 ^ 160 := by
    simpa [sampleConfig, ProxyServerConfig.streamKeyOf, BitVec.ofNat_eq_ofNat, ← BitVec.toNat_inj] using same
  have small := port.toNat_lt
  have small' := port'.toNat_lt
  rcases ip with address | address <;> rcases ip' with address' | address' <;> simp only [addrCode] at codes
  case v4.v4 | v6.v6 =>
    obtain ⟨addresses, ports⟩ : address.toNat = address'.toNat ∧ port.toNat = port'.toNat := by omega
    rw [BitVec.eq_of_toNat_eq addresses, UInt16.toNat_inj.mp ports]
  -- the codes of the two versions differ in the last bit
  case v4.v6 | v6.v4 => omega

def sampleAddr (port : UInt16) : SocketAddr := ⟨.v4 0x7F000001#32, port⟩

/-- Data that a client at the port sends to the port for HTTP. -/
def sampleData (port : UInt16) (sequenceNumber : U64) (data : String) : InboundClientData :=
  ⟨⟨0⟩, sampleAddr port, some httpPort, false, some sequenceNumber, utf8Bytes data⟩

def sampleExit : ExpectedService :=
  .exit ⟨[3]⟩ ⟨3⟩ ⟨⟨1, u64_one⟩, ⟨1, u64_one⟩, ⟨1, u64_one⟩, ⟨1, u64_one⟩⟩

def sampleRouteResponse (returnRouteId : UInt32) : RouteQueryResponse :=
  ⟨⟨[]⟩, .roundTrip [.nothing, sampleExit] [sampleExit, .nothing] returnRouteId⟩

/-- What the exit at the end of a route sends to the client at the port. -/
def sampleResponse (port : UInt16) (returnRoute : Nat) (sequenceNumber : U64) :
    ExpiredCoresPackage ClientResponsePayload :=
  ⟨sampleAddr 1, none, ⟨[⟨[1]⟩, ⟨1 :: List.replicate returnRoute 0⟩]⟩,
    ⟨(sampleConfig isDecentralized).streamKeyOf (sampleAddr port), ⟨[65], sequenceNumber, false⟩⟩, ⟨1, u64_one⟩⟩

/-- A client sends a request, which gets a route, and gets two packets. -/
def sampleExchange : List Event :=
  [.clientData (sampleData 5000 ⟨0, u64_zero⟩ "request"), .answer 0 (.ok (some (sampleRouteResponse 7))),
    .deliver 0, .deliver 2, .clientResponse (sampleResponse true 5000 0 ⟨0, u64_zero⟩),
    .clientResponse (sampleResponse true 5000 0 ⟨1, u64_one⟩)]

end PulseMesh.ProxyServerActor
