import PulseMesh.ProxyServerActor.Actor

/-!
# What the handlers do

Each handler of the proxy server comes to one of a few ends.  They are listed here once: which state it
leaves and which effects it has.  What holds of all runs is then proved case by case.
-/

namespace PulseMesh.ProxyServerActor

open Machine SubLib Accountant Streams Function Option
open PulseMesh.ProxyServer

variable {config : ProxyServerConfig} {proxy next : ProxyServer} {effects : List Effect}
  {msg : InboundClientData}

/-! ### Parts of the state that stay -/

section

variable (config proxy)

@[simp]
lemma findOrGenerateStreamKey_same (clientAddr) :
    (findOrGenerateStreamKey config proxy clientAddr).2.tunneledHosts = proxy.tunneledHosts ∧
      (findOrGenerateStreamKey config proxy clientAddr).2.dnsFailureRetries = proxy.dnsFailureRetries ∧
      (findOrGenerateStreamKey config proxy clientAddr).2.streamKeyRoutes = proxy.streamKeyRoutes ∧
      (findOrGenerateStreamKey config proxy clientAddr).2.streamKeyTtl = proxy.streamKeyTtl ∧
      (findOrGenerateStreamKey config proxy clientAddr).2.routeIdsToReturnRoutes =
        proxy.routeIdsToReturnRoutes := by
  unfold findOrGenerateStreamKey
  split <;> simp

variable (streamKey : StreamKey) (payload : ClientRequestPayload)

@[simp]
lemma ensureRetry_same :
    (ensureRetry config proxy streamKey payload).keysAndAddrs = proxy.keysAndAddrs ∧
      (ensureRetry config proxy streamKey payload).tunneledHosts = proxy.tunneledHosts ∧
      (ensureRetry config proxy streamKey payload).streamKeyRoutes = proxy.streamKeyRoutes ∧
      (ensureRetry config proxy streamKey payload).streamKeyTtl = proxy.streamKeyTtl ∧
      (ensureRetry config proxy streamKey payload).routeIdsToReturnRoutes = proxy.routeIdsToReturnRoutes := by
  unfold ensureRetry
  split <;> simp

/-- Afterwards there is an entry for the key, and nothing has changed for the others. -/
lemma isSome_dnsFailureRetries_ensureRetry (key) :
    ((ensureRetry config proxy streamKey payload).dnsFailureRetries key).isSome ↔
      key = streamKey ∨ (proxy.dnsFailureRetries key).isSome := by
  unfold ensureRetry
  split
  next retry present =>
    constructor
    · exact Or.inr
    · rintro (rfl | there)
      · rw [present]
        rfl
      · exact there
  next =>
    by_cases same : key = streamKey
    · simp [same]
    · simp [same]

end

/-! ### Requests -/

section

variable {args : TransmitToHopperArgs} {result : Except String Unit} {retireStreamKey : Bool}

/-- What a request does on its way out, apart from its return route. -/
inductive Forwards (args : TransmitToHopperArgs) : List Effect → Prop
  | failed (data : Bytes) : Forwards args [failureMsg args.clientAddr data]
  | sent (report : Option ReportServicesConsumedMessage) (package : IncipientCoresPackage) :
    Forwards args (reportEffects report ++ [.toHopper package] ++
      if args.retireStreamKey then [.streamShutdown (retireStreamMsg args.clientAddr)] else [])

lemma transmitToHopper_forwards
    (transmitted : transmitToHopper config args route services = .ok (result, effects)) :
    Forwards args effects := by
  unfold transmitToHopper at transmitted
  split at transmitted
  · cases transmitted
    exact .failed _
  · split at transmitted
    · cases transmitted
    next package _ =>
      obtain ⟨report, -, transmitted⟩ := ok_of_bind transmitted
      cases transmitted
      exact .sent report package

/-- The return route comes back before anything else does. -/
lemma tryTransmitToHopper_cases
    (transmitted : tryTransmitToHopper config args response = .ok (result, effects)) :
    ∃ overServices backServices returnRouteId rest,
      response.expectedServices = .roundTrip overServices backServices returnRouteId ∧
      effects = .addReturnRoute ⟨returnRouteId, backServices, args.payload.protocol,
        args.payload.targetHostname⟩ :: rest ∧
      Forwards args rest := by
  unfold tryTransmitToHopper at transmitted
  split at transmitted
  next overServices backServices returnRouteId services =>
    obtain ⟨⟨forwarded, rest⟩, forwards, transmitted⟩ := ok_of_bind transmitted
    cases transmitted
    exact ⟨overServices, backServices, returnRouteId, rest, services, rfl, transmitToHopper_forwards forwards⟩
  next => cases transmitted

/-- How a route query ends. -/
inductive Resolves (config : ProxyServerConfig) (args : TransmitToHopperArgs) :
    Except MailboxError (Option RouteQueryResponse) → List Effect → Prop
  | answered {response : RouteQueryResponse} {sent : List Effect} {transmitted : Except String Unit}
    (transmits : tryTransmitToHopper config args response = .ok (transmitted, sent)) :
    Resolves config args (.ok (some response))
      (sent ++ [.addRouteResult ⟨args.payload.streamKey, transmitted.map fun _ => response⟩])
  | unanswered {routeResultOpt : Except MailboxError (Option RouteQueryResponse)}
    (pages : List Bytes) (atMostOne : pages.length ≤ 1) (error : String) :
    Resolves config args routeResultOpt
      (pages.map (failureMsg args.clientAddr) ++ [.addRouteResult ⟨args.payload.streamKey, .error error⟩])

lemma resolveMessage_resolves (resolved : resolveMessage config args routeResultOpt = .ok effects) :
    Resolves config args routeResultOpt effects := by
  obtain ⟨⟨result, sent⟩, results, resolved⟩ := ok_of_bind resolved
  cases resolved
  unfold routeResult at results
  split at results
  · obtain ⟨⟨transmitted, sent⟩, transmits, results⟩ := ok_of_bind results
    cases results
    exact .answered transmits
  · cases results
    exact .unanswered [_] (by simp) _
  · cases results
    exact .unanswered [] (by simp) _

/-- How the data of a client end: refused, because there is no wallet; rejected; sent over the route of
the stream; or kept until there is a route. -/
inductive ClientDataEnds (config : ProxyServerConfig) (proxy : ProxyServer) (msg : InboundClientData)
    (retireStreamKey : Bool) : ProxyServer → List Effect → Prop
  | refused (pages : List Bytes) (atMostOne : pages.length ≤ 1) :
    ClientDataEnds config proxy msg retireStreamKey proxy (pages.map (failureMsg msg.clientAddr))
  | rejected :
    ClientDataEnds config proxy msg retireStreamKey
      (findOrGenerateStreamKey config proxy msg.clientAddr).2 []
  | transmitted {payload : ClientRequestPayload} {response : RouteQueryResponse} {result : Except String Unit}
    {sent : List Effect}
    (own : payload.streamKey = (findOrGenerateStreamKey config proxy msg.clientAddr).1)
    (routed : proxy.streamKeyRoutes payload.streamKey = some response)
    (transmits : tryTransmitToHopper config ⟨payload, msg.clientAddr, msg.timestamp, retireStreamKey⟩
      response = .ok (result, sent)) :
    ClientDataEnds config proxy msg retireStreamKey
      (ensureRetry config (findOrGenerateStreamKey config proxy msg.clientAddr).2 payload.streamKey payload)
      sent
  | requested {payload : ClientRequestPayload}
    (own : payload.streamKey = (findOrGenerateStreamKey config proxy msg.clientAddr).1) :
    ClientDataEnds config proxy msg retireStreamKey
      (ensureRetry config (findOrGenerateStreamKey config proxy msg.clientAddr).2 payload.streamKey payload)
      [.requestRoute ⟨payload, msg.clientAddr, msg.timestamp, retireStreamKey⟩]

lemma streamKey_makePayload (made : makePayload config proxy ibcd streamKey = .ok (.ok payload)) :
    payload.streamKey = streamKey := by
  obtain ⟨payloadOpt, makes, made⟩ := ok_of_bind made
  have own : ∀ made ∈ payloadOpt, made.streamKey = streamKey := by
    unfold makeClientRequestPayload at makes
    split at makes
    · cases makes
      simp
    · split at makes
      · cases makes
        simp
      · obtain ⟨host, -, makes⟩ := ok_of_bind makes
        cases makes
        simp
  cases payloadOpt with
  | none => cases made
  | some request =>
    have requested := own request rfl
    cases tunneled : proxy.tunneledHosts streamKey with
    | none | some =>
      simp only [tunneled] at made
      cases made
      exact requested

lemma serveClientData_cases
    (served : serveClientData config proxy streamKey msg retireStreamKey = .ok (result, next, effects)) :
    (next = proxy ∧ effects = []) ∨
      ∃ payload, payload.streamKey = streamKey ∧ next = ensureRetry config proxy payload.streamKey payload ∧
        transmitOrRequest config next ⟨payload, msg.clientAddr, msg.timestamp, retireStreamKey⟩ =
          .ok (result, effects) := by
  obtain ⟨payloadOrError, made, served⟩ := ok_of_bind served
  cases payloadOrError with
  | error e =>
    cases served
    exact .inl ⟨rfl, rfl⟩
  | ok payload =>
    have own := streamKey_makePayload made
    cases target : validateTarget config payload with
    | error e =>
      simp only [target] at served
      cases served
      exact .inl ⟨rfl, rfl⟩
    | ok =>
      simp only [target] at served
      obtain ⟨⟨_, sent⟩, transmits, served⟩ := ok_of_bind served
      cases served
      exact .inr ⟨payload, own, by rw [own], transmits⟩

lemma handleNormalClientData_ends
    (handled : handleNormalClientData config proxy msg retireStreamKey = .ok (result, next, effects)) :
    ClientDataEnds config proxy msg retireStreamKey next effects := by
  unfold handleNormalClientData at handled
  split at handled
  · split at handled
    · cases handled
      exact .refused [] (by simp)
    · cases handled
      exact .refused [_] (by simp)
  · obtain ⟨rfl, rfl⟩ | ⟨payload, own, rfl, transmits⟩ := serveClientData_cases handled
    · exact .rejected
    · unfold transmitOrRequest at transmits
      split at transmits
      next response routed =>
        simp only [ensureRetry_same, findOrGenerateStreamKey_same] at routed
        exact .transmitted own routed transmits
      next =>
        cases transmits
        exact .requested own

end

/-! ### Responses -/

/-- How a response ends: as a straggler, or with a client that is gone; relayed; or relayed as the last. -/
inductive Relays (config : ProxyServerConfig) (proxy : ProxyServer) (response : ClientResponsePayload) :
    ProxyServer → List Effect → Prop
  | dropped : Relays config proxy response proxy []
  | relayed {socketAddr : SocketAddr} {sequenceNumber : U64} {last : ProxyServer}
    (open_ : proxy.streamKeyTtl response.streamKey = none)
    (known : proxy.keysAndAddrs.aToB response.streamKey = some socketAddr)
    (offset : offsetSequenceNumber config proxy response.sequencedPacket.sequenceNumber = .ok sequenceNumber)
    (purged : last = proxy ∨ last = purgeStreamKey proxy response.streamKey) :
    Relays config proxy response last
      [.transmitData (.response response.sequencedPacket.sequenceNumber) ⟨.socket socketAddr,
        response.sequencedPacket.lastData, some sequenceNumber, response.sequencedPacket.data⟩]

lemma relayResponse_relays (relayed : relayResponse config proxy now response = .ok (next, effects)) :
    Relays config proxy response next effects := by
  unfold relayResponse at relayed
  split at relayed
  · split at relayed
    · cases relayed
    · cases relayed
      exact .dropped
  next open_ =>
    split at relayed
    · cases relayed
      exact .dropped
    next socketAddr known =>
      obtain ⟨sequenceNumber, offset, relayed⟩ := ok_of_bind relayed
      split at relayed
      · cases relayed
        exact .relayed open_ known offset (.inr rfl)
      · cases relayed
        exact .relayed open_ known offset (.inl rfl)

/-- How a failed name lookup ends: there is nothing to try again, or it is tried again, or the client
is told. -/
inductive Retries (proxy : ProxyServer) (now : SystemTime) (streamKey : StreamKey)
    (clientAddr : SocketAddr) : ProxyServer → List Effect → Prop
  | unknown : Retries proxy now streamKey clientAddr proxy []
  | again {retry : DNSFailureRetry} (retriesLeft : Nat)
    (present : proxy.dnsFailureRetries streamKey = some retry) :
    Retries proxy now streamKey clientAddr
      { proxy with
        dnsFailureRetries := update proxy.dnsFailureRetries streamKey
          (some { retry with retriesLeft }) }
      [.requestRoute ⟨retry.unsuccessfulRequest, clientAddr, now, false⟩]
  | failed (data : Bytes) :
    Retries proxy now streamKey clientAddr (purgeStreamKey (removeDnsFailureRetry proxy streamKey) streamKey)
      [failureMsg clientAddr data]

lemma retryOrFail_retries (now streamKey clientAddr returnRouteInfo) :
    Retries proxy now streamKey clientAddr (retryOrFail proxy now streamKey clientAddr returnRouteInfo).1
      (retryOrFail proxy now streamKey clientAddr returnRouteInfo).2 := by
  unfold retryOrFail
  split
  · exact .unknown
  next retry present =>
    split
    · exact .again _ present
    · exact .failed _

/-! ### Steps of the world -/

/-- How a shutdown ends. -/
inductive Shuts (config : ProxyServerConfig) (world : World) (msg : StreamShutdownMsg) : World → Prop
  | unknown : Shuts config world msg world
  | scheduled {streamKey : StreamKey} {attributes : NonClandestineAttributes} {next : ProxyServer}
    {effects : List Effect}
    (known : world.proxy.keysAndAddrs.bToA msg.peerAddr = some streamKey)
    -- without a report to the counterpart this is a refusal without a page
    (ends : ClientDataEnds config (scheduleStreamKeyPurge world.proxy world.now streamKey)
      (shutdownIbcd world.now msg.peerAddr attributes) true next effects) :
    Shuts config world msg
      (World.proceed { world with ended := world.ended ++ [(msg.peerAddr, streamKey)] }
        (next, .streamKeyPurge streamKey :: effects))

lemma shutdown_shuts {world after msg} (shut : world.shutdown config msg = .ok after) :
    Shuts config world msg after := by
  obtain ⟨⟨next, effects⟩, handled, shut⟩ := ok_of_bind shut
  cases shut
  unfold handleStreamShutdownMsg at handled
  split at handled
  · cases handled
  next attributes _ =>
    split at handled
    next absent =>
      cases handled
      simp only [endedConnection, absent, map_none, toList_none, List.append_nil, World.proceed]
      exact .unknown
    next streamKey known =>
      simp only [endedConnection, known, map_some, toList_some]
      split at handled
      · obtain ⟨⟨result, served, sent⟩, serves, handled⟩ := ok_of_bind handled
        cases handled
        exact .scheduled known (handleNormalClientData_ends serves)
      · cases handled
        exact @Shuts.scheduled config world msg streamKey attributes _ _ known (.refused [] (by simp))

/-- There is nothing that the event could deliver to the actor. -/
def Idle (world : World) : Event → Prop
  | .deliver index => ∀ effect, world.sent[index]? = some effect → effect.comesBack = false
  | _ => True

/-- What a message does to the world. -/
inductive Steps (config : ProxyServerConfig) (world : World) : Event → World → Prop
  | unchanged {event : Event} (idle : Idle world event) : Steps config world event world
  | connected {msg : InboundClientData} (host data : String) :
    Steps config world (.clientData msg)
      (world.proceed
        ({ (findOrGenerateStreamKey config world.proxy msg.clientAddr).2 with
            tunneledHosts := update world.proxy.tunneledHosts
              (findOrGenerateStreamKey config world.proxy msg.clientAddr).1 (some host)
            browserProxySequenceOffset := true }, [connectAnswer msg false data]))
  | notConnected {msg : InboundClientData} (data : String) :
    Steps config world (.clientData msg)
      (world.proceed ({ world.proxy with browserProxySequenceOffset := true },
        [connectAnswer msg true data]))
  | served {msg : InboundClientData} {next : ProxyServer} {effects : List Effect}
    (ends : ClientDataEnds config world.proxy msg false next effects) :
    Steps config world (.clientData msg) (world.proceed (next, effects))
  | responded {msg : ExpiredCoresPackage ClientResponsePayload} {next : ProxyServer} {effects : List Effect}
    {report : Option ReportServicesConsumedMessage}
    (relays : Relays config (removeDnsFailureRetry world.proxy msg.payload.streamKey) msg.payload next effects) :
    Steps config world (.clientResponse msg) (world.proceed (next, reportEffects report ++ effects))
  | unresolved {msg : ExpiredCoresPackage DnsResolveFailure} {clientAddr : SocketAddr}
    {next : ProxyServer} {effects : List Effect}
    {complaint : Option (PublicKey × String)} {report : Option ReportServicesConsumedMessage}
    (known : world.proxy.keysAndAddrs.aToB msg.payload.streamKey = some clientAddr)
    (retries : Retries world.proxy world.now msg.payload.streamKey clientAddr next effects) :
    Steps config world (.dnsResolveFailure msg)
      (world.proceed (next, (complaint.map fun (key, host) => Effect.addUnreachableHost key host).toList ++
        reportEffects report ++ effects))
  | shut {msg : StreamShutdownMsg} {after : World} (shuts : Shuts config world msg after) :
    Steps config world (.streamShutdown msg) after
  | answered {index : Nat} {args : TransmitToHopperArgs} {effects : List Effect}
    {routeResultOpt : Except MailboxError (Option RouteQueryResponse)}
    (asked : world.sent[index]? = some (.requestRoute args))
    (resolves : Resolves config args routeResultOpt effects) :
    Steps config world (.answer index routeResultOpt)
      ((world.withoutEffect index).proceed (world.proxy, effects))
  | returnRoute {index : Nat} {msg : AddReturnRouteMessage}
    (pending : world.sent[index]? = some (.addReturnRoute msg)) :
    Steps config world (.deliver index)
      ((world.withoutEffect index).proceed (handleAddReturnRoute world.proxy msg, []))
  | routed {index : Nat} {streamKey : StreamKey} {response : RouteQueryResponse}
    (pending : world.sent[index]? = some (.addRouteResult ⟨streamKey, .ok response⟩))
    (awaited : (world.proxy.dnsFailureRetries streamKey).isSome) :
    Steps config world (.deliver index)
      ((world.withoutEffect index).proceed
        ({ world.proxy with
            streamKeyRoutes := update world.proxy.streamKeyRoutes streamKey (some response) }, []))
  | unrouted {index : Nat} {msg : AddRouteResultMessage}
    (pending : world.sent[index]? = some (.addRouteResult msg)) :
    Steps config world (.deliver index) (world.withoutEffect index)
  | retired {index : Nat} {msg : StreamShutdownMsg} {after : World}
    (pending : world.sent[index]? = some (.streamShutdown msg))
    (shuts : Shuts config (world.withoutEffect index) msg after) :
    Steps config world (.deliver index) after
  | purged {index : Nat} {streamKey : StreamKey}
    (pending : world.sent[index]? = some (.streamKeyPurge streamKey)) :
    Steps config world (.deliver index)
      ((world.withoutEffect index).proceed (purgeStreamKey world.proxy streamKey, []))
  | expired {returnRouteId : UInt32} :
    Steps config world (.returnRouteExpires returnRouteId)
      (world.proceed ({ world.proxy with
        routeIdsToReturnRoutes := update world.proxy.routeIdsToReturnRoutes returnRouteId none }, []))
  | clock {now : SystemTime} : Steps config world (.clock now) { world with now }

section

lemma tlsConnect_cases (proxy msg) :
    (∃ host data, tlsConnect config proxy msg =
      ({ (findOrGenerateStreamKey config proxy msg.clientAddr).2 with
          tunneledHosts := update proxy.tunneledHosts
            (findOrGenerateStreamKey config proxy msg.clientAddr).1 (some host) },
        [connectAnswer msg false data])) ∨
    ∃ data, tlsConnect config proxy msg = (proxy, [connectAnswer msg true data]) := by
  unfold tlsConnect
  split
  next host _ =>
    split
    · refine .inl ⟨host.name, "HTTP/1.1 200 OK\r\n\r\n", ?_⟩
      simp only [findOrGenerateStreamKey_same]
    · exact .inr ⟨_, rfl⟩
  · exact .inr ⟨_, rfl⟩

lemma handleInboundClientData_steps (handles : handleInboundClientData config world.proxy msg = .ok handled) :
    Steps config world (.clientData msg) (world.proceed handled) := by
  unfold handleInboundClientData at handles
  split at handles
  · obtain ⟨host, data, connects⟩ | ⟨data, connects⟩ := @tlsConnect_cases config world.proxy msg
    · simp only [connects] at handles
      cases handles
      exact .connected host data
    · simp only [connects] at handles
      cases handles
      exact .notConnected data
  · obtain ⟨⟨result, next, effects⟩, serves, handles⟩ := ok_of_bind handles
    cases handles
    exact .served (handleNormalClientData_ends serves)

lemma proceed_nothing (world : World) : world.proceed (world.proxy, []) = world := by
  simp [World.proceed]

lemma handleClientResponsePayload_steps {msg}
    (handles : handleClientResponsePayload config world.proxy world.now msg = .ok handled) :
    Steps config world (.clientResponse msg) (world.proceed handled) := by
  obtain ⟨returnRouteOpt, -, handles⟩ := ok_of_bind handles
  cases returnRouteOpt with
  | none =>
    cases handles
    rw [proceed_nothing]
    exact .unchanged trivial
  | some returnRouteInfo =>
    obtain ⟨report, -, handles⟩ := ok_of_bind handles
    obtain ⟨⟨next, effects⟩, relayed, handles⟩ := ok_of_bind handles
    cases handles
    exact .responded (relayResponse_relays relayed)

lemma handleDnsResolveFailure_steps {msg}
    (handles : handleDnsResolveFailure config world.proxy world.now msg = .ok handled) :
    Steps config world (.dnsResolveFailure msg) (world.proceed handled) := by
  obtain ⟨returnRouteOpt, -, handles⟩ := ok_of_bind handles
  cases returnRouteOpt with
  | none =>
    cases handles
    rw [proceed_nothing]
    exact .unchanged trivial
  | some returnRouteInfo =>
    obtain ⟨exitKey, -, handles⟩ := ok_of_bind handles
    cases known : world.proxy.keysAndAddrs.aToB msg.payload.streamKey with
    | none =>
      simp only [known] at handles
      cases handles
      rw [proceed_nothing]
      exact .unchanged trivial
    | some clientAddr =>
      simp only [known] at handles
      obtain ⟨report, -, handles⟩ := ok_of_bind handles
      cases handles
      have steps := @Steps.unresolved config world msg clientAddr _ _
        (returnRouteInfo.hostnameOpt.map fun host => (exitKey, host)) report known
        (retryOrFail_retries world.now msg.payload.streamKey clientAddr returnRouteInfo)
      rw [map_map] at steps
      exact steps

lemma receive_steps (pending : world.sent[index]? = some effect) (comesBack : effect.comesBack)
    (received : (world.withoutEffect index).receive config effect = .ok after) :
    Steps config world (.deliver index) after := by
  cases effect with
  | addReturnRoute msg =>
    cases received
    exact .returnRoute pending
  | addRouteResult msg =>
    obtain ⟨next, handled, received⟩ := ok_of_bind received
    cases received
    obtain ⟨streamKey, result⟩ := msg
    unfold handleAddRouteResult at handled
    split at handled
    · cases handled
    next retry awaited =>
      cases result with
      | error e =>
        cases handled
        rw [proceed_nothing]
        exact .unrouted pending
      | ok response =>
        cases handled
        apply Steps.routed pending
        rw [isSome_iff_exists]
        exact ⟨retry, awaited⟩
  | streamShutdown msg => exact .retired pending (shutdown_shuts received)
  | streamKeyPurge streamKey =>
    cases received
    exact .purged pending
  | transmitData | toHopper | reportServicesConsumed | addUnreachableHost | requestRoute => cases comesBack

lemma step_steps (stepped : step config world event = .ok after) : Steps config world event after := by
  cases event with
  | clientData msg =>
    obtain ⟨handled, handles, stepped⟩ := ok_of_bind stepped
    cases stepped
    exact handleInboundClientData_steps handles
  | clientResponse msg =>
    obtain ⟨handled, handles, stepped⟩ := ok_of_bind stepped
    cases stepped
    exact handleClientResponsePayload_steps handles
  | dnsResolveFailure msg =>
    obtain ⟨handled, handles, stepped⟩ := ok_of_bind stepped
    cases stepped
    exact handleDnsResolveFailure_steps handles
  | streamShutdown msg => exact .shut (shutdown_shuts stepped)
  | answer index routeResultOpt =>
    simp only [step] at stepped
    split at stepped
    next args asked =>
      obtain ⟨effects, resolved, stepped⟩ := ok_of_bind stepped
      cases stepped
      exact .answered asked (resolveMessage_resolves resolved)
    next =>
      cases stepped
      exact .unchanged trivial
  | deliver index =>
    simp only [step] at stepped
    split at stepped
    next effect pending =>
      split at stepped
      next comesBack => exact receive_steps pending comesBack stepped
      next stays =>
        cases stepped
        apply Steps.unchanged
        intro other pendingToo
        cases pending.symm.trans pendingToo
        simpa using stays
    next absent =>
      cases stepped
      apply Steps.unchanged
      intro effect pending
      cases absent.symm.trans pending
  | returnRouteExpires returnRouteId =>
    cases stepped
    exact .expired
  | clock now =>
    cases stepped
    exact .clock

end

end PulseMesh.ProxyServerActor
