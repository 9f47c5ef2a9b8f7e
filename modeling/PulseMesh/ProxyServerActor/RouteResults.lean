import PulseMesh.Lib.Returns
import PulseMesh.ProxyServerActor.Soundness

/-!
# Messages that stop the proxy server

The result of a route query is expected to find the request that it was made for among those that may be
tried again.  But a response for the stream takes this request away, also while the results of other
queries for the same stream are still to come.  And the data of a client are expected not to end within
the first bytes of a handshake.
-/

namespace PulseMesh.ProxyServerActor

open Machine Runs SubLib Accountant Streams List
open PulseMesh.ProxyServer

variable {config : ProxyServerConfig} {proxy next : ProxyServer} {world : World} {event : Event}

/-! ### Requests -/

section

variable (args : TransmitToHopperArgs)

lemma findExitNodeKey_append (noExit : ∀ service ∈ routing, service.isExit = false) (key wallet ratePack) :
    findExitNodeKey (routing ++ [.exit key wallet ratePack]) = some key := by
  induction routing with
  | nil => rfl
  | cons service routing ih =>
    rw [forall_mem_cons] at noExit
    cases service with
    | exit => cases noExit.1
    | routing | nothing => exact ih noExit.2

/-- A way over has somebody to send the request to, and can be reported. -/
lemma transmitToHopper_returns (services_ok : OverServices config services) (route) :
    ∃ result, transmitToHopper config args route services = .ok result := by
  unfold OverServices at services_ok
  split at services_ok
  next decentralized =>
    obtain ⟨routing, key, wallet, ratePack, rfl, noExit, encrypts⟩ := services_ok
    obtain ⟨package, packed⟩ := encrypts route args.payload
    have destination : destinationKeyOpt config (routing ++ [.exit key wallet ratePack]) = some key := by
      rw [destinationKeyOpt, if_pos decentralized, findExitNodeKey_append noExit]
    simp only [transmitToHopper, destination, packed, requestReport, if_pos decentralized,
      reportRequestServicesConsumed, reportOnExitService_ok noExit, ok_bind]
    exact ⟨_, rfl⟩
  next zeroHop =>
    obtain ⟨package, packed⟩ := services_ok route args.payload
    have destination : destinationKeyOpt config services = some config.mainCryptde.publicKey := if_neg zeroHop
    simp only [transmitToHopper, destination, packed, requestReport, if_neg zeroHop, ok_bind]
    exact ⟨_, rfl⟩

lemma tryTransmitToHopper_returns (trip : RoundTrip config response) :
    ∃ result, tryTransmitToHopper config args response = .ok result := by
  obtain ⟨overServices, backServices, returnRouteId, services, over_ok, -⟩ := trip
  obtain ⟨result, transmitted⟩ := transmitToHopper_returns args over_ok response.route
  exact ⟨_, by simp only [tryTransmitToHopper, services, transmitted, ok_bind]; rfl⟩

lemma resolveMessage_returns
    (trip : ∀ response, routeResultOpt = .ok (some response) → RoundTrip config response) :
    ∃ effects, resolveMessage config args routeResultOpt = .ok effects := by
  match routeResultOpt with
  | .error e => exact ⟨_, rfl⟩
  | .ok none => exact ⟨_, rfl⟩
  | .ok (some response) =>
    obtain ⟨result, transmitted⟩ := tryTransmitToHopper_returns args (trip response rfl)
    exact ⟨_, by simp only [resolveMessage, routeResult, transmitted, ok_bind]; rfl⟩

/-- Only a cut handshake cannot be made a request. -/
lemma makeClientRequestPayload_returns_iff (ibcd streamKey) :
    (∃ payload, makeClientRequestPayload config ibcd streamKey = .ok payload) ↔
      ¬(ibcd.sequenceNumber.isSome ∧ ibcd.receptionPort = some tlsPort ∧
        TlsProtocolPack.CutHandshake ibcd.data) := by
  unfold makeClientRequestPayload
  cases packed : fromIbcd ibcd with
  | error e =>
    refine iff_of_true ⟨_, rfl⟩ ?_
    rintro ⟨-, tls, -⟩
    simp only [fromIbcd, tls, fromStandardPort] at packed
    cases packed
  | ok pack =>
    cases ibcd.sequenceNumber with
    | none => exact iff_of_true ⟨_, rfl⟩ (by simp)
    | some sequenceNumber =>
      refine (bind_returns_iff fun host _ => ⟨_, rfl⟩).trans ?_
      simpa using findHost_returns_iff_of_fromIbcd packed ibcd.data

/-- The data of a TLS stream end within the first bytes of a handshake. -/
def CutRequest (proxy : ProxyServer) (msg : InboundClientData) (streamKey : StreamKey) : Prop :=
  msg.sequenceNumber.isSome ∧ (tunneledIbcd proxy msg streamKey).receptionPort = some tlsPort ∧
    TlsProtocolPack.CutHandshake msg.data

instance (proxy : ProxyServer) (msg : InboundClientData) (streamKey : StreamKey) :
    Decidable (CutRequest proxy msg streamKey) :=
  inferInstanceAs (Decidable (_ ∧ _))

lemma makePayload_returns_iff (msg streamKey) :
    (∃ payload, makePayload config proxy msg streamKey = .ok payload) ↔ ¬CutRequest proxy msg streamKey := by
  have same : (tunneledIbcd proxy msg streamKey).sequenceNumber = msg.sequenceNumber ∧
      (tunneledIbcd proxy msg streamKey).data = msg.data := by
    unfold tunneledIbcd
    split <;> exact ⟨rfl, rfl⟩
  have made := @makeClientRequestPayload_returns_iff config (tunneledIbcd proxy msg streamKey) streamKey
  rw [same.1, same.2] at made
  refine (bind_returns_iff fun payloadOpt _ => ?_).trans made
  cases payloadOpt with
  | none => exact ⟨_, rfl⟩
  | some payload =>
    cases proxy.tunneledHosts streamKey with
    | none | some => exact ⟨_, rfl⟩

section

variable (routes : ∀ key response, proxy.streamKeyRoutes key = some response → RoundTrip config response)
include routes

lemma transmitOrRequest_returns : ∃ result, transmitOrRequest config proxy args = .ok result := by
  unfold transmitOrRequest
  split
  next response routed => exact tryTransmitToHopper_returns args (routes _ response routed)
  next => exact ⟨_, rfl⟩

lemma serveClientData_returns_iff :
    (∃ result, serveClientData config proxy streamKey msg retireStreamKey = .ok result) ↔
      ¬CutRequest proxy msg streamKey := by
  refine (bind_returns_iff fun payloadOrError _ => ?_).trans (makePayload_returns_iff msg streamKey)
  cases payloadOrError with
  | error e => exact ⟨_, rfl⟩
  | ok payload =>
    cases target : validateTarget config payload with
    | error e => exact ⟨_, by simp only [target]; rfl⟩
    | ok =>
      have still := routes
      rw [← (ensureRetry_same config proxy streamKey payload).2.2.1] at still
      obtain ⟨⟨result, effects⟩, transmitted⟩ := transmitOrRequest_returns
        ⟨payload, msg.clientAddr, msg.timestamp, retireStreamKey⟩ still
      exact ⟨_, by simp only [target, transmitted, ok_bind]; rfl⟩

/-- Without a wallet to pay from, no data of clients are looked at. -/
def refusesClients (config : ProxyServerConfig) : Bool :=
  config.consumingWalletBalance.isNone && config.isDecentralized

lemma handleNormalClientData_returns_iff :
    (∃ result, handleNormalClientData config proxy msg retireStreamKey = .ok result) ↔ refusesClients config ∨
        ¬CutRequest proxy msg (findOrGenerateStreamKey config proxy msg.clientAddr).1 := by
  unfold handleNormalClientData
  split
  next refuses =>
    refine iff_of_true ?_ (.inl refuses)
    split <;> exact ⟨_, rfl⟩
  next serves =>
    have unaffected streamKey : CutRequest (findOrGenerateStreamKey config proxy msg.clientAddr).2 msg streamKey ↔
        CutRequest proxy msg streamKey := by
      simp only [CutRequest, tunneledIbcd, findOrGenerateStreamKey_same]
    rw [← unaffected]
    rw [← (findOrGenerateStreamKey_same config proxy msg.clientAddr).2.2.1] at routes
    refine (serveClientData_returns_iff routes).trans ⟨.inr, ?_⟩
    rintro (refuses | whole)
    · exact absurd refuses serves
    · exact whole

end

end

/-! ### Responses -/

section

/-- A way back can be reported. -/
lemma reportResponseServicesConsumed_returns (services_ok : BackServices config services)
    (now exitSize routingSize) :
    ∃ report, reportResponseServicesConsumed now services exitSize routingSize = .ok report := by
  unfold BackServices at services_ok
  split at services_ok
  · obtain ⟨key, wallet, ratePack, rest, rfl⟩ := services_ok
    exact ⟨_, reportResponseServicesConsumed_ok key wallet ratePack now exitSize routingSize⟩
  · have nobody : (services.filter fun service => decide (service ≠ .nothing)) = [] := by
      rw [filter_eq_nil_iff]
      intro service listed
      simp [services_ok service listed]
    rw [reportResponseServicesConsumed, nobody]
    exact ⟨_, rfl⟩

lemma exitPublicKey_returns (services_ok : BackServices config returnRouteInfo.expectedServices) :
    ∃ key, exitPublicKey config returnRouteInfo = .ok key := by
  unfold exitPublicKey
  split
  · exact ⟨_, rfl⟩
  next none_found =>
    unfold BackServices at services_ok
    split at services_ok
    · obtain ⟨key, wallet, ratePack, rest, services_eq⟩ := services_ok
      rw [services_eq] at none_found
      cases none_found
    next zeroHop => exact ⟨_, if_neg zeroHop⟩

lemma getReturnRouteInfo_returns
    (opens : route.shift config.hopCodec config.mainCryptde config.random = (.ok hop, rest)) :
    ∃ info, getReturnRouteInfo config proxy route = .ok info := by
  simp only [getReturnRouteInfo, opens]
  split <;> exact ⟨_, rfl⟩

lemma SoundProxy.getReturnRouteInfo (sound : SoundProxy config now proxy)
    (found : ProxyServerActor.getReturnRouteInfo config proxy route = .ok (some info)) :
    BackServices config info.expectedServices := by
  unfold ProxyServerActor.getReturnRouteInfo at found
  split at found
  · cases found
  · split at found
    · cases found
    · exact sound.returnRoutes _ info (Except.ok.inj found)

lemma offsetSequenceNumber_returns (room : sequenceNumber.val + 1 < 2 ^ 64) :
    ∃ shifted, offsetSequenceNumber config proxy sequenceNumber = .ok shifted := by
  have fits : u64.Holds (sequenceNumber.val + proxy.browserProxySequenceOffset.toNat) := by
    have bounds := U64.bounds sequenceNumber
    have small := Bool.toNat_le proxy.browserProxySequenceOffset
    rw [u64_holds]
    omega
  exact ⟨_, arith_ok config.profile fits⟩

lemma relayResponse_returns (sound : SoundProxy config now proxy)
    (room : response.sequencedPacket.sequenceNumber.val + 1 < 2 ^ 64) :
    ∃ relayed, relayResponse config proxy now response = .ok relayed := by
  unfold relayResponse
  split
  next oldTimestamp closed =>
    have past := sound.closed _ oldTimestamp closed
    exact ⟨_, if_neg (by omega)⟩
  next =>
    split
    · exact ⟨_, rfl⟩
    · obtain ⟨shifted, offset⟩ := @offsetSequenceNumber_returns config proxy _ room
      simp only [offset, ok_bind]
      split <;> exact ⟨_, rfl⟩

lemma handleClientResponsePayload_returns (sound : Sound config world)
    (lawful : Lawful config world (.clientResponse msg)) :
    ∃ handled, handleClientResponsePayload config world.proxy world.now msg = .ok handled := by
  obtain ⟨⟨hop, rest, opens⟩, room⟩ := lawful
  obtain ⟨infoOpt, found⟩ := @getReturnRouteInfo_returns config world.proxy _ _ _ opens
  rw [handleClientResponsePayload, found]
  cases infoOpt with
  | none => exact ⟨_, rfl⟩
  | some info =>
    obtain ⟨report, reported⟩ := reportResponseServicesConsumed_returns (sound.proxy.getReturnRouteInfo found)
      world.now (usize msg.payload.sequencedPacket.data.length) msg.payloadLen
    have answered : SoundProxy config world.now (removeDnsFailureRetry world.proxy msg.payload.streamKey) :=
      ⟨sound.proxy.routes, sound.proxy.returnRoutes, sound.proxy.closed⟩
    obtain ⟨relayed, relays⟩ := relayResponse_returns answered room
    simp only [reported, relays, ok_bind]
    exact ⟨_, rfl⟩

lemma handleDnsResolveFailure_returns (sound : Sound config world)
    (lawful : Lawful config world (.dnsResolveFailure msg)) :
    ∃ handled, handleDnsResolveFailure config world.proxy world.now msg = .ok handled := by
  obtain ⟨hop, rest, opens⟩ := lawful
  obtain ⟨infoOpt, found⟩ := @getReturnRouteInfo_returns config world.proxy _ _ _ opens
  rw [handleDnsResolveFailure, found]
  cases infoOpt with
  | none => exact ⟨_, rfl⟩
  | some info =>
    have services_ok := sound.proxy.getReturnRouteInfo found
    obtain ⟨exitKey, exits⟩ := exitPublicKey_returns services_ok
    obtain ⟨report, reported⟩ := reportResponseServicesConsumed_returns services_ok world.now ⟨0, by decide⟩
      msg.payloadLen
    simp only [exits, ok_bind]
    split
    · exact ⟨_, rfl⟩
    · simp only [reported, ok_bind]
      exact ⟨_, rfl⟩

end

/-! ### Steps -/

lemma shutdown_returns (sound : Sound config world) (ordinary : msg.streamType ≠ .clandestine) :
    ∃ after, world.shutdown config msg = .ok after := by
  obtain ⟨handled, handles⟩ : ∃ handled, handleStreamShutdownMsg config world.proxy world.now msg = .ok handled := by
    unfold handleStreamShutdownMsg
    split
    next clandestine => exact absurd clandestine ordinary
    next attributes _ =>
      split
      · exact ⟨_, rfl⟩
      next streamKey known =>
        split
        · -- a packet without data is no handshake
          have whole : ¬CutRequest (scheduleStreamKeyPurge world.proxy world.now streamKey)
              (shutdownIbcd world.now msg.peerAddr attributes)
              (findOrGenerateStreamKey config (scheduleStreamKeyPurge world.proxy world.now streamKey)
                msg.peerAddr).1 := by
            rintro ⟨-, -, cut, -⟩
            cases cut
          obtain ⟨⟨result, served, sent⟩, serves⟩ :=
            (@handleNormalClientData_returns_iff config _ (sound.proxy.schedule streamKey).routes _
              true).mpr (.inr whole)
          simp only [serves, ok_bind]
          exact ⟨_, rfl⟩
        · exact ⟨_, rfl⟩
  exact ⟨_, by simp only [World.shutdown, handles, ok_bind]; rfl⟩

/-- What the proxy server expects of the event: the data of a client are not cut in a handshake, and the
result of a route query finds the request that may be tried again. -/
def Expected (config : ProxyServerConfig) (world : World) : Event → Prop
  | .clientData msg =>
    HttpProtocolPack.isConnect msg.data ∨ refusesClients config ∨
      ¬CutRequest world.proxy msg (findOrGenerateStreamKey config world.proxy msg.clientAddr).1
  | .deliver index =>
    match world.sent[index]? with
    | some (.addRouteResult msg) => (world.proxy.dnsFailureRetries msg.streamKey).isSome
    | _ => True
  | _ => True

instance (config : ProxyServerConfig) (world : World) (event : Event) :
    Decidable (Expected config world event) := by
  unfold Expected
  split
  · infer_instance
  · split <;> infer_instance
  · infer_instance

lemma receive_returns_iff (sound : Sound config world) (pending : world.sent[index]? = some effect) :
    (∃ after, (world.withoutEffect index).receive config effect = .ok after) ↔
      Expected config world (.deliver index) := by
  simp only [Expected, pending]
  cases effect with
  | addRouteResult msg =>
    simp only [World.receive, handleAddRouteResult]
    cases retry : world.proxy.dnsFailureRetries msg.streamKey with
    | none => simp [World.withoutEffect, retry, bind, Except.bind]
    | some =>
      refine iff_of_true ?_ rfl
      cases result : msg.result with
      | error | ok => exact ⟨_, by simp only [World.withoutEffect, retry]; rfl⟩
  | streamShutdown msg =>
    exact iff_of_true (shutdown_returns (sound.withoutEffect index) (sound.pending pending)) trivial
  | transmitData | toHopper | reportServicesConsumed | addUnreachableHost | requestRoute | addReturnRoute
  | streamKeyPurge => exact iff_of_true ⟨_, rfl⟩ trivial

lemma step_returns_iff (world event) (sound : Sound config world) (lawful : Lawful config world event) :
    (∃ after, step config world event = .ok after) ↔ Expected config world event := by
  cases event with
  | clientData msg =>
    refine (bind_returns_iff fun handled _ => ⟨_, rfl⟩).trans ?_
    unfold handleInboundClientData
    split
    next connects => exact iff_of_true ⟨_, rfl⟩ (.inl connects)
    next normal =>
      refine (bind_returns_iff fun handled _ => ⟨_, rfl⟩).trans ?_
      rw [handleNormalClientData_returns_iff sound.proxy.routes]
      simp [Expected, normal]
  | clientResponse msg =>
    refine iff_of_true ?_ trivial
    obtain ⟨handled, handles⟩ := handleClientResponsePayload_returns sound lawful
    exact ⟨_, by simp only [step, handles, ok_bind]; rfl⟩
  | dnsResolveFailure msg =>
    refine iff_of_true ?_ trivial
    obtain ⟨handled, handles⟩ := handleDnsResolveFailure_returns sound lawful
    exact ⟨_, by simp only [step, handles, ok_bind]; rfl⟩
  | streamShutdown msg => exact iff_of_true (shutdown_returns sound lawful) trivial
  | answer index routeResultOpt =>
    refine iff_of_true ?_ trivial
    simp only [step]
    split
    next args asked =>
      have trip : ∀ response, routeResultOpt = .ok (some response) → RoundTrip config response := by
        rintro response rfl
        exact lawful
      obtain ⟨effects, resolved⟩ := resolveMessage_returns args trip
      exact ⟨_, by simp only [resolved, ok_bind]; rfl⟩
    next => exact ⟨_, rfl⟩
  | deliver index =>
    simp only [step]
    cases pending : world.sent[index]? with
    | none => exact iff_of_true ⟨_, rfl⟩ (by simp [Expected, pending])
    | some effect =>
      by_cases comesBack : effect.comesBack
      · simp only [comesBack, if_true]
        exact receive_returns_iff sound pending
      · simp only [comesBack]
        refine iff_of_true ⟨_, rfl⟩ ?_
        simp only [Expected, pending]
        cases effect with
        | addRouteResult => cases comesBack rfl
        | transmitData | toHopper | reportServicesConsumed | addUnreachableHost | requestRoute
        | addReturnRoute | streamShutdown | streamKeyPurge => trivial
  | returnRouteExpires | clock => exact iff_of_true ⟨_, rfl⟩ trivial

theorem run_returns_iff_expected {events : List Event}
    (lawful : Along (step config) (Lawful config) World.initial events) :
    (∃ world, run (step config) World.initial events = .ok world) ↔
      Along (step config) (Expected config) World.initial events := run_returns_iff_of_invariant step_returns_iff sound_step lawful sound_initial

/-! ### A second request -/

lemma sample_roundTrip (returnRouteId) :
    RoundTrip (sampleConfig true) (sampleRouteResponse returnRouteId) := by
  refine ⟨_, _, _, rfl, ⟨[.nothing], _, _, _, rfl, ?_, ?_⟩, _, _, _, _, rfl⟩
  · simp [ExpectedService.isExit]
  · exact fun route payload => ⟨_, rfl⟩

/-- Lawful whatever the world is. -/
lemma along_lawful (lawful : ∀ event ∈ events, ∀ world, Lawful config world event) :
    Along (step config) (Lawful config) World.initial events :=
  along_mono (fun world _ lawful => lawful world) (along_of_forall lawful World.initial)

lemma sample_response_lawful (world) :
    Lawful (sampleConfig true) world (.clientResponse (sampleResponse true 5000 0 ⟨0, by decide⟩)) :=
  ⟨⟨_, _, rfl⟩, by decide⟩

theorem sample_exchange_returns :
    ∃ world, run (step (sampleConfig true)) World.initial (sampleExchange.take 5) = .ok world := by
  have lawful : ∀ event ∈ sampleExchange.take 5, ∀ world, Lawful (sampleConfig true) world event := by
    simp only [sampleExchange, take, forall_mem_cons]
    exact ⟨fun _ => trivial, fun _ => sample_roundTrip 7, fun _ => trivial, fun _ => trivial,
      sample_response_lawful, by simp⟩
  apply (run_returns_iff_expected (along_lawful lawful)).mpr
  decide +kernel

/-- The client sends its request in two pieces.  Before the second route is answered there is a response
to the first piece. -/
def requestInTwoPieces : List Event :=
  [.clientData (sampleData 5000 ⟨0, u64_zero⟩ "first piece"),
    .clientData (sampleData 5000 ⟨1, u64_one⟩ "second piece"),
    .answer 0 (.ok (some (sampleRouteResponse 7))), .deliver 1, .deliver 3,
    .clientResponse (sampleResponse true 5000 0 ⟨0, u64_zero⟩),
    .answer 0 (.ok (some (sampleRouteResponse 8))), .deliver 7]

/-- The first bytes of a handshake come alone. -/
def cutHandshake : List Event :=
  [.clientData ⟨⟨0⟩, sampleAddr 6000, some tlsPort, false, some ⟨0, u64_zero⟩, [22, 3, 1]⟩]

theorem late_route_result_panics :
    Along (step (sampleConfig true)) (Lawful (sampleConfig true)) World.initial requestInTwoPieces ∧
    run (step (sampleConfig true)) World.initial requestInTwoPieces =
      .error (.raised "AddRouteResultMessage Handler: stream key: key not found within dns_failure_retries") ∧
    Along (step (sampleConfig true)) (Lawful (sampleConfig true)) World.initial cutHandshake ∧
    run (step (sampleConfig true)) World.initial cutHandshake = .error (.raised "Internal Error: ()") := by
  have stops {events : List Event} {panic : Panic}
      (stopped : (run (step (sampleConfig true)) World.initial events >>= fun _ => pure ()) = .error panic) :
      run (step (sampleConfig true)) World.initial events = .error panic := by
    obtain first | ⟨_, _, later⟩ := bind_eq_error stopped
    · exact first
    · cases later
  refine ⟨along_lawful ?_, stops (by decide +kernel), along_lawful ?_, stops (by decide +kernel)⟩
  · simp only [requestInTwoPieces, forall_mem_cons]
    exact ⟨fun _ => trivial, fun _ => trivial, fun _ => sample_roundTrip 7, fun _ => trivial, fun _ => trivial,
      sample_response_lawful, fun _ => sample_roundTrip 8, fun _ => trivial, by simp⟩
  · simp only [cutHandshake, forall_mem_cons]
    exact ⟨fun _ => trivial, by simp⟩

end PulseMesh.ProxyServerActor
