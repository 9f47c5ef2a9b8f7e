import PulseMesh.Lib.Runs
import PulseMesh.ProxyClient.ExitService
import PulseMesh.ProxyServer.Responses

/-!
# Double entry

An originator and an exit exchange packages over a round-trip route.  Each of them reports the exit
services to its own accountant: the originator what it consumes, request by request and response by
response, the exit what it provides.  The system below holds both proxies and what is on its way
between them; requests are made, packages arrive, writes end, servers answer and return routes expire
in any order.
-/

namespace PulseMesh.Exchange

open Machine Runs SubLib Accountant ProxyServer ProxyClient List Function

/-- The route of the exchange, as the originator sees it, and the exit's own rates. -/
structure Terms where
  exitKey : PublicKey
  exitWallet : Accountant.Wallet
  ratePack : Neighborhood.RatePack
  /-- the services of the way over before the exit -/
  overServices : List ExpectedService
  over_noExit : ∀ service ∈ overServices, service.isExit = false
  /-- the services of the way back behind the exit -/
  backServices : List ExpectedService
  returnRouteId : UInt32
  payer : Address
  exit : ProxyClientConfig
  sameServiceRate : exit.exitServiceRate = ratePack.exitServiceRate
  sameByteRate : exit.exitByteRate = ratePack.exitByteRate

def Terms.exitService (terms : Terms) : ExpectedService :=
  .exit terms.exitKey terms.exitWallet terms.ratePack

structure ExchangeState where
  originator : ProxyServerState
  exit : ProxyClientState
  requests : List RequestPackage
  responses : List ResponsePackage
  consumed : List ReportServicesConsumedMessage
  provided : List ReportExitServiceProvidedMessage

inductive ExchangeEvent where
  /-- a client is found behind a stream key from now on, or none any more -/
  | client (streamKey : StreamKey) (addrOpt : Option SocketAddr)
  | request (payload : ClientRequestPayload) (routingSize : U64) (now : SystemTime)
  | requestArrives (index : Nat)
  | writeEnds (index : Nat) (outcome : WriteOutcome) (now : SystemTime)
  | serverData (msg : InboundServerData)
  | streamDies (streamKey : StreamKey) (sequenceNumber : U64)
  | mail (index : Nat) (now : SystemTime)
  | responseArrives (index : Nat) (payloadLen : U64) (now : SystemTime)
  | returnRouteExpires

def ExchangeState.start : ExchangeState where
  originator := ⟨fun _ => none, fun _ => none, fun _ => none, fun _ => none⟩
  exit := ⟨fun _ => none, fun _ => none, [], [], [], []⟩
  requests := []
  responses := []
  consumed := []
  provided := []

section

variable (terms : Terms)

def responseArrives (s : ExchangeState) (payloadLen : U64) (now : SystemTime) :
    ResponsePackage → Except Panic (ProxyServerState × Option ReportServicesConsumedMessage)
  | .clientResponse returnRouteId payload =>
    handleClientResponsePayload s.originator now returnRouteId payload payloadLen
  | .dnsResolveFailed returnRouteId payload =>
    ProxyServer.handleDnsResolveFailure s.originator now returnRouteId payload payloadLen

def step (s : ExchangeState) : ExchangeEvent → Except Panic ExchangeState
  | .client streamKey addrOpt =>
    .ok { s with originator := { s.originator with
      keysAndAddrs := update s.originator.keysAndAddrs streamKey addrOpt } }
  | .request payload routingSize now => do
    let (originator, report) ← tryTransmitToHopper s.originator now payload
      (terms.overServices ++ [terms.exitService]) (terms.exitService :: terms.backServices)
      terms.returnRouteId routingSize
    return { s with
      originator
      requests := s.requests ++ [⟨some terms.payer, terms.returnRouteId, payload⟩]
      consumed := s.consumed ++ [report] }
  | .requestArrives index =>
    match s.requests[index]? with
    | none => .ok s
    | some package =>
      .ok { s with
        exit := handleClientRequest terms.exit s.exit package
        requests := s.requests.eraseIdx index }
  | .writeEnds index outcome now =>
    match s.exit.writes[index]? with
    | none => .ok s
    | some write =>
      let (exit, reports) := writeAndTend terms.exit now
        { s.exit with writes := s.exit.writes.eraseIdx index } write outcome
      .ok { s with exit, provided := s.provided ++ reports }
  | .serverData msg =>
    .ok { s with exit := { s.exit with mailbox := s.exit.mailbox ++ [.inboundServerData msg] } }
  | .streamDies streamKey sequenceNumber =>
    .ok { s with exit := { s.exit with
      streamKiller := s.exit.streamKiller ++ [(streamKey, sequenceNumber)] } }
  | .mail index now =>
    match s.exit.mailbox[index]? with
    | none => .ok s
    | some mail => do
      let outcome ← handleMail terms.exit now
        { s.exit with mailbox := s.exit.mailbox.eraseIdx index } mail
      return { s with
        exit := outcome.state
        responses := s.responses ++ outcome.packages
        provided := s.provided ++ outcome.reports }
  | .responseArrives index payloadLen now =>
    match s.responses[index]? with
    | none => .ok s
    | some package => do
      let (originator, report) ← responseArrives s payloadLen now package
      return { s with
        originator
        responses := s.responses.eraseIdx index
        consumed := s.consumed ++ report.toList }
  | .returnRouteExpires =>
    .ok { s with originator := { s.originator with
      routeIdsToReturnRoutes :=
        update s.originator.routeIdsToReturnRoutes terms.returnRouteId none } }

end

/-! ### The books -/

def chargeOf (terms : Terms) (data : Bytes) : Int :=
  (totalCharge terms.ratePack.exitServiceRate terms.ratePack.exitByteRate (usize data.length)).val

def consumedCharge (msg : ReportServicesConsumedMessage) : Int :=
  (totalCharge msg.exit.serviceRate msg.exit.byteRate msg.exit.payloadSize).val

def providedCharge (msg : ReportExitServiceProvidedMessage) : Int :=
  (totalCharge msg.serviceRate msg.byteRate msg.payloadSize).val

/-- What the originator's accountant books as payable for exit services. -/
def exitPayable (s : ExchangeState) : Int := (s.consumed.map consumedCharge).sum

/-- What the exit's accountant books as receivable. -/
def exitReceivable (s : ExchangeState) : Int := (s.provided.map providedCharge).sum

section

variable (terms : Terms) (s : ExchangeState)

/-- The request is not even given to a stream. -/
def isIgnored (package : RequestPackage) : Bool :=
  ((doHousekeeping s.exit).streamWriterChannels package.payload.streamKey).isNone &&
    package.payload.sequencedPacket.data.isEmpty

def isBilled (write : Write) : WriteOutcome → Bool
  | .written _ => decide (0 < (usize write.payload.sequencedPacket.data.length).val)
  | _ => false

/-- What the originator books and the exit never does. -/
def onlyConsumed : ExchangeEvent → Int
  | .requestArrives index =>
    match s.requests[index]? with
    | some package =>
      if isIgnored s package then chargeOf terms package.payload.sequencedPacket.data else 0
    | none => 0
  | .writeEnds index outcome _ =>
    match s.exit.writes[index]? with
    | some write =>
      if isBilled write outcome then 0 else chargeOf terms write.payload.sequencedPacket.data
    | none => 0
  | .responseArrives index _ _ =>
    match s.responses[index]? with
    | some (.dnsResolveFailed returnRouteId payload) =>
      if (s.originator.routeIdsToReturnRoutes returnRouteId).isSome &&
          (s.originator.keysAndAddrs payload.streamKey).isSome then chargeOf terms [] else 0
    | _ => 0
  | _ => 0

/-- What the exit has booked and the originator never does. -/
def onlyProvided : ExchangeEvent → Int
  | .responseArrives index _ _ =>
    match s.responses[index]? with
    | some (.clientResponse returnRouteId payload) =>
      if (s.originator.routeIdsToReturnRoutes returnRouteId).isNone then
        chargeOf terms payload.sequencedPacket.data
      else 0
    | _ => 0
  | _ => 0

end

/-! ### What the handlers do -/

section

lemma update_eq_some {κ ν : Type} [DecidableEq κ] {entries : κ → Option ν} {changed key new value}
    (found : update entries changed new key = some value) :
    new = some value ∨ entries key = some value := by
  by_cases same : key = changed
  · subst same
    rw [update_self] at found
    exact .inl found
  · rw [update_of_ne same] at found
    exact .inr found

/-- A change that looks at the streams only. -/
structure StreamsOnly (change : ProxyClientState → ProxyClientState) : Prop where
  writes : ∀ state, (change state).writes = state.writes
  frame : ∀ state contexts, change { state with streamContexts := contexts } =
    { change state with streamContexts := contexts }

lemma StreamsOnly.foldl {α : Type} {change} (each : ∀ item, StreamsOnly (change · item))
    (items : List α) : StreamsOnly (items.foldl change) := by
  induction items with
  | nil => exact ⟨fun _ => rfl, fun _ _ => rfl⟩
  | cons item items ih =>
    refine ⟨fun state => (ih.writes _).trans ((each item).writes state), fun state contexts => ?_⟩
    rw [foldl_cons, (each item).frame, ih.frame]
    rfl

lemma streamsOnly_doHousekeeping : StreamsOnly doHousekeeping := by
  have cleaned (kill : StreamKey × U64) : StreamsOnly (cleanUpDeadStream · kill) := by
    constructor
    · intro state
      simp only [cleanUpDeadStream]
      split <;> rfl
    · intro state contexts
      simp only [cleanUpDeadStream]
      split <;> rfl
  have added (stream : StreamKey × SocketAddr) : StreamsOnly (addNewStream · stream) :=
    ⟨fun _ => rfl, fun _ _ => rfl⟩
  refine ⟨fun state => ?_, fun state contexts => ?_⟩
  · exact ((StreamsOnly.foldl added _).writes _).trans ((StreamsOnly.foldl cleaned _).writes state)
  · unfold doHousekeeping
    rw [(StreamsOnly.foldl cleaned _).frame state contexts]
    exact congrArg (fun state => { state with streamAdder := [], streamKiller := [] })
      ((StreamsOnly.foldl added _).frame _ contexts)

/-- A paid request becomes a write unless it is ignored. -/
lemma handleClientRequest_writes (config s) (paid : package.payingWallet = some wallet) :
    (handleClientRequest config s.exit package).streamContexts =
        update s.exit.streamContexts package.payload.streamKey
          (some ⟨package.returnRouteId, package.payload.originatorPublicKey, some wallet⟩) ∧
      ∃ known, (handleClientRequest config s.exit package).writes = s.exit.writes ++
          if isIgnored s package then [] else [⟨package.payload, some wallet, known⟩] := by
  have writes := streamsOnly_doHousekeeping.writes s.exit
  rw [handleClientRequest, paid, processPackage, streamsOnly_doHousekeeping.frame]
  cases channel : (doHousekeeping s.exit).streamWriterChannels package.payload.streamKey with
  | some peer => refine ⟨?_, true, ?_⟩ <;> simp [isIgnored, channel, writes]
  | none =>
    cases empty : package.payload.sequencedPacket.data.isEmpty with
    | true => refine ⟨?_, false, ?_⟩ <;> simp [isIgnored, channel, empty, writes]
    | false => refine ⟨?_, false, ?_⟩ <;> simp [isIgnored, channel, empty, writes]

lemma writeAndTend_reports (config now state outcome) (paid : write.payingWalletOpt = some wallet) :
    (writeAndTend config now state write outcome).1.streamContexts = state.streamContexts ∧
      (writeAndTend config now state write outcome).1.writes = state.writes ∧
      (writeAndTend config now state write outcome).2 =
        if isBilled write outcome then
          [⟨now, wallet, usize write.payload.sequencedPacket.data.length, config.exitServiceRate,
            config.exitByteRate⟩]
        else [] := by
  cases outcome with
  | written peer =>
    simp only [writeAndTend, established, isBilled, reportExitService, paid, decide_eq_true_iff]
    split <;> split <;> exact ⟨rfl, rfl, rfl⟩
  | notQueued peer =>
    simp only [writeAndTend, established, cleanUpBadStream, isBilled]
    split <;> exact ⟨rfl, rfl, rfl⟩
  | notEstablished =>
    simp only [writeAndTend, cleanUpBadStream, isBilled]
    split <;> exact ⟨rfl, rfl, rfl⟩

/-- What the exit has charged for a package that is on its way back. -/
def responseCharge (terms : Terms) : ResponsePackage → Int
  | .clientResponse _ payload => chargeOf terms payload.sequencedPacket.data
  | .dnsResolveFailed _ _ => 0

lemma providedCharge_eq (terms now wallet data) :
    providedCharge ⟨now, wallet, usize data.length, terms.exit.exitServiceRate,
      terms.exit.exitByteRate⟩ = chargeOf terms data := by
  rw [providedCharge, chargeOf, terms.sameServiceRate, terms.sameByteRate]

/-- What the mail makes the exit send back it charges for, but for the failed lookups. -/
lemma handleMail_charges {terms : Terms} {now} {state : ProxyClientState} {mail} {outcome : Outcome}
    (handled : handleMail terms.exit now state mail = .ok outcome)
    (paid : ∀ key context, state.streamContexts key = some context →
      context.payingWallet = some terms.payer) :
    outcome.state.writes = state.writes ∧
      (∀ key context, outcome.state.streamContexts key = some context →
        context.payingWallet = some terms.payer) ∧
      (outcome.reports.map providedCharge).sum =
        (outcome.packages.map (responseCharge terms)).sum := by
  have retired : ∀ retiredKey key context,
      update state.streamContexts retiredKey none key = some context →
        context.payingWallet = some terms.payer := by
    intro retiredKey key context found
    rcases update_eq_some found with new | old
    · cases new
    · exact paid key context old
  cases mail with
  | inboundServerData msg =>
    simp only [handleMail, handleInboundServerData, Except.ok.injEq] at handled
    split at handled
    · subst handled
      exact ⟨rfl, paid, rfl⟩
    · next streamContext found =>
      have charged := providedCharge_eq terms now terms.payer msg.data
      have wallet := paid _ _ found
      split at handled
      · split at handled
        · subst handled
          exact ⟨rfl, retired _, by simp [reportExitService, wallet, charged, responseCharge]⟩
        · subst handled
          exact ⟨rfl, paid, by simp [reportExitService, wallet, charged, responseCharge]⟩
      · subst handled
        exact ⟨rfl, paid, rfl⟩
  | dnsResolveFailed msg =>
    simp only [handleMail, ProxyClient.handleDnsResolveFailure] at handled
    split at handled
    · cases handled
      exact ⟨rfl, paid, rfl⟩
    · split at handled
      · cases handled
        exact ⟨rfl, retired _, rfl⟩
      · cases handled

/-- What the originator books for a package that comes back, whose exit service has its rates. -/
lemma responseArrives_charges (routes : ∀ id info, s.originator.routeIdsToReturnRoutes id = some info →
      info.expectedServices = terms.exitService :: terms.backServices)
    (sent : s.responses[index]? = some package)
    (arrived : responseArrives s payloadLen now package = .ok (originator, report)) :
    originator.routeIdsToReturnRoutes = s.originator.routeIdsToReturnRoutes ∧
      (report.toList.map consumedCharge).sum = responseCharge terms package +
        (onlyConsumed terms s (.responseArrives index payloadLen now) -
          onlyProvided terms s (.responseArrives index payloadLen now)) := by
  cases package with
  | clientResponse returnRouteId payload =>
    simp only [onlyConsumed, onlyProvided, sent, responseCharge]
    simp only [responseArrives, handleClientResponsePayload] at arrived
    cases found : s.originator.routeIdsToReturnRoutes returnRouteId with
    | none =>
      simp only [found] at arrived
      cases arrived
      exact ⟨rfl, by simp⟩
    | some info =>
      simp only [found, routes _ _ found, Terms.exitService, reportResponseServicesConsumed_ok, ok_bind]
        at arrived
      -- the last packet also ends the stream
      split at arrived
      all_goals
        cases arrived
        exact ⟨rfl, by simp [consumedCharge, chargeOf]⟩
  | dnsResolveFailed returnRouteId payload =>
    simp only [onlyConsumed, onlyProvided, sent, responseCharge]
    simp only [responseArrives, ProxyServer.handleDnsResolveFailure] at arrived
    cases found : s.originator.routeIdsToReturnRoutes returnRouteId with
    | none =>
      simp only [found] at arrived
      cases arrived
      exact ⟨rfl, by simp⟩
    | some info =>
      have exits : (findExitNodeKey (terms.exitService :: terms.backServices)).isNone = false := rfl
      have zero : usize 0 = ⟨0, by decide⟩ := rfl
      simp only [found, routes _ _ found, exits, Bool.false_eq_true, ↓reduceIte] at arrived
      cases client : s.originator.keysAndAddrs payload.streamKey with
      | none =>
        simp only [client] at arrived
        cases arrived
        exact ⟨rfl, by simp⟩
      | some addr =>
        simp only [client, Terms.exitService, reportResponseServicesConsumed_ok, ok_bind] at arrived
        split at arrived
        · cases arrived
          exact ⟨rfl, by simp [consumedCharge, chargeOf, zero]⟩
        · split at arrived
          all_goals
            cases arrived
            exact ⟨rfl, by simp [consumedCharge, chargeOf, zero]⟩

end

/-! ### One step of the exchange -/

section

variable {terms : Terms} {s next : ExchangeState}

/-- Everything is paid for by the payer of the exchange, and its routes lead over the exit. -/
structure Agreed (terms : Terms) (s : ExchangeState) : Prop where
  requests : ∀ package ∈ s.requests, package.payingWallet = some terms.payer
  writes : ∀ write ∈ s.exit.writes, write.payingWalletOpt = some terms.payer
  contexts : ∀ key context, s.exit.streamContexts key = some context →
    context.payingWallet = some terms.payer
  routes : ∀ id info, s.originator.routeIdsToReturnRoutes id = some info →
    info.expectedServices = terms.exitService :: terms.backServices

/-- The difference of the books, but for what is still on its way. -/
def balance (terms : Terms) (s : ExchangeState) : Int :=
  exitPayable s - exitReceivable s -
    (s.requests.map fun package => chargeOf terms package.payload.sequencedPacket.data).sum -
    (s.exit.writes.map fun write => chargeOf terms write.payload.sequencedPacket.data).sum +
    (s.responses.map (responseCharge terms)).sum

/-- The step keeps to the agreement and moves the balance by the charges of one side only. -/
def Balanced (terms : Terms) (s : ExchangeState) (event : ExchangeEvent) (next : ExchangeState) : Prop :=
  Agreed terms next ∧
    balance terms next = balance terms s + (onlyConsumed terms s event - onlyProvided terms s event)

section

variable (agreed : Agreed terms s)
include agreed

lemma balanced_request {payload : ClientRequestPayload} {routingSize}
    (stepped : step terms s (.request payload routingSize now) = .ok next) :
    Balanced terms s (.request payload routingSize now) next := by
  have reported : reportRequestServicesConsumed now (terms.overServices ++ [terms.exitService])
      (usize payload.sequencedPacket.data.length) routingSize =
      .ok ⟨now, ⟨terms.exitWallet, usize payload.sequencedPacket.data.length,
        terms.ratePack.exitServiceRate, terms.ratePack.exitByteRate⟩, routingSize,
        reportOnRoutingServices (terms.overServices ++ [terms.exitService])⟩ := by
    rw [reportRequestServicesConsumed, Terms.exitService, reportOnExitService_ok terms.over_noExit]
    rfl
  simp only [step, tryTransmitToHopper, reported, ok_bind, pure_eq_ok, Except.ok.injEq] at stepped
  subst stepped
  refine ⟨⟨?_, agreed.writes, agreed.contexts, ?_⟩, ?_⟩
  · refine forall_mem_append.mpr ⟨agreed.requests, ?_⟩
    simp
  · intro id info found
    rcases update_eq_some found with new | old
    · cases new
      rfl
    · exact agreed.routes id info old
  · simp only [balance, onlyConsumed, onlyProvided, exitPayable, exitReceivable, map_append,
      sum_append, map_cons, map_nil, sum_cons, sum_nil, chargeOf,
      consumedCharge]
    omega

lemma balanced_requestArrives (stepped : step terms s (.requestArrives index) = .ok next) :
    Balanced terms s (.requestArrives index) next := by
  simp only [step] at stepped
  split at stepped
  next missing =>
    cases stepped
    exact ⟨agreed, by simp [onlyConsumed, onlyProvided, missing]⟩
  next package found =>
    cases stepped
    have paid := agreed.requests package (mem_of_getElem? found)
    obtain ⟨contexts, known, writes⟩ := handleClientRequest_writes terms.exit s paid
    refine ⟨⟨?_, ?_, ?_, agreed.routes⟩, ?_⟩
    · exact fun other member => agreed.requests other (mem_of_mem_eraseIdx member)
    · intro write member
      rw [writes] at member
      rcases mem_append.mp member with old | new
      · exact agreed.writes write old
      · split at new
        · cases new
        · rw [mem_singleton.mp new]
    · intro key context isContext
      rw [contexts] at isContext
      rcases update_eq_some isContext with new | old
      · cases new
        rfl
      · exact agreed.contexts key context old
    · have erased := Rows.sum_map_eraseIdx (fun package : RequestPackage =>
        chargeOf terms package.payload.sequencedPacket.data) found
      simp only [balance, onlyConsumed, onlyProvided, found, writes, exitPayable, exitReceivable,
        map_append, sum_append]
      cases isIgnored s package with
      | true =>
        simp only [↓reduceIte, map_nil, sum_nil]
        omega
      | false =>
        simp only [Bool.false_eq_true, ↓reduceIte, map_cons, map_nil, sum_cons,
          sum_nil]
        omega

lemma balanced_writeEnds (stepped : step terms s (.writeEnds index outcome now) = .ok next) :
    Balanced terms s (.writeEnds index outcome now) next := by
  simp only [step] at stepped
  split at stepped
  next missing =>
    cases stepped
    exact ⟨agreed, by simp [onlyConsumed, onlyProvided, missing]⟩
  next write found =>
    cases stepped
    have paid := agreed.writes write (mem_of_getElem? found)
    obtain ⟨contexts, writes, reports⟩ := writeAndTend_reports terms.exit now
      { s.exit with writes := s.exit.writes.eraseIdx index } outcome paid
    refine ⟨⟨agreed.requests, ?_, ?_, agreed.routes⟩, ?_⟩
    · intro other member
      rw [writes] at member
      exact agreed.writes other (mem_of_mem_eraseIdx member)
    · intro key context isContext
      rw [contexts] at isContext
      exact agreed.contexts key context isContext
    · have erased := Rows.sum_map_eraseIdx (fun write : Write =>
        chargeOf terms write.payload.sequencedPacket.data) found
      simp only [balance, onlyConsumed, onlyProvided, found, writes, reports, exitPayable,
        exitReceivable, map_append, sum_append]
      cases isBilled write outcome with
      | true =>
        simp only [↓reduceIte, map_cons, map_nil, sum_cons, sum_nil,
          providedCharge_eq]
        omega
      | false =>
        simp only [Bool.false_eq_true, ↓reduceIte, map_nil, sum_nil]
        omega

lemma balanced_mail (stepped : step terms s (.mail index now) = .ok next) :
    Balanced terms s (.mail index now) next := by
  simp only [step] at stepped
  split at stepped
  · cases stepped
    exact ⟨agreed, by simp [onlyConsumed, onlyProvided]⟩
  next mail _ =>
    obtain ⟨outcome, handled, ⟨⟩⟩ := ok_of_bind stepped
    obtain ⟨writes, contexts, charges⟩ := handleMail_charges handled agreed.contexts
    refine ⟨⟨agreed.requests, ?_, contexts, agreed.routes⟩, ?_⟩
    · intro write member
      rw [writes] at member
      exact agreed.writes write member
    · simp only [balance, onlyConsumed, onlyProvided, writes, exitPayable, exitReceivable,
        map_append, sum_append, charges]
      omega

lemma balanced_responseArrives (stepped : step terms s (.responseArrives index payloadLen now) = .ok next) :
    Balanced terms s (.responseArrives index payloadLen now) next := by
  simp only [step] at stepped
  split at stepped
  next missing =>
    cases stepped
    exact ⟨agreed, by simp [onlyConsumed, onlyProvided, missing]⟩
  next package found =>
    obtain ⟨⟨originator, report⟩, arrived, ⟨⟩⟩ := ok_of_bind stepped
    obtain ⟨routes, charges⟩ := responseArrives_charges agreed.routes found arrived
    refine ⟨{ agreed with routes := ?_ }, ?_⟩
    · intro id info isRoute
      rw [routes] at isRoute
      exact agreed.routes id info isRoute
    · have erased := Rows.sum_map_eraseIdx (responseCharge terms) found
      simp only [balance, exitPayable, exitReceivable, map_append, sum_append, charges]
      omega

end

lemma step_balanced (event) (agreed : Agreed terms s) (stepped : step terms s event = .ok next) :
    Balanced terms s event next := by
  cases event with
  | request payload routingSize now => exact balanced_request agreed stepped
  | requestArrives index => exact balanced_requestArrives agreed stepped
  | writeEnds index outcome now => exact balanced_writeEnds agreed stepped
  | mail index now => exact balanced_mail agreed stepped
  | responseArrives index payloadLen now => exact balanced_responseArrives agreed stepped
  | returnRouteExpires =>
    cases stepped
    refine ⟨{ agreed with routes := ?_ },
      by simp [balance, onlyConsumed, onlyProvided, exitPayable, exitReceivable]⟩
    intro id info found
    rcases update_eq_some found with new | old
    · cases new
    · exact agreed.routes id info old
  | client | serverData | streamDies =>
    cases stepped
    exact ⟨{ agreed with }, by simp [balance, onlyConsumed, onlyProvided, exitPayable, exitReceivable]⟩

/-! ### Whole exchanges -/

lemma agreed_start : Agreed terms .start :=
  ⟨by simp [ExchangeState.start], by simp [ExchangeState.start], by simp [ExchangeState.start],
    by simp [ExchangeState.start]⟩

/-- Everything that was sent has arrived, and every write has ended. -/
structure Delivered (s : ExchangeState) : Prop where
  requests : s.requests = []
  writes : s.exit.writes = []
  responses : s.responses = []

end

def sampleTerms : Terms where
  exitKey := ⟨[3]⟩
  exitWallet := ⟨7⟩
  ratePack := ⟨⟨1, u64_one⟩, ⟨2, u64_two⟩, ⟨3, u64_three⟩, ⟨100, u64_hundred⟩⟩
  overServices := [.nothing]
  over_noExit := by decide
  backServices := [.nothing]
  returnRouteId := 5
  payer := 9
  exit := ⟨⟨100, u64_hundred⟩, ⟨3, u64_three⟩, true, fun _ => false, fun _ => true⟩
  sameServiceRate := rfl
  sameByteRate := rfl

def sampleRequest (data : Bytes) (lastData : Bool) : ExchangeEvent :=
  .request ⟨⟨1⟩, ⟨data, ⟨0, u64_zero⟩, lastData⟩, some "example.com", 80, .http, ⟨[1]⟩⟩ ⟨20, by decide⟩ ⟨0⟩

/-- Two bytes are requested and written, and the server answers with three bytes and closes. -/
def sampleExchange : List ExchangeEvent :=
  [sampleRequest [1, 2] false, .requestArrives 0, .writeEnds 0 (.written ⟨.v4 1, 80⟩) ⟨0⟩,
    .serverData ⟨⟨1⟩, true, ⟨0, u64_zero⟩, ⟨.v4 1, 80⟩, [7, 8, 9]⟩, .mail 0 ⟨0⟩,
    .responseArrives 0 ⟨20, by decide⟩ ⟨0⟩]

end PulseMesh.Exchange
