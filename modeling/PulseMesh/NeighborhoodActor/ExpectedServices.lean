import PulseMesh.Gossip.IpIndex
import PulseMesh.Neighborhood.BestRoute
import PulseMesh.NeighborhoodActor.RouteQueries
import PulseMesh.ProxyServer.Responses

/-!
# A route and its expected services

The services that the proxy server pays for are listed apart from the route, and it finds the exit by
its place in the list.  Because the routes are simple paths with at least one hop, the two lists agree:
the exit is where the package is delivered, once in each list.
-/

namespace PulseMesh.NeighborhoodActor

open Machine SubLib Gossip ProxyServer Rows List NeighborhoodDatabase
open Neighborhood (SetOrder RouteDirection RouteQuery SimplePath findBestRouteSegment)

variable {env : ActorEnvironment} {orders : RouteDirection → SetOrder}
  {state state' : RouteQueryState} {db : NeighborhoodDatabase} {root : NodeRecord}
  {key exitKey own : PublicKey} {request : RouteQueryMessage} {response : RouteQueryResponse}

/-! ### The services of a segment -/

/-- A service with the Node's own key, in the words of its record. -/
def IsRouting (db : NeighborhoodDatabase) (key : PublicKey) (service : ExpectedService) : Prop :=
  ∃ node, db.nodeByKey key = some node ∧
    service = .routing key node.inner.earningWallet node.inner.ratePack

variable {services : List ExpectedService}

lemma collectServices_eq_ok {service keys} (collected : collectServices service keys = .ok (.ok services)) :
    Forall₂ (fun key expected => service key = .ok (.ok expected)) keys services := by
  induction keys generalizing services with
  | nil =>
    cases collected
    exact .nil
  | cons key keys ih =>
    obtain ⟨expectedOrError, serves, collected⟩ := ok_of_bind collected
    split at collected
    · cases collected
    · obtain ⟨othersOrError, servesOthers, collected⟩ := ok_of_bind collected
      split at collected
      · cases collected
      · cases collected
        exact .cons serves (ih servesOthers)

lemma calculateExpectedService_eq_ok (rooted : db.HasRoot root)
    (calculated : calculateExpectedService db (some originatorKey) (some lastKey) key =
      .ok (.ok service)) :
    ∃ node, db.nodeByKey key = some node ∧ service =
      if key = root.publicKey then .nothing
      else if key = originatorKey ∨ key = lastKey then
        .exit key node.inner.earningWallet node.inner.ratePack
      else .routing key node.inner.earningWallet node.inner.ratePack := by
  unfold calculateExpectedService at calculated
  split at calculated
  · cases calculated
  next node found =>
    refine ⟨node, found, ?_⟩
    rw [root_eq_ok.mpr rooted, ok_bind] at calculated
    by_cases own : key = root.publicKey
    · rw [if_pos own] at calculated ⊢
      cases calculated
      rfl
    · rw [if_neg own] at calculated ⊢
      dsimp only at calculated
      by_cases ends : key = originatorKey ∨ key = lastKey
      · rw [if_pos ends] at calculated ⊢
        cases calculated
        rfl
      · rw [if_neg ends] at calculated ⊢
        cases calculated
        rfl

lemma known_of_makeExpectedServices {segment} (made : makeExpectedServices db segment = .ok (.ok services)) :
    ∀ key ∈ segment.keys, ∃ node, db.nodeByKey key = some node := by
  intro key listed
  obtain ⟨service, -, calculated⟩ := forall₂_mem_left (collectServices_eq_ok made) listed
  unfold calculateExpectedService at calculated
  split at calculated
  · cases calculated
  next node found => exact ⟨node, found⟩

variable {middle : List PublicKey}

/-- The services of the Nodes between the two ends of a segment. -/
lemma forall₂_isRouting (rooted : db.HasRoot root)
    (between : ∀ key ∈ middle, key ≠ root.publicKey ∧ key ≠ originatorKey ∧ key ≠ lastKey)
    (calculated : Forall₂ (fun key service =>
      calculateExpectedService db (some originatorKey) (some lastKey) key = .ok (.ok service))
        middle services) : Forall₂ (IsRouting db) middle services := by
  induction calculated with
  | nil => exact .nil
  | cons serves _ ih =>
    rw [forall_mem_cons] at between
    obtain ⟨⟨foreign, notFirst, notLast⟩, others⟩ := between
    obtain ⟨node, found, rfl⟩ := calculateExpectedService_eq_ok rooted serves
    rw [if_neg foreign, if_neg (not_or.mpr ⟨notFirst, notLast⟩)]
    exact .cons ⟨node, found, rfl⟩ (ih others)

section

variable {segment : RouteSegment} {services : List ExpectedService} {exitNode : NodeRecord}

/-- The services of a segment with the Node itself at one of its ends. -/
lemma services_between (rooted : db.HasRoot root) (keys : segment.keys = firstKey :: middle ++ [lastKey])
    (simple : segment.keys.Nodup) (own : root.publicKey = firstKey ∨ root.publicKey = lastKey)
    (made : makeExpectedServices db segment = .ok (.ok services)) :
    ∃ firstService routing lastService, services = firstService :: routing ++ [lastService] ∧
      Forall₂ (IsRouting db) middle routing ∧
      calculateExpectedService db (some firstKey) (some lastKey) firstKey = .ok (.ok firstService) ∧
      calculateExpectedService db (some firstKey) (some lastKey) lastKey = .ok (.ok lastService) := by
  have last : segment.keys.getLast? = some lastKey := by rw [keys, getLast?_concat]
  rw [makeExpectedServices, last, keys] at made
  rw [keys, cons_append, nodup_cons, nodup_append] at simple
  obtain ⟨front, back, rfl, serveFront, serveBack⟩ := forall₂_append_left (collectServices_eq_ok made)
  cases serveFront with
  | cons servesFirst servesMiddle =>
    cases serveBack with
    | cons servesLast none_ =>
      cases none_
      refine ⟨_, _, _, rfl, forall₂_isRouting rooted ?_ servesMiddle, servesFirst, servesLast⟩
      -- nothing on the way is an end of it, so it is not the Node itself either
      intro key between
      have notFirst : key ≠ firstKey := fun same =>
        simple.1 (mem_append_left _ (same ▸ between))
      have notLast : key ≠ lastKey := simple.2.2.2 key between lastKey (.head _)
      refine ⟨?_, notFirst, notLast⟩
      rcases own with own | own
      · rwa [own]
      · rwa [own]

lemma ends_differ (keys : segment.keys = firstKey :: middle ++ [lastKey]) (simple : segment.keys.Nodup) :
    firstKey ≠ lastKey := by
  rw [keys, cons_append, nodup_cons] at simple
  rintro rfl
  exact simple.1 (mem_append_right _ (.head _))

section

variable (rooted : db.HasRoot root) (found : db.nodeByKey exitKey = some exitNode)
  (simple : segment.keys.Nodup) (made : makeExpectedServices db segment = .ok (.ok services))
include rooted found simple made

lemma services_over (keys : segment.keys = root.publicKey :: middle ++ [exitKey]) :
    ∃ routing, Forall₂ (IsRouting db) middle routing ∧ services = .nothing :: routing ++
      [.exit exitKey exitNode.inner.earningWallet exitNode.inner.ratePack] := by
  obtain ⟨_, routing, _, rfl, serves, servesOwn, servesExit⟩ :=
    services_between rooted keys simple (.inl rfl) made
  obtain ⟨-, -, rfl⟩ := calculateExpectedService_eq_ok rooted servesOwn
  obtain ⟨node, found', rfl⟩ := calculateExpectedService_eq_ok rooted servesExit
  cases found.symm.trans found'
  exact ⟨routing, serves, by simp [(ends_differ keys simple).symm]⟩

lemma services_back (keys : segment.keys = exitKey :: middle ++ [root.publicKey]) :
    ∃ routing, Forall₂ (IsRouting db) middle routing ∧
      services = .exit exitKey exitNode.inner.earningWallet exitNode.inner.ratePack :: routing ++
        [.nothing] := by
  obtain ⟨_, routing, _, rfl, serves, servesExit, servesOwn⟩ :=
    services_between rooted keys simple (.inr rfl) made
  obtain ⟨-, -, rfl⟩ := calculateExpectedService_eq_ok rooted servesOwn
  obtain ⟨node, found', rfl⟩ := calculateExpectedService_eq_ok rooted servesExit
  cases found.symm.trans found'
  exact ⟨routing, serves, by simp [ends_differ keys simple]⟩

end

end

/-! ### The segments of an answer -/

/-- A segment between two different Nodes that nothing on the way repeats. -/
structure SegmentBetween (origin target : PublicKey) (segment : RouteSegment) (middle : List PublicKey) :
    Prop where
  keys : segment.keys = origin :: middle ++ [target]
  simple : segment.keys.Nodup

lemma makeRouteSegment_eq_ok {origin targetOpt hopCount component payloadSize direction hostnameOpt segment}
    (positive : 1 ≤ hopCount)
    (made : makeRouteSegment env orders state origin targetOpt hopCount component payloadSize direction
      hostnameOpt = .ok (.ok segment)) :
    segment.recipient = component ∧ ∃ middle target, SegmentBetween origin target segment middle ∧
      ∀ wanted ∈ targetOpt, target = wanted := by
  obtain ⟨pathOpt, found, made⟩ := ok_of_bind made
  split at made
  · cases made
  next path =>
    cases made
    let query : RouteQuery := ⟨origin, targetOpt, hopCount, payloadSize, direction, hostnameOpt⟩
    have sound : SimplePath (routeHood state) query path ∧ query.minimumHops ≤ Neighborhood.hops path ∧
        ∀ last ∈ path.getLast?, Neighborhood.EndQualifies (routeHood state) query path last :=
      Neighborhood.findBestRouteSegment_sound found
    obtain ⟨⟨starts, simple, -⟩, long, ends⟩ := sound
    have several : 2 ≤ path.length := by
      have : hopCount ≤ path.length - 1 := long
      omega
    obtain ⟨middle, target, rfl⟩ : ∃ middle target, path = origin :: middle ++ [target] := by
      match path, starts, several with
      | _ :: second :: rest, rfl, _ =>
        refine ⟨(second :: rest).dropLast, (second :: rest).getLast (by simp), ?_⟩
        rw [cons_append, dropLast_append_getLast]
    refine ⟨rfl, middle, target, ⟨rfl, simple⟩, fun wanted isWanted => ?_⟩
    exact (ends target (getLast?_concat ..)).target wanted isWanted

variable {overLeg back : RouteSegment}

lemma composeRouteQueryResponse_eq_ok
    (composed : composeRouteQueryResponse env state overLeg back = .ok (.ok response, state')) :
    makeExpectedServices state.neighborhoodDatabase overLeg = .ok (.ok response.overServices) ∧
      makeExpectedServices state.neighborhoodDatabase back = .ok (.ok response.backServices) ∧
      roundTrip env.keccak256 env.hopCodec env.idCodec state.consumingWalletOpt (some env.contract) overLeg
        back env.cryptde.toCryptDE response.returnRouteId = .ok (.ok response.route) := by
  unfold composeRouteQueryResponse at composed
  split at composed
  · cases composed
  · split at composed
    · cases composed
    · obtain ⟨overOrError, overMade, composed⟩ := ok_of_bind composed
      split at composed
      · cases composed
      · obtain ⟨backOrError, backMade, composed⟩ := ok_of_bind composed
        split at composed
        · cases composed
        · obtain ⟨routeOrError, built, composed⟩ := ok_of_bind composed
          split at composed
          · cases composed
          · cases composed
            exact ⟨overMade, backMade, built⟩

/-- The two segments that an answer is composed of. -/
structure AnswersWith (env : ActorEnvironment) (state : RouteQueryState) (request : RouteQueryMessage)
    (response : RouteQueryResponse) (overLeg back : RouteSegment) (exitKey : PublicKey)
    (overMiddle backMiddle : List PublicKey) : Prop where
  overBetween : SegmentBetween env.cryptde.publicKey exitKey overLeg overMiddle
  backBetween : SegmentBetween exitKey env.cryptde.publicKey back backMiddle
  recipients : overLeg.recipient = request.targetComponent ∧ request.returnComponentOpt = some back.recipient
  overServices : makeExpectedServices state.neighborhoodDatabase overLeg = .ok (.ok response.overServices)
  backServices : makeExpectedServices state.neighborhoodDatabase back = .ok (.ok response.backServices)
  route : roundTrip env.keccak256 env.hopCodec env.idCodec state.consumingWalletOpt (some env.contract)
    overLeg back env.cryptde.toCryptDE response.returnRouteId = .ok (.ok response.route)

lemma Hops.toNat_pos (minHops : Hops) : 1 ≤ minHops.toNat := by
  cases minHops <;> decide

lemma makeRoundTripRoute_eq_ok
    (made : makeRoundTripRoute env orders state request = .ok (.ok response, state')) :
    ∃ overLeg back exitKey overMiddle backMiddle,
      AnswersWith env state request response overLeg back exitKey overMiddle backMiddle ∧
      makeRouteSegment env orders state env.cryptde.publicKey request.targetKeyOpt state.minHops.toNat
        request.targetComponent request.payloadSize .over request.hostnameOpt = .ok (.ok overLeg) := by
  obtain ⟨overOrError, overMade, made⟩ := ok_of_bind made
  split at made
  · cases made
  next overLeg =>
    obtain ⟨overRecipient, overMiddle, exitKey, overBetween, -⟩ :=
      makeRouteSegment_eq_ok (Hops.toNat_pos _) overMade
    have last : overLeg.keys.getLast? = some exitKey := by rw [overBetween.keys, getLast?_concat]
    obtain ⟨payloadLen, -, made⟩ := ok_of_bind made
    rw [last] at made
    cases returns : request.returnComponentOpt with
    | none =>
      rw [returns] at made
      cases made
    | some returnComponent =>
      rw [returns] at made
      obtain ⟨backOrError, backMade, made⟩ := ok_of_bind made
      split at made
      · cases made
      next back =>
        obtain ⟨backRecipient, backMiddle, target, backBetween, isTarget⟩ :=
          makeRouteSegment_eq_ok (Hops.toNat_pos _) backMade
        cases isTarget _ rfl
        obtain ⟨overServices, backServices, route⟩ := composeRouteQueryResponse_eq_ok made
        exact ⟨overLeg, back, exitKey, overMiddle, backMiddle, ⟨overBetween, backBetween,
          ⟨overRecipient, backRecipient ▸ returns⟩, overServices, backServices, route⟩, overMade⟩

/-- A Node that is not alone answers with the two segments. -/
lemma handleRouteQueryMessage_eq_ok (decentralized : env.mode ≠ .zeroHop)
    (answered : handleRouteQueryMessage env orders state request = .ok (some response, state')) :
    makeRoundTripRoute env orders state request = .ok (.ok response, state') := by
  rw [handleRouteQueryMessage, if_neg decentralized] at answered
  obtain ⟨⟨responseOrError, next⟩, made, answered⟩ := ok_of_bind answered
  split at answered
  next made' =>
    cases answered
    cases made'
    exact made
  · cases answered

/-! ### Delivery -/

/-- The hop that the exit takes off is for the component that the request asks for. -/
structure DeliversAt (env : ActorEnvironment) (state : RouteQueryState) (request : RouteQueryMessage)
    (route : Route) (overLeg back : RouteSegment) (exitKey : PublicKey) (hops : List LiveHop) : Prop where
  hopsOf : HopsOf env.keccak256 state.consumingWalletOpt (some env.contract) overLeg back hops
  encoded : ∃ hopsEnc idEnc, encodeHops env.hopCodec env.cryptde.toCryptDE env.cryptde.publicKey hops =
    .ok hopsEnc ∧ route = ⟨hopsEnc ++ [idEnc]⟩
  key : (visitedKeys overLeg back)[overLeg.keys.length - 1]? = some exitKey
  component : (hops.map LiveHop.component)[overLeg.keys.length - 1]? = some request.targetComponent

lemma AnswersWith.delivers
    (answers : AnswersWith env state request response overLeg back exitKey overMiddle backMiddle) :
    ∃ hops, DeliversAt env state request response.route overLeg back exitKey hops := by
  obtain ⟨meets, overHops, hops, hopsEnc, idEnc, overMade, backMade, encoded, -, route⟩ :=
    roundTrip_eq_ok answers.route
  have overLong : 2 ≤ overLeg.keys.length := by simp [answers.overBetween.keys]
  have backLong : 2 ≤ back.keys.length := by simp [answers.backBetween.keys]
  have hopsOf := hopsOf_segments overLong backLong meets overMade backMade
  have first : overLeg.keys.headD emptyKey = env.cryptde.publicKey := by simp [answers.overBetween.keys]
  refine ⟨hops, hopsOf, ⟨hopsEnc, idEnc, first ▸ encoded, route⟩, ?_, ?_⟩
  · rw [visitedKeys, getElem?_append_right (by simp), length_dropLast, Nat.sub_self, answers.backBetween.keys]
    rfl
  · rw [hopsOf.components, append_assoc, append_assoc, getElem?_append_right (by simp),
      length_replicate, Nat.sub_self, ← answers.recipients.1]
    rfl

/-! ### Processing in the proxy server -/

/-- The proxy server can account for a request over the route and for whatever comes back. -/
structure Processable (response : RouteQueryResponse) : Prop where
  requests : ∀ proxy timestamp payload routingSize, ∃ result, tryTransmitToHopper proxy timestamp payload
    response.overServices response.backServices response.returnRouteId routingSize = .ok result
  responses : ∀ (proxy : ProxyServerState) returnRouteInfo,
    proxy.routeIdsToReturnRoutes response.returnRouteId = some returnRouteInfo →
    returnRouteInfo.expectedServices = response.backServices → ∀ now payload payloadLen, ∃ result,
      handleClientResponsePayload proxy now response.returnRouteId payload payloadLen = .ok result
  failures : ∀ (proxy : ProxyServerState) returnRouteInfo,
    proxy.routeIdsToReturnRoutes response.returnRouteId = some returnRouteInfo →
    returnRouteInfo.expectedServices = response.backServices → ∀ now failure payloadLen, ∃ result,
      handleDnsResolveFailure proxy now response.returnRouteId failure payloadLen = .ok result

lemma isExit_of_isRouting (routes : Forall₂ (IsRouting db) middle routing) :
    ∀ service ∈ routing, service.isExit = false := by
  intro service listed
  obtain ⟨key, -, node, -, rfl⟩ := forall₂_mem_right routes listed
  rfl

lemma processable_of_shapes (routes : Forall₂ (IsRouting db) middle overRouting)
    (overPaid : response.overServices = .nothing :: overRouting ++ [.exit exitKey wallet ratePack])
    (backPaid : response.backServices = .exit exitKey wallet ratePack :: backRest) :
    Processable response where
  requests proxy timestamp payload routingSize := by
    have noExit : ∀ service ∈ ExpectedService.nothing :: overRouting, service.isExit = false :=
      forall_mem_cons.mpr ⟨rfl, isExit_of_isRouting routes⟩
    rw [tryTransmitToHopper, reportRequestServicesConsumed, overPaid, reportOnExitService_ok noExit]
    exact ⟨_, rfl⟩
  responses proxy returnRouteInfo expects services now payload payloadLen := by
    rw [handleClientResponsePayload, expects]
    dsimp only
    rw [services, backPaid, reportResponseServicesConsumed_ok]
    split <;> exact ⟨_, rfl⟩
  failures proxy returnRouteInfo expects services now failure payloadLen := by
    rw [handleDnsResolveFailure, expects]
    dsimp only
    rw [services, backPaid, if_neg (by simp [findExitNodeKey])]
    split
    · exact ⟨_, rfl⟩
    · rw [reportResponseServicesConsumed_ok]
      split
      · exact ⟨_, rfl⟩
      · split <;> exact ⟨_, rfl⟩

/-! ### Agreement -/

/-- What the two lists of services say, Node by Node. -/
structure ServicesAgree (env : ActorEnvironment) (state : RouteQueryState) (request : RouteQueryMessage)
    (response : RouteQueryResponse) (overLeg back : RouteSegment) (exitKey : PublicKey) : Prop where
  services : ∃ overMiddle backMiddle overRouting backRouting wallet ratePack,
    overLeg.keys = env.cryptde.publicKey :: overMiddle ++ [exitKey] ∧
    response.overServices = .nothing :: overRouting ++ [.exit exitKey wallet ratePack] ∧
    List.Forall₂ (IsRouting state.neighborhoodDatabase) overMiddle overRouting ∧
    back.keys = exitKey :: backMiddle ++ [env.cryptde.publicKey] ∧
    response.backServices = .exit exitKey wallet ratePack :: backRouting ++ [.nothing] ∧
    List.Forall₂ (IsRouting state.neighborhoodDatabase) backMiddle backRouting
  simple : overLeg.keys.Nodup ∧ back.keys.Nodup
  delivered : ∃ hops, DeliversAt env state request response.route overLeg back exitKey hops
  processable : Processable response

lemma AnswersWith.servicesAgree (well : state.neighborhoodDatabase.WellIndexed)
    (own : state.neighborhoodDatabase.thisNode = env.cryptde.publicKey)
    (answers : AnswersWith env state request response overLeg back exitKey overMiddle backMiddle) :
    ServicesAgree env state request response overLeg back exitKey := by
  have known := known_of_makeExpectedServices answers.overServices
  obtain ⟨root, rooted⟩ := known env.cryptde.publicKey (by simp [answers.overBetween.keys])
  obtain ⟨exitNode, found⟩ := known exitKey (by simp [answers.overBetween.keys])
  have keyed := well.keyed _ _ rooted
  rw [← own] at rooted
  obtain ⟨overRouting, overRoutes, over_eq⟩ := services_over rooted found
    answers.overBetween.simple answers.overServices (keyed ▸ answers.overBetween.keys)
  obtain ⟨backRouting, backRoutes, back_eq⟩ := services_back rooted found
    answers.backBetween.simple answers.backServices (keyed ▸ answers.backBetween.keys)
  refine ⟨⟨overMiddle, backMiddle, overRouting, backRouting, _, _, answers.overBetween.keys, over_eq,
    overRoutes, answers.backBetween.keys, back_eq, backRoutes⟩, ?_, answers.delivers, ?_⟩
  · exact ⟨answers.overBetween.simple, answers.backBetween.simple⟩
  · exact processable_of_shapes overRoutes over_eq back_eq

theorem expected_services_agree (well : state.neighborhoodDatabase.WellIndexed)
    (own : state.neighborhoodDatabase.thisNode = env.cryptde.publicKey)
    (decentralized : env.mode ≠ .zeroHop)
    (answered : handleRouteQueryMessage env orders state request = .ok (some response, state')) :
    ∃ overLeg back exitKey, ServicesAgree env state request response overLeg back exitKey := by
  obtain ⟨overLeg, back, exitKey, _, _, answers, -⟩ :=
    makeRoundTripRoute_eq_ok (handleRouteQueryMessage_eq_ok decentralized answered)
  exact ⟨overLeg, back, exitKey, answers.servicesAgree well own⟩

/-! ### A route over three Nodes -/

def sampleNode (label : UInt8) (neighbors : List UInt8) : NodeRecord :=
  ⟨sampleInner label ⟨0, u32_zero⟩ neighbors, .new sampleNow, ⟨[]⟩, ⟨[]⟩⟩

def sampleNeighborhood : NeighborhoodDatabase :=
  addArbitraryNode (addArbitraryNode
    (addArbitraryNode ⟨sampleKey 1, ∅, ∅⟩ (sampleNode 1 [2])) (sampleNode 2 [1, 3]))
      (sampleNode 3 [2])

lemma wellIndexed_sampleNeighborhood : sampleNeighborhood.WellIndexed :=
  (((wellIndexed_empty _).addArbitraryNode rfl).addArbitraryNode
    (by decide)).addArbitraryNode (by decide)

def sampleActorEnvironment : ActorEnvironment :=
  { sampleEnvironment [] with
    keccak256 := id, hopCodec := tableCodec sampleHops, idCodec := tableCodec [0], contract := 0,
    mode := .standard }

def sampleQueryState : RouteQueryState :=
  ⟨sampleNeighborhood, ⟨⟨[], .nothing, []⟩, none⟩, some sampleWallet, .twoHops, 0⟩

def sampleRequest : RouteQueryMessage := ⟨none, .proxyClient, some .proxyServer, ⟨1000, u64_thousand⟩, none⟩

theorem sample_services_agree : ∃ response state',
    handleRouteQueryMessage sampleActorEnvironment (fun _ => Neighborhood.listedOrder) sampleQueryState
      sampleRequest = .ok (some response, state') ∧
    ∃ overLeg back exitKey,
      ServicesAgree sampleActorEnvironment sampleQueryState sampleRequest response overLeg back exitKey := by
  refine ⟨_, _, rfl, ?_⟩
  exact @expected_services_agree sampleActorEnvironment (fun _ => Neighborhood.listedOrder)
    sampleQueryState _ sampleRequest _ wellIndexed_sampleNeighborhood rfl (by decide) rfl

end PulseMesh.NeighborhoodActor
