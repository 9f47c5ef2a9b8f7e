import PulseMesh.Gossip.Totality
import PulseMesh.NeighborhoodActor.ExpectedServices

/-!
# Route queries that are always answered

A route query comes back with a route or with the reason why there is none.  In a released build the
sums of the route search wrap, the search visits no Node twice and so comes to its end, and the keys on
the routes it finds are those of the database.  If hops can be encrypted for these keys and the wallet
can sign, then the route can be made.
-/

namespace PulseMesh.Neighborhood

open Machine SubLib List

/-! ### The search -/

section

variable {p : Profile} {hood : NeighborhoodState} {path : List PublicKey}

/-- The path can be extended with Nodes of the database that it has not visited. -/
lemma known_of_mem_nextNodes (next : record ∈ nextNodes hood order query path lastNode) :
    hood.neighborhoodDatabase.nodeByKey record.publicKey = some record ∧ record.publicKey ∉ path := by
  obtain ⟨unvisited, -⟩ := mem_filter.mp next
  obtain ⟨neighbor, fresh⟩ := mem_filter.mp unvisited
  exact ⟨((mem_fullNeighbors (order.perm path)).mp neighbor).1, of_decide_eq_true fresh⟩

lemma flatMapNeighbors_returns (visits : ∀ record ∈ records, ∀ state, Safe (visit record state)) (state) :
    Safe (flatMapNeighbors visit records state) := by
  induction records generalizing state with
  | nil => exact .ok trivial
  | cons record records ih =>
    rw [forall_mem_cons] at visits
    refine (visits.1 state).andThen fun visited => ?_
    exact (ih visits.2 visited.2).andThen fun _ => .ok trivial

variable (release : p = .release)
include release

lemma routingCharge_returns (ratePack : RatePack) (payloadSize) :
    Safe (ratePack.routingCharge p payloadSize) :=
  Returns.andThen (returns_arith release _ _) fun _ => returns_arith release _ _

lemma exitCharge_returns (ratePack : RatePack) (payloadSize) :
    Safe (ratePack.exitCharge p payloadSize) :=
  Returns.andThen (returns_arith release _ _) fun _ => returns_arith release _ _

lemma computeUndesirability_returns (record : NodeRecord) (payloadSize kind) :
    Safe (computeUndesirability p record payloadSize kind) := by
  cases kind with
  | relay => exact (routingCharge_returns release _ _).andThen fun _ => .ok trivial
  | exitRequest hostnameOpt =>
    cases hostnameOpt with
    | none => exact (exitCharge_returns release _ _).andThen fun _ => returns_arith release _ _
    | some hostname =>
      refine (exitCharge_returns release _ _).andThen fun _ => ?_
      exact Returns.andThen (returns_arith release _ _) fun _ => returns_arith release _ _
  | exitAndRouteResponse =>
    refine (exitCharge_returns release _ _).andThen fun _ => ?_
    exact (routingCharge_returns release _ _).andThen fun _ => returns_arith release _ _

/-- The search comes to its end because every hop leaves fewer Nodes to visit. -/
lemma routingEngine_returns (last : path.getLast? = some lastKey)
    (found : hood.neighborhoodDatabase.nodeByKey lastKey = some lastNode)
    (enough : (unvisited hood path).length < fuel) (state) :
    Safe (routingEngine p hood order query fuel path undesirability hopsRemaining state) := by
  induction fuel generalizing path lastKey lastNode undesirability hopsRemaining state with
  | zero => exact absurd enough (Nat.not_lt_zero _)
  | succ fuel ih =>
    have goesOn : ∀ state, Safe (routingGuts p hood order query (routingEngine p hood order query fuel)
        path undesirability hopsRemaining lastNode state) := by
      refine flatMapNeighbors_returns fun record next state => ?_
      obtain ⟨nextFound, fresh⟩ := known_of_mem_nextNodes next
      have fewer := unvisited_snoc_lt nextFound fresh
      have computed : Safe (computeNewUndesirability p record undesirability query.targetOpt
          (hopsRemaining - 1) query.payloadSize query.direction query.hostnameOpt) :=
        (computeUndesirability_returns release _ _ _).andThen fun _ => returns_arith release _ _
      refine computed.andThen fun total => ?_
      exact ih getLast?_concat nextFound (by omega) state
    obtain ⟨first, starts⟩ : ∃ first, path.head? = some first := by
      cases path with
      | nil => cases last
      | cons first rest => exact ⟨first, rfl⟩
    simp only [routingEngine, starts, last, found]
    -- a path that is too expensive, too long or at its end is answered at once, all others go on
    repeat' split
    all_goals first | exact goesOn _ | exact .ok trivial

section

variable {source : PublicKey} {record : NodeRecord}
  (known : hood.neighborhoodDatabase.nodeByKey source = some record)
include known

lemma findBestRouteSegment_returns (targetOpt) (minimumHops : Nat) (payloadSize direction hostnameOpt) :
    Safe (findBestRouteSegment p hood order source targetOpt minimumHops payloadSize direction
      hostnameOpt) := by
  have initial : Safe (computeInitialUndesirability p hood source payloadSize direction) := by
    match direction with
    | .over => exact .ok trivial
    | .back =>
      simp only [computeInitialUndesirability, known]
      exact computeUndesirability_returns release _ _ _
  refine initial.andThen fun undesirability => ?_
  refine Returns.andThen ?_ fun _ => .ok trivial
  exact routingEngine_returns release rfl known (unvisited_source_lt known) _

lemma findExitLocations_returns (minimumHops : Nat) :
    Safe (findExitLocations p hood order source minimumHops) :=
  (routingEngine_returns release rfl known (unvisited_source_lt known) _).andThen fun _ => .ok trivial

end

end

end PulseMesh.Neighborhood

namespace PulseMesh.SubLib

open Machine

/-! ### The route -/

section

variable {keccak256 : Bytes → Bytes} {hopCodec : Codec LiveHop} {consumingWalletOpt : Option Wallet}
  {contractAddressOpt : Option Address} {cryptde : CryptDE}

/-- Hops can be encrypted for the Node with the key. -/
def EncryptsFor (hopCodec : Codec LiveHop) (cryptde : CryptDE) (key : PublicKey) : Prop :=
  ∀ hop, ∃ crypt, encodex hopCodec cryptde key hop = .ok crypt

/-- A hop is encrypted for the key that the hop before it names; nobody comes after the last one. -/
lemma encodeHops_ok
    (encrypts : ∀ key ∈ (hopKey :: hops.map LiveHop.publicKey).dropLast, EncryptsFor hopCodec cryptde key) :
    ∃ hopsEnc, encodeHops hopCodec cryptde hopKey hops = .ok hopsEnc := by
  induction hops generalizing hopKey with
  | nil => exact ⟨[], rfl⟩
  | cons hop hops ih =>
    rw [List.map_cons, List.dropLast_cons_cons, List.forall_mem_cons] at encrypts
    obtain ⟨hopEnc, encoded⟩ := encrypts.1 hop
    obtain ⟨hopsEnc, encodedRest⟩ := ih encrypts.2
    refine ⟨hopEnc :: hopsEnc, ?_⟩
    rw [encodeHops, encoded, encodedRest]
    rfl

/-- Whoever the wallet has to pay, it can sign for it. -/
def Pays (keccak256 : Bytes → Bytes) (consumingWalletOpt : Option Wallet)
    (contractAddressOpt : Option Address) : Prop :=
  ∀ key, ∃ payer, payerOpt keccak256 consumingWalletOpt contractAddressOpt key = .ok payer

lemma pays_without_wallet : Pays keccak256 none contractAddressOpt := fun _ => ⟨none, rfl⟩

variable (pays : Pays keccak256 consumingWalletOpt contractAddressOpt)
include pays

section

variable (component : Component)

lemma liveHopFor_returns (currentKey nextKey) :
    Safe (liveHopFor keccak256 consumingWalletOpt contractAddressOpt currentKey nextKey component) := by
  obtain ⟨payer, paid⟩ := pays currentKey
  rw [liveHopFor, paid]
  exact .ok trivial

lemma lastHopFor_returns (lastKeyOpt) :
    Safe (lastHopFor keccak256 consumingWalletOpt contractAddressOpt lastKeyOpt component) := by
  cases lastKeyOpt with
  | none => exact .ok trivial
  | some lastKey => exact liveHopFor_returns pays _ _ _

lemma overSegment_returns (oneWay : Bool) (overKeys) :
    Safe (overSegment keccak256 consumingWalletOpt contractAddressOpt oneWay overKeys component) := by
  refine Returns.andThen (returns_mapM fun window _ => liveHopFor_returns pays _ _ _) fun hops => ?_
  cases oneWay with
  | true => exact (lastHopFor_returns pays _ _).andThen fun _ => .ok trivial
  | false => exact .ok trivial

lemma backSegment_returns (back hops) :
    Safe (backSegment keccak256 consumingWalletOpt contractAddressOpt (some back) component hops) := by
  refine Returns.andThen (returns_mapM fun window _ => liveHopFor_returns pays _ _ _) fun backHops => ?_
  exact (lastHopFor_returns pays _ _).andThen fun _ => .ok trivial

end

lemma roundTrip_returns (overLong : 2 ≤ overLeg.keys.length) (backLong : 2 ≤ back.keys.length)
    (meets : back.keys.head? = overLeg.keys.getLast?)
    (encrypts : ∀ key ∈ visitedKeys overLeg back, EncryptsFor hopCodec cryptde key)
    (encryptsId : ∃ crypt, encodex idCodec cryptde cryptde.publicKey returnRouteId = .ok crypt) :
    Returns (roundTrip keccak256 hopCodec idCodec consumingWalletOpt contractAddressOpt overLeg back cryptde
      returnRouteId) fun made => ∃ route, made = .ok route := by
  obtain ⟨overHops, overMade, -⟩ := overSegment_returns pays _ _ _
  obtain ⟨hops, backMade, -⟩ := backSegment_returns pays _ _ _
  have hopsOf := hopsOf_segments overLong backLong meets overMade backMade
  have valid : validateRouteSegments overLeg (some back) = none := by
    obtain ⟨overKeys, overRecipient⟩ := overLeg
    obtain ⟨backKeys, backRecipient⟩ := back
    cases overKeys with
    | nil => cases overLong
    | cons first overKeys =>
      cases backKeys with
      | nil => cases backLong
      | cons exit backKeys => simp [validateRouteSegments, meets]
  -- the keys that the hops are encrypted for are the visited ones
  have keys : (overLeg.keys.headD emptyKey :: hops.map LiveHop.publicKey).dropLast = visitedKeys overLeg back := by
    rw [hopsOf.next, ← List.cons_append, ← visitedKeys_eq_cons overLong, List.dropLast_concat]
  obtain ⟨hopsEnc, encoded⟩ := encodeHops_ok (keys ▸ encrypts)
  obtain ⟨idEnc, encodedId⟩ := encryptsId
  have madeOver : overSegment keccak256 consumingWalletOpt contractAddressOpt (some back).isNone overLeg.keys
      overLeg.recipient = .ok overHops := overMade
  simp only [roundTrip, construct, valid, madeOver, ok_bind, backMade, hopsToRoute, encoded,
    encryptReturnRouteId, encodedId]
  exact .ok ⟨_, rfl⟩

end

end PulseMesh.SubLib

namespace PulseMesh.NeighborhoodActor

open Machine SubLib Gossip ProxyServer
open Neighborhood (SetOrder RouteDirection RouteQuery SimplePath)

/-! ### The answer -/

section

variable {env : ActorEnvironment} {state : RouteQueryState}

lemma nodeByKey_routeView (found : db.nodeByKey key = some record) :
    ∃ viewed, (routeView db).nodeByKey key = some viewed := by
  have listed : routeRecord key record ∈ (routeView db).nodes := by
    refine List.mem_filterMap.mpr ⟨key, NeighborhoodDatabase.mem_keys_of_found found, ?_⟩
    rw [found, Option.map_some]
  have present : ((routeView db).nodeByKey key).isSome :=
    List.find?_isSome.mpr ⟨_, listed, by simp [routeRecord]⟩
  exact Option.isSome_iff_exists.mp present

/-- A segment leads over Nodes of the database. -/
lemma makeRouteSegment_returns (orders : RouteDirection → SetOrder) (release : env.profile = .release)
    (known : state.neighborhoodDatabase.nodeByKey origin = some record) (targetOpt) (hopCount : Nat)
    (component payloadSize direction hostnameOpt) :
    Returns (makeRouteSegment env orders state origin targetOpt hopCount component payloadSize direction
      hostnameOpt) fun made => ∀ segment, made = .ok segment →
        ∀ key ∈ segment.keys, key ∈ state.neighborhoodDatabase.keys := by
  obtain ⟨viewed, viewedAt⟩ := nodeByKey_routeView known
  have searched : Safe (Neighborhood.findBestRouteSegment env.profile (routeHood state) (orders direction)
      origin targetOpt hopCount payloadSize direction hostnameOpt) :=
    Neighborhood.findBestRouteSegment_returns release viewedAt _ _ _ _ _
  obtain ⟨pathOpt, found, -⟩ := searched
  unfold makeRouteSegment
  rw [found]
  cases pathOpt with
  | none => exact .ok nofun
  | some path =>
    refine .ok ?_
    rintro _ ⟨⟩ key onPath
    let query : RouteQuery := ⟨origin, targetOpt, hopCount, payloadSize, direction, hostnameOpt⟩
    have simple : SimplePath (routeHood state) query path := (Neighborhood.findBestRouteSegment_sound found).1
    -- the first key is the origin, and all others are linked to the one before
    cases path with
    | nil => cases onPath
    | cons first rest =>
      rcases List.mem_cons.mp onPath with rfl | later
      · cases simple.starts
        exact NeighborhoodDatabase.mem_keys_of_found known
      · exact (map_publicKey_routeRecords_sublist _ _).subset
          (Neighborhood.known_of_linked simple.links key later)

lemma makeExpectedServices_returns (rooted : db.HasRoot root) (segment) :
    Safe (makeExpectedServices db segment) := by
  have each : ∀ originatorKey exitKey key, Safe (calculateExpectedService db originatorKey exitKey key) := by
    intro originatorKey exitKey key
    unfold calculateExpectedService
    rw [NeighborhoodDatabase.root_eq_ok.mpr rooted]
    split
    · exact .ok trivial
    · rw [ok_bind]
      split
      · exact .ok trivial
      · split
        · split <;> exact .ok trivial
        · exact .ok trivial
  have collected : ∀ {service : PublicKey → Except Panic (Except String ExpectedService)},
      (∀ key, Safe (service key)) →
        ∀ keys, Safe (collectServices service keys) := by
    intro service serves keys
    induction keys with
    | nil => exact .ok trivial
    | cons key keys ih =>
      refine (serves key).andThen fun expected => ?_
      split
      · exact .ok trivial
      · refine ih.andThen fun others => ?_
        split <;> exact .ok trivial
  exact collected (each _ _) segment.keys

/-- What a route query needs: a database that it can rely on, keys that it can encrypt for, and a wallet
that can sign. -/
structure RoutesReady (env : ActorEnvironment) (state : RouteQueryState) : Prop where
  grounded : Grounded state.neighborhoodDatabase
  own : state.neighborhoodDatabase.thisNode = env.cryptde.publicKey
  encrypts : ∀ key ∈ state.neighborhoodDatabase.keys, EncryptsFor env.hopCodec env.cryptde.toCryptDE key
  encryptsId : ∀ returnRouteId, ∃ crypt,
    encodex env.idCodec env.cryptde.toCryptDE env.cryptde.publicKey returnRouteId = .ok crypt
  pays : Pays env.keccak256 state.consumingWalletOpt (some env.contract)

lemma RoutesReady.ownKnown (ready : RoutesReady env state) :
    ∃ root, state.neighborhoodDatabase.nodeByKey env.cryptde.publicKey = some root :=
  ready.own ▸ ready.grounded.rooted

lemma composeRouteQueryResponse_returns (ready : RoutesReady env state)
    (overBetween : SegmentBetween origin exitKey overLeg overMiddle)
    (backBetween : SegmentBetween exitKey target back backMiddle)
    (overKnown : ∀ key ∈ overLeg.keys, key ∈ state.neighborhoodDatabase.keys)
    (backKnown : ∀ key ∈ back.keys, key ∈ state.neighborhoodDatabase.keys) :
    Safe (composeRouteQueryResponse env state overLeg back) := by
  obtain ⟨root, rooted⟩ := ready.grounded.rooted
  have encrypts : ∀ key ∈ visitedKeys overLeg back, EncryptsFor env.hopCodec env.cryptde.toCryptDE key := by
    intro key visited
    rcases List.mem_append.mp visited with onTheWay | onTheWayBack
    · exact ready.encrypts key (overKnown key (List.dropLast_subset _ onTheWay))
    · exact ready.encrypts key (backKnown key onTheWayBack)
  have meets : back.keys.head? = overLeg.keys.getLast? := by
    rw [overBetween.keys, backBetween.keys, List.getLast?_concat]
    rfl
  unfold composeRouteQueryResponse
  split
  · exact .ok trivial
  · split
    · exact .ok trivial
    · refine (makeExpectedServices_returns rooted overLeg).andThen fun overServices => ?_
      split
      · exact .ok trivial
      · refine (makeExpectedServices_returns rooted back).andThen fun backServices => ?_
        split
        · exact .ok trivial
        · refine Returns.bind (roundTrip_returns ready.pays ?_ ?_ meets encrypts (ready.encryptsId _)) ?_
          · simp [overBetween.keys]
          · simp [backBetween.keys]
          · rintro _ ⟨route, rfl⟩
            exact .ok trivial

lemma makeRoundTripRoute_returns (release : env.profile = .release) (ready : RoutesReady env state)
    (returns : request.returnComponentOpt.isSome) :
    Safe (makeRoundTripRoute env orders state request) := by
  obtain ⟨returnComponent, returnsTo⟩ := Option.isSome_iff_exists.mp returns
  obtain ⟨root, ownKnown⟩ := ready.ownKnown
  obtain ⟨overOrError, overMade, overKnown⟩ := makeRouteSegment_returns orders release ownKnown
    request.targetKeyOpt state.minHops.toNat request.targetComponent request.payloadSize .over
    request.hostnameOpt
  unfold makeRoundTripRoute
  rw [overMade, ok_bind]
  cases overOrError with
  | error e => exact .ok trivial
  | ok overLeg =>
    obtain ⟨-, overMiddle, exitKey, overBetween, -⟩ := makeRouteSegment_eq_ok (Hops.toNat_pos _) overMade
    have last : overLeg.keys.getLast? = some exitKey := by rw [overBetween.keys, List.getLast?_concat]
    refine Returns.andThen (returns_arith release _ _) fun payloadSize => ?_
    rw [last, returnsTo]
    dsimp only
    obtain ⟨exit, exitKnown⟩ := Option.isSome_iff_exists.mp
      (NeighborhoodDatabase.mem_keys.mp (overKnown overLeg rfl exitKey (List.mem_of_getLast? last)))
    obtain ⟨backOrError, backMade, backKnown⟩ := makeRouteSegment_returns orders release exitKnown
      (some env.cryptde.publicKey) state.minHops.toNat returnComponent payloadSize .back request.hostnameOpt
    rw [backMade]
    cases backOrError with
    | error e => exact .ok trivial
    | ok back =>
      obtain ⟨-, backMiddle, target, backBetween, -⟩ := makeRouteSegment_eq_ok (Hops.toNat_pos _) backMade
      exact composeRouteQueryResponse_returns ready overBetween backBetween (overKnown overLeg rfl)
        (backKnown back rfl)

lemma zeroHopRouteResponse_returns (ready : RoutesReady env state) :
    Safe (zeroHopRouteResponse env state) := by
  obtain ⟨root, ownKnown⟩ := ready.ownKnown
  have own := ready.encrypts _ (NeighborhoodDatabase.mem_keys_of_found ownKnown)
  refine Returns.bind (roundTrip_returns pays_without_wallet le_rfl le_rfl rfl ?_ (ready.encryptsId _)) ?_
  · intro key visited
    simp only [visitedKeys, List.dropLast, List.cons_append, List.nil_append, List.mem_cons,
      List.not_mem_nil, or_false, or_self] at visited
    rw [visited]
    exact own
  · rintro _ ⟨route, rfl⟩
    exact .ok trivial

/-- **Route queries**: there is a route, or a reason why there is none. -/
theorem handleRouteQueryMessage_returns (release : env.profile = .release) (ready : RoutesReady env state)
    (returns : request.returnComponentOpt.isSome) :
    Safe (handleRouteQueryMessage env orders state request) := by
  unfold handleRouteQueryMessage
  split
  · exact (zeroHopRouteResponse_returns ready).andThen fun _ => .ok trivial
  · refine (makeRoundTripRoute_returns release ready returns).andThen fun made => ?_
    obtain ⟨result, routed⟩ := made
    cases result with
    | ok | error => exact .ok trivial

end

end PulseMesh.NeighborhoodActor
