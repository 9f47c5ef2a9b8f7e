import PulseMesh.Gossip.Handlers
import PulseMesh.ProxyServer.Reports

/-!
# Route queries

The proxy server asks the neighborhood for a route over the network and back.  Both ways are found by
the route search; from them the onion of hops is made, and the list of the services that the proxy
server has to pay for.  The route search works on a view of the database, with as much of each record
as it reads.
-/

namespace PulseMesh.NeighborhoodActor

open Machine SubLib Gossip ProxyServer
open Neighborhood (SetOrder RouteDirection findBestRouteSegment findExitLocations)

inductive Hops where
  | oneHop
  | twoHops
  | threeHops
  | fourHops
  | fiveHops
  | sixHops
deriving DecidableEq

def Hops.toNat : Hops → Nat
  | .oneHop => 1
  | .twoHops => 2
  | .threeHops => 3
  | .fourHops => 4
  | .fiveHops => 5
  | .sixHops => 6

inductive NeighborhoodModeLight where
  | standard
  | consumeOnly
  | originateOnly
  | zeroHop
deriving DecidableEq

/-- What stays the same as long as the actor runs. -/
structure ActorEnvironment extends Environment where
  keccak256 : Bytes → Bytes
  hopCodec : Codec LiveHop
  idCodec : Codec UInt32
  contract : Address
  mode : NeighborhoodModeLight

/-- The state that a route query reads and changes. -/
structure RouteQueryState where
  neighborhoodDatabase : NeighborhoodDatabase
  userExitPreferences : ExitPreferences
  consumingWalletOpt : Option Wallet
  minHops : Hops
  nextReturnRouteId : UInt32

structure RouteQueryMessage where
  targetKeyOpt : Option PublicKey
  targetComponent : Component
  returnComponentOpt : Option Component
  payloadSize : U64
  hostnameOpt : Option String

/-- The expected services are those of a round trip. -/
structure RouteQueryResponse where
  route : Route
  overServices : List ExpectedService
  backServices : List ExpectedService
  returnRouteId : UInt32

def componentDebug : Component → String
  | .neighborhood => "Neighborhood"
  | .hopper => "Hopper"
  | .proxyServer => "ProxyServer"
  | .proxyClient => "ProxyClient"

/-! ### The view of the route search -/

/-- A record is stored under its own key. -/
def routeRecord (key : PublicKey) (record : NodeRecord) : Neighborhood.NodeRecord where
  publicKey := key
  ratePack := record.inner.ratePack
  neighbors := record.inner.neighbors.toList
  neighbors_nodup := record.inner.neighbors.nodup
  routesData := record.inner.routesData
  countryCodeOpt := record.inner.countryCodeOpt
  unreachableHosts := record.metadata.unreachableHosts
  countryUndesirability := record.metadata.countryUndesirability

def routeRecords (db : NeighborhoodDatabase) (keys : List PublicKey) : List Neighborhood.NodeRecord :=
  keys.filterMap fun key => (db.nodeByKey key).map (routeRecord key)

lemma map_publicKey_routeRecords_sublist (db keys) :
    List.Sublist ((routeRecords db keys).map Neighborhood.NodeRecord.publicKey) keys := by
  apply map_key_filterMap_sublist
  intro key viewed found
  obtain ⟨record, -, rfl⟩ := Option.map_eq_some_iff.mp found
  rfl

def routeView (db : NeighborhoodDatabase) : Neighborhood.NeighborhoodDatabase where
  nodes := routeRecords db db.keys
  keys_nodup := (map_publicKey_routeRecords_sublist db db.keys).nodup db.byPublicKey.nodupKeys

def routeHood (state : RouteQueryState) : Neighborhood.NeighborhoodState :=
  ⟨routeView state.neighborhoodDatabase, state.userExitPreferences.toUserExitPreferences⟩

/-! ### Segments and services -/

section

variable (env : ActorEnvironment) (orders : RouteDirection → SetOrder) (state : RouteQueryState)

def makeRouteSegment (origin : PublicKey) (targetOpt : Option PublicKey)
    (minimumHopCount : Nat) (targetComponent : Component) (payloadSize : U64)
    (direction : RouteDirection) (hostnameOpt : Option String) :
    Except Panic (Except String RouteSegment) := do
  match ← findBestRouteSegment env.profile (routeHood state) (orders direction) origin targetOpt
      minimumHopCount payloadSize direction hostnameOpt with
  | none =>
    let target := match targetOpt with
      | some target => s!" {displayKey target}"
      | none => "Unknown"
    return .error (s!"Couldn't find any routes: at least {minimumHopCount}-hop from " ++
      s!"{displayKey origin} to {componentDebug targetComponent} at {target}")
  | some route => return .ok ⟨route, targetComponent⟩

def calculateExpectedService (db : NeighborhoodDatabase) (originatorKey exitKey : Option PublicKey)
    (routeSegmentKey : PublicKey) : Except Panic (Except String ExpectedService) :=
  match db.nodeByKey routeSegmentKey with
  | none => .ok (.error "Cannot make multi_hop with unknown neighbor")
  | some node => do
    let root ← db.root
    if routeSegmentKey = root.publicKey then
      return .ok .nothing
    else
      match originatorKey, exitKey with
      | some originatorKey, some exitKey =>
        if routeSegmentKey = originatorKey ∨ routeSegmentKey = exitKey then
          return .ok (.exit routeSegmentKey node.inner.earningWallet node.inner.ratePack)
        else
          return .ok (.routing routeSegmentKey node.inner.earningWallet node.inner.ratePack)
      | _, _ => return .error "cannot calculate expected service, no keys provided in route segment"

/-- The services of some keys, up to the first key that has none. -/
def collectServices (service : PublicKey → Except Panic (Except String ExpectedService)) :
    List PublicKey → Except Panic (Except String (List ExpectedService))
  | [] => .ok (.ok [])
  | key :: keys => do
    match ← service key with
    | .error e => return .error e
    | .ok expected =>
      match ← collectServices service keys with
      | .error e => return .error e
      | .ok others => return .ok (expected :: others)

def makeExpectedServices (db : NeighborhoodDatabase) (segment : RouteSegment) :
    Except Panic (Except String (List ExpectedService)) :=
  collectServices (calculateExpectedService db segment.keys.head? segment.keys.getLast?) segment.keys

def advanceReturnRouteId : UInt32 × RouteQueryState :=
  (state.nextReturnRouteId, { state with nextReturnRouteId := state.nextReturnRouteId + 1 })

def composeRouteQueryResponse (overLeg back : RouteSegment) :
    Except Panic (Except String RouteQueryResponse × RouteQueryState) := do
  if overLeg.keys.isEmpty || back.keys.isEmpty then
    return (.error "Cannot make multi-hop route without segment keys", state)
  else if state.consumingWalletOpt.isNone &&
      (decide (2 < overLeg.keys.length) || decide (2 < back.keys.length)) then
    return (.error "Cannot make multi-hop route segment without consuming wallet", state)
  else
    match ← makeExpectedServices state.neighborhoodDatabase overLeg with
    | .error e => return (.error e, state)
    | .ok expectedRequestServices =>
      match ← makeExpectedServices state.neighborhoodDatabase back with
      | .error e => return (.error e, state)
      | .ok expectedResponseServices =>
        let (returnRouteId, state) := advanceReturnRouteId state
        match ← roundTrip env.keccak256 env.hopCodec env.idCodec state.consumingWalletOpt
            (some env.contract) overLeg back env.cryptde.toCryptDE returnRouteId with
        | .error e => .error (.raised s!"Internal error: bad route: {e.debug}")
        | .ok route =>
          return (.ok ⟨route, expectedRequestServices, expectedResponseServices, returnRouteId⟩, state)

def responseUndesirabilityFactor : U64 := ⟨1000, u64_thousand⟩

def makeRoundTripRoute (request : RouteQueryMessage) :
    Except Panic (Except String RouteQueryResponse × RouteQueryState) := do
  match ← makeRouteSegment env orders state env.cryptde.publicKey request.targetKeyOpt state.minHops.toNat
      request.targetComponent request.payloadSize .over request.hostnameOpt with
  | .error e => return (.error e, state)
  | .ok overLeg =>
    let anticipatedResponsePayloadLen ← request.payloadSize.mul env.profile responseUndesirabilityFactor
    match overLeg.keys.getLast?, request.returnComponentOpt with
    | none, _ => .error (.raised "Empty segment")
    | some _, none => .error (.raised "No return component")
    | some exitKey, some returnComponent =>
      match ← makeRouteSegment env orders state exitKey (some env.cryptde.publicKey) state.minHops.toNat
          returnComponent anticipatedResponsePayloadLen .back request.hostnameOpt with
      | .error e => return (.error e, state)
      | .ok back => composeRouteQueryResponse env state overLeg back

/-- Without other Nodes the route leads from the Node to itself. -/
def zeroHopRouteResponse : Except Panic (RouteQueryResponse × RouteQueryState) := do
  let (returnRouteId, state) := advanceReturnRouteId state
  let ownKeys := [env.cryptde.publicKey, env.cryptde.publicKey]
  match ← roundTrip env.keccak256 env.hopCodec env.idCodec none none ⟨ownKeys, .proxyClient⟩
      ⟨ownKeys, .proxyServer⟩ env.cryptde.toCryptDE returnRouteId with
  | .error e => .error (.raised s!"Couldn't create route: {e.debug}")
  | .ok route => return (⟨route, [.nothing, .nothing], [.nothing, .nothing], returnRouteId⟩, state)

/-- An unsatisfied query is only logged. -/
def handleRouteQueryMessage (request : RouteQueryMessage) :
    Except Panic (Option RouteQueryResponse × RouteQueryState) := do
  if env.mode = .zeroHop then
    let (response, state) ← zeroHopRouteResponse env state
    return (some response, state)
  else
    match ← makeRoundTripRoute env orders state request with
    | (.ok response, state) => return (some response, state)
    | (.error _, state) => return (none, state)

end

end PulseMesh.NeighborhoodActor
