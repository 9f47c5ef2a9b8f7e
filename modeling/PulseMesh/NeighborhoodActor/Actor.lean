import PulseMesh.Gossip.Acceptor
import PulseMesh.NeighborhoodActor.ConnectionStatus
import PulseMesh.NeighborhoodActor.RouteQueries

/-!
# The neighborhood actor

The actor takes one message after the other.  It gives gossip to the acceptor and does what the verdict
says: an accepted change is told to all neighbors, a reply goes to one Node only.  It removes neighbors
that are gone, and notes what the proxy client has learned about exits.

What the actor gives to the hopper is kept in the order in which it goes out, each gossip with the
database that it is made from.  The recipients of the messages are bound and alive; the configuration
database and the messages from and to the user interface are left out.  The clock is read once for each
message.
-/

namespace PulseMesh.NeighborhoodActor

open Machine SubLib Gossip ProxyServer
open Neighborhood (SetOrder RouteDirection findExitLocations)

structure NodeEnvironment extends ActorEnvironment where
  chain : Chain
  messageCodec : Codec MessageType
  gossipData : SubLib.Gossip → VersionedData SubLib.Gossip
  gossipFailureData : GossipFailure → VersionedData GossipFailure
  /-- by way of the fragment of a descriptor -/
  firstContactPublicKey : PublicKey → Except Panic PublicKey
  descriptorText : NodeDescriptor → String
  traceEnabled : Bool

/-- Gossip that has been given to the hopper for a Node. -/
structure Sent where
  target : PublicKey
  gossip : SubLib.Gossip
  /-- at that moment -/
  database : NeighborhoodDatabase

structure ActorState extends RouteQueryState where
  dbPatchSize : Nat
  overallConnectionStatus : OverallConnectionStatus
  previousPassTargets : PassTargets
  lastDeadNodeCheck : U32
  /-- the configuration database is connected -/
  isStarted : Bool
  dbPasswordOpt : Option String
  sent : List Sent
  isStopped : Bool

inductive RemovedStreamType where
  | clandestine
  | nonClandestine
deriving DecidableEq

inductive NeighborhoodMessage where
  | start (minHopsInDatabase : Hops)
  | newPublicIp (newIp : IpAddr)
  | routeQuery (request : RouteQueryMessage)
  | gossip (incomingGossip : SubLib.Gossip) (gossipSource : SocketAddr)
  | gossipFailure (failureSource : SocketAddr) (failure : GossipFailure)
  | removeNeighbor (publicKey : PublicKey)
  | connectionProgress (message : ConnectionProgressMessage)
  | askAboutDebutGossip (prevConnectionProgress : ConnectionProgress)
  | addUnreachableHost (publicKey : PublicKey) (hostname : String)
  | streamShutdown (peerAddr : SocketAddr) (streamType : RemovedStreamType)

/-- The orders in which the hash sets are gone through. -/
structure Orders where
  acceptor : SetOrder
  producer : SetOrder
  exits : SetOrder
  route : RouteDirection → SetOrder

/-- A message at the time at which it is handled. -/
structure Delivery where
  orders : Orders
  now : Clock
  message : NeighborhoodMessage

def defaultMinHops : Hops := .threeHops

def calculateDbPatchSize (minHops : Hops) : Nat :=
  if minHops.toNat ≤ defaultMinHops.toNat then defaultMinHops.toNat else minHops.toNat

/-! ### The constructor -/

def isMainnet : Chain → Bool
  | .pulseMainnet => true
  | .polyMainnet => true
  | .baseMainnet => true
  | .ethMainnet => true
  | _ => false

def modeLight : NeighborhoodMode → NeighborhoodModeLight
  | .standard _ _ _ => .standard
  | .zeroHop => .zeroHop
  | .originateOnly _ _ => .originateOnly
  | .consumeOnly _ => .consumeOnly

def neighborConfigs : NeighborhoodMode → List NodeDescriptor
  | .standard _ neighborConfigs _ => neighborConfigs
  | .zeroHop => []
  | .originateOnly neighborConfigs _ => neighborConfigs
  | .consumeOnly neighborConfigs => neighborConfigs

structure BootstrapperConfig where
  mode : NeighborhoodMode
  minHops : Hops
  earningWallet : Accountant.Wallet
  consumingWalletOpt : Option Wallet
  dbPasswordOpt : Option String

def ActorState.new (env : NodeEnvironment) (now : U32) (config : BootstrapperConfig) :
    Except Panic ActorState := do
  if decide (modeLight config.mode = .zeroHop) && !(neighborConfigs config.mode).isEmpty then
    .error (.raised "A zero-hop MASQ Node is not decentralized and cannot have a --neighbors setting")
  else
    let neighborhoodDatabase ← NeighborhoodDatabase.new env.toEnvironment now config.mode
      config.earningWallet
    -- mainnet and test neighbors do not mix
    match (neighborConfigs config.mode).find? fun nc =>
        decide (isMainnet nc.blockchain ≠ isMainnet env.chain) with
    | some nc =>
      let negation := if isMainnet nc.blockchain then "" else "not "
      .error (.raised s!"Neighbor {env.descriptorText nc} is {negation}on the mainnet blockchain")
    | none =>
      let overallConnectionStatus ← OverallConnectionStatus.new (neighborConfigs config.mode)
      return {
        neighborhoodDatabase
        userExitPreferences := ⟨⟨[], .nothing, []⟩, none⟩
        consumingWalletOpt := config.consumingWalletOpt
        minHops := config.minHops
        nextReturnRouteId := 0
        dbPatchSize := calculateDbPatchSize config.minHops
        overallConnectionStatus
        previousPassTargets := ∅
        lastDeadNodeCheck := now
        isStarted := false
        dbPasswordOpt := config.dbPasswordOpt
        sent := []
        isStopped := false }

/-! ### Sending -/

section

variable (env : NodeEnvironment)

/-- The picture of the gossip is drawn for the log only, but it has to be readable for that. -/
def toDotGraph (gossip : SubLib.Gossip) : Except Panic Unit :=
  gossip.nodeRecords.forM fun gnr =>
    match env.innerCodec.deserialize gnr.signedData with
    | .ok _ => .ok ()
    | .error e => .error (.raised s!"not implemented: \"{e.delegate}\"")

def traceGossip (gossip : SubLib.Gossip) : Except Panic Unit :=
  if env.traceEnabled then toDotGraph env gossip else .ok ()

variable (state : ActorState)

def recordSent (target : PublicKey) (gossip : SubLib.Gossip) : ActorState :=
  { state with sent := state.sent ++ [⟨target, gossip, state.neighborhoodDatabase⟩] }

/-- Gossip that cannot be encrypted for the Node is not sent. -/
def sendGossipNoLookup (targetKey : PublicKey) (gossip : SubLib.Gossip) : ActorState :=
  match encodex env.messageCodec env.cryptde.toCryptDE targetKey (.gossip (env.gossipData gossip)) with
  | .ok _ => recordSent state targetKey gossip
  | .error _ => state

def createSingleHopRoute (destination : PublicKey) : Except Panic Route := do
  match ← oneWay env.keccak256 env.hopCodec env.idCodec none none
      ⟨[env.cryptde.publicKey, destination], .neighborhood⟩ env.cryptde.toCryptDE with
  | .ok route => return route
  | .error e => .error (.raised s!"route creation error: {e.debug}")

def gossipToNeighbor (neighbor : PublicKey) (gossip : SubLib.Gossip) : Except Panic ActorState := do
  let route ← createSingleHopRoute env neighbor
  match IncipientCoresPackage.new env.messageCodec env.cryptde.toCryptDE route
      (.gossip (env.gossipData gossip)) neighbor with
  | .error e => .error (.raised s!"Key magically disappeared: \"{e}\"")
  | .ok _ =>
    traceGossip env gossip
    -- the record is needed for the log line only
    if env.traceEnabled && (state.neighborhoodDatabase.nodeByKey neighbor).isNone then
      .error (.raised "Node magically disappeared")
    else
      return recordSent state neighbor gossip

variable (order : SetOrder)

/-- The gossip for one of the neighbors, if there is any. -/
def updateNeighbor (now : Clock) (state : ActorState) (neighbor : PublicKey) :
    Except Panic ActorState := do
  let (gossipOpt, neighborhoodDatabase, lastDeadNodeCheck) ← produce env.toEnvironment order now
    state.neighborhoodDatabase state.lastDeadNodeCheck neighbor
  let state := { state with neighborhoodDatabase, lastDeadNodeCheck }
  match gossipOpt with
  | none => return state
  | some gossip => gossipToNeighbor env state neighbor gossip

def gossipToNeighbors (now : Clock) (state : ActorState) : Except Panic ActorState := do
  let root ← state.neighborhoodDatabase.root
  -- whatever the Node has changed is signed before it is told
  let root ← root.regenerateSignedGossip env.toEnvironment
  let neighborhoodDatabase := state.neighborhoodDatabase.store state.neighborhoodDatabase.thisNode root
  -- dead Nodes are culled in between, so the database changes from one to the next
  root.inner.neighbors.toList.foldlM (updateNeighbor env order now) { state with neighborhoodDatabase }

/-! ### Gossip -/

/-- The records are verified one after the other, up to the first that is not signed by its Node. -/
def signaturesValid : List AccessibleGossipRecord → Except Panic Bool
  | [] => .ok true
  | agr :: agrs => do
    if ← env.cryptde.verifySignature agr.signedGossip agr.signature agr.inner.publicKey then
      signaturesValid agrs
    else
      return false

/-- The records of gossip, if all of them can be read. -/
def readGossip (incomingGossip : SubLib.Gossip) : Option (List AccessibleGossipRecord) :=
  let agrs := incomingGossip.nodeRecords.filterMap fun gnr =>
    (AccessibleGossipRecord.tryFrom env.toEnvironment gnr).toOption
  -- one unreadable record is enough to drop the gossip
  if agrs.length < incomingGossip.nodeRecords.length then none else some agrs

def neighborKeys (db : NeighborhoodDatabase) : Except Panic (List PublicKey) := do
  let root ← db.root
  return db.fullNeighborKeys root

/-- The countries that the exits are in, without repetitions. -/
def initDbCountries (state : ActorState) : Except Panic (List String) := do
  let db := state.neighborhoodDatabase
  let exitNodes ← findExitLocations env.profile (routeHood state.toRouteQueryState) order db.thisNode
    state.minHops.toNat
  let dbCountries := exitNodes.filterMap fun key =>
    (db.nodeByKey key).bind fun record => record.inner.countryCodeOpt
  -- a sort and a `dedup` in the source
  return (dbCountries.insertionSort (· ≤ ·)).destutter (· ≠ ·)

def withDbCountries (state : ActorState) : Except Panic ActorState := do
  let dbCountries ← initDbCountries env order state
  let userExitPreferences := { state.userExitPreferences with dbCountries }
  return { state with userExitPreferences }

/-- With a reply, the countries are looked up only if a neighbor can be an exit. -/
def withDbCountriesOfNeighbors (state : ActorState) : Except Panic ActorState :=
  if state.minHops = .oneHop then withDbCountries env order state else .ok state

def neighborhoodMetadata : NeighborhoodMetadata :=
  ⟨state.overallConnectionStatus.getPeerAddrs, state.dbPatchSize, some state.userExitPreferences⟩

variable (orders : Orders)

/-- A gossip failure that is sent is no gossip. -/
def handleAcceptance (now : Clock) (state : ActorState) :
    GossipAcceptanceResult → Except Panic ActorState
  | .accepted => do
    let state ← withDbCountries env orders.exits state
    gossipToNeighbors env orders.producer now state
  | .reply gossip targetKey _ => do
    let state ← withDbCountriesOfNeighbors env orders.exits state
    traceGossip env gossip
    return sendGossipNoLookup env state targetKey gossip
  | .failed _ _ _ => .ok state
  | .ignored => .ok state
  | .ban _ => .ok state

def handleAgrs (now : Clock) (state : ActorState) (agrs : List AccessibleGossipRecord)
    (gossipSource : SocketAddr) : Except Panic ActorState := do
  let acceptance ← acceptGossip env.toEnvironment orders.acceptor now (neighborhoodMetadata state)
    state.neighborhoodDatabase state.previousPassTargets agrs gossipSource
  handleAcceptance env orders now
    { state with
      neighborhoodDatabase := acceptance.handled.database
      previousPassTargets := acceptance.previousPassTargets }
    acceptance.handled.result

def toNodeDescriptors (db : NeighborhoodDatabase) (keys : List PublicKey) :
    Except Panic (List NodeDescriptor) :=
  keys.mapM fun key =>
    match db.nodeByKey key with
    | none => .error (.raised "value for 'NodeRecord' badly prepared")
    | some record => do
      let encryptionPublicKey ← env.firstContactPublicKey record.publicKey
      return ⟨env.chain, encryptionPublicKey, record.nodeAddrOpt⟩

/-- The neighbors that are saved for the next run, if they have changed and can be saved. -/
def curatePastNeighbors (neighborKeysBefore neighborKeysAfter : List PublicKey) :
    Except Panic (Option (List NodeDescriptor)) := do
  if neighborKeysAfter = neighborKeysBefore || state.dbPasswordOpt.isNone then
    return none
  else
    -- computed before it is known whether they can be saved
    let descriptors ← toNodeDescriptors env state.neighborhoodDatabase neighborKeysAfter
    if state.isStarted then
      return some descriptors
    else
      .error (.raised "PersistentConfig was not set by StartMessage")

def connectivityQuery : RouteQueryMessage := ⟨none, .proxyClient, some .proxyServer, ⟨10000, by decide⟩, none⟩

def searchForANewRoute (state : ActorState) : Except Panic ActorState := do
  -- the search uses up a return route id when it succeeds
  let (responseOpt, routing) ← handleRouteQueryMessage env.toActorEnvironment orders.route
    state.toRouteQueryState connectivityQuery
  let state := { state with toRouteQueryState := routing }
  if responseOpt.isSome then
    return { state with overallConnectionStatus := { state.overallConnectionStatus with stage := .routeFound } }
  else
    return state

def checkConnectedness (state : ActorState) : Except Panic ActorState :=
  if state.overallConnectionStatus.canMakeRoutes then .ok state else searchForANewRoute env orders state

def handleGossipAgrs (now : Clock) (state : ActorState)
    (agrs : List AccessibleGossipRecord) (gossipSource : SocketAddr) : Except Panic ActorState := do
  let neighborKeysBefore ← neighborKeys state.neighborhoodDatabase
  let state ← handleAgrs env orders now state agrs gossipSource
  let neighborKeysAfter ← neighborKeys state.neighborhoodDatabase
  let _ ← curatePastNeighbors env state neighborKeysBefore neighborKeysAfter
  checkConnectedness env orders state

def handleGossip (now : Clock) (state : ActorState) (incomingGossip : SubLib.Gossip)
    (gossipSource : SocketAddr) : Except Panic ActorState := do
  traceGossip env incomingGossip
  match readGossip env incomingGossip with
  | none => return state
  | some agrs =>
    -- neither readable nor authentic gossip has any effect, not even an answer
    if ← signaturesValid env agrs then
      handleGossipAgrs env orders now state agrs gossipSource
    else
      return state

/-! ### The other messages -/

def sendDebutGossipToDescriptor (debutGossip : SubLib.Gossip) (state : ActorState)
    (nodeDescriptor : NodeDescriptor) : Except Panic ActorState :=
  match nodeDescriptor.nodeAddrOpt with
  | none => .error (.raised "Node descriptor without IP Address got through Neighborhood constructor.")
  | some _ => do
    traceGossip env debutGossip
    return sendGossipNoLookup env state nodeDescriptor.encryptionPublicKey debutGossip

def sendDebutGossipToAllInitialDescriptors : Except Panic ActorState := do
  if state.overallConnectionStatus.isEmpty then
    return state
  else
    let gossip ← produceDebut state.neighborhoodDatabase
    state.overallConnectionStatus.initialNodeDescriptors.foldlM (sendDebutGossipToDescriptor env gossip)
      state

/-- The number of hops that is saved in the database prevails. -/
def handleStartMessage (minHopsInDatabase : Hops) : Except Panic ActorState :=
  sendDebutGossipToAllInitialDescriptors env
    { state with isStarted := true, minHops := minHopsInDatabase }

/-- The country of the Node is in the signed data, but neither the version nor the signature changes. -/
def handleNewIpLocation (db : NeighborhoodDatabase) (newPublicIp : IpAddr) :
    Except Panic NeighborhoodDatabase := do
  let nodeLocationOpt := getNodeLocation env.toEnvironment (some newPublicIp)
  let root ← db.root
  let metadata := { root.metadata with nodeLocationOpt }
  let inner := { root.inner with countryCodeOpt := nodeLocationOpt.map NodeLocation.countryCode }
  return db.store db.thisNode { root with metadata, inner }

def handleNewPublicIp (newIp : IpAddr) : Except Panic ActorState := do
  let neighborhoodDatabase ← state.neighborhoodDatabase.newPublicIp newIp
  -- the neighbors are not told
  let neighborhoodDatabase ← handleNewIpLocation env neighborhoodDatabase newIp
  return { state with neighborhoodDatabase }

/-- The failure counts as an answer to a debut. -/
def handleGossipFailure (failureSource : SocketAddr) : Except Panic ActorState :=
  match state.overallConnectionStatus.initialNodeDescriptors.findIdx? fun descriptor =>
      descriptor.nodeAddrOpt.any fun nodeAddr => decide (nodeAddr.ipAddr = failureSource.ip) with
  -- only the configured Nodes are asked to accept a debut; what others say is not expected
  | none => .error (.raised "not implemented: TODO: Test-drive me (or replace me with a panic)")
  | some position =>
    let overallConnectionStatus := state.overallConnectionStatus.remove position
    .ok { state with
      overallConnectionStatus
      isStopped := state.isStopped || overallConnectionStatus.isEmpty }

def handleRemoveNeighborMessage (now : Clock) (state : ActorState)
    (publicKey : PublicKey) : Except Panic ActorState := do
  match ← state.neighborhoodDatabase.removeNeighbor env.toEnvironment publicKey with
  | .error _ => return state
  | .ok (true, neighborhoodDatabase) =>
    gossipToNeighbors env order now { state with neighborhoodDatabase }
  | .ok (false, neighborhoodDatabase) => return { state with neighborhoodDatabase }

def handleStreamShutdownMsg (now : Clock) (state : ActorState) (peerAddr : SocketAddr)
    (streamType : RemovedStreamType) : Except Panic ActorState := do
  if streamType ≠ .clandestine then
    .error (.raised "Neighborhood should never get ShutdownStreamMsg about non-clandestine stream")
  else
    match state.neighborhoodDatabase.nodeByIp peerAddr.ip with
    | none => return state
    | some neighbor =>
      -- any Node at the address counts as a neighbor, also the Node itself
      match ← state.neighborhoodDatabase.removeNeighbor env.toEnvironment neighbor.publicKey with
      | .error e => .error (.raised s!"Node suddenly disappeared: \"{e}\"")
      | .ok (true, neighborhoodDatabase) =>
        gossipToNeighbors env order now { state with neighborhoodDatabase }
      | .ok (false, neighborhoodDatabase) => return { state with neighborhoodDatabase }

/-- The progress that the Node will be asked about is looked up again. -/
def sendAskAboutDebutGossipMessage (status : OverallConnectionStatus) (currentPeerAddr : IpAddr) :
    Except Panic Unit :=
  match status.getConnectionProgressByIp currentPeerAddr with
  | some _ => .ok ()
  | none =>
    .error (.raised ("called `Result::unwrap()` on an `Err` value: \"Unable to find the Node in " ++
      s!"connections with IP Address: {env.displayIp currentPeerAddr}\""))

def handleConnectionProgressMessage (message : ConnectionProgressMessage) : Except Panic ActorState :=
  match state.overallConnectionStatus.getConnectionProgressToModify message with
  | none => .ok state
  | some position => do
    let overallConnectionStatus ← state.overallConnectionStatus.advance env.toEnvironment position
      message.event
    let state := { state with overallConnectionStatus }
    -- the stage of the whole status, next to those of its connections
    let connected : ActorState :=
      { state with overallConnectionStatus := { overallConnectionStatus with stage := .connectedToNeighbor } }
    match message.event with
    | .tcpConnectionSuccessful =>
      -- the peer has some time to answer the debut
      sendAskAboutDebutGossipMessage env overallConnectionStatus message.peerAddr
      return state
    | .introductionGossipReceived _ => return connected
    | .standardGossipReceived => return connected
    | _ => return state

/-- A connection that has not changed since then has got no answer. -/
def handleAskAboutDebutGossipMessage (prevConnectionProgress : ConnectionProgress) :
    Except Panic ActorState :=
  let status := state.overallConnectionStatus
  match status.getConnectionProgressByDesc prevConnectionProgress.initialNodeDescriptor with
  | none => .ok state
  | some position =>
    if status.progress[position]? = some prevConnectionProgress then do
      let overallConnectionStatus ← status.advance env.toEnvironment position .noGossipResponseReceived
      return { state with overallConnectionStatus }
    else
      .ok state

def handleAddUnreachableHost (publicKey : PublicKey) (hostname : String) : Except Panic ActorState :=
  match state.neighborhoodDatabase.nodeByKey publicKey with
  | none => .error (.raised s!"No Node Record found for public_key: {publicKey.debug}")
  | some record =>
    let unreachableHosts := record.metadata.unreachableHosts.insert hostname
    let marked := { record with metadata := { record.metadata with unreachableHosts } }
    .ok { state with neighborhoodDatabase := state.neighborhoodDatabase.store publicKey marked }

/-! ### One message after the other -/

def handle (delivery : Delivery) : Except Panic ActorState :=
  match delivery.message with
  | .start minHopsInDatabase => handleStartMessage env state minHopsInDatabase
  | .newPublicIp newIp => handleNewPublicIp env state newIp
  | .routeQuery request => do
    let (_, routing) ← handleRouteQueryMessage env.toActorEnvironment delivery.orders.route
      state.toRouteQueryState request
    return { state with toRouteQueryState := routing }
  | .gossip incomingGossip gossipSource =>
    handleGossip env delivery.orders delivery.now state incomingGossip gossipSource
  | .gossipFailure failureSource _ => handleGossipFailure state failureSource
  | .removeNeighbor publicKey =>
    handleRemoveNeighborMessage env delivery.orders.producer delivery.now state publicKey
  | .connectionProgress message => handleConnectionProgressMessage env state message
  | .askAboutDebutGossip prevConnectionProgress =>
    handleAskAboutDebutGossipMessage env state prevConnectionProgress
  | .addUnreachableHost publicKey hostname => handleAddUnreachableHost state publicKey hostname
  | .streamShutdown peerAddr streamType =>
    handleStreamShutdownMsg env delivery.orders.producer delivery.now state peerAddr streamType

end

end PulseMesh.NeighborhoodActor
