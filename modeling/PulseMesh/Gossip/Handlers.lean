import PulseMesh.Gossip.Production

/-!
# Debut, Pass and Introduction

Gossip is of one of four kinds, and a handler tells by its shape whether it is of its own.  A new Node
debuts with its own record; it is taken as a neighbor, or passed to a Node that has more room, and it
is introduced to another one.  A handler may refuse gossip as malformed, which means that its sender is
a malefactor.

The log lines are left out, the lookups that are made for them are not.
-/

namespace PulseMesh.Gossip

open Machine SubLib Neighborhood

def maxDegree : Nat := 5

def passGossipExpiredTime : Int := 60 * Accountant.nanosInSecond

inductive GossipAcceptanceResult where
  | accepted
  | reply (gossip : SubLib.Gossip) (targetKey : PublicKey) (targetNodeAddr : NodeAddr)
  | failed (failure : GossipFailure) (targetKey : PublicKey) (targetNodeAddr : NodeAddr)
  | ignored
  | ban (reason : String)

inductive Qualification where
  | matched
  | unmatched
  | malformed (reason : String)

inductive ConnectionProgressEvent where
  | tcpConnectionSuccessful
  | tcpConnectionFailed
  | noGossipResponseReceived
  | passLoopFound
  | standardGossipReceived
  | introductionGossipReceived (newNode : IpAddr)
  | passGossipReceived (passTarget : IpAddr)

structure ConnectionProgressMessage where
  peerAddr : IpAddr
  event : ConnectionProgressEvent

/-! ### Countries -/

structure ExitLocation where
  countryCodes : List String
  priority : U64

structure ExitPreferences extends UserExitPreferences where
  locationsOpt : Option (List ExitLocation)

def zzCountryCodeString : String := "ZZ"

def unreachableCountryPenalty : U32 := ⟨100000000, by decide⟩

def countryUndesirabilityFactor : U32 := ⟨1000, u32_thousand⟩

namespace ExitPreferences

variable (p : Profile)

def shouldSetCountryUndesirability (countryCode : String) (exitLocation : ExitLocation) : Bool :=
  decide (countryCode ∈ exitLocation.countryCodes) && decide (countryCode ≠ zzCountryCodeString)

def isUnreachableCountryPenalty (preferences : ExitPreferences) (countryCode : String) : Bool :=
  decide (preferences.fallbackPreference = .exitCountryWithFallback) &&
      !decide (countryCode ∈ preferences.exitCountries) ||
    decide (countryCode = zzCountryCodeString)

def calculateCountryUndesirability (priority : U32) : Except Panic U32 := do
  let rank ← priority.sub p ⟨1, u32_one⟩
  countryUndesirabilityFactor.mul p rank

/-- Only the undesirability of the country is assigned; it is no part of the signed data. -/
def assignNodesCountryUndesirability (preferences : ExitPreferences) (record : NodeRecord) :
    Except Panic NodeRecord := do
  let countryCode := record.inner.countryCodeOpt.getD zzCountryCodeString
  let assigned ← (preferences.locationsOpt.getD []).foldlM
    (fun undesirability exitLocation => do
      let undesirability ←
        if shouldSetCountryUndesirability countryCode exitLocation then
          calculateCountryUndesirability p (exitLocation.priority.cast u32)
        else
          pure undesirability
      return if preferences.isUnreachableCountryPenalty countryCode then unreachableCountryPenalty
        else undesirability)
    record.metadata.countryUndesirability
  return { record with metadata := { record.metadata with countryUndesirability := assigned } }

end ExitPreferences

/-- What the neighborhood tells a handler about itself. -/
structure NeighborhoodMetadata where
  connectionProgressPeers : List IpAddr
  dbPatchSize : Nat
  userExitPreferencesOpt : Option ExitPreferences

/-- What a handler leaves behind: its verdict, the database, and the progress it has noticed. -/
structure Handled where
  result : GossipAcceptanceResult
  database : NeighborhoodDatabase
  progress : List ConnectionProgressMessage

section

variable (env : Environment) (order : SetOrder) (now : Clock) (metadata : NeighborhoodMetadata)

/-- The record of a Node that is new here. -/
def newNodeRecord (agr : AccessibleGossipRecord) : Except Panic NodeRecord :=
  match metadata.userExitPreferencesOpt with
  | some preferences =>
    preferences.assignNodesCountryUndesirability env.profile (NodeRecord.ofAgr env now.timeT agr)
  | none => .ok (NodeRecord.ofAgr env now.timeT agr)

variable (db : NeighborhoodDatabase)

/-- The Node's own record after it has got a neighbor. -/
def signNewLink : Except Panic NeighborhoodDatabase := do
  let root ← db.root
  let root ← root.incrementVersion env
  let root ← root.regenerateSignedGossip env
  return db.store db.thisNode root

/-! ### Degrees -/

def keysOrderedByDegreeExcluding (keys excluding : List PublicKey) : List PublicKey :=
  (order.arrange [] (keys.filter fun key => decide (key ∉ excluding))).insertionSort
    fun a b => db.gossipTargetDegree a ≤ db.gossipTargetDegree b

def nodeAndNeighborKeys (agr : AccessibleGossipRecord) : List PublicKey :=
  agr.inner.publicKey :: agr.inner.neighbors.toList

/-- The keys were found in the database a moment ago. -/
def acceptsConnections (key : PublicKey) : Bool :=
  (db.nodeByKey key).any fun record => record.inner.acceptsConnections

variable (excluded : AccessibleGossipRecord)

def findMoreAppropriateNeighbor : Except Panic (Option PublicKey) := do
  let root ← db.root
  let neighbors := keysOrderedByDegreeExcluding order db (db.fullNeighborKeys root)
    (nodeAndNeighborKeys excluded)
  let qualified := (neighbors.filter (acceptsConnections db)).dropWhile
    fun key => decide (db.gossipTargetDegree key ≤ 2)
  match qualified.head? with
  | none => return none
  | some key =>
    -- a neighbor of degree 3 or greater has to be less connected than this Node
    if db.gossipTargetDegree root.publicKey ≤ db.gossipTargetDegree key then
      return none
    else
      return some key

def findLeastConnectedNeighborExcluding (keys : List PublicKey)
    (excluded : AccessibleGossipRecord) : Option PublicKey :=
  (keysOrderedByDegreeExcluding order db keys (nodeAndNeighborKeys excluded)).head?

def findLeastConnectedHalfNeighborExcluding : Except Panic (Option PublicKey) := do
  let root ← db.root
  return findLeastConnectedNeighborExcluding order db root.inner.neighbors.toList excluded

def findLeastConnectedFullNeighborExcluding : Except Panic (Option PublicKey) := do
  let root ← db.root
  return findLeastConnectedNeighborExcluding order db
    ((db.fullNeighborKeys root).filter (acceptsConnections db)) excluded

/-! ### Debut -/

def makePassGossip (passTarget : PublicKey) : Except Panic SubLib.Gossip := do
  let builder ← GossipBuilder.new.node db passTarget true
  return builder.build

def makeIntroduction (debutingAgr : AccessibleGossipRecord)
    (gossipSource : SocketAddr) : Except Panic (Option (SubLib.Gossip × PublicKey × NodeAddr)) := do
  match ← findLeastConnectedFullNeighborExcluding order db debutingAgr with
  | none => return none
  | some lcnKey =>
    match db.nodeByKey lcnKey with
    | none => .error (.raised "LCN disappeared")
    | some _ =>
      -- a Node that does not tell its address is reached over the stream
      let debutNodeAddr := match debutingAgr.nodeAddrOpt with
        | some nodeAddr => nodeAddr.clone
        | none => NodeAddr.ofSocketAddr gossipSource
      let root ← db.root
      let builder ← GossipBuilder.new.node db root.publicKey true
      let builder ← builder.node db lcnKey true
      return some (builder.build, debutingAgr.inner.publicKey, debutNodeAddr)

/-- The answer to a first debut shows the debuting Node as the only neighbor. -/
def createDebutGossipResponse (debutNodeKey : PublicKey) : Except Panic SubLib.Gossip := do
  let root ← db.root
  match root.clearHalfNeighbors.addHalfNeighborKey debutNodeKey with
  | none =>
    .error (.raised ("Couldn't add debuting " ++ displayKey debutNodeKey ++ " as a half neighbor: " ++
      s!"SelfNeighborAttempt({root.publicKey.debug})"))
  | some rootNode =>
    -- signed for this answer only; the database keeps the record as it was
    let gnr ← gossipNodeRecordOf env rootNode.inner rootNode.nodeAddrOpt
    return ⟨[gnr]⟩

variable (agrs : List AccessibleGossipRecord)

def debutQualifies (gossipSource : SocketAddr) : Qualification :=
  match agrs with
  | [agr] =>
    let about := s!"Debut from {displaySocketAddr env gossipSource} for {displayKey agr.inner.publicKey}"
    -- a Node that is known already is left to the later handlers
    if (db.nodeByKey agr.inner.publicKey).isSome then
      .unmatched
    else
      -- an address goes with the acceptance of connections, and only with it
      match agr.nodeAddrOpt with
      | none =>
        if agr.inner.acceptsConnections then
          .malformed s!"{about} contained no NodeAddr"
        else
          .matched
      | some nodeAddr =>
        if agr.inner.acceptsConnections then
          if nodeAddr.ports = [] then
            .malformed s!"{about} contained NodeAddr with no ports"
          else if nodeAddr.ipAddr = gossipSource.ip then
            .matched
          else
            .unmatched
        else
          .malformed s!"{about} does not accept connections, yet contained NodeAddr"
  | _ => .unmatched

/-- The database with the debuting Node as a half neighbor. -/
def addDebutingNode (db : NeighborhoodDatabase)
    (debutingAgr : AccessibleGossipRecord) : Except Panic NeighborhoodDatabase := do
  let debutingNode ← newNodeRecord env now metadata debutingAgr.clone
  match db.addNode debutingNode with
  | .error _ => .error (.raised "Debuting Node suddenly appeared in database")
  | .ok (debutNodeKey, db) =>
    match db.addHalfNeighbor now.timeT debutNodeKey with
    | .error (.nodeKeyNotFound key) => .error (.raised s!"Node {displayKey key} magically disappeared")
    | .error _ => .error (.raised s!"Unexpected error accepting debut from {displayKey debutNodeKey}")
    | .ok (false, _) => .error (.raised "Brand-new neighbor already existed")
    | .ok (true, db) => signNewLink env db

/-- There is no answer when the Node has as many neighbors as it can have. -/
def tryAcceptDebut (db : NeighborhoodDatabase)
    (debutingAgr : AccessibleGossipRecord) (gossipSource : SocketAddr) :
    Except Panic (Option (GossipAcceptanceResult × NeighborhoodDatabase)) := do
  let root ← db.root
  -- full neighbors that accept connections and neighbors without a record both count
  if maxDegree ≤ db.gossipTargetDegree root.publicKey then
    return none
  else
    let db ← addDebutingNode env now metadata db debutingAgr
    -- a Node that has neighbors already is not introduced to another one
    if debutingAgr.inner.neighbors.toList ≠ [] then
      return some (.accepted, db)
    else
      match ← makeIntroduction order db debutingAgr gossipSource with
      | some (introduction, targetKey, targetNodeAddr) =>
        return some (.reply introduction targetKey targetNodeAddr, db)
      | none =>
        -- nobody to introduce: the Node answers for itself
        let debutGossip ← createDebutGossipResponse env db debutingAgr.inner.publicKey
        match debutingAgr.nodeAddrOpt with
        | none => .error (.raised "Debut gossip always has an IP")
        | some nodeAddr => return some (.reply debutGossip debutingAgr.inner.publicKey nodeAddr.clone, db)

/-- The address that an answer to a debut goes to. -/
def debutSourceAddr (agr : AccessibleGossipRecord) (gossipSource : SocketAddr) : NodeAddr :=
  agr.nodeAddrOpt.getD (NodeAddr.ofSocketAddr gossipSource)

def debutHandle (db : NeighborhoodDatabase)
    (agrs : List AccessibleGossipRecord) (gossipSource : SocketAddr) : Except Panic Handled := do
  match agrs with
  -- a `remove(0)` in the source
  | [] => .error (.raised "removal index (is 0) should be < len (is 0)")
  | agr :: _ =>
    let sourceNodeAddr := debutSourceAddr agr gossipSource
    let sourceAgr := { agr with nodeAddrOpt := some sourceNodeAddr }
    let sourceKey := sourceAgr.inner.publicKey
    -- a neighbor that needs the debuting Node more gets it
    match ← findMoreAppropriateNeighbor order db sourceAgr with
    | some preferredKey =>
      match db.nodeByKey preferredKey with
      | none => .error (.raised "Preferred Node disappeared")
      | some preferredNode =>
        match preferredNode.nodeAddrOpt with
        | none => .error (.raised "Preferred Node's NodeAddr disappeared")
        | some _ =>
          let passGossip ← makePassGossip db preferredKey
          return ⟨.reply passGossip sourceKey sourceNodeAddr.clone, db, []⟩
    | none =>
      match ← tryAcceptDebut env order now metadata db sourceAgr gossipSource with
      | some (result, db) => return ⟨result, db, []⟩
      | none =>
        -- this Node is full: the debuting Node is passed on to a neighbor
        match ← findLeastConnectedHalfNeighborExcluding order db sourceAgr with
        | none => return ⟨.failed .noSuitableNeighbors sourceKey sourceNodeAddr.clone, db, []⟩
        | some lcnKey =>
          match db.nodeByKey lcnKey with
          | none => .error (.raised "LCN Disappeared")
          | some _ =>
            let passGossip ← makePassGossip db lcnKey
            return ⟨.reply passGossip sourceKey sourceNodeAddr.clone, db, []⟩

/-! ### Pass -/

def passQualifies (gossipSource : SocketAddr) : Qualification :=
  match agrs with
  | [agr] =>
    let about := s!"Pass from {displaySocketAddr env gossipSource} to {displayKey agr.inner.publicKey}"
    match agr.nodeAddrOpt with
    | none => .malformed s!"{about} did not contain NodeAddr"
    | some nodeAddr =>
      -- a record under the address of its sender is no Pass
      if nodeAddr.ports = [] then
        .malformed s!"{about} at {env.displayIp nodeAddr.ipAddr} contained NodeAddr with no ports"
      else if nodeAddr.ipAddr = gossipSource.ip then
        .unmatched
      else
        .matched
  | _ => .unmatched

abbrev PassTargets := AList fun _ : IpAddr => Accountant.SystemTime

/-- A Node debuts to the Node that it is passed to, unless it has just been passed there before. -/
def passHandle (db : NeighborhoodDatabase)
    (previousPassTargets : PassTargets) (agrs : List AccessibleGossipRecord)
    (gossipSource : SocketAddr) : Except Panic (Handled × PassTargets) := do
  match agrs with
  | [] => .error (.raised "index out of bounds: the len is 0 but the index is 0")
  | passAgr :: _ =>
    match passAgr.nodeAddrOpt with
    | none => .error (.raised "Pass lost its NodeAddr")
    | some passTargetNodeAddr =>
      let passTargetIpAddr := passTargetNodeAddr.ipAddr
      let remembered := previousPassTargets.insert passTargetIpAddr now.systemTime
      let loopFound := ⟨.ignored, db, [⟨gossipSource.ip, .passLoopFound⟩]⟩
      let debut : Except Panic Handled := do
        let gossip ← produceDebut db
        return ⟨.reply gossip passAgr.inner.publicKey passTargetNodeAddr.clone, db,
          [⟨gossipSource.ip, .passGossipReceived passTargetIpAddr⟩]⟩
      -- the targets of earlier Passes are remembered with the time of the last one
      match previousPassTargets.lookup passTargetIpAddr with
      | none =>
        -- a peer that the Node is connecting to anyway; no time is remembered for it
        if passTargetIpAddr ∈ metadata.connectionProgressPeers then
          return (loopFound, previousPassTargets)
        else
          let handled ← debut
          return (handled, remembered)
      | some timestamp =>
        -- a clock that has gone back gives no duration
        if now.systemTime.nanos < timestamp.nanos then
          .error (.raised "Failed to calculate duration for pass target timestamp.")
        else if now.systemTime.nanos - timestamp.nanos ≤ passGossipExpiredTime then
          return (loopFound, remembered)
        else
          let handled ← debut
          return (handled, remembered)

/-! ### Introduction -/

/-- Whether the first of the two records is the introducer, who has sent the gossip. -/
def orderIsIntroduceeIntroducer (first second : AccessibleGossipRecord) (gossipSource : SocketAddr) :
    Except Qualification Bool :=
  match first.nodeAddrOpt, second.nodeAddrOpt with
  | none, _ => .error .unmatched
  | some _, none => .error .unmatched
  | some firstAddr, some secondAddr =>
    if firstAddr.ipAddr = gossipSource.ip then
      .ok true
    else if secondAddr.ipAddr = gossipSource.ip then
      .ok false
    else
      .error (.malformed (s!"In Introduction, neither {displayKey first.inner.publicKey} from " ++
        s!"{env.displayIp firstAddr.ipAddr} nor {displayKey second.inner.publicKey} from " ++
        s!"{env.displayIp secondAddr.ipAddr} claims the source IP {env.displayIp gossipSource.ip}"))

/-- The introducer and the introducee. -/
def identifyPlayers (first second : AccessibleGossipRecord) (gossipSource : SocketAddr) :
    Except Qualification (AccessibleGossipRecord × AccessibleGossipRecord) := do
  if ← orderIsIntroduceeIntroducer env first second gossipSource then
    return (first, second)
  else
    return (second, first)

def verifyIntroducer (agr : AccessibleGossipRecord) (rootNode : NodeRecord) :
    Except Panic (Option Qualification) :=
  let introducer := s!"Introducer {displayKey agr.inner.publicKey}"
  if agr.inner.publicKey = rootNode.publicKey then
    .ok (some (.malformed s!"{introducer} claims local Node's public key"))
  else
    match agr.nodeAddrOpt with
    | none => .error (.raised "NodeAddr disappeared")
    | some nodeAddr =>
      if nodeAddr.ports = [] then
        .ok (some (.malformed s!"{introducer} from {env.displayIp nodeAddr.ipAddr} has no ports"))
      else if rootNode.nodeAddrOpt.any fun rootAddr => decide (nodeAddr.ipAddr = rootAddr.ipAddr) then
        .ok (some (.malformed s!"{introducer} claims to be at local Node's IP address"))
      else
        .ok none

def verifyIntroducee (introducer introducee : AccessibleGossipRecord)
    (gossipSource : SocketAddr) : Option Qualification :=
  let introducerKey := displayKey introducer.inner.publicKey
  let introduceeKey := displayKey introducee.inner.publicKey
  -- without a new Node to introduce, the gossip is standard gossip
  if (db.nodeByKey introducee.inner.publicKey).isSome then
    some .unmatched
  else
    match introducee.nodeAddrOpt with
    | none => some .unmatched
    | some nodeAddr =>
      if nodeAddr.ports = [] then
        let introducerIp := match introducer.nodeAddrOpt with
          | some introducerAddr => env.displayIp introducerAddr.ipAddr
          | none => "?.?.?.?"
        some (.malformed (s!"Introducer {introducerKey} from {introducerIp} introduced " ++
          s!"{introduceeKey} from {env.displayIp nodeAddr.ipAddr} with no ports"))
      else if nodeAddr.ipAddr = gossipSource.ip then
        some (.malformed (s!"Introducer {introducerKey} and introducee {introduceeKey} both claim " ++
          env.displayIp gossipSource.ip))
      else
        none

def introductionQualifies (gossipSource : SocketAddr) : Except Panic Qualification := do
  match agrs with
  | [first, second] =>
    match identifyPlayers env first second gossipSource with
    | .error qualification => return qualification
    | .ok (introducer, introducee) =>
      let root ← db.root
      match ← verifyIntroducer env introducer root with
      | some qualification => return qualification
      | none => return (verifyIntroducee env db introducer introducee gossipSource).getD .matched
  | _ => return .unmatched

variable {agrs}

/-- The introducer as a half neighbor, if it is not there yet. -/
def linkIntroducer (db : NeighborhoodDatabase) (introducerKey : PublicKey) :
    Except Panic NeighborhoodDatabase :=
  match db.addHalfNeighbor now.timeT introducerKey with
  | .error _ => .error (.raised "introducer not in database")
  | .ok (true, db) => signNewLink env db
  | .ok (false, db) => .ok db

def updateDatabase (db : NeighborhoodDatabase)
    (introducer : AccessibleGossipRecord) : Except Panic (Except String NeighborhoodDatabase) := do
  let introducerKey := introducer.inner.publicKey
  match db.nodeByKey introducerKey with
  | some existing =>
    -- an introducer that is known and not newer is not linked either
    if existing.version.val < introducer.inner.version.val then
      match existing.update env now.timeT introducer with
      | .error e => return .error e
      | .ok updated =>
        let db ← linkIntroducer env now (db.store introducerKey updated) introducerKey
        return .ok db
    else
      return .ok db
  | none =>
    let newIntroducer ← newNodeRecord env now metadata introducer
    match db.addNode newIntroducer with
    | .error _ => .error (.raised "add_node should always work here")
    | .ok (_, db) =>
      let db ← linkIntroducer env now db introducerKey
      return .ok db

def makeDebutTriple (debutTarget : AccessibleGossipRecord) :
    Except Panic (Except String (SubLib.Gossip × PublicKey × NodeAddr)) := do
  let target := s!"Can't generate debut to {displayKey debutTarget.inner.publicKey}"
  match debutTarget.nodeAddrOpt with
  | none => return .error s!"{target}: no IP address supplied"
  | some nodeAddr =>
    if nodeAddr.ports = [] then
      return .error s!"{target} at {env.displayIp nodeAddr.ipAddr}: no ports were specified"
    else
      let debutGossip ← produceDebut db
      return .ok (debutGossip, debutTarget.inner.publicKey, nodeAddr.clone)

variable {db}

def introductionHandle (db : NeighborhoodDatabase)
    (agrs : List AccessibleGossipRecord) (gossipSource : SocketAddr) : Except Panic Handled := do
  let root ← db.root
  -- here only the full neighbors count
  if maxDegree ≤ (db.fullNeighborKeys root).length then
    return ⟨.ignored, db, []⟩
  else
    match agrs with
    | first :: second :: _ =>
      match identifyPlayers env first second gossipSource with
      | .error _ => .error (.raised "Introduction not properly qualified")
      | .ok (introducer, introducee) =>
        match introducer.nodeAddrOpt, introducee.nodeAddrOpt with
        | some introducerAddr, some introduceeAddr =>
          -- the introducer becomes a neighbor, the introducee only gets a debut
          match ← updateDatabase env now metadata db introducer with
          | .error e =>
            return ⟨.ban (s!"Introducer {displayKey introducer.inner.publicKey} tried changing " ++
              s!"immutable characteristic: {e}"), db, []⟩
          | .ok db =>
            match ← makeDebutTriple env db introducee with
            | .error _ => .error (.raised "Introduction not properly qualified")
            | .ok (debut, targetKey, targetNodeAddr) =>
              return ⟨.reply debut targetKey targetNodeAddr, db,
                [⟨introducerAddr.ipAddr, .introductionGossipReceived introduceeAddr.ipAddr⟩]⟩
        | _, _ => .error (.raised "IP Address not found for the Node Addr.")
    | _ => .error (.raised "index out of bounds")

end

end PulseMesh.Gossip
