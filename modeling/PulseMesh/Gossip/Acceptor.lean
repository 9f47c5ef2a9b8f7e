import PulseMesh.Gossip.Handlers

/-!
# Standard gossip and the acceptor

Gossip that is no Debut, Pass or Introduction is standard gossip: the records of many Nodes, of which
those within reach are taken over, new ones and newer ones.  The Node that has sent it becomes a
neighbor if there is room.  The acceptor gives gossip to the first handler that it is meant for.
-/

namespace PulseMesh.Gossip

open Machine SubLib Neighborhood

section

variable (env : Environment)

/-! ### Standard gossip -/

/-- The IP addresses that an earlier record of the list has claimed already. -/
def duplicateIps : List IpAddr → List IpAddr → List IpAddr
  | _, [] => []
  | seen, ip :: ips => if ip ∈ seen then ip :: duplicateIps seen ips else duplicateIps (ip :: seen) ips

/-- The root's address is looked at only if there is a record to compare it with. -/
def findImpostor (rootNode : NodeRecord) (agrsNextDoor : List (AccessibleGossipRecord × IpAddr)) :
    Except Panic (Option AccessibleGossipRecord) :=
  if !rootNode.inner.acceptsConnections || agrsNextDoor.isEmpty then
    .ok none
  else
    match rootNode.nodeAddrOpt with
    | none => .error (.raised "Root Node that accepts connections must have NodeAddr")
    | some rootAddr =>
      .ok ((agrsNextDoor.find? fun agr => decide (agr.2 = rootAddr.ipAddr)).map Prod.fst)

variable (agrs : List AccessibleGossipRecord)

/-- The records that come with an address, with their IP addresses. -/
def nextDoor : List (AccessibleGossipRecord × IpAddr) :=
  agrs.filterMap fun agr => agr.nodeAddrOpt.map fun nodeAddr => (agr, nodeAddr.ipAddr)

/-- Of several duplicates the first one is named; in the source it depends on the order of a set. -/
def standardQualifies (db : NeighborhoodDatabase) (agrs : List AccessibleGossipRecord)
    (gossipSource : SocketAddr) : Except Panic Qualification := do
  let rootNode ← db.root
  let about := s!"Standard Gossip from {displaySocketAddr env gossipSource} contains"
  -- the checks are made in this order, and the first that fails is reported
  match ← findImpostor rootNode (nextDoor agrs) with
  | some impostor =>
    return .malformed (about ++
      s!" a record claiming that {displayKey impostor.inner.publicKey} has this Node's IP address")
  | none =>
    if agrs.any fun agr => decide (agr.inner.publicKey = rootNode.publicKey) then
      return .malformed s!"{about} a record with this Node's public key"
    else
      match duplicateIps [] ((nextDoor agrs).map Prod.snd) with
      | [] => return .matched
      | ip :: _ => return .malformed s!"{about} multiple records claiming to be from {env.displayIp ip}"

/-- The keys within reach of the Node, as far as the gossip tells.  A Node without a record is no part
of the patch. -/
def computePatchRecursive (neighborsOf : PublicKey → Option (SortedSet PublicKey)) :
    Nat → PublicKey → List PublicKey → List PublicKey
  | 0, current, patch => patch.insert current
  | hopsRemaining + 1, current, patch =>
    match neighborsOf current with
    -- put in and taken out again, as the source does it
    | none => (patch.insert current).erase current
    | some neighbors =>
      neighbors.toList.foldl
        (fun patch neighbor =>
          if neighbor ∈ patch then patch
          else computePatchRecursive neighborsOf hopsRemaining neighbor patch)
        (patch.insert current)

/-- Of several records of one Node the last one counts. -/
def computePatch (rootNode : NodeRecord) (dbPatchSize : Nat) : List PublicKey :=
  -- the Node knows its own neighbors from its database, the others' from the gossip
  let neighborsOf := fun key =>
    if key = rootNode.publicKey then
      some rootNode.inner.neighbors
    else
      (agrs.reverse.find? fun agr => decide (agr.inner.publicKey = key)).map fun agr => agr.inner.neighbors
  computePatchRecursive neighborsOf dbPatchSize rootNode.publicKey []

def filterAgrsByPatch (patch : List PublicKey) : List AccessibleGossipRecord :=
  agrs.filter fun agr => decide (agr.inner.publicKey ∈ patch)

variable {agrs}

/-- An address that comes with an unknown Node is believed to the Node itself only. -/
def isNonIntroductory (gossipSource : SocketAddr) (agr : AccessibleGossipRecord) : Bool :=
  match agr.nodeAddrOpt with
  | none => true
  | some nodeAddr => decide (gossipSource ∈ nodeAddr.clone.toSocketAddrs)

variable (now : Clock) (metadata : NeighborhoodMetadata)

def addNewNode (db : NeighborhoodDatabase)
    (agr : AccessibleGossipRecord) : Except Panic NeighborhoodDatabase := do
  let record ← newNodeRecord env now metadata agr.clone
  match db.addNode record with
  | .ok (_, db) => return db
  | .error _ => .error (.raised "List of new Nodes contained existing Nodes")

/-- The records that are added to a database with the given keys. -/
def newAgrs (allKeys : List PublicKey) (gossipSource : SocketAddr) (agrs : List AccessibleGossipRecord) :
    List AccessibleGossipRecord :=
  (agrs.filter fun agr => decide (agr.inner.publicKey ∉ allKeys)).filter (isNonIntroductory gossipSource)

def identifyAndAddNonIntroductoryNewNodes
    (db : NeighborhoodDatabase) (agrs : List AccessibleGossipRecord) (gossipSource : SocketAddr) :
    Except Panic (Bool × NeighborhoodDatabase) := do
  let added ← (newAgrs db.keys gossipSource agrs).foldlM (addNewNode env now metadata) db
  return (decide (added.keys.length ≠ db.keys.length), added)

/-- Newer data of a known Node are taken over; data that cannot be are only logged. -/
def updateIfObsolete (changed : Bool × NeighborhoodDatabase)
    (agr : AccessibleGossipRecord) : Bool × NeighborhoodDatabase :=
  match changed.2.nodeByKey agr.inner.publicKey with
  | none => changed
  | some existing =>
    if existing.version.val < agr.inner.version.val then
      match existing.update env now.timeT agr with
      | .ok updated => (true, changed.2.store agr.inner.publicKey updated)
      | .error _ => changed
    else
      changed

def identifyAndUpdateObsoleteNodes (db : NeighborhoodDatabase)
    (agrs : List AccessibleGossipRecord) : Bool × NeighborhoodDatabase :=
  agrs.foldl (updateIfObsolete env now) (false, db)

def addSrcNodeAsHalfNeighbor (db : NeighborhoodDatabase) (gossipSource : SocketAddr) :
    Except Panic (Bool × NeighborhoodDatabase) := do
  -- the sender is looked up by its IP address, not by the key in the gossip
  match db.nodeByIp gossipSource.ip with
  | none => return (false, db)
  | some gossipNode =>
    let root ← db.root
    if maxDegree ≤ (db.fullNeighborKeys root).length then
      return (false, db)
    else
      match db.addHalfNeighbor now.timeT gossipNode.publicKey with
      -- the errors are logged
      | .error _ => return (false, db)
      | .ok (false, _) => return (false, db)
      | .ok (true, linked) =>
        let signed ← signNewLink env linked
        return (true, signed)

def checkFullNeighbor (db : NeighborhoodDatabase) (gossipSourceIp : IpAddr) : Except Panic Bool := do
  match db.nodeByIp gossipSourceIp with
  | none => return false
  | some node =>
    let root ← db.root
    return db.hasFullNeighbor root.publicKey node.publicKey

/-- The changes that standard gossip makes, and whether there is any. -/
def applyStandardGossip (db : NeighborhoodDatabase)
    (agrs : List AccessibleGossipRecord) (gossipSource : SocketAddr) :
    Except Panic (Bool × NeighborhoodDatabase) := do
  let rootNode ← db.root
  let filteredAgrs := filterAgrsByPatch agrs (computePatch agrs rootNode metadata.dbPatchSize)
  let (added, db) ← identifyAndAddNonIntroductoryNewNodes env now metadata db filteredAgrs gossipSource
  let (updated, db) := identifyAndUpdateObsoleteNodes env now db filteredAgrs
  let (linked, db) ← addSrcNodeAsHalfNeighbor env now db gossipSource
  return (linked || (updated || added), db)

def standardHandle (db : NeighborhoodDatabase)
    (agrs : List AccessibleGossipRecord) (gossipSource : SocketAddr) : Except Panic Handled := do
  let initialNeighborshipStatus ← checkFullNeighbor db gossipSource.ip
  let (dbChanged, db) ← applyStandardGossip env now metadata db agrs gossipSource
  let finalNeighborshipStatus ← checkFullNeighbor db gossipSource.ip
  -- the sender may have become a full neighbor by this gossip
  if dbChanged then
    if !initialNeighborshipStatus && finalNeighborshipStatus then
      return ⟨.accepted, db, [⟨gossipSource.ip, .standardGossipReceived⟩]⟩
    else
      return ⟨.accepted, db, []⟩
  else
    return ⟨.ignored, db, []⟩

end

/-! ### The acceptor -/

inductive HandlerType where
  | debutHandler
  | passHandler
  | introductionHandler
  | standardGossipHandler
  | rejectHandler

def gossipHandlers : List HandlerType :=
  [.debutHandler, .passHandler, .introductionHandler, .standardGossipHandler, .rejectHandler]

/-- The acceptor's own state is what the handler of passes remembers. -/
structure Acceptance where
  handled : Handled
  previousPassTargets : PassTargets

section

variable (env : Environment) (order : SetOrder)

def qualifies (db : NeighborhoodDatabase) (agrs : List AccessibleGossipRecord)
    (gossipSource : SocketAddr) : HandlerType → Except Panic Qualification
  | .debutHandler => .ok (debutQualifies env db agrs gossipSource)
  | .passHandler => .ok (passQualifies env agrs gossipSource)
  | .introductionHandler => introductionQualifies env db agrs gossipSource
  | .standardGossipHandler => standardQualifies env db agrs gossipSource
  | .rejectHandler =>
    .ok (.malformed (s!"Gossip with {agrs.length} records from {displaySocketAddr env gossipSource} " ++
      "is unclassifiable by any qualifier"))

/-- The first handler that the gossip does not leave alone, with what it says. -/
def findHandler (db : NeighborhoodDatabase) (agrs : List AccessibleGossipRecord)
    (gossipSource : SocketAddr) : List HandlerType → Except Panic (Qualification × HandlerType)
  | [] => .error (.raised "gossip_handlers should intercept everything")
  | handler :: handlers => do
    match ← qualifies env db agrs gossipSource handler with
    -- malformed gossip ends the search as well as matching gossip does
    | .unmatched => findHandler db agrs gossipSource handlers
    | qualification => return (qualification, handler)

/-- The handling of the gossip that a handler has found to be meant for it. -/
def handleBy (now : Clock) (metadata : NeighborhoodMetadata) (db : NeighborhoodDatabase)
    (previousPassTargets : PassTargets) (agrs : List AccessibleGossipRecord)
    (gossipSource : SocketAddr) : HandlerType → Except Panic Acceptance
  | .debutHandler => do
    let handled ← debutHandle env order now metadata db agrs gossipSource
    return ⟨handled, previousPassTargets⟩
  | .passHandler => do
    let (handled, remembered) ← passHandle now metadata db previousPassTargets agrs gossipSource
    return ⟨handled, remembered⟩
  | .introductionHandler => do
    let handled ← introductionHandle env now metadata db agrs gossipSource
    return ⟨handled, previousPassTargets⟩
  | .standardGossipHandler => do
    let handled ← standardHandle env now metadata db agrs gossipSource
    return ⟨handled, previousPassTargets⟩
  | .rejectHandler => .error (.raised "Should never be called")

def acceptGossip (now : Clock) (metadata : NeighborhoodMetadata) (db : NeighborhoodDatabase)
    (previousPassTargets : PassTargets) (agrs : List AccessibleGossipRecord)
    (gossipSource : SocketAddr) : Except Panic Acceptance := do
  let (qualification, handler) ← findHandler env db agrs gossipSource gossipHandlers
  match qualification with
  | .matched => handleBy env order now metadata db previousPassTargets agrs gossipSource handler
  -- the rejecting handler comes last and never answers this
  | .unmatched => .error (.raised "Nothing in gossip_handlers returned Matched or Malformed")
  | .malformed reason => return ⟨⟨.ban reason, db, []⟩, previousPassTargets⟩

end

end PulseMesh.Gossip
