import PulseMesh.Gossip.Database

/-!
# Outgoing gossip

Gossip is built from the records of the database, each one at most once.  Standard gossip for a
neighbor has all Nodes that anybody has mentioned, with the addresses that the neighbor knows already.
-/

namespace PulseMesh.Gossip

open Machine SubLib Neighborhood

/-- One reading of the clock, in the two units that are used. -/
structure Clock where
  timeT : U32
  systemTime : Accountant.SystemTime

structure GossipBuilder where
  nodeRecords : List GossipNodeRecord
  keysSoFar : List PublicKey

namespace GossipBuilder

def new : GossipBuilder := ⟨[], []⟩

def node (db : NeighborhoodDatabase) (publicKey : PublicKey) (revealNodeAddr : Bool)
    (builder : GossipBuilder) : Except Panic GossipBuilder :=
  if publicKey ∈ builder.keysSoFar then
    .error (.raised "GossipBuilder cannot add a Node more than once")
  else
    match db.nodeByKey publicKey with
    | none => .error (.raised "GossipBuilder cannot add a nonexistent Node")
    | some record =>
      let gnr := record.toGossipNodeRecord
      let gnr := if !revealNodeAddr || !record.inner.acceptsConnections then
          { gnr with nodeAddrOpt := none }
        else gnr
      .ok ⟨builder.nodeRecords ++ [gnr], builder.keysSoFar ++ [record.publicKey]⟩

def build (builder : GossipBuilder) : SubLib.Gossip := ⟨builder.nodeRecords⟩

end GossipBuilder

def deadNodeCheckIntervalSecs : U32 := ⟨60, by decide⟩

def produceDebut (db : NeighborhoodDatabase) : Except Panic SubLib.Gossip := do
  let root ← db.root
  let builder ← GossipBuilder.new.node db root.publicKey true
  return builder.build

section

variable (env : Environment) (order : SetOrder)

/-- The database and the time of the last check, after a check if one is due. -/
def checkForDeadNodes (now : Clock) (db : NeighborhoodDatabase) (lastDeadNodeCheck : U32) :
    Except Panic (NeighborhoodDatabase × U32) := do
  let elapsed ← now.timeT.sub env.profile lastDeadNodeCheck
  if deadNodeCheckIntervalSecs.val ≤ elapsed.val then
    let db ← db.cullDeadNodes env now.timeT
    return (db, now.timeT)
  else
    return (db, lastDeadNodeCheck)

/-- The gossip about all Nodes that are mentioned, for a target that is in the database. -/
def gossipFor (db : NeighborhoodDatabase) (target : PublicKey) (targetNode : NodeRecord) :
    Except Panic SubLib.Gossip := do
  let referenced ← db.referencedNodeKeys
  let root ← db.root
  let records := (((order.arrange [target] db.keys).filter fun key => decide (key ≠ target)).filter
    fun key => decide (key ∈ referenced)).filterMap db.nodeByKey
  let builder ← records.foldlM (fun builder record =>
      builder.node db record.publicKey (record.inner.acceptsConnections &&
        (decide (record.publicKey = root.publicKey) || targetNode.hasHalfNeighbor record.publicKey)))
    GossipBuilder.new
  return builder.build

def produce (now : Clock) (db : NeighborhoodDatabase) (lastDeadNodeCheck : U32) (target : PublicKey) :
    Except Panic (Option SubLib.Gossip × NeighborhoodDatabase × U32) := do
  let (db, lastDeadNodeCheck) ← checkForDeadNodes env now db lastDeadNodeCheck
  match db.nodeByKey target with
  | none => return (none, db, lastDeadNodeCheck)
  | some targetNode =>
    let gossip ← gossipFor order db target targetNode
    return (some gossip, db, lastDeadNodeCheck)

end

end PulseMesh.Gossip
