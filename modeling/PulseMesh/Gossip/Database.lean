import PulseMesh.Gossip.Records
import PulseMesh.Lib.Indexes

/-!
# The neighborhood database

The records of all known Nodes by their public keys, the Node's own one among them, and an index by
IP address.  Hash maps are association lists without repeated keys; where the order of a hash set
matters, it is a parameter.  The links of a Node are the half neighbors in its record; a link is full
when the other record has it too.

`time_t_timestamp()` is a parameter of the operations that read the clock.
-/

namespace PulseMesh.Gossip

open Machine SubLib Neighborhood Function List

inductive Chain where
  | pulseMainnet
  | ethMainnet
  | ethRopsten
  | polyMainnet
  | polyAmoy
  | baseMainnet
  | baseSepolia
  | dev
deriving DecidableEq

structure NodeDescriptor where
  blockchain : Chain
  encryptionPublicKey : PublicKey
  nodeAddrOpt : Option NodeAddr
deriving DecidableEq

inductive NeighborhoodMode where
  | standard (nodeAddr : NodeAddr) (neighborConfigs : List NodeDescriptor) (ratePack : RatePack)
  | zeroHop
  | originateOnly (neighborConfigs : List NodeDescriptor) (ratePack : RatePack)
  | consumeOnly (neighborConfigs : List NodeDescriptor)

namespace NeighborhoodMode

def zeroRatePack : RatePack := ⟨⟨0, u64_zero⟩, ⟨0, u64_zero⟩, ⟨0, u64_zero⟩, ⟨0, u64_zero⟩⟩

def nodeAddrOpt : NeighborhoodMode → Option NodeAddr
  | .standard nodeAddr _ _ => some nodeAddr.clone
  | _ => none

def ratePack : NeighborhoodMode → RatePack
  | .standard _ _ ratePack => ratePack
  | .originateOnly _ ratePack => ratePack
  | _ => zeroRatePack

def acceptsConnections : NeighborhoodMode → Bool
  | .standard _ _ _ => true
  | _ => false

def routesData : NeighborhoodMode → Bool
  | .standard _ _ _ => true
  | .originateOnly _ _ => true
  | _ => false

end NeighborhoodMode

structure NeighborhoodDatabase where
  thisNode : PublicKey
  byPublicKey : AList fun _ : PublicKey => NodeRecord
  byIpAddr : AList fun _ : IpAddr => PublicKey

inductive NeighborhoodDatabaseError where
  | nodeKeyNotFound (key : PublicKey)
  | nodeKeyCollision (key : PublicKey)
  | selfNeighborAttempt (key : PublicKey)
  | nodeAddrAlreadySet (nodeAddr : NodeAddr)
  | emptyPortList

def isolatedNodeGracePeriodSecs : U32 := ⟨30, by decide⟩

namespace NeighborhoodDatabase

/-! ### Looking up -/

variable (db : NeighborhoodDatabase)

def nodeByKey (key : PublicKey) : Option NodeRecord :=
  db.byPublicKey.lookup key

def keyByIp (ip : IpAddr) : Option PublicKey := db.byIpAddr.lookup ip

def nodeByIp (ip : IpAddr) : Option NodeRecord :=
  (db.keyByIp ip).bind db.nodeByKey

def keys : List PublicKey := db.byPublicKey.keys

def root : Except Panic NodeRecord :=
  match db.nodeByKey db.thisNode with
  | some record => .ok record
  | none => .error (.raised "Internal error")

def hasHalfNeighbor (source target : PublicKey) : Bool :=
  match db.nodeByKey source with
  | some record => record.hasHalfNeighbor target
  | none => false

def hasFullNeighbor (source target : PublicKey) : Bool :=
  db.hasHalfNeighbor source target && db.hasHalfNeighbor target source

def fullNeighborKeys (record : NodeRecord) : List PublicKey :=
  record.inner.neighbors.toList.filter fun key => db.hasHalfNeighbor key record.publicKey

/-- Nodes outside the database count as full neighbors. -/
def gossipTargetDegree (target : PublicKey) : Nat :=
  match db.nodeByKey target with
  | none => 0
  | some targetNode =>
    -- the full neighbors have just been found in the database
    let fullAcceptingDegree := (((db.fullNeighborKeys targetNode).filterMap db.nodeByKey).filter
      fun neighbor => neighbor.inner.acceptsConnections).length
    let nonexistentDegree := (targetNode.inner.neighbors.toList.filter
      fun key => decide (key ∉ db.keys)).length
    fullAcceptingDegree + nonexistentDegree

def referencedNodeKeys : Except Panic (List PublicKey) := do
  let root ← db.root
  return root.publicKey ::
    (db.keys.filterMap db.nodeByKey).flatMap fun record => record.inner.neighbors.toList

/-! ### Changing -/

/-- The record that a mutable borrow under the key leaves behind. -/
def store (key : PublicKey) (record : NodeRecord) : NeighborhoodDatabase :=
  { db with byPublicKey := db.byPublicKey.insert key record }

def index (ip : IpAddr) (key : PublicKey) : NeighborhoodDatabase :=
  { db with byIpAddr := db.byIpAddr.insert ip key }

def unindex (nodeAddrOpt : Option NodeAddr) : NeighborhoodDatabase :=
  match nodeAddrOpt with
  | some nodeAddr => { db with byIpAddr := db.byIpAddr.erase nodeAddr.ipAddr }
  | none => db

def addArbitraryNode (record : NodeRecord) : NeighborhoodDatabase :=
  match record.nodeAddrOpt with
  -- an earlier owner of the address is no longer found by it
  | some nodeAddr => (db.store record.publicKey record).index nodeAddr.ipAddr record.publicKey
  | none => db.store record.publicKey record

def checkForPorts (nodeAddrOpt : Option NodeAddr) : Except NeighborhoodDatabaseError Unit :=
  match nodeAddrOpt with
  | none => .ok ()
  | some nodeAddr => if nodeAddr.ports = [] then .error .emptyPortList else .ok ()

def checkForCollision (key : PublicKey) : Except NeighborhoodDatabaseError Unit :=
  if key ∈ db.keys then .error (.nodeKeyCollision key) else .ok ()

def addNode (record : NodeRecord) :
    Except NeighborhoodDatabaseError (PublicKey × NeighborhoodDatabase) := do
  checkForPorts record.nodeAddrOpt
  db.checkForCollision record.publicKey
  return (record.publicKey, db.addArbitraryNode record)

/-- Only the Node's own record gets neighbors this way. -/
def addHalfNeighbor (now : U32) (db : NeighborhoodDatabase) (newNeighbor : PublicKey) :
    Except NeighborhoodDatabaseError (Bool × NeighborhoodDatabase) :=
  if newNeighbor ∉ db.keys then
    .error (.nodeKeyNotFound newNeighbor)
  else if db.hasHalfNeighbor db.thisNode newNeighbor then
    .ok (false, db)
  else
    -- the source looks its own record up once more, now to change it
    match db.nodeByKey db.thisNode with
    | none => .error (.nodeKeyNotFound db.thisNode)
    | some node =>
      match node.addHalfNeighborKey newNeighbor with
      | none => .error (.selfNeighborAttempt node.publicKey)
      | some node =>
        .ok (true, db.store db.thisNode { node with metadata := { node.metadata with lastUpdate := now } })

def removeNode (key : PublicKey) : NeighborhoodDatabase :=
  let nodeAddrOpt := (db.nodeByKey key).bind NodeRecord.nodeAddrOpt
  { db with byPublicKey := db.byPublicKey.erase key }.unindex nodeAddrOpt

variable {db}

section

variable (env : Environment)

/-- A Node that is no longer a neighbor keeps its record but not its address. -/
def removeNeighbor (db : NeighborhoodDatabase) (key : PublicKey) :
    Except Panic (Except String (Bool × NeighborhoodDatabase)) :=
  match db.nodeByKey key with
  | none => .ok (.error s!"could not remove nonexistent neighbor by public key: {key.debug}")
  | some toRemove => do
    -- the address goes even if the Node is no neighbor
    let db := (db.store key toRemove.unsetNodeAddr).unindex toRemove.nodeAddrOpt
    let root ← db.root
    if root.hasHalfNeighbor key then
      let root ← (root.withNeighbors (root.inner.neighbors.erase key)).incrementVersion env
      return .ok (true, db.store db.thisNode root)
    else
      return .ok (false, db)

/-- Nodes that nobody has mentioned for a while are forgotten. -/
def cullDeadNodes (now : U32) (db : NeighborhoodDatabase) : Except Panic NeighborhoodDatabase := do
  let referenced ← db.referencedNodeKeys
  let deadline ← now.sub env.profile isolatedNodeGracePeriodSecs
  -- the Node itself is always referenced
  let toCull := db.keys.filter fun key =>
    decide (key ∉ referenced) &&
      (db.nodeByKey key).any fun record => decide (record.metadata.lastUpdate.val ≤ deadline.val)
  return toCull.foldl removeNode db

def newPublicIp (db : NeighborhoodDatabase) (publicIp : IpAddr) : Except Panic NeighborhoodDatabase := do
  let record ← db.root
  match record.nodeAddrOpt with
  | none => .error (.raised "value for 'Root node' badly prepared")
  | some oldNodeAddr =>
    -- the ports stay
    let newNodeAddr := NodeAddr.new publicIp oldNodeAddr.ports
    return ((db.store db.thisNode (record.withNodeAddr (some newNodeAddr))).unindex
      (some oldNodeAddr)).index publicIp record.publicKey

def new (now : U32) (mode : NeighborhoodMode) (earningWallet : Accountant.Wallet) :
    Except Panic NeighborhoodDatabase := do
  let nodeLocationOpt := mode.nodeAddrOpt.bind fun nodeAddr => getNodeLocation env (some nodeAddr.ipAddr)
  let inner : NodeRecordInner :=
    ⟨env.cryptde.publicKey, earningWallet, mode.ratePack, ∅, mode.acceptsConnections,
      mode.routesData, ⟨0, u32_zero⟩, nodeLocationOpt.map NodeLocation.countryCode⟩
  let (signedGossip, signature) ← regenerateSignedGossip env inner
  let metadata := { NodeRecordMetadata.new now with nodeLocationOpt, nodeAddrOpt := mode.nodeAddrOpt }
  -- the first record of an empty database is the Node's own
  return addArbitraryNode ⟨env.cryptde.publicKey, ∅, ∅⟩ ⟨inner, metadata, signedGossip, signature⟩

end

/-! ### The lookups after a change -/

section

variable {db : NeighborhoodDatabase} {key : PublicKey} {record : NodeRecord}

lemma mem_keys : key ∈ db.keys ↔ (db.nodeByKey key).isSome := AList.lookup_isSome.symm

lemma mem_keys_of_found (found : db.nodeByKey key = some record) : key ∈ db.keys :=
  mem_keys.mpr (Option.isSome_of_eq_some found)

lemma notMem_keys : key ∉ db.keys ↔ db.nodeByKey key = none := AList.lookup_eq_none.symm

/-- The record of this Node. -/
abbrev HasRoot (db : NeighborhoodDatabase) (root : NodeRecord) : Prop := db.nodeByKey db.thisNode = some root

lemma root_eq_ok : db.root = .ok record ↔ db.nodeByKey db.thisNode = some record := by
  unfold root
  split <;> simp_all

lemma hasHalfNeighbor_eq_true :
    db.hasHalfNeighbor key target = true ↔
      ∃ record, db.nodeByKey key = some record ∧ target ∈ record.inner.neighbors := by
  unfold hasHalfNeighbor
  split
  next record found => simp [found, NodeRecord.hasHalfNeighbor]
  next missing => simp [missing]

lemma mem_fullNeighborKeys :
    key ∈ db.fullNeighborKeys record ↔
      key ∈ record.inner.neighbors ∧ db.hasHalfNeighbor key record.publicKey = true :=
  mem_filter

variable (db key record ip)

lemma nodeByKey_store : (db.store key record).nodeByKey = update db.nodeByKey key (some record) :=
  lookup_insert_eq_update _ _ _

@[simp]
lemma keyByIp_store : (db.store key record).keyByIp = db.keyByIp := rfl

@[simp]
lemma thisNode_store : (db.store key record).thisNode = db.thisNode := rfl

@[simp]
lemma nodeByKey_index : (db.index ip key).nodeByKey = db.nodeByKey := rfl

@[simp]
lemma thisNode_index : (db.index ip key).thisNode = db.thisNode := rfl

lemma keyByIp_index : (db.index ip key).keyByIp = update db.keyByIp ip (some key) :=
  lookup_insert_eq_update _ _ _

variable (nodeAddrOpt : Option NodeAddr)

@[simp]
lemma nodeByKey_unindex : (db.unindex nodeAddrOpt).nodeByKey = db.nodeByKey := by
  cases nodeAddrOpt <;> rfl

@[simp]
lemma thisNode_unindex : (db.unindex nodeAddrOpt).thisNode = db.thisNode := by
  cases nodeAddrOpt <;> rfl

lemma keyByIp_unindex_some (nodeAddr) :
    (db.unindex (some nodeAddr)).keyByIp = update db.keyByIp nodeAddr.ipAddr none :=
  lookup_erase_eq_update _ _

@[simp]
lemma keyByIp_unindex_none : (db.unindex none).keyByIp = db.keyByIp := rfl

@[simp]
lemma keyByIp_store_unindex :
    ((db.store key record).unindex nodeAddrOpt).keyByIp = (db.unindex nodeAddrOpt).keyByIp := by
  cases nodeAddrOpt <;> rfl

lemma nodeByKey_removeNode : (db.removeNode key).nodeByKey = update db.nodeByKey key none := by
  rw [removeNode, nodeByKey_unindex]
  exact lookup_erase_eq_update _ _

@[simp]
lemma thisNode_removeNode : (db.removeNode key).thisNode = db.thisNode := by
  simp [removeNode]

lemma keys_removeNode : (db.removeNode key).keys = db.keys.erase key := by
  unfold removeNode
  cases (db.nodeByKey key).bind NodeRecord.nodeAddrOpt <;> exact AList.keys_erase _ _

lemma thisNode_removeNodes (keys : List PublicKey) : (keys.foldl removeNode db).thisNode = db.thisNode := by
  induction keys generalizing db with
  | nil => rfl
  | cons key keys ih => rw [foldl_cons, ih, thisNode_removeNode]

lemma nodeByKey_removeNodes (keys : List PublicKey) :
    (keys.foldl removeNode db).nodeByKey key = if key ∈ keys then none else db.nodeByKey key := by
  induction keys generalizing db with
  | nil => rfl
  | cons first keys ih =>
    rw [foldl_cons, ih, nodeByKey_removeNode]
    by_cases same : key = first
    · simp [same]
    · simp [same]

lemma keyByIp_removeNode : (db.removeNode key).keyByIp =
    (db.unindex ((db.nodeByKey key).bind NodeRecord.nodeAddrOpt)).keyByIp := by
  unfold removeNode
  cases (db.nodeByKey key).bind NodeRecord.nodeAddrOpt <;> rfl

@[simp]
lemma thisNode_addArbitraryNode : (db.addArbitraryNode record).thisNode = db.thisNode := by
  unfold addArbitraryNode
  split <;> rfl

lemma nodeByKey_addArbitraryNode : (db.addArbitraryNode record).nodeByKey =
    update db.nodeByKey record.publicKey (some record) := by
  unfold addArbitraryNode
  split <;> simp [nodeByKey_store]

end

/-! ### What an operation has done -/

section

variable {db : NeighborhoodDatabase} {key : PublicKey} {record : NodeRecord} {now : U32}

lemma checkForPorts_eq_ok :
    checkForPorts nodeAddrOpt = .ok () ↔ ∀ nodeAddr ∈ nodeAddrOpt, nodeAddr.ports ≠ [] := by
  unfold checkForPorts
  split
  · simp
  next nodeAddr =>
    by_cases empty : nodeAddr.ports = [] <;> simp [empty]

lemma addNode_eq_ok :
    db.addNode record = .ok (key, db') ↔
      (∀ nodeAddr ∈ record.nodeAddrOpt, nodeAddr.ports ≠ []) ∧ db.nodeByKey record.publicKey = none ∧
        record.publicKey = key ∧ db.addArbitraryNode record = db' := by
  rw [← checkForPorts_eq_ok, ← notMem_keys]
  unfold addNode checkForCollision
  cases ports : checkForPorts record.nodeAddrOpt with
  | error e => simp
  | ok =>
    by_cases collides : record.publicKey ∈ db.keys <;> simp [collides]

/-- The record of a Node that has just got a neighbor. -/
def linked (now : U32) (root : NodeRecord) (key : PublicKey) : NodeRecord :=
  let linked := root.withNeighbors (root.inner.neighbors.insert key)
  { linked with metadata := { linked.metadata with lastUpdate := now } }

lemma addHalfNeighbor_eq_false (known : db.addHalfNeighbor now key = .ok (false, db')) : db' = db := by
  unfold addHalfNeighbor at known
  split at known
  · cases known
  · split at known
    · cases known
      rfl
    · split at known
      · cases known
      · split at known <;> cases known

lemma addHalfNeighbor_eq_true (added : db.addHalfNeighbor now key = .ok (true, db')) :
    ∃ root, db.HasRoot root ∧ (db.nodeByKey key).isSome ∧ key ∉ root.inner.neighbors ∧ key ≠ root.publicKey ∧
      db' = db.store db.thisNode (linked now root key) := by
  unfold addHalfNeighbor at added
  split at added
  · cases added
  next present =>
    split at added
    · cases added
    next new =>
      split at added
      · cases added
      next root found =>
        split at added
        · cases added
        next linkedRoot link =>
          cases added
          obtain ⟨other, rfl⟩ := NodeRecord.addHalfNeighborKey_eq_some.mp link
          have unlinked : key ∉ root.inner.neighbors := fun known =>
            new (hasHalfNeighbor_eq_true.mpr ⟨root, found, known⟩)
          exact ⟨root, found, mem_keys.mp (not_not.mp present), unlinked, other, rfl⟩

variable (db : NeighborhoodDatabase)

/-- The database without the address of a Node that is about to lose its neighborship. -/
def withoutAddress (key : PublicKey) (record : NodeRecord) : NeighborhoodDatabase :=
  (db.store key record.unsetNodeAddr).unindex record.nodeAddrOpt

@[simp]
lemma nodeByKey_withoutAddress (key record) :
    (db.withoutAddress key record).nodeByKey = update db.nodeByKey key (some record.unsetNodeAddr) := by
  rw [withoutAddress, nodeByKey_unindex, nodeByKey_store]

@[simp]
lemma thisNode_withoutAddress (key record) :
    (db.withoutAddress key record).thisNode = db.thisNode := by
  rw [withoutAddress, thisNode_unindex, thisNode_store]

variable {db}

lemma removeNeighbor_eq_ok (removed : db.removeNeighbor env key = .ok (.ok (changed, db'))) :
    ∃ record root, db.nodeByKey key = some record ∧
      (db.withoutAddress key record).nodeByKey db.thisNode = some root ∧
      ((changed = false ∧ key ∉ root.inner.neighbors ∧ db' = db.withoutAddress key record) ∨
        ∃ root', (root.withNeighbors (root.inner.neighbors.erase key)).incrementVersion env = .ok root' ∧
          changed = true ∧ key ∈ root.inner.neighbors ∧
          db' = (db.withoutAddress key record).store db.thisNode root') := by
  unfold removeNeighbor at removed
  split at removed
  · cases removed
  next record found =>
    obtain ⟨root, rooted, removed⟩ := ok_of_bind removed
    have rootFound := root_eq_ok.mp rooted
    rw [thisNode_unindex] at rootFound
    refine ⟨record, root, found, rootFound, ?_⟩
    split at removed
    next neighbor =>
      obtain ⟨root', incremented, result⟩ := ok_of_bind removed
      cases result
      refine .inr ⟨root', incremented, rfl, by simpa [NodeRecord.hasHalfNeighbor] using neighbor, ?_⟩
      rw [thisNode_unindex]
      rfl
    next stranger =>
      cases removed
      exact .inl ⟨rfl, by simpa [NodeRecord.hasHalfNeighbor] using stranger, rfl⟩

lemma cullDeadNodes_eq_ok (culled : db.cullDeadNodes env now = .ok db') :
    ∃ root, ∃ toCull : List PublicKey, db.HasRoot root ∧ db' = toCull.foldl removeNode db ∧
      ∀ key ∈ toCull, key ≠ root.publicKey ∧
        ∀ k record, db.nodeByKey k = some record → key ∉ record.inner.neighbors := by
  obtain ⟨referenced, references, culled⟩ := ok_of_bind culled
  obtain ⟨root, rooted, result⟩ := ok_of_bind references
  obtain ⟨deadline, -, culled⟩ := ok_of_bind culled
  cases result
  cases culled
  refine ⟨root, _, root_eq_ok.mp rooted, rfl, ?_⟩
  intro key chosen
  have unreferenced := (Bool.and_eq_true _ _ ▸ (mem_filter.mp chosen).2).1
  simp only [decide_eq_true_eq, mem_cons, mem_flatMap, mem_filterMap, not_or,
    not_exists, not_and] at unreferenced
  refine ⟨unreferenced.1, fun k record found neighbor => ?_⟩
  exact unreferenced.2 record ⟨k, mem_keys.mpr (by simp [found]), found⟩ neighbor

lemma newPublicIp_eq_ok (renewed : db.newPublicIp publicIp = .ok db') :
    ∃ record oldNodeAddr, db.HasRoot record ∧ record.nodeAddrOpt = some oldNodeAddr ∧
      db' = ((db.store db.thisNode (record.withNodeAddr
        (some (NodeAddr.new publicIp oldNodeAddr.ports)))).unindex (some oldNodeAddr)).index publicIp
          record.publicKey := by
  obtain ⟨record, rooted, renewed⟩ := ok_of_bind renewed
  split at renewed
  · cases renewed
  next oldNodeAddr found =>
    cases renewed
    exact ⟨record, oldNodeAddr, root_eq_ok.mp rooted, found, rfl⟩

end

end NeighborhoodDatabase

end PulseMesh.Gossip
