import PulseMesh.Gossip.Verdicts

/-!
# The neighbors of the Node

The links of the Node are in its own record and the addresses of its neighbors are in theirs.  They fit
together in every state that gossip, the removal of neighbors, the culling of dead Nodes and new public
IP addresses can lead to, and gossip can always be made from them.
-/

namespace PulseMesh.Gossip

open Machine SubLib Neighborhood NeighborhoodDatabase Runs List NodeRecord

variable {env : Environment} {order : SetOrder} {now : Clock} {metadata : NeighborhoodMetadata}
  {db db' : NeighborhoodDatabase} {agr : AccessibleGossipRecord} {record root : NodeRecord}
  {key : PublicKey} {gossipSource : SocketAddr} {panic : Panic}

/-! ### Production -/

/-- A record as gossip tells it: with its address only if that is revealed and of any use. -/
def NodeRecord.told (reveal : Bool) (record : NodeRecord) : GossipNodeRecord :=
  { record.toGossipNodeRecord with
    nodeAddrOpt := if reveal && record.inner.acceptsConnections then record.nodeAddrOpt else none }

lemma builder_node_eq {builder : GossipBuilder} (found : db.nodeByKey key = some record)
    (fresh : key ∉ builder.keysSoFar) (reveal : Bool) :
    builder.node db key reveal =
      .ok ⟨builder.nodeRecords ++ [record.told reveal], builder.keysSoFar ++ [record.publicKey]⟩ := by
  rw [GossipBuilder.node, if_neg fresh, found]
  cases reveal <;> cases accepts : record.inner.acceptsConnections <;>
    simp [told, toGossipNodeRecord, accepts]

lemma builder_node_ok (builder : GossipBuilder) (well : WellIndexed db)
    (found : db.nodeByKey key = some record) (fresh : key ∉ builder.keysSoFar) (reveal : Bool) :
    ∃ builder', builder.node db key reveal = .ok builder' ∧
      builder'.keysSoFar = builder.keysSoFar ++ [key] := by
  refine ⟨_, builder_node_eq found fresh reveal, ?_⟩
  rw [well.keyed key record found]

lemma produceDebut_ok (grounded : Grounded db) : ∃ gossip, produceDebut db = .ok gossip := by
  obtain ⟨root, rooted⟩ := grounded.rooted
  obtain ⟨builder, added, -⟩ := builder_node_ok .new grounded.toWellIndexed rooted not_mem_nil true
  rw [produceDebut, root_eq_ok.mpr rooted, ok_bind, grounded.keyed _ _ rooted, added]
  exact ⟨_, rfl⟩

lemma makePassGossip_ok (well : WellIndexed db) (found : db.nodeByKey key = some record) :
    ∃ gossip, makePassGossip db key = .ok gossip := by
  obtain ⟨builder, added, -⟩ := builder_node_ok .new well found not_mem_nil true
  rw [makePassGossip, added]
  exact ⟨_, rfl⟩

/-- Records of different Nodes are added one after another. -/
lemma foldlM_node_eq (reveal : NodeRecord → Bool) {records : List NodeRecord}
    (builder : GossipBuilder) (stored : ∀ record ∈ records, db.nodeByKey record.publicKey = some record)
    (distinct : (builder.keysSoFar ++ records.map NodeRecord.publicKey).Nodup) :
    records.foldlM (fun builder record => builder.node db record.publicKey (reveal record)) builder =
      .ok ⟨builder.nodeRecords ++ records.map fun record => record.told (reveal record),
        builder.keysSoFar ++ records.map NodeRecord.publicKey⟩ := by
  induction records generalizing builder with
  | nil => simp
  | cons record records ih =>
    rw [forall_mem_cons] at stored
    rw [map_cons, append_cons] at distinct
    have fresh : record.publicKey ∉ builder.keysSoFar := by
      intro listed
      have apart := (nodup_append.mp (nodup_append.mp distinct).1).2.2
      exact apart _ listed _ (mem_singleton_self _) rfl
    rw [foldlM_cons, builder_node_eq stored.1 fresh, ok_bind, ih _ stored.2 distinct]
    simp

/-- The Node itself, and everybody whom anybody has mentioned. -/
def referencedKeys (db : NeighborhoodDatabase) : List PublicKey :=
  db.thisNode :: (db.keys.filterMap db.nodeByKey).flatMap fun record => record.inner.neighbors.toList

def toldKeys (order : SetOrder) (db : NeighborhoodDatabase) (target : PublicKey) : List PublicKey :=
  ((order.arrange [target] db.keys).filter fun key => decide (key ≠ target)).filter
    fun key => decide (key ∈ referencedKeys db)

lemma nodup_toldKeys (order db target) : (toldKeys order db target).Nodup :=
  (((order.perm _ _).nodup_iff.mpr db.byPublicKey.nodupKeys).filter _).filter _

/-- The target knows the addresses of its own half neighbors, and that of the Node itself. -/
def isRevealed (db : NeighborhoodDatabase) (targetNode record : NodeRecord) : Bool :=
  record.inner.acceptsConnections &&
    (decide (record.publicKey = db.thisNode) || targetNode.hasHalfNeighbor record.publicKey)

lemma gossipFor_eq (keyed : ∀ key record, db.nodeByKey key = some record → record.publicKey = key)
    (rooted : db.HasRoot root) (order : SetOrder) (target targetNode) :
    gossipFor order db target targetNode =
      .ok ⟨((toldKeys order db target).filterMap db.nodeByKey).map fun record =>
        record.told (isRevealed db targetNode record)⟩ := by
  have own : root.publicKey = db.thisNode := keyed _ _ rooted
  have stored : ∀ record ∈ (toldKeys order db target).filterMap db.nodeByKey,
      db.nodeByKey record.publicKey = some record := by
    intro record listed
    obtain ⟨key, -, found⟩ := mem_filterMap.mp listed
    rw [keyed key record found, found]
  have distinct : (((toldKeys order db target).filterMap db.nodeByKey).map NodeRecord.publicKey).Nodup :=
    (map_key_filterMap_sublist keyed _).nodup (nodup_toldKeys order db target)
  have folded := foldlM_node_eq (isRevealed db targetNode) .new stored distinct
  rw [gossipFor, referencedNodeKeys, root_eq_ok.mpr rooted, ok_bind, pure_eq_ok, ok_bind, ok_bind, own]
  exact bind_eq_ok.mpr ⟨_, folded, rfl⟩

lemma gossipFor_ok (grounded : Grounded db) (order target targetNode) :
    ∃ gossip, gossipFor order db target targetNode = .ok gossip := by
  obtain ⟨root, rooted⟩ := grounded.rooted
  exact ⟨_, gossipFor_eq grounded.keyed rooted order target targetNode⟩

section

variable {lastDeadNodeCheck lastDeadNodeCheck' : U32}
  (checked : checkForDeadNodes env now db lastDeadNodeCheck = .ok (db', lastDeadNodeCheck'))
include checked

/-- A check that is due culls the dead Nodes, one that is not does nothing. -/
lemma checkForDeadNodes_eq_ok : db.cullDeadNodes env now.timeT = .ok db' ∨ db' = db := by
  obtain ⟨elapsed, -, checked⟩ := ok_of_bind checked
  split at checked
  · obtain ⟨culled, culls, checked⟩ := ok_of_bind checked
    cases checked
    exact .inl culls
  · cases checked
    exact .inr rfl

lemma Grounded.checkForDeadNodes (grounded : Grounded db) : Grounded db' := by
  obtain culls | rfl := checkForDeadNodes_eq_ok checked
  · exact grounded.cullDeadNodes culls
  · exact grounded

lemma thisNode_checkForDeadNodes : db'.thisNode = db.thisNode := by
  obtain culls | rfl := checkForDeadNodes_eq_ok checked
  · obtain ⟨root, toCull, -, rfl, -⟩ := cullDeadNodes_eq_ok culls
    exact thisNode_removeNodes _ _
  · rfl

/-- The records that are left after a check were there before. -/
lemma nodeByKey_of_checkForDeadNodes (found : db'.nodeByKey key = some record) :
    db.nodeByKey key = some record := by
  obtain culls | rfl := checkForDeadNodes_eq_ok checked
  · obtain ⟨root, toCull, -, rfl, -⟩ := cullDeadNodes_eq_ok culls
    rw [nodeByKey_removeNodes] at found
    split at found
    · cases found
    · exact found
  · exact found

lemma rooted_checkForDeadNodes (keyed : ∀ key record, db.nodeByKey key = some record → record.publicKey = key)
    (rooted : db.HasRoot root) : db'.HasRoot root := by
  obtain culls | rfl := checkForDeadNodes_eq_ok checked
  · obtain ⟨root', toCull, rooted', rfl, unreferenced⟩ := cullDeadNodes_eq_ok culls
    cases rooted.symm.trans rooted'
    rw [HasRoot, thisNode_removeNodes, nodeByKey_removeNodes, if_neg, rooted]
    intro chosen
    exact (unreferenced _ chosen).1 (keyed _ _ rooted).symm
  · exact rooted

lemma produce_ok (grounded : Grounded db) (rooted : db.HasRoot root) (linked : key ∈ root.inner.neighbors) :
    ∃ gossip, produce env order now db lastDeadNodeCheck key =
      .ok (some gossip, db', lastDeadNodeCheck') := by
  have grounded' := grounded.checkForDeadNodes checked
  obtain ⟨record, found, -⟩ := grounded'.addressed root
    (rooted_checkForDeadNodes checked grounded.keyed rooted) key linked
  obtain ⟨gossip, produced⟩ := gossipFor_ok grounded' order key record
  refine ⟨gossip, ?_⟩
  rw [produce, checked, ok_bind]
  dsimp only
  rw [found]
  exact bind_eq_ok.mpr ⟨gossip, produced, rfl⟩

end

/-! ### Answers to a debut -/

lemma mem_keysOrderedByDegreeExcluding {keys excluding} :
    key ∈ keysOrderedByDegreeExcluding order db keys excluding ↔ key ∈ keys ∧ key ∉ excluding := by
  rw [keysOrderedByDegreeExcluding, (perm_insertionSort _ _).mem_iff, (order.perm _ _).mem_iff,
    mem_filter, decide_eq_true_iff]

lemma findLeastConnectedNeighborExcluding_mem {keys}
    (found : findLeastConnectedNeighborExcluding order db keys agr = some key) : key ∈ keys :=
  (mem_keysOrderedByDegreeExcluding.mp (mem_of_head? found)).1

lemma mem_of_mem_fullNeighborKeys (full : key ∈ db.fullNeighborKeys root) : key ∈ root.inner.neighbors :=
  (mem_fullNeighborKeys.mp full).1

section

variable (grounded : Grounded db) (rooted : db.HasRoot root)
include rooted

lemma findMoreAppropriateNeighbor_eq (agr) :
    ∃ keyOpt, findMoreAppropriateNeighbor order db agr = .ok keyOpt ∧
      ∀ key ∈ keyOpt, key ∈ root.inner.neighbors := by
  rw [findMoreAppropriateNeighbor, root_eq_ok.mpr rooted, ok_bind]
  dsimp only
  split
  · exact ⟨none, rfl, nofun⟩
  next key first =>
    split
    · exact ⟨none, rfl, nofun⟩
    · refine ⟨some key, rfl, ?_⟩
      rintro _ ⟨⟩
      have qualified := (dropWhile_sublist _).subset (mem_of_head? first)
      have neighbor := (mem_filter.mp qualified).1
      exact mem_of_mem_fullNeighborKeys (mem_keysOrderedByDegreeExcluding.mp neighbor).1

lemma findLeastConnectedHalfNeighborExcluding_eq (agr) :
    ∃ keyOpt, findLeastConnectedHalfNeighborExcluding order db agr = .ok keyOpt ∧
      ∀ key ∈ keyOpt, key ∈ root.inner.neighbors := by
  rw [findLeastConnectedHalfNeighborExcluding, root_eq_ok.mpr rooted]
  refine ⟨_, rfl, ?_⟩
  rintro key found
  exact findLeastConnectedNeighborExcluding_mem found

lemma findLeastConnectedFullNeighborExcluding_eq (agr) :
    ∃ keyOpt, findLeastConnectedFullNeighborExcluding order db agr = .ok keyOpt ∧
      ∀ key ∈ keyOpt, key ∈ root.inner.neighbors := by
  rw [findLeastConnectedFullNeighborExcluding, root_eq_ok.mpr rooted]
  refine ⟨_, rfl, ?_⟩
  rintro key found
  have neighbor := findLeastConnectedNeighborExcluding_mem found
  exact mem_of_mem_fullNeighborKeys (mem_filter.mp neighbor).1

include grounded

lemma makeIntroduction_ok (agr : AccessibleGossipRecord) (gossipSource) :
    ∃ introductionOpt, makeIntroduction order db agr gossipSource = .ok introductionOpt := by
  obtain ⟨lcnOpt, leastConnected, neighbor⟩ := findLeastConnectedFullNeighborExcluding_eq rooted agr
  rw [makeIntroduction, leastConnected, ok_bind]
  cases lcnOpt with
  | none => exact ⟨none, rfl⟩
  | some lcnKey =>
    have linked := neighbor lcnKey rfl
    obtain ⟨lcn, found, -⟩ := grounded.addressed root rooted lcnKey linked
    have other : lcnKey ≠ db.thisNode := fun same => grounded.foreign root rooted (same ▸ linked)
    obtain ⟨first, addedRoot, keysSoFar⟩ :=
      builder_node_ok .new grounded.toWellIndexed rooted not_mem_nil true
    have fresh : lcnKey ∉ first.keysSoFar := by
      rw [keysSoFar]
      simpa [GossipBuilder.new] using other
    obtain ⟨second, addedLcn, -⟩ := builder_node_ok first grounded.toWellIndexed found fresh true
    dsimp only
    rw [found]
    rw [root_eq_ok.mpr rooted, ok_bind, grounded.keyed _ _ rooted, addedRoot, ok_bind, addedLcn]
    exact ⟨_, rfl⟩

end

/-- What can go wrong with a new Node: its record, or the answer that is signed for it. -/
def DebutFails (env : Environment) (now : Clock) (metadata : NeighborhoodMetadata)
    (db : NeighborhoodDatabase) (agr : AccessibleGossipRecord) (panic : Panic) : Prop :=
  addDebutingNode env now metadata db agr = .error panic ∨
    ∃ linked, addDebutingNode env now metadata db agr = .ok linked ∧
      createDebutGossipResponse env linked agr.inner.publicKey = .error panic

lemma tryAcceptDebut_error (grounded : Grounded db)
    (fails : tryAcceptDebut env order now metadata db { agr with nodeAddrOpt := some nodeAddr }
      gossipSource = .error panic) :
    DebutFails env now metadata db { agr with nodeAddrOpt := some nodeAddr } panic := by
  obtain ⟨root, rooted⟩ := grounded.rooted
  rw [tryAcceptDebut, root_eq_ok.mpr rooted, ok_bind] at fails
  split at fails
  · cases fails
  next room =>
    rcases bind_eq_error fails with failed | ⟨linked, added, fails⟩
    · exact .inl failed
    have grounded' : Grounded linked := grounded.changes
      (addDebutingNode_outcome (mem_singleton_self agr) rooted (Nat.lt_of_not_le room) added).1
    obtain ⟨root', rooted'⟩ := grounded'.rooted
    split at fails
    · cases fails
    · obtain ⟨introductionOpt, introduces⟩ :=
        makeIntroduction_ok grounded' rooted' { agr with nodeAddrOpt := some nodeAddr } gossipSource
      rw [introduces, ok_bind] at fails
      split at fails
      · cases fails
      · rcases bind_eq_error fails with failed | ⟨debutGossip, -, fails⟩
        · exact .inr ⟨linked, added, failed⟩
        · cases fails

/-- **Answers**: the neighbors that an answer to a debut speaks of are always found. -/
theorem debutHandle_error (grounded : Grounded db)
    (fails : debutHandle env order now metadata db (agr :: rest) gossipSource = .error panic) :
    DebutFails env now metadata db { agr with nodeAddrOpt := some (debutSourceAddr agr gossipSource) }
      panic := by
  obtain ⟨root, rooted⟩ := grounded.rooted
  -- a neighbor is in the database with its address, so it can be told about
  have passes : ∀ {key targetKey : PublicKey} {targetNodeAddr : NodeAddr}, key ∈ root.inner.neighbors → (do
        let passGossip ← makePassGossip db key
        return (⟨.reply passGossip targetKey targetNodeAddr, db, []⟩ : Handled)) ≠ .error panic := by
    intro key _ _ linked fails
    obtain ⟨record, found, -⟩ := grounded.addressed root rooted key linked
    obtain ⟨gossip, made⟩ := makePassGossip_ok grounded.toWellIndexed found
    rw [made] at fails
    cases fails
  unfold debutHandle at fails
  dsimp only at fails
  obtain ⟨preferredOpt, prefers, preferredLinked⟩ := findMoreAppropriateNeighbor_eq rooted
    { agr with nodeAddrOpt := some (debutSourceAddr agr gossipSource) }
  rw [prefers, ok_bind] at fails
  cases preferredOpt with
  | some preferredKey =>
    have linked := preferredLinked preferredKey rfl
    obtain ⟨record, found, addressed⟩ := grounded.addressed root rooted preferredKey linked
    dsimp only at fails
    rw [found] at fails
    dsimp only at fails
    split at fails
    next missing =>
      rw [← map_ipAddr_nodeAddrOpt, missing] at addressed
      cases addressed
    · exact absurd fails (passes linked)
  | none =>
    rcases bind_eq_error fails with failed | ⟨acceptedOpt, -, fails⟩
    · exact tryAcceptDebut_error grounded failed
    · split at fails
      · cases fails
      · obtain ⟨lcnOpt, leastConnected, lcnLinked⟩ := findLeastConnectedHalfNeighborExcluding_eq rooted
          { agr with nodeAddrOpt := some (debutSourceAddr agr gossipSource) }
        rw [leastConnected, ok_bind] at fails
        cases lcnOpt with
        | none => cases fails
        | some lcnKey =>
          have linked := lcnLinked lcnKey rfl
          obtain ⟨record, found, -⟩ := grounded.addressed root rooted lcnKey linked
          dsimp only at fails
          rw [found] at fails
          exact absurd fails (passes linked)

/-! ### Runs -/

/-- The database with what the handler of passes remembers. -/
structure AcceptorState where
  database : NeighborhoodDatabase
  previousPassTargets : PassTargets

/-- Gossip that has come in, with what the acceptor is told about the Node at that time. -/
structure GossipReceived where
  order : SetOrder
  now : Clock
  metadata : NeighborhoodMetadata
  agrs : List AccessibleGossipRecord
  gossipSource : SocketAddr

def gossipStep (env : Environment) (state : AcceptorState) (received : GossipReceived) :
    Except Panic AcceptorState := do
  let acceptance ← acceptGossip env received.order received.now received.metadata state.database
    state.previousPassTargets received.agrs received.gossipSource
  return ⟨acceptance.handled.database, acceptance.previousPassTargets⟩

inductive NeighborhoodEvent where
  | gossip (received : GossipReceived)
  | removeNeighbor (key : PublicKey)
  | cullDeadNodes (timeT : U32)
  | newPublicIp (ip : IpAddr)

/-- A neighbor that is not there cannot be removed, which is only logged. -/
def neighborhoodStep (env : Environment) (state : AcceptorState) :
    NeighborhoodEvent → Except Panic AcceptorState
  | .gossip received => gossipStep env state received
  | .removeNeighbor key => do
    match ← state.database.removeNeighbor env key with
    | .error _ => return state
    | .ok (_, database) => return { state with database }
  | .cullDeadNodes timeT => do
    let database ← state.database.cullDeadNodes env timeT
    return { state with database }
  | .newPublicIp ip => do
    let database ← state.database.newPublicIp ip
    return { state with database }

lemma grounded_neighborhoodStep {state next event} (grounded : Grounded state.database)
    (stepped : neighborhoodStep env state event = .ok next) : Grounded next.database := by
  cases event with
  | gossip received =>
    obtain ⟨acceptance, accepted, stepped⟩ := ok_of_bind stepped
    cases stepped
    exact grounded.changes (acceptGossip_outcome accepted).changes
  | removeNeighbor key =>
    obtain ⟨outcome, removed, stepped⟩ := ok_of_bind stepped
    split at stepped
    · cases stepped
      exact grounded
    · cases stepped
      exact grounded.removeNeighbor removed
  | cullDeadNodes timeT =>
    obtain ⟨database, culled, stepped⟩ := ok_of_bind stepped
    cases stepped
    exact grounded.cullDeadNodes culled
  | newPublicIp ip =>
    obtain ⟨database, renewed, stepped⟩ := ok_of_bind stepped
    cases stepped
    exact grounded.newPublicIp renewed

/-- The half neighbors of the Node can be looked up, with their addresses, wherever gossip needs them. -/
structure NeighborsReachable (env : Environment) (db : NeighborhoodDatabase) : Prop where
  found : ∃ root, db.nodeByKey db.thisNode = some root ∧ ∀ key ∈ root.inner.neighbors,
    key ≠ db.thisNode ∧ ∃ record nodeAddr, db.nodeByKey key = some record ∧
      record.nodeAddrOpt = some nodeAddr
  /-- gossip is produced for every neighbor, once the dead Nodes are culled -/
  produced : ∀ order now lastDeadNodeCheck checked root, db.nodeByKey db.thisNode = some root →
    ∀ key ∈ root.inner.neighbors, checkForDeadNodes env now db lastDeadNodeCheck = .ok checked →
      ∃ gossip, produce env order now db lastDeadNodeCheck key = .ok (some gossip, checked)
  /-- a Debut can be produced, which a Pass or an Introduction is answered with -/
  debuts : ∃ gossip, produceDebut db = .ok gossip
  /-- a Debut is answered, unless the new Node itself is the problem -/
  answered : ∀ order now metadata agr rest gossipSource panic,
    debutHandle env order now metadata db (agr :: rest) gossipSource = .error panic →
      DebutFails env now metadata db { agr with nodeAddrOpt := some (debutSourceAddr agr gossipSource) } panic

lemma Grounded.neighborsReachable (grounded : Grounded db) : NeighborsReachable env db where
  found := by
    obtain ⟨root, rooted⟩ := grounded.rooted
    refine ⟨root, rooted, fun key linked => ⟨?_, ?_⟩⟩
    · rintro rfl
      exact grounded.foreign root rooted linked
    · obtain ⟨record, found, addressed⟩ := grounded.addressed root rooted key linked
      rw [← map_ipAddr_nodeAddrOpt, Option.isSome_map] at addressed
      obtain ⟨nodeAddr, told⟩ := Option.isSome_iff_exists.mp addressed
      exact ⟨record, nodeAddr, found, told⟩
  produced order now lastDeadNodeCheck checked root rooted key linked checks :=
    produce_ok checks grounded rooted linked
  debuts := produceDebut_ok grounded
  answered order now metadata agr rest gossipSource panic fails := debutHandle_error grounded fails

theorem root_neighbors_reachable {timeT : U32} {mode : NeighborhoodMode}
    {earningWallet : Accountant.Wallet} {events : List NeighborhoodEvent} {reached : AcceptorState}
    (created : NeighborhoodDatabase.new env timeT mode earningWallet = .ok db)
    (reaches : run (neighborhoodStep env) ⟨db, ∅⟩ events = .ok reached) :
    NeighborsReachable env reached.database := by
  have grounded : Grounded reached.database :=
    invariant_of_steps (fun _ _ _ grounded stepped => grounded_neighborhoodStep grounded stepped)
      (grounded_new created) reaches
  exact grounded.neighborsReachable

/-- Gossip from a Node about itself. -/
def sampleReceived (inner : NodeRecordInner) (label : UInt8) : GossipReceived :=
  ⟨listedOrder, sampleClock, sampleMetadata, [sampleAgr inner (some (sampleNodeAddr label))],
    sampleSource label⟩

/-- A neighbor that has debuted, and is still reachable when the dead Nodes are culled. -/
theorem debuted_neighbor_reachable : ∃ db reached,
    NeighborhoodDatabase.new metEnvironment sampleNow sampleMode ⟨1⟩ = .ok db ∧
    run (neighborhoodStep metEnvironment) ⟨db, ∅⟩
      [.gossip (sampleReceived earlyInner 2), .removeNeighbor (sampleKey 3), .cullDeadNodes sampleNow] =
        .ok reached ∧
    (reached.database.nodeByKey (sampleKey 1)).map (fun root => root.inner.neighbors.toList) =
      some [sampleKey 2] ∧
    NeighborsReachable metEnvironment reached.database := by
  refine ⟨_, _, rfl, rfl, by decide, ?_⟩
  exact @root_neighbors_reachable metEnvironment _ sampleNow sampleMode ⟨1⟩
    [.gossip (sampleReceived earlyInner 2), .removeNeighbor (sampleKey 3), .cullDeadNodes sampleNow]
    _ rfl rfl

/-- **Hearsay**: what is known of another Node after any gossip was known before, or a record about that Node
has come in with these data, as they were signed. -/
theorem others_are_heard_of {state reached received}
    (reaches : run (gossipStep env) state received = .ok reached) (other : key ≠ state.database.thisNode)
    (found : reached.database.nodeByKey key = some record) :
    state.database.nodeByKey key = some record ∨
      ∃ gossip ∈ received, ∃ agr ∈ gossip.agrs, agr.inner.publicKey = key ∧ Brings agr record := by
  induction received generalizing state with
  | nil =>
    cases reaches
    exact .inl found
  | cons first rest ih =>
    obtain ⟨next, stepped, reaches⟩ := ok_of_bind reaches
    obtain ⟨acceptance, accepted, stepped⟩ := ok_of_bind stepped
    cases stepped
    have changes := (acceptGossip_outcome accepted).changes
    rcases ih reaches (thisNode_eq_of_changes changes ▸ other) with known | ⟨gossip, listed, brought⟩
    · rcases origin_of_changes changes other known with earlier | brought
      · exact .inl earlier
      · exact .inr ⟨first, .head _, brought⟩
    · exact .inr ⟨gossip, .tail _ listed, brought⟩

theorem debuted_node_is_heard_of : ∃ db reached record,
    NeighborhoodDatabase.new metEnvironment sampleNow sampleMode ⟨1⟩ = .ok db ∧
    run (gossipStep metEnvironment) ⟨db, ∅⟩ [sampleReceived earlyInner 2] = .ok reached ∧
    reached.database.nodeByKey (sampleKey 2) = some record ∧ (db.nodeByKey (sampleKey 2) = some record ∨
      ∃ gossip ∈ [sampleReceived earlyInner 2], ∃ agr ∈ gossip.agrs,
        agr.inner.publicKey = sampleKey 2 ∧ Brings agr record) := by
  refine ⟨_, _, _, rfl, rfl, rfl, ?_⟩
  exact @others_are_heard_of metEnvironment _ _ ⟨_, ∅⟩ _ [sampleReceived earlyInner 2] rfl (by decide) rfl

end PulseMesh.Gossip
