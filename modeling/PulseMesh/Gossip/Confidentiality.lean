import PulseMesh.Gossip.RootNeighbors
import PulseMesh.Lib.Returns

/-!
# What gossip reveals

Standard gossip for a target has a record of every Node that is mentioned in the database, but not the
addresses of all of them: a Node that the target does not know yet stays where it is.
-/

namespace PulseMesh.Gossip

open Machine SubLib Neighborhood NeighborhoodDatabase List Option Function NodeRecord Gossip

variable {env : Environment} {order : SetOrder} {now : Clock} {db db' : NeighborhoodDatabase}
  {key target : PublicKey} {record targetNode : NodeRecord} {lastDeadNodeCheck : U32}

/-- Every record is stored under its key, and the Node's own one is among them. -/
structure Populated (db : NeighborhoodDatabase) : Prop where
  keyed : ∀ key record, db.nodeByKey key = some record → record.publicKey = key
  rooted : (db.nodeByKey db.thisNode).isSome

/-! ### The records of gossip -/

/-- The Node itself, or a Node that some Node of the database has as a neighbor. -/
def Mentioned (db : NeighborhoodDatabase) (key : PublicKey) : Prop :=
  key = db.thisNode ∨ ∃ k record, db.nodeByKey k = some record ∧ key ∈ record.inner.neighbors

/-- The address of a Node is for the target to see. -/
@[mk_iff]
structure Revealed (db : NeighborhoodDatabase) (targetNode : NodeRecord) (key : PublicKey)
    (record : NodeRecord) : Prop where
  known : key = db.thisNode ∨ key ∈ targetNode.inner.neighbors
  accepts : record.inner.acceptsConnections = true

instance (db : NeighborhoodDatabase) (targetNode : NodeRecord) (key : PublicKey) (record : NodeRecord) :
    Decidable (Revealed db targetNode key record) :=
  decidable_of_iff' _ (revealed_iff db targetNode key record)

/-- A record of gossip for the target is that of the Node. -/
structure TellsOf (db : NeighborhoodDatabase) (targetNode : NodeRecord) (key : PublicKey)
    (gnr : GossipNodeRecord) (record : NodeRecord) : Prop where
  found : db.nodeByKey key = some record
  signedData : gnr.signedData = record.signedGossip
  signature : gnr.signature = record.signature
  nodeAddrOpt : gnr.nodeAddrOpt = if Revealed db targetNode key record then record.nodeAddrOpt else none

/-- One record for every Node that is mentioned, except for the target itself. -/
structure Discloses (db : NeighborhoodDatabase) (target : PublicKey) (targetNode : NodeRecord)
    (keys : List PublicKey) (gossip : SubLib.Gossip) : Prop where
  distinct : keys.Nodup
  mem_keys_iff : ∀ key, key ∈ keys ↔ key ≠ target ∧ key ∈ db.keys ∧ Mentioned db key
  records : List.Forall₂ (fun key gnr => ∃ record, TellsOf db targetNode key gnr record) keys
    gossip.nodeRecords

lemma mem_referencedKeys : key ∈ referencedKeys db ↔ Mentioned db key := by
  simp only [referencedKeys, Mentioned, mem_cons, mem_flatMap, mem_filterMap]
  refine or_congr Iff.rfl ⟨?_, ?_⟩
  · rintro ⟨record, ⟨k, -, found⟩, listed⟩
    exact ⟨k, record, found, listed⟩
  · rintro ⟨k, record, found, listed⟩
    exact ⟨record, ⟨k, mem_keys_of_found found, found⟩, listed⟩

lemma mem_toldKeys :
    key ∈ toldKeys order db target ↔ key ≠ target ∧ key ∈ db.keys ∧ Mentioned db key := by
  rw [toldKeys, mem_filter, mem_filter, (order.perm _ _).mem_iff, decide_eq_true_iff,
    decide_eq_true_iff, mem_referencedKeys]
  tauto

lemma isRevealed_iff (under : record.publicKey = key) :
    isRevealed db targetNode record = true ↔ Revealed db targetNode key record := by
  subst under
  simp only [isRevealed, NodeRecord.hasHalfNeighbor, Bool.and_eq_true, Bool.or_eq_true, decide_eq_true_eq]
  constructor
  · rintro ⟨accepts, known⟩
    exact ⟨known, accepts⟩
  · rintro ⟨known, accepts⟩
    exact ⟨accepts, known⟩

lemma tellsOf_told (under : record.publicKey = key) (found : db.nodeByKey key = some record) :
    TellsOf db targetNode key (record.told (isRevealed db targetNode record)) record where
  found := found
  signedData := rfl
  signature := rfl
  nodeAddrOpt := by
    rw [told]
    by_cases revealed : Revealed db targetNode key record
    · rw [(isRevealed_iff under).mpr revealed, if_pos revealed, Bool.true_and, if_pos revealed.accepts]
    · have masked : isRevealed db targetNode record = false :=
        Bool.eq_false_iff.mpr fun reveals => revealed ((isRevealed_iff under).mp reveals)
      rw [masked, if_neg revealed]
      rfl

/-- The records that are found under some keys, each with its key. -/
lemma forall₂_told (keyed : ∀ key record, db.nodeByKey key = some record → record.publicKey = key)
    {keys} (present : ∀ key ∈ keys, key ∈ db.keys) :
    Forall₂ (fun key gnr => ∃ record, TellsOf db targetNode key gnr record) keys
      ((keys.filterMap db.nodeByKey).map fun record => record.told (isRevealed db targetNode record)) := by
  induction keys with
  | nil => exact .nil
  | cons key keys ih =>
    rw [forall_mem_cons] at present
    obtain ⟨record, found⟩ := isSome_iff_exists.mp (mem_keys.mp present.1)
    rw [filterMap_cons_some found]
    exact .cons ⟨record, tellsOf_told (keyed key record found) found⟩ (ih present.2)

lemma Populated.gossipFor_discloses (populated : Populated db) (order target targetNode) :
    Returns (gossipFor order db target targetNode) fun gossip =>
      Discloses db target targetNode (toldKeys order db target) gossip := by
  obtain ⟨root, rooted⟩ := isSome_iff_exists.mp populated.rooted
  refine .of_eq (gossipFor_eq populated.keyed rooted order target targetNode)
    ⟨nodup_toldKeys order db target, fun _ => mem_toldKeys, forall₂_told populated.keyed ?_⟩
  intro key told
  exact (mem_toldKeys.mp told).2.1

/-! ### Databases that differ in addresses -/

/-- The databases are the same, except for the addresses of the hidden Nodes and the index by address. -/
structure SameBut (hidden : PublicKey → Prop) (db db' : NeighborhoodDatabase) : Prop where
  thisNode : db.thisNode = db'.thisNode
  keys : db.keys = db'.keys
  records : ∀ key, (db.nodeByKey key).map unsetNodeAddr =
    (db'.nodeByKey key).map unsetNodeAddr
  visible : ∀ key, ¬ hidden key → db.nodeByKey key = db'.nodeByKey key

namespace SameBut

variable {hidden : PublicKey → Prop} (same : SameBut hidden db db')
include same

/-- Whatever is read of a record without its address is the same. -/
lemma map_eq {α : Type} (read : NodeRecord → α)
    (blind : ∀ record, read record.unsetNodeAddr = read record) (key) :
    (db.nodeByKey key).map read = (db'.nodeByKey key).map read := by
  have records := congrArg (Option.map read) (same.records key)
  simpa only [Option.map_map, comp_def, blind] using records

lemma found (found : db.nodeByKey key = some record) :
    ∃ record', db'.nodeByKey key = some record' ∧ record'.unsetNodeAddr = record.unsetNodeAddr := by
  have records := same.records key
  rw [found] at records
  exact map_eq_some_iff.mp records.symm

lemma root_publicKey : db.root.map NodeRecord.publicKey = db'.root.map NodeRecord.publicKey := by
  have keys := same.map_eq publicKey (fun _ => rfl) db.thisNode
  unfold NeighborhoodDatabase.root
  rw [← same.thisNode]
  cases found : db.nodeByKey db.thisNode <;> cases found' : db'.nodeByKey db.thisNode <;>
    simp_all [Except.map]

lemma neighbors (keys : List PublicKey) :
    ((keys.filterMap db.nodeByKey).flatMap fun record => record.inner.neighbors.toList) =
      (keys.filterMap db'.nodeByKey).flatMap fun record => record.inner.neighbors.toList := by
  have mapped : (keys.filterMap db.nodeByKey).map (fun record => record.inner.neighbors.toList) =
      (keys.filterMap db'.nodeByKey).map fun record => record.inner.neighbors.toList := by
    rw [map_filterMap, map_filterMap]
    exact congrArg (keys.filterMap ·) (funext (same.map_eq _ fun _ => rfl))
  rw [flatMap_def, flatMap_def, mapped]

lemma referencedKeys : referencedKeys db = referencedKeys db' := by
  rw [Gossip.referencedKeys, Gossip.referencedKeys, same.thisNode, same.keys, same.neighbors]

lemma referencedNodeKeys : db.referencedNodeKeys = db'.referencedNodeKeys := by
  have roots := same.root_publicKey
  unfold NeighborhoodDatabase.referencedNodeKeys
  rw [same.keys, same.neighbors]
  cases rooted : db.root <;> cases rooted' : db'.root <;> simp_all [Except.map]

lemma toldKeys (order target) : toldKeys order db target = toldKeys order db' target := by
  rw [Gossip.toldKeys, Gossip.toldKeys, same.keys, same.referencedKeys]

lemma removeNode (key) : SameBut hidden (db.removeNode key) (db'.removeNode key) where
  thisNode := by rw [thisNode_removeNode, thisNode_removeNode, same.thisNode]
  keys := by rw [keys_removeNode, keys_removeNode, same.keys]
  records k := by
    simp only [nodeByKey_removeNode, update_apply]
    split
    · rfl
    · exact same.records k
  visible k open_ := by
    simp only [nodeByKey_removeNode, update_apply]
    split
    · rfl
    · exact same.visible k open_

omit same in
lemma removeNodes (keys : List PublicKey) : ∀ {db db' : NeighborhoodDatabase}, SameBut hidden db db' →
    SameBut hidden (keys.foldl NeighborhoodDatabase.removeNode db)
      (keys.foldl NeighborhoodDatabase.removeNode db') := by
  induction keys with
  | nil => exact id
  | cons key keys ih => exact fun same => ih (same.removeNode key)

/-- The same Nodes are dead, and the rest is as much the same as before. -/
lemma cullDeadNodes (env : Environment) (now) :
    (∃ e, db.cullDeadNodes env now = .error e ∧ db'.cullDeadNodes env now = .error e) ∨
      ∃ culled culled', db.cullDeadNodes env now = .ok culled ∧
        db'.cullDeadNodes env now = .ok culled' ∧ SameBut hidden culled culled' := by
  have stale : ∀ (deadline : U32) key,
      ((db.nodeByKey key).any fun record => decide (record.metadata.lastUpdate.val ≤ deadline.val)) =
        (db'.nodeByKey key).any fun record => decide (record.metadata.lastUpdate.val ≤ deadline.val) := by
    intro deadline key
    have updates := same.map_eq (fun record => record.metadata.lastUpdate) (fun _ => rfl) key
    cases found : db.nodeByKey key <;> cases found' : db'.nodeByKey key <;> simp_all
  unfold NeighborhoodDatabase.cullDeadNodes
  rw [← same.referencedNodeKeys, ← same.keys]
  cases db.referencedNodeKeys with
  | error e => exact .inl ⟨e, rfl, rfl⟩
  | ok referenced =>
    cases now.sub env.profile isolatedNodeGracePeriodSecs with
    | error e => exact .inl ⟨e, rfl, rfl⟩
    | ok deadline =>
      rw [ok_bind, ok_bind]
      simp only [stale deadline]
      exact .inr ⟨_, _, rfl, rfl, removeNodes _ same⟩

lemma checkForDeadNodes (env now lastDeadNodeCheck) :
    (∃ e, checkForDeadNodes env now db lastDeadNodeCheck = .error e ∧
      checkForDeadNodes env now db' lastDeadNodeCheck = .error e) ∨
      ∃ checked checked' checkedAt,
        checkForDeadNodes env now db lastDeadNodeCheck = .ok (checked, checkedAt) ∧
        checkForDeadNodes env now db' lastDeadNodeCheck = .ok (checked', checkedAt) ∧
        SameBut hidden checked checked' := by
  unfold Gossip.checkForDeadNodes
  cases now.timeT.sub env.profile lastDeadNodeCheck with
  | error e => exact .inl ⟨e, rfl, rfl⟩
  | ok elapsed =>
    rw [ok_bind, ok_bind]
    split
    · obtain ⟨e, culls, culls'⟩ | ⟨culled, culled', culls, culls', same'⟩ := same.cullDeadNodes env now.timeT
      · exact .inl ⟨e, by rw [culls, error_bind], by rw [culls', error_bind]⟩
      · exact .inr ⟨culled, culled', now.timeT, by rw [culls]; rfl, by rw [culls']; rfl, same'⟩
    · exact .inr ⟨db, db', lastDeadNodeCheck, rfl, rfl, same⟩

end SameBut

/-! ### The gossip for a target -/

lemma Populated.checkForDeadNodes (populated : Populated db)
    (checked : checkForDeadNodes env now db lastDeadNodeCheck = .ok (db', lastDeadNodeCheck')) :
    Populated db' := by
  obtain ⟨root, rooted⟩ := isSome_iff_exists.mp populated.rooted
  refine ⟨fun key record found => ?_, ?_⟩
  · exact populated.keyed key record (nodeByKey_of_checkForDeadNodes checked found)
  · exact isSome_of_eq_some (rooted_checkForDeadNodes checked populated.keyed rooted)

/-- Only a clock that has gone back since the last check stops a check, and only in a debug build. -/
lemma Populated.checkForDeadNodes_returns (populated : Populated db)
    (clock : env.profile = .debug → lastDeadNodeCheck.val ≤ now.timeT.val) :
    Safe (Gossip.checkForDeadNodes env now db lastDeadNodeCheck) := by
  obtain ⟨root, rooted⟩ := isSome_iff_exists.mp populated.rooted
  obtain ⟨referenced, references⟩ : ∃ referenced, db.referencedNodeKeys = .ok referenced :=
    ⟨_, by rw [referencedNodeKeys, root_eq_ok.mpr rooted, ok_bind, pure_eq_ok]⟩
  unfold Gossip.checkForDeadNodes cullDeadNodes
  rw [references]
  cases profile : env.profile with
  | release =>
    refine (returns_arith rfl _ _).andThen fun elapsed => ?_
    split
    · exact ((returns_arith rfl _ _).andThen fun _ => .ok trivial).andThen fun _ => .ok trivial
    · exact .ok trivial
  | debug =>
    have ordered := clock profile
    have bounds := U32.bounds now.timeT
    have since := U32.bounds lastDeadNodeCheck
    rw [Word.sub, arith_ok .debug ((u32_holds _).mpr ⟨by omega, by omega⟩), ok_bind]
    split
    -- a check that is due comes more than the grace period after the first second
    next due =>
      simp only [deadNodeCheckIntervalSecs] at due
      have late : u32.Holds (now.timeT.val - isolatedNodeGracePeriodSecs.val) :=
        (u32_holds _).mpr (by simp only [isolatedNodeGracePeriodSecs]; omega)
      rw [Word.sub, arith_ok .debug late]
      exact .ok trivial
    · exact .ok trivial

variable {hidden : PublicKey → Prop} {targetNode' : NodeRecord}

lemma SameBut.populated (same : SameBut hidden db db') (populated : Populated db) : Populated db' where
  keyed key record found' := by
    have keys := same.map_eq publicKey (fun _ => rfl) key
    rw [found'] at keys
    obtain ⟨record, found, publicKey⟩ := map_eq_some_iff.mp keys
    rw [← publicKey, populated.keyed key record found]
  rooted := by
    obtain ⟨root, rooted⟩ := isSome_iff_exists.mp populated.rooted
    obtain ⟨root', rooted', -⟩ := same.found rooted
    rw [← same.thisNode, rooted']
    rfl

section

variable (same : SameBut hidden db db') (populated : Populated db)
  (neighbors : targetNode'.inner.neighbors = targetNode.inner.neighbors)
  (masked : ∀ key record, hidden key → db.nodeByKey key = some record → ¬ Revealed db targetNode key record)
include same populated neighbors masked

/-- A hidden record is told without its address, any other one is the same in both databases. -/
lemma SameBut.told_eq (key) :
    ((db.nodeByKey key).map fun record => record.told (isRevealed db targetNode record)) =
      (db'.nodeByKey key).map fun record => record.told (isRevealed db' targetNode' record) := by
  have reveals : ∀ record, isRevealed db' targetNode' record = isRevealed db targetNode record := by
    intro record
    rw [isRevealed, isRevealed, same.thisNode, NodeRecord.hasHalfNeighbor, NodeRecord.hasHalfNeighbor,
      neighbors]
  simp only [reveals]
  by_cases secret : hidden key
  · cases found : db.nodeByKey key with
    | none =>
      have missing := same.records key
      rw [found, map_none, eq_comm, map_eq_none_iff] at missing
      rw [missing]
    | some record =>
      obtain ⟨record', found', alike⟩ := same.found found
      have under := populated.keyed key record found
      have unrevealed : isRevealed db targetNode record = false :=
        Bool.eq_false_iff.mpr fun reveals => masked key record secret found ((isRevealed_iff under).mp reveals)
      have inner : record'.inner = record.inner := (congrArg inner alike :)
      have unrevealed' : isRevealed db targetNode record' = false := by
        rw [← unrevealed, isRevealed, NodeRecord.publicKey, inner]
        rfl
      have signedGossip : record'.signedGossip = record.signedGossip :=
        (congrArg signedGossip alike :)
      have signature : record'.signature = record.signature := (congrArg signature alike :)
      simp [found', unrevealed, unrevealed', told, toGossipNodeRecord, signedGossip,
        signature]
  · rw [same.visible key secret]

lemma SameBut.gossipFor_eq (order target) :
    gossipFor order db target targetNode = gossipFor order db' target targetNode' := by
  have populated' := same.populated populated
  obtain ⟨root, rooted⟩ := isSome_iff_exists.mp populated.rooted
  obtain ⟨root', rooted'⟩ := isSome_iff_exists.mp populated'.rooted
  rw [Gossip.gossipFor_eq populated.keyed rooted, Gossip.gossipFor_eq populated'.keyed rooted',
    map_filterMap, map_filterMap, same.toldKeys]
  exact congrArg _ (congrArg _ (congrArg (filterMap · _) (funext (same.told_eq populated neighbors masked))))

end

/-- The target must not learn the address of the Node. -/
def IsHidden (db : NeighborhoodDatabase) (target key : PublicKey) : Prop :=
  ∀ targetNode record, db.nodeByKey target = some targetNode → db.nodeByKey key = some record →
    ¬ Revealed db targetNode key record

lemma SameBut.produce_eq (same : SameBut (IsHidden db target) db db') (populated : Populated db) :
    (produce env order now db lastDeadNodeCheck target).map Prod.fst =
      (produce env order now db' lastDeadNodeCheck target).map Prod.fst := by
  unfold produce
  obtain ⟨e, fails, fails'⟩ | ⟨checked, checked', checkedAt, checks, checks', still⟩ :=
    same.checkForDeadNodes env now lastDeadNodeCheck
  · rw [fails, fails']
  rw [checks, checks', ok_bind, ok_bind]
  dsimp only
  cases found : checked.nodeByKey target with
  | none =>
    have missing := still.records target
    rw [found, map_none, eq_comm, map_eq_none_iff] at missing
    rw [missing]
    rfl
  | some targetNode =>
    obtain ⟨targetNode', found', alike⟩ := still.found found
    have neighbors : targetNode'.inner.neighbors = targetNode.inner.neighbors :=
      (congrArg (fun record => record.inner.neighbors) alike :)
    -- what is hidden before the check is hidden after it
    have masked : ∀ key record, IsHidden db target key → checked.nodeByKey key = some record →
        ¬ Revealed checked targetNode key record := by
      intro key record secret foundKey revealed
      refine secret targetNode record (nodeByKey_of_checkForDeadNodes checks found)
        (nodeByKey_of_checkForDeadNodes checks foundKey) ⟨?_, revealed.accepts⟩
      rw [← thisNode_checkForDeadNodes checks]
      exact revealed.known
    rw [found']
    dsimp only
    rw [still.gossipFor_eq (populated.checkForDeadNodes checks) neighbors masked]
    cases gossipFor order checked' target targetNode' <;> rfl

/-- The gossip for a target that is still there after a check has one record for every Node that is
mentioned, with addresses that the target knows; no other address makes a difference to it. -/
theorem gossip_keeps_addresses (populated : Populated db) (env : Environment) (order : SetOrder)
    (now : Clock) (lastDeadNodeCheck : U32) (target : PublicKey) :
    ((env.profile = .debug → lastDeadNodeCheck.val ≤ now.timeT.val) →
      ∃ checked, checkForDeadNodes env now db lastDeadNodeCheck = .ok checked) ∧
    (∀ db' checkedAt targetNode,
      checkForDeadNodes env now db lastDeadNodeCheck = .ok (db', checkedAt) →
      db'.nodeByKey target = some targetNode →
      ∃ gossip keys, produce env order now db lastDeadNodeCheck target = .ok (some gossip, db', checkedAt) ∧
        Discloses db' target targetNode keys gossip) ∧
    ∀ other, SameBut (IsHidden db target) db other →
      (produce env order now db lastDeadNodeCheck target).map Prod.fst =
        (produce env order now other lastDeadNodeCheck target).map Prod.fst := by
  refine ⟨fun clock => ?_, ?_, fun other same => same.produce_eq populated⟩
  · obtain ⟨checked, checks, -⟩ := populated.checkForDeadNodes_returns clock
    exact ⟨checked, checks⟩
  · intro db' checkedAt targetNode checks found
    obtain ⟨gossip, produced, discloses⟩ :=
      (populated.checkForDeadNodes checks).gossipFor_discloses order target targetNode
    refine ⟨gossip, toldKeys order db' target, ?_, discloses⟩
    rw [produce, checks, ok_bind]
    dsimp only
    rw [found]
    exact bind_eq_ok.mpr ⟨gossip, produced, rfl⟩

/-! ### A chain of four Nodes -/

def addressedNode (label : UInt8) (neighbors : List UInt8) : NodeRecord :=
  withNodeAddr ⟨sampleInner label ⟨0, u32_zero⟩ neighbors, .new sampleNow, ⟨[label]⟩, ⟨[]⟩⟩
    (some (sampleNodeAddr label))

def sampleChain : NeighborhoodDatabase :=
  (((addArbitraryNode ⟨sampleKey 1, ∅, ∅⟩ (addressedNode 1 [2])).addArbitraryNode
    (addressedNode 2 [1, 3])).addArbitraryNode (addressedNode 3 [2, 4])).addArbitraryNode
      (addressedNode 4 [3])

lemma wellIndexed_sampleChain : WellIndexed sampleChain :=
  ((((wellIndexed_empty _).addArbitraryNode rfl).addArbitraryNode (by decide)).addArbitraryNode
    (by decide)).addArbitraryNode (by decide)

lemma populated_sampleChain : Populated sampleChain := ⟨wellIndexed_sampleChain.keyed, by decide⟩

/-- The second Node learns nothing of the address of the fourth. -/
theorem sampleChain_keeps_address : ∃ gossip keys,
    produce lonelyEnvironment listedOrder sampleClock sampleChain sampleNow (sampleKey 2) =
      .ok (some gossip, sampleChain, sampleNow) ∧
    Discloses sampleChain (sampleKey 2) (addressedNode 2 [1, 3]) keys gossip := (gossip_keeps_addresses populated_sampleChain lonelyEnvironment listedOrder sampleClock sampleNow
    (sampleKey 2)).2.1 sampleChain sampleNow (addressedNode 2 [1, 3]) rfl (by decide)

end PulseMesh.Gossip
