import PulseMesh.Gossip.Changes

/-!
# The outcomes of the handlers

One statement for every handler says all that is needed of it later: which changes it makes, that it
makes none when it refuses the gossip, that it links a new neighbor only if there has been room for it,
and what the gossip that it answers with is made of.
-/

namespace PulseMesh.Gossip

open Machine SubLib Neighborhood Relation NeighborhoodDatabase Function Option NodeRecord

variable {env : Environment} {now : Clock} {metadata : NeighborhoodMetadata}
  {db mid db' : NeighborhoodDatabase} {agrs : List AccessibleGossipRecord}
  {record root : NodeRecord} {key : PublicKey} {gossip : SubLib.Gossip} {gossipSource : SocketAddr}
  {targetNodeAddr : NodeAddr} {targetKey : PublicKey}

/-! ### What gossip is made of -/

/-- The records of the gossip are signed as the database has them. -/
def Quotes (db : NeighborhoodDatabase) (gossip : SubLib.Gossip) : Prop :=
  ∀ gnr ∈ gossip.nodeRecords, ∃ key record, db.nodeByKey key = some record ∧
    gnr.signedData = record.signedGossip ∧ gnr.signature = record.signature

/-- The only record of the gossip is the Node's own one, with the debuting Node for its neighbors. -/
def RespondsToDebut (env : Environment) (db : NeighborhoodDatabase) (debutNodeKey : PublicKey)
    (gossip : SubLib.Gossip) : Prop :=
  ∃ root gnr, db.nodeByKey db.thisNode = some root ∧ gossip = ⟨[gnr]⟩ ∧
    env.innerCodec.serialize { root.inner with neighbors := (∅ : SortedSet PublicKey).insert debutNodeKey } =
      .ok gnr.signedData ∧
    env.cryptde.sign gnr.signedData = .ok gnr.signature

lemma quotes_node {builder builder' : GossipBuilder} (quotes : Quotes db builder.build)
    (added : builder.node db key reveal = .ok builder') : Quotes db builder'.build := by
  unfold GossipBuilder.node at added
  split at added
  · cases added
  · split at added
    · cases added
    next record found =>
      cases added
      intro gnr listed
      rcases List.mem_append.mp listed with earlier | last
      · exact quotes gnr earlier
      · refine ⟨key, record, found, ?_⟩
        rw [List.mem_singleton] at last
        subst last
        split <;> exact ⟨rfl, rfl⟩

lemma quotes_new : Quotes db GossipBuilder.new.build := by
  intro gnr listed
  cases listed

lemma quotes_produceDebut (produced : produceDebut db = .ok gossip) : Quotes db gossip := by
  obtain ⟨root, -, produced⟩ := ok_of_bind produced
  obtain ⟨builder, added, produced⟩ := ok_of_bind produced
  cases produced
  exact quotes_node quotes_new added

lemma quotes_makePassGossip (made : makePassGossip db key = .ok gossip) : Quotes db gossip := by
  obtain ⟨builder, added, made⟩ := ok_of_bind made
  cases made
  exact quotes_node quotes_new added

lemma quotes_makeIntroduction
    (made : makeIntroduction order db agr gossipSource = .ok (some (gossip, targetKey, targetNodeAddr))) :
    Quotes db gossip := by
  obtain ⟨lcnOpt, -, made⟩ := ok_of_bind made
  split at made
  · cases made
  · split at made
    · cases made
    · obtain ⟨root, -, made⟩ := ok_of_bind made
      obtain ⟨first, addedRoot, made⟩ := ok_of_bind made
      obtain ⟨second, addedLcn, made⟩ := ok_of_bind made
      cases made
      exact quotes_node (quotes_node quotes_new addedRoot) addedLcn

lemma quotes_gossipFor {target : NodeRecord} (produced : gossipFor order db key target = .ok gossip) :
    Quotes db gossip := by
  obtain ⟨referenced, -, produced⟩ := ok_of_bind produced
  obtain ⟨root, -, produced⟩ := ok_of_bind produced
  obtain ⟨builder, added, produced⟩ := ok_of_bind produced
  cases produced
  rw [← Runs.run_eq_foldlM] at added
  exact Runs.invariant_of_steps (fun _ _ _ quotes added => quotes_node quotes added) quotes_new added

lemma quotes_makeDebutTriple
    (made : makeDebutTriple env db agr = .ok (.ok (gossip, targetKey, targetNodeAddr))) :
    Quotes db gossip := by
  unfold makeDebutTriple at made
  split at made
  · cases made
  · split at made
    · cases made
    · obtain ⟨debutGossip, produced, made⟩ := ok_of_bind made
      cases made
      exact quotes_produceDebut produced

lemma createDebutGossipResponse_eq_ok
    (made : createDebutGossipResponse env db key = .ok gossip) : RespondsToDebut env db key gossip := by
  obtain ⟨root, rooted, made⟩ := ok_of_bind made
  split at made
  · cases made
  next rootNode linked =>
    obtain ⟨gnr, signed, made⟩ := ok_of_bind made
    cases made
    obtain ⟨-, rfl⟩ := addHalfNeighborKey_eq_some.mp linked
    obtain ⟨signedData, serialized, signed⟩ := ok_of_bind signed
    split at signed
    next signature signs =>
      cases signed
      unfold serializeInner at serialized
      split at serialized
      next serializes =>
        cases serialized
        exact ⟨root, _, root_eq_ok.mp rooted, rfl, serializes, signs⟩
      · cases serialized
    · cases signed

/-! ### New records and new links -/

lemma newNodeRecord_eq_ok (made : newNodeRecord env now metadata agr = .ok record) :
    Brings agr record ∧ record.metadata.nodeAddrOpt = agr.nodeAddrOpt := by
  unfold newNodeRecord at made
  split at made
  · obtain ⟨undesirability, -, made⟩ := ok_of_bind made
    cases made
    exact ⟨⟨rfl, rfl, rfl⟩, rfl⟩
  · cases made
    exact ⟨⟨rfl, rfl, rfl⟩, rfl⟩

/-- A link and the signature under it, as one change of the Node's own record. -/
lemma link_eq_ok (added : db.addHalfNeighbor now.timeT key = .ok (true, mid))
    (signed : signNewLink env mid = .ok db') :
    ∃ root root', db.HasRoot root ∧ (db.nodeByKey key).isSome ∧
      key ∉ root.inner.neighbors ∧ key ≠ root.publicKey ∧ Links env key root root' ∧
      db' = db.store db.thisNode root' := by
  obtain ⟨root, rooted, present, new, foreign, rfl⟩ := addHalfNeighbor_eq_true added
  obtain ⟨linkedRoot, found, signed⟩ := ok_of_bind signed
  obtain ⟨versioned, incremented, signed⟩ := ok_of_bind signed
  obtain ⟨root', regenerated, signed⟩ := ok_of_bind signed
  cases signed
  -- the record that is signed is the one that has just been linked
  have linkedRoot_eq : linkedRoot = linked now.timeT root key := by
    have same := root_eq_ok.mp found
    rw [thisNode_store, nodeByKey_store, update_self] at same
    exact (some.inj same).symm
  subst linkedRoot_eq
  obtain ⟨version, increments, rfl⟩ := incrementVersion_eq_ok incremented
  obtain ⟨sameInner, sameMetadata, serialized, signs⟩ := regenerateSignedGossip_eq_ok regenerated
  refine ⟨root, root', rooted, present, new, foreign, ⟨?_, ?_, ?_, serialized, signs⟩, ?_⟩
  · rw [NodeRecord.version, NodeRecord.version, sameInner]
    exact increments
  · rw [sameInner]
    rfl
  · rw [sameMetadata]
    rfl
  · rw [store, store, store, AList.insert_insert]

/-! ### Outcomes -/

/-- The results by which gossip is refused. -/
def GossipAcceptanceResult.Refuses : GossipAcceptanceResult → Prop
  | .failed _ _ _ | .ignored | .ban _ => True
  | .accepted | .reply _ _ _ => False

def rootNeighbors (db : NeighborhoodDatabase) : Option (SortedSet PublicKey) :=
  (db.nodeByKey db.thisNode).map fun root => root.inner.neighbors

/-- A new half neighbor, linked after a look at the database in a state that had the same neighbors. -/
structure LinkedWithRoom (db checked db' : NeighborhoodDatabase) (root : NodeRecord)
    (key : PublicKey) : Prop where
  rooted : db.nodeByKey db.thisNode = some root
  sameNode : checked.thisNode = db.thisNode
  sameRoot : checked.nodeByKey db.thisNode = some root
  room : checked.gossipTargetDegree root.publicKey < maxDegree ∨
    (checked.fullNeighborKeys root).length < maxDegree
  sameOthers : ∀ k ∈ root.inner.neighbors, k ≠ db.thisNode → checked.nodeByKey k = db'.nodeByKey k
  new : key ∉ root.inner.neighbors
  linked : rootNeighbors db' = some (root.inner.neighbors.insert key)

/-- There has been room for a new neighbor, if there is one. -/
abbrev HasRoom (db db' : NeighborhoodDatabase) : Prop :=
  rootNeighbors db' = rootNeighbors db ∨ ∃ checked root key, LinkedWithRoom db checked db' root key

structure Outcome (env : Environment) (agrs : List AccessibleGossipRecord) (db : NeighborhoodDatabase)
    (handled : Handled) : Prop where
  changes : ReflTransGen (GossipChange env agrs) db handled.database
  refused : handled.result.Refuses → handled.database = db
  room : rootNeighbors handled.database = rootNeighbors db ∨
    ∃ checked root key, LinkedWithRoom db checked handled.database root key
  reply : ∀ gossip targetKey targetNodeAddr, handled.result = .reply gossip targetKey targetNodeAddr →
    Quotes handled.database gossip ∨ RespondsToDebut env handled.database targetKey gossip

lemma outcome_unchanged
    (reply : ∀ gossip targetKey targetNodeAddr, result = .reply gossip targetKey targetNodeAddr →
      Quotes db gossip) : Outcome env agrs db ⟨result, db, progress⟩ where
  changes := .refl
  refused _ := rfl
  room := .inl rfl
  reply gossip targetKey targetNodeAddr replies := .inl (reply gossip targetKey targetNodeAddr replies)

lemma rootNeighbors_store_root (links : Links env key root root') :
    rootNeighbors (mid.store mid.thisNode root') = some (root.inner.neighbors.insert key) := by
  rw [rootNeighbors, thisNode_store, nodeByKey_store, update_self, map_some, links.neighbors_eq]

/-- A link to the Node whose record is the only one that has changed before. -/
lemma linkedWithRoom_of_link (rooted : db.HasRoot root)
    (room : db.gossipTargetDegree root.publicKey < maxDegree ∨ (db.fullNeighborKeys root).length < maxDegree)
    (sameNode : mid.thisNode = db.thisNode)
    (sameOthers : ∀ k, k ≠ key → mid.nodeByKey k = db.nodeByKey k) (new : key ∉ root.inner.neighbors)
    (links : Links env key root root') :
    LinkedWithRoom db db (mid.store mid.thisNode root') root key where
  rooted := rooted
  sameNode := rfl
  sameRoot := rooted
  room := room
  sameOthers k linked foreign := by
    have other : k ≠ key := fun same => new (same ▸ linked)
    rw [nodeByKey_store, sameNode, update_of_ne foreign, sameOthers k other]
  new := new
  linked := rootNeighbors_store_root links

section

variable (rooted : db.HasRoot root)
  (room : db.gossipTargetDegree root.publicKey < maxDegree ∨ (db.fullNeighborKeys root).length < maxDegree)
  (change : GossipChange env agrs db mid) (foreign : key ≠ db.thisNode)
  (sameOthers : ∀ k, k ≠ key → mid.nodeByKey k = db.nodeByKey k)
  (found : mid.nodeByKey key = some record) (addressed : record.ipOpt.isSome)
include rooted room change foreign sameOthers found addressed

/-- The two steps in which a Node that gossip has brought becomes a half neighbor. -/
lemma changes_of_link (added : mid.addHalfNeighbor now.timeT key = .ok (true, withLink))
    (signed : signNewLink env withLink = .ok db') :
    ReflTransGen (GossipChange env agrs) db db' ∧ HasRoom db db' := by
  obtain ⟨linkedRoot, root', linkedRooted, -, new, notSelf, links, rfl⟩ := link_eq_ok added signed
  have sameNode := change.thisNode_eq
  -- the Node's own record is not the one that the gossip has brought
  have sameRoot : linkedRoot = root := by
    rw [HasRoot, sameNode, sameOthers _ foreign.symm, rooted] at linkedRooted
    exact (some.inj linkedRooted).symm
  subst sameRoot
  refine ⟨(ReflTransGen.single change).tail ?_, .inr ⟨db, linkedRoot, key, ?_⟩⟩
  · exact .linked linkedRooted found (fun _ => addressed) new notSelf links
  · exact linkedWithRoom_of_link rooted room sameNode sameOthers new links

lemma linkIntroducer_outcome (linked : linkIntroducer env now mid key = .ok db') :
    ReflTransGen (GossipChange env agrs) db db' ∧ HasRoom db db' := by
  unfold linkIntroducer at linked
  split at linked
  · cases linked
  next added => exact changes_of_link rooted room change foreign sameOthers found addressed added linked
  -- a half neighbor already: the record has changed, the neighbors have not
  next known =>
    cases linked
    cases addHalfNeighbor_eq_false known
    refine ⟨.single change, .inl ?_⟩
    rw [rootNeighbors, change.thisNode_eq, sameOthers _ foreign.symm, rootNeighbors]

end

/-! ### Pass -/

variable {handled : Handled} {nodeAddr : NodeAddr}

lemma passHandle_outcome
    (handles : passHandle now metadata db targets agrs gossipSource = .ok (handled, targets')) :
    Outcome env agrs db handled := by
  have silent : Outcome env agrs db ⟨.ignored, db, [⟨gossipSource.ip, .passLoopFound⟩]⟩ :=
    outcome_unchanged (by rintro _ _ _ ⟨⟩)
  -- the debut to the Node that the gossip passes this one to
  have debut : ∀ {targetKey : PublicKey} {targetNodeAddr : NodeAddr} {remembered : PassTargets}
      {progress : List ConnectionProgressMessage},
      ((do
        let gossip ← produceDebut db
        return (⟨.reply gossip targetKey targetNodeAddr, db, progress⟩ : Handled)) >>=
        fun handled => pure (handled, remembered)) = .ok (handled, targets') →
      Outcome env agrs db handled := by
    intro _ _ _ _ handles
    obtain ⟨replies, debuts, handles⟩ := ok_of_bind handles
    obtain ⟨gossip, produced, debuts⟩ := ok_of_bind debuts
    cases debuts
    cases handles
    refine outcome_unchanged ?_
    rintro _ _ _ ⟨⟩
    exact quotes_produceDebut produced
  unfold passHandle at handles
  split at handles
  · cases handles
  · split at handles
    · cases handles
    · dsimp only at handles
      -- a loop is found by the connections in progress, or by the time of an earlier Pass
      split at handles
      · split at handles
        · cases handles
          exact silent
        · exact debut handles
      · split at handles
        · cases handles
        · split at handles
          · cases handles
            exact silent
          · exact debut handles

/-! ### Debut -/

lemma ne_thisNode_of_fresh (rooted : db.HasRoot root)
    (fresh : db.nodeByKey key = none) : key ≠ db.thisNode := by
  rintro rfl
  rw [HasRoot, fresh] at rooted
  cases rooted

lemma nodeByKey_addArbitraryNode_self :
    (db.addArbitraryNode record).nodeByKey record.publicKey = some record := by
  rw [nodeByKey_addArbitraryNode, update_self]

lemma nodeByKey_addArbitraryNode_ne (other : key ≠ record.publicKey) :
    (db.addArbitraryNode record).nodeByKey key = db.nodeByKey key := by
  rw [nodeByKey_addArbitraryNode, update_of_ne other]

lemma length_keys_addArbitraryNode (fresh : db.nodeByKey record.publicKey = none) :
    (db.addArbitraryNode record).keys.length = db.keys.length + 1 := by
  have notMem : record.publicKey ∉ db.byPublicKey.keys := notMem_keys.mpr fresh
  have stored : (db.addArbitraryNode record).byPublicKey = db.byPublicKey.insert record.publicKey record := by
    unfold addArbitraryNode
    split <;> rfl
  rw [keys, stored, AList.keys_insert, List.erase_of_not_mem notMem]
  rfl

/-- A Node that is added with its address and linked. -/
lemma addDebutingNode_outcome (heard : agr ∈ agrs) (rooted : db.HasRoot root)
    (room : db.gossipTargetDegree root.publicKey < maxDegree)
    (added : addDebutingNode env now metadata db { agr with nodeAddrOpt := some nodeAddr } = .ok db') :
    ReflTransGen (GossipChange env agrs) db db' ∧ HasRoom db db' := by
  obtain ⟨record, made, added⟩ := ok_of_bind added
  obtain ⟨brings, hasAddr⟩ := newNodeRecord_eq_ok made
  split at added
  · cases added
  next debutNodeKey mid addedNode =>
    obtain ⟨-, fresh, rfl, rfl⟩ := addNode_eq_ok.mp addedNode
    split at added
    · cases added
    · cases added
    · cases added
    next withLink linked =>
      have addressed : record.ipOpt.isSome := by
        rw [ipOpt, hasAddr]
        rfl
      exact changes_of_link rooted (.inl room) (.discovered heard { brings with } fresh)
        (ne_thisNode_of_fresh rooted fresh) (fun k other => nodeByKey_addArbitraryNode_ne other)
        nodeByKey_addArbitraryNode_self addressed linked added

lemma tryAcceptDebut_outcome (heard : agr ∈ agrs)
    (accepted : tryAcceptDebut env order now metadata db { agr with nodeAddrOpt := some nodeAddr }
      gossipSource = .ok (some (result, db'))) : Outcome env agrs db ⟨result, db', []⟩ := by
  obtain ⟨root, rooted, accepted⟩ := ok_of_bind accepted
  split at accepted
  · cases accepted
  next room =>
    obtain ⟨linked, added, accepted⟩ := ok_of_bind accepted
    obtain ⟨changes, hasRoom⟩ :=
      addDebutingNode_outcome heard (root_eq_ok.mp rooted) (Nat.lt_of_not_le room) added
    -- accepted without a word, with an introduction, or with an answer of the Node itself
    split at accepted
    · cases accepted
      exact ⟨changes, False.elim, hasRoom, by rintro _ _ _ ⟨⟩⟩
    · obtain ⟨introductionOpt, introduces, accepted⟩ := ok_of_bind accepted
      split at accepted
      next introduction targetKey targetNodeAddr =>
        cases accepted
        refine ⟨changes, False.elim, hasRoom, ?_⟩
        rintro _ _ _ ⟨⟩
        exact .inl (quotes_makeIntroduction introduces)
      · obtain ⟨debutGossip, responds, accepted⟩ := ok_of_bind accepted
        cases accepted
        refine ⟨changes, False.elim, hasRoom, ?_⟩
        rintro _ _ _ ⟨⟩
        exact .inr (createDebutGossipResponse_eq_ok responds)

lemma debutHandle_outcome (handles : debutHandle env order now metadata db agrs gossipSource = .ok handled) :
    Outcome env agrs db handled := by
  -- the debuting Node is passed to another one
  have passes : ∀ {target targetKey : PublicKey} {targetNodeAddr : NodeAddr},
      (do
        let passGossip ← makePassGossip db target
        return (⟨.reply passGossip targetKey targetNodeAddr, db, []⟩ : Handled)) = .ok handled →
      Outcome env agrs db handled := by
    intro _ _ _ handles
    obtain ⟨passGossip, made, handles⟩ := ok_of_bind handles
    cases handles
    refine outcome_unchanged ?_
    rintro _ _ _ ⟨⟩
    exact quotes_makePassGossip made
  unfold debutHandle at handles
  split at handles
  · cases handles
  next agr rest =>
    obtain ⟨preferredOpt, -, handles⟩ := ok_of_bind handles
    -- passed to a preferred neighbor, accepted, or passed on because the Node is full
    split at handles
    · split at handles
      · cases handles
      · split at handles
        · cases handles
        · exact passes handles
    · obtain ⟨acceptedOpt, accepts, handles⟩ := ok_of_bind handles
      split at handles
      next result linked =>
        cases handles
        exact tryAcceptDebut_outcome List.mem_cons_self accepts
      · obtain ⟨lcnOpt, -, handles⟩ := ok_of_bind handles
        split at handles
        · cases handles
          exact outcome_unchanged (by rintro _ _ _ ⟨⟩)
        · split at handles
          · cases handles
          · exact passes handles

/-! ### Introduction -/

lemma identifyPlayers_eq_ok
    (identified : identifyPlayers env first second gossipSource = .ok (introducer, introducee)) :
    (introducer = first ∧ introducee = second ∨ introducer = second ∧ introducee = first) ∧
      introducer.nodeAddrOpt.isSome ∧ introducee.nodeAddrOpt.isSome := by
  unfold identifyPlayers orderIsIntroduceeIntroducer at identified
  split at identified
  · cases identified
  · cases identified
  next firstAddr secondAddr first_eq second_eq =>
    -- the source IP address decides which of the two is the introducer
    split at identified
    · cases identified
      exact ⟨.inl ⟨rfl, rfl⟩, by rw [first_eq]; rfl, by rw [second_eq]; rfl⟩
    · split at identified
      · cases identified
        exact ⟨.inr ⟨rfl, rfl⟩, by rw [second_eq]; rfl, by rw [first_eq]; rfl⟩
      · cases identified

lemma identifyPlayers_ne_matched : identifyPlayers env first second gossipSource ≠ .error .matched := by
  unfold identifyPlayers orderIsIntroduceeIntroducer
  split
  · nofun
  · nofun
  · split
    · nofun
    · split <;> nofun

lemma verifyIntroducer_eq_ok (verified : verifyIntroducer env agr root = .ok qualificationOpt) :
    qualificationOpt = none ∧ agr.inner.publicKey ≠ root.publicKey ∨
      ∃ reason, qualificationOpt = some (.malformed reason) := by
  unfold verifyIntroducer at verified
  split at verified
  · cases verified
    exact .inr ⟨_, rfl⟩
  next other =>
    split at verified
    · cases verified
    · split at verified
      · cases verified
        exact .inr ⟨_, rfl⟩
      · split at verified
        · cases verified
          exact .inr ⟨_, rfl⟩
        · cases verified
          exact .inl ⟨rfl, other⟩

lemma verifyIntroducee_matched
    (verified : (verifyIntroducee env db introducer introducee gossipSource).getD .matched = .matched) :
    db.nodeByKey introducee.inner.publicKey = none ∧
      ∃ nodeAddr, introducee.nodeAddrOpt = some nodeAddr ∧ nodeAddr.ports ≠ [] := by
  unfold verifyIntroducee at verified
  split at verified
  · cases verified
  next unknown =>
    split at verified
    · cases verified
    next nodeAddr told =>
      split at verified
      · cases verified
      next ports => exact ⟨by simpa using unknown, nodeAddr, told, ports⟩

/-- The two records of an Introduction. -/
structure Introduces (env : Environment) (db : NeighborhoodDatabase) (gossipSource : SocketAddr)
    (first second introducer introducee : AccessibleGossipRecord) : Prop where
  players : identifyPlayers env first second gossipSource = .ok (introducer, introducee)
  foreign : ∀ root, db.nodeByKey db.thisNode = some root → introducer.inner.publicKey ≠ root.publicKey
  unknown : db.nodeByKey introducee.inner.publicKey = none
  reachable : ∃ nodeAddr, introducee.nodeAddrOpt = some nodeAddr ∧ nodeAddr.ports ≠ []

lemma introductionQualifies_matched
    (matched_ : introductionQualifies env db agrs gossipSource = .ok .matched) :
    ∃ first second introducer introducee, agrs = [first, second] ∧
      Introduces env db gossipSource first second introducer introducee := by
  unfold introductionQualifies at matched_
  split at matched_
  next first second =>
    split at matched_
    next qualification unidentified =>
      cases matched_
      exact absurd unidentified identifyPlayers_ne_matched
    next introducer introducee players =>
      obtain ⟨root, rooted, matched_⟩ := ok_of_bind matched_
      obtain ⟨qualificationOpt, verified, matched_⟩ := ok_of_bind matched_
      -- an introducer that is not in order is malformed, never matched
      rcases verifyIntroducer_eq_ok verified with ⟨rfl, foreign⟩ | ⟨reason, rfl⟩
      · obtain ⟨unknown, reachable⟩ := verifyIntroducee_matched (Except.ok.inj matched_)
        refine ⟨first, second, introducer, introducee, rfl, players, ?_, unknown, reachable⟩
        intro root' rooted'
        rw [root_eq_ok, rooted'] at rooted
        cases rooted
        exact foreign
      · cases matched_
  · cases matched_

/-- A record that is updated by one of another Node is not the Node's own record. -/
lemma ne_thisNode_of_updated (rooted : db.HasRoot root) (notSelf : agr.inner.publicKey ≠ root.publicKey)
    (found : db.nodeByKey agr.inner.publicKey = some record)
    (updated : NodeRecord.Updated agr record record') : agr.inner.publicKey ≠ db.thisNode := by
  intro own
  rw [own, rooted] at found
  cases found
  exact notSelf updated.publicKey

lemma updateDatabase_outcome (rooted : db.HasRoot root)
    (room : (db.fullNeighborKeys root).length < maxDegree) (heard : agr ∈ agrs)
    (notSelf : agr.inner.publicKey ≠ root.publicKey) (hasAddr : agr.nodeAddrOpt.isSome)
    (updated : updateDatabase env now metadata db agr = .ok (.ok db')) :
    ReflTransGen (GossipChange env agrs) db db' ∧ HasRoom db db' := by
  unfold updateDatabase at updated
  dsimp only at updated
  split at updated
  next existing found =>
    split at updated
    next newer =>
      split at updated
      · cases updated
      next record' accepts =>
        obtain ⟨linked, links, updated⟩ := ok_of_bind updated
        cases updated
        have updated := update_eq_ok accepts
        have addressed : record'.ipOpt.isSome := by
          rw [ipOpt, isSome_map]
          exact updated.incoming hasAddr
        have foreign := ne_thisNode_of_updated rooted notSelf found updated
        refine linkIntroducer_outcome rooted (.inr room) (.refreshed heard foreign found newer updated)
          foreign (fun k other => ?_) ?_ addressed links
        · rw [nodeByKey_store, update_of_ne other]
        · rw [nodeByKey_store, update_self]
    · cases updated
      exact ⟨.refl, .inl rfl⟩
  -- a new introducer is added first
  next unknown =>
    obtain ⟨record, made, updated⟩ := ok_of_bind updated
    obtain ⟨brings, newAddr⟩ := newNodeRecord_eq_ok made
    have under : record.publicKey = agr.inner.publicKey := by rw [NodeRecord.publicKey, brings.inner]
    have addressed : record.ipOpt.isSome := by
      rw [ipOpt, isSome_map, newAddr]
      exact hasAddr
    split at updated
    · cases updated
    next addedNode =>
      obtain ⟨linked, links, updated⟩ := ok_of_bind updated
      cases updated
      obtain ⟨-, fresh, -, rfl⟩ := addNode_eq_ok.mp addedNode
      rw [← under] at links
      exact linkIntroducer_outcome rooted (.inr room) (.discovered heard brings fresh)
        (ne_thisNode_of_fresh rooted fresh) (fun k other => nodeByKey_addArbitraryNode_ne other)
        nodeByKey_addArbitraryNode_self addressed links

lemma introductionHandle_outcome (matched_ : introductionQualifies env db agrs gossipSource = .ok .matched)
    (handles : introductionHandle env now metadata db agrs gossipSource = .ok handled) :
    Outcome env agrs db handled := by
  obtain ⟨first, second, introducer, introducee, rfl, introduces⟩ := introductionQualifies_matched matched_
  obtain ⟨players, introducerAddressed, -⟩ := identifyPlayers_eq_ok introduces.players
  have heard : introducer ∈ [first, second] := by
    rcases players with ⟨rfl, -⟩ | ⟨rfl, -⟩ <;> simp
  obtain ⟨root, rooted, handles⟩ := ok_of_bind handles
  have notSelf := introduces.foreign root (root_eq_ok.mp rooted)
  -- without room nothing happens at all
  split at handles
  · cases handles
    exact outcome_unchanged (by rintro _ _ _ ⟨⟩)
  next room =>
    dsimp only at handles
    rw [introduces.players] at handles
    dsimp only at handles
    split at handles
    · obtain ⟨updatedOrError, updates, handles⟩ := ok_of_bind handles
      split at handles
      · cases handles
        exact outcome_unchanged (by rintro _ _ _ ⟨⟩)
      next updated =>
        obtain ⟨changes, hasRoom⟩ := updateDatabase_outcome (root_eq_ok.mp rooted)
          (Nat.lt_of_not_le room) heard notSelf introducerAddressed updates
        obtain ⟨tripleOrError, debuts, handles⟩ := ok_of_bind handles
        split at handles
        · cases handles
        · cases handles
          refine ⟨changes, False.elim, hasRoom, ?_⟩
          rintro _ _ _ ⟨⟩
          exact .inl (quotes_makeDebutTriple debuts)
    · cases handles

/-! ### Standard gossip -/

/-- A flag tells whether there is any change. -/
structure Advances (R : NeighborhoodDatabase → NeighborhoodDatabase → Prop) (changed : Bool)
    (db db' : NeighborhoodDatabase) : Prop where
  same : changed = false → db' = db
  differs : changed = true → TransGen R db db'

namespace Advances

variable {R S : NeighborhoodDatabase → NeighborhoodDatabase → Prop}

lemma reflTransGen (advances : Advances R first db db') : ReflTransGen R db db' := by
  cases first with
  | false =>
    cases advances.same rfl
    exact .refl
  | true => exact (advances.differs rfl).to_reflTransGen

lemma comp (before : Advances R first db mid) (after : Advances R second mid db') :
    Advances R (second || first) db db' where
  same unchanged := by
    rw [Bool.or_eq_false_iff] at unchanged
    rw [after.same unchanged.1, before.same unchanged.2]
  differs changed := by
    rw [Bool.or_eq_true] at changed
    rcases changed with rfl | rfl
    · exact (after.differs rfl).trans_right before.reflTransGen
    · exact (before.differs rfl).trans_left after.reflTransGen

lemma mono (advances : Advances R first db db') (weaker : ∀ db db', R db db' → S db db') :
    Advances S first db db' :=
  ⟨advances.same, fun changed => TransGen.mono weaker _ _ (advances.differs changed)⟩

end Advances

/-- A change that leaves the Node's own record alone. -/
def Learns (env : Environment) (agrs : List AccessibleGossipRecord) (db db' : NeighborhoodDatabase) : Prop :=
  GossipChange env agrs db db' ∧ db'.nodeByKey db.thisNode = db.nodeByKey db.thisNode

section

variable (learned : ReflTransGen (Learns env agrs) db db')
include learned

lemma root_eq_of_learned :
    db'.thisNode = db.thisNode ∧ db'.nodeByKey db.thisNode = db.nodeByKey db.thisNode := by
  -- every step keeps the record, so the whole run does
  induction learned with
  | refl => exact ⟨rfl, rfl⟩
  | tail _ learns ih =>
    refine ⟨learns.1.thisNode_eq.trans ih.1, ?_⟩
    rw [← ih.1, learns.2, ih.1, ih.2]

lemma rooted_of_learned : db'.nodeByKey db'.thisNode = db.nodeByKey db.thisNode := by
  obtain ⟨sameNode, sameRoot⟩ := root_eq_of_learned learned
  rw [sameNode, sameRoot]

lemma rootNeighbors_eq_of_learned : rootNeighbors db' = rootNeighbors db := by
  rw [rootNeighbors, rooted_of_learned learned, rootNeighbors]

end

lemma addNewNode_eq_ok (heard : agr ∈ agrs) (rooted : db.HasRoot root)
    (added : addNewNode env now metadata db agr = .ok db') :
    Learns env agrs db db' ∧ db'.keys.length = db.keys.length + 1 := by
  obtain ⟨record, made, added⟩ := ok_of_bind added
  obtain ⟨brings, -⟩ := newNodeRecord_eq_ok made
  split at added
  next addedNode =>
    cases added
    obtain ⟨-, fresh, rfl, rfl⟩ := addNode_eq_ok.mp addedNode
    have foreign := ne_thisNode_of_fresh rooted fresh
    refine ⟨⟨.discovered heard { brings with } fresh, ?_⟩, ?_⟩
    · exact nodeByKey_addArbitraryNode_ne foreign.symm
    · exact length_keys_addArbitraryNode fresh
  · cases added

lemma foldlM_addNewNode (rooted : db.HasRoot root) {fresh : List AccessibleGossipRecord}
    (heard : ∀ agr ∈ fresh, agr ∈ agrs)
    (folded : fresh.foldlM (addNewNode env now metadata) db = .ok db') :
    Advances (Learns env agrs) (decide (db'.keys.length ≠ db.keys.length)) db db' ∧
      db'.keys.length = db.keys.length + fresh.length := by
  induction fresh generalizing db with
  | nil =>
    cases folded
    exact ⟨⟨fun _ => rfl, by simp⟩, rfl⟩
  | cons agr fresh ih =>
    rw [List.forall_mem_cons] at heard
    obtain ⟨mid, added, folded⟩ := ok_of_bind folded
    obtain ⟨learns, longer⟩ := addNewNode_eq_ok heard.1 rooted added
    obtain ⟨advances, grown⟩ := ih ((rooted_of_learned (.single learns)).trans rooted) heard.2 folded
    -- every record that is added makes the database larger, so the size tells
    have total : db'.keys.length = db.keys.length + (fresh.length + 1) := by omega
    refine ⟨⟨fun unchanged => ?_, fun _ => .head' learns advances.reflTransGen⟩, total⟩
    simp [total] at unchanged

lemma updateIfObsolete_advances (heard : agr ∈ agrs) (rooted : mid.HasRoot root)
    (notSelf : agr.inner.publicKey ≠ root.publicKey) (advances : Advances (Learns env agrs) changed db mid) :
    Advances (Learns env agrs) (updateIfObsolete env now (changed, mid) agr).1 db
      (updateIfObsolete env now (changed, mid) agr).2 := by
  unfold updateIfObsolete
  split
  · exact advances
  next existing found =>
    split
    next newer =>
      split
      next record' accepts =>
        have updated := update_eq_ok accepts
        have foreign := ne_thisNode_of_updated rooted notSelf found updated
        refine ⟨nofun, fun _ => .tail' advances.reflTransGen
          ⟨.refreshed heard foreign found newer updated, ?_⟩⟩
        rw [nodeByKey_store, update_of_ne foreign.symm]
      · exact advances
    · exact advances

lemma foldl_updateIfObsolete {known : List AccessibleGossipRecord} (rooted : db.HasRoot root)
    (heard : ∀ agr ∈ known, agr ∈ agrs ∧ agr.inner.publicKey ≠ root.publicKey)
    (advances : Advances (Learns env agrs) changed db mid) :
    Advances (Learns env agrs) (known.foldl (updateIfObsolete env now) (changed, mid)).1 db
      (known.foldl (updateIfObsolete env now) (changed, mid)).2 := by
  -- the database changes from record to record, the Node's own record does not
  induction known generalizing changed mid with
  | nil => exact advances
  | cons agr known ih =>
    rw [List.forall_mem_cons] at heard
    have rootedMid := (rooted_of_learned advances.reflTransGen).trans rooted
    exact ih heard.2 (updateIfObsolete_advances heard.1.1 rootedMid heard.1.2 advances)

/-- No record of standard gossip is about the Node itself. -/
lemma standardQualifies_matched (rooted : db.HasRoot root)
    (matched_ : standardQualifies env db agrs gossipSource = .ok .matched) :
    ∀ agr ∈ agrs, agr.inner.publicKey ≠ root.publicKey := by
  rw [standardQualifies, root_eq_ok.mpr rooted, ok_bind] at matched_
  obtain ⟨impostorOpt, -, matched_⟩ := ok_of_bind matched_
  split at matched_
  · cases matched_
  · split at matched_
    · cases matched_
    next none_ =>
      intro agr heard own
      simp only [List.any_eq_true, decide_eq_true_eq, not_exists, not_and] at none_
      exact none_ agr heard own

/-- In the first two phases of standard gossip, records of other Nodes are learned. -/
lemma learned_of_chosen {added : Bool} (rooted : db.HasRoot root)
    (notSelf : ∀ agr ∈ agrs, agr.inner.publicKey ≠ root.publicKey) (heard : ∀ agr ∈ chosen, agr ∈ agrs)
    (adds : identifyAndAddNonIntroductoryNewNodes env now metadata db chosen gossipSource =
      .ok (added, mid)) :
    Advances (Learns env agrs) ((identifyAndUpdateObsoleteNodes env now mid chosen).1 || added) db
      (identifyAndUpdateObsoleteNodes env now mid chosen).2 := by
  obtain ⟨_, folded, adds⟩ := ok_of_bind adds
  cases adds
  have new : ∀ agr ∈ newAgrs db.keys gossipSource chosen, agr ∈ agrs := fun agr listed =>
    heard agr (List.mem_filter.mp (List.mem_filter.mp listed).1).1
  have fresh := (foldlM_addNewNode rooted new folded).1
  have rootedNew := (rooted_of_learned fresh.reflTransGen).trans rooted
  have others : ∀ agr ∈ chosen, agr ∈ agrs ∧ agr.inner.publicKey ≠ root.publicKey := fun agr listed =>
    ⟨heard agr listed, notSelf agr (heard agr listed)⟩
  exact fresh.comp (foldl_updateIfObsolete rootedNew others ⟨fun _ => rfl, nofun⟩)

lemma nodeByIp_eq_some (well : WellIndexed db) (found : db.nodeByIp ip = some record) :
    db.nodeByKey record.publicKey = some record ∧ record.ipOpt = some ip := by
  obtain ⟨key, leads, found⟩ := bind_eq_some_iff.mp found
  have claims := well.sound ip key leads
  rw [found] at claims
  rw [well.keyed key record found]
  exact ⟨found, claims⟩

lemma LinkedWithRoom.of_learned (linked : LinkedWithRoom mid mid db' root key)
    (learned : ReflTransGen (Learns env agrs) db mid) : LinkedWithRoom db mid db' root key := by
  obtain ⟨sameNode, sameRoot⟩ := root_eq_of_learned learned
  have rooted := linked.rooted
  rw [sameNode] at rooted
  exact { linked with
    rooted := sameRoot ▸ rooted, sameNode, sameRoot := rooted, sameOthers := sameNode ▸ linked.sameOthers }

lemma addSrcNodeAsHalfNeighbor_eq_ok
    (added : addSrcNodeAsHalfNeighbor env now db gossipSource = .ok (changed, db')) :
    Advances (GossipChange env agrs) changed db db' ∧
      (db' = db ∨ ∃ root key, LinkedWithRoom db db db' root key) := by
  have unchanged : Advances (GossipChange env agrs) false db db := ⟨fun _ => rfl, nofun⟩
  unfold addSrcNodeAsHalfNeighbor at added
  split at added
  · cases added
    exact ⟨unchanged, .inl rfl⟩
  next gossipNode found =>
    obtain ⟨root, rooted, added⟩ := ok_of_bind added
    rw [root_eq_ok] at rooted
    split at added
    · cases added
      exact ⟨unchanged, .inl rfl⟩
    next room =>
      split at added
      · cases added
        exact ⟨unchanged, .inl rfl⟩
      · cases added
        exact ⟨unchanged, .inl rfl⟩
      next withLink links =>
        obtain ⟨signed, signs, added⟩ := ok_of_bind added
        cases added
        obtain ⟨root₀, root', rooted₀, present, new, foreign, links, rfl⟩ := link_eq_ok links signs
        obtain ⟨record, foundByKey⟩ := isSome_iff_exists.mp present
        cases rooted.symm.trans rooted₀
        -- the sender was found by its address, so its record has one
        refine ⟨⟨nofun, fun _ => .single (.linked rooted foundByKey ?_ new foreign links)⟩,
          .inr ⟨root, gossipNode.publicKey, ?_⟩⟩
        · intro well
          obtain ⟨foundByKey', claims⟩ := nodeByIp_eq_some well found
          rw [foundByKey] at foundByKey'
          cases foundByKey'
          rw [claims]
          rfl
        · exact linkedWithRoom_of_link rooted (.inr (Nat.lt_of_not_le room)) rfl (fun _ _ => rfl) new links

lemma applyStandardGossip_eq_ok (matched_ : standardQualifies env db agrs gossipSource = .ok .matched)
    (applied : applyStandardGossip env now metadata db agrs gossipSource = .ok (changed, db')) :
    Advances (GossipChange env agrs) changed db db' ∧ HasRoom db db' := by
  obtain ⟨rootNode, rooted, applied⟩ := ok_of_bind applied
  rw [root_eq_ok] at rooted
  have notSelf := standardQualifies_matched rooted matched_
  obtain ⟨⟨added, withNew⟩, adds, applied⟩ := ok_of_bind applied
  obtain ⟨⟨linked, withLink⟩, links, applied⟩ := ok_of_bind applied
  cases applied
  have learned := learned_of_chosen rooted notSelf (fun agr inPatch => (List.mem_filter.mp inPatch).1) adds
  have changes := learned.mono fun _ _ learns => learns.1
  -- the sender is linked in the third one
  obtain ⟨linkChanges, room⟩ := addSrcNodeAsHalfNeighbor_eq_ok links
  refine ⟨changes.comp linkChanges, ?_⟩
  rcases room with rfl | ⟨root, key, linkedWithRoom⟩
  · exact .inl (rootNeighbors_eq_of_learned learned.reflTransGen)
  · exact .inr ⟨_, root, key, linkedWithRoom.of_learned learned.reflTransGen⟩

section

variable (matched_ : standardQualifies env db agrs gossipSource = .ok .matched)
  (handles : standardHandle env now metadata db agrs gossipSource = .ok handled)
include matched_ handles

/-- Standard gossip is accepted if it changes the database, and ignored if not. -/
lemma standardHandle_eq_ok : ∃ changed, Advances (GossipChange env agrs) changed db handled.database ∧
    handled.result = (if changed then .accepted else .ignored) ∧ HasRoom db handled.database := by
  obtain ⟨initial, -, handles⟩ := ok_of_bind handles
  obtain ⟨⟨changed, db'⟩, applied, handles⟩ := ok_of_bind handles
  obtain ⟨final, -, handles⟩ := ok_of_bind handles
  obtain ⟨advances, room⟩ := applyStandardGossip_eq_ok matched_ applied
  -- the flag of the three phases decides the answer
  cases changed with
  | true =>
    rw [if_pos rfl] at handles
    split at handles
    all_goals
      cases handles
      exact ⟨true, advances, rfl, room⟩
  | false =>
    cases handles
    exact ⟨false, advances, rfl, room⟩

lemma standardHandle_outcome : Outcome env agrs db handled := by
  obtain ⟨changed, advances, result, room⟩ := standardHandle_eq_ok matched_ handles
  refine ⟨advances.reflTransGen, ?_, room, ?_⟩
  · intro refuses
    cases changed with
    | false => exact advances.same rfl
    | true =>
      rw [result] at refuses
      exact refuses.elim
  · intro gossip targetKey targetNodeAddr replies
    rw [result] at replies
    split at replies <;> cases replies

end

/-! ### The acceptor -/

lemma findHandler_eq_ok
    (found : findHandler env db agrs gossipSource handlers = .ok (qualification, handler)) :
    qualifies env db agrs gossipSource handler = .ok qualification := by
  -- the handlers before have left the gossip alone
  induction handlers with
  | nil => cases found
  | cons first handlers ih =>
    obtain ⟨qualification', asked, found⟩ := ok_of_bind found
    split at found
    · exact ih found
    · cases found
      exact asked

lemma handleBy_outcome (matched_ : qualifies env db agrs gossipSource handler = .ok .matched)
    (handles : handleBy env order now metadata db targets agrs gossipSource handler = .ok acceptance) :
    Outcome env agrs db acceptance.handled := by
  cases handler with
  | debutHandler =>
    obtain ⟨handled, debuts, handles⟩ := ok_of_bind handles
    cases handles
    exact debutHandle_outcome debuts
  | passHandler =>
    obtain ⟨handled, passes, handles⟩ := ok_of_bind handles
    cases handles
    exact passHandle_outcome passes
  | introductionHandler =>
    obtain ⟨handled, introduces, handles⟩ := ok_of_bind handles
    cases handles
    exact introductionHandle_outcome matched_ introduces
  | standardGossipHandler =>
    obtain ⟨handled, standard, handles⟩ := ok_of_bind handles
    cases handles
    exact standardHandle_outcome matched_ standard
  | rejectHandler => cases handles

/-- **Outcome**: what the acceptor leaves behind, whatever the gossip and whatever the database. -/
theorem acceptGossip_outcome
    (accepted : acceptGossip env order now metadata db targets agrs gossipSource = .ok acceptance) :
    Outcome env agrs db acceptance.handled := by
  obtain ⟨⟨qualification, handler⟩, found, accepted⟩ := ok_of_bind accepted
  cases qualification with
  | matched => exact handleBy_outcome (findHandler_eq_ok found) accepted
  | unmatched => cases accepted
  | malformed reason =>
    cases accepted
    exact outcome_unchanged (by rintro _ _ _ ⟨⟩)

end PulseMesh.Gossip
