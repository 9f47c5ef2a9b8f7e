import PulseMesh.Gossip.RootNeighbors
import PulseMesh.Lib.Returns

/-!
# Gossip that is always handled

In a released build arithmetic does not stop the acceptor, and if the Node can sign its own records,
then hardly anything else does: the handlers check before they handle, and the neighbors that they look
up are there.  What is left are records of one new Node twice in the same standard gossip, a clock that
has gone back, and a Node that accepts connections and has lost its own address.
-/

namespace PulseMesh.Gossip

open Machine SubLib Neighborhood NeighborhoodDatabase List Function Option NodeRecord

variable {env : Environment} {now : Clock} {metadata : NeighborhoodMetadata}
  {db : NeighborhoodDatabase} {agr : AccessibleGossipRecord} {root : NodeRecord}
  {agrs : List AccessibleGossipRecord} {gossipSource : SocketAddr}
  {previousPassTargets : PassTargets}

/-- What the Node can rely on: a released build, and a key that signs everything. -/
structure Dependable (env : Environment) : Prop where
  release : env.profile = .release
  signs : ∀ inner, ∃ signed, regenerateSignedGossip env inner = .ok signed

/-- A Node that accepts connections knows where it accepts them. -/
def AcceptsSomewhere (db : NeighborhoodDatabase) : Prop :=
  ∀ root, db.nodeByKey db.thisNode = some root → root.inner.acceptsConnections = true →
    root.nodeAddrOpt.isSome

/-- No new Node comes twice. -/
abbrev NewOnce (db : NeighborhoodDatabase) (gossipSource : SocketAddr) (agrs : List AccessibleGossipRecord) : Prop :=
  ((newAgrs db.keys gossipSource agrs).map fun agr => agr.inner.publicKey).Nodup

/-! ### Records and links -/

section

/-- A record gets its undesirability if that of every location can be calculated. -/
lemma assignNodesCountryUndesirability_returns {preferences : ExitPreferences}
    (each : ∀ exitLocation ∈ preferences.locationsOpt.getD [],
      Safe (ExitPreferences.calculateCountryUndesirability p (exitLocation.priority.cast u32))) (record) :
    Safe (preferences.assignNodesCountryUndesirability p record) := by
  refine Returns.andThen (returns_foldlM ?_ trivial) fun _ => .ok trivial
  intro undesirability exitLocation listed _
  dsimp only
  -- a country that the user has not asked for keeps its undesirability
  split
  · exact (each exitLocation listed).andThen fun _ => .ok trivial
  · exact .ok trivial

variable (dependable : Dependable env)
include dependable

lemma regenerateSignedGossip_returns (record : NodeRecord) :
    Safe (record.regenerateSignedGossip env) := by
  obtain ⟨signed, regenerated⟩ := dependable.signs record.inner
  rw [NodeRecord.regenerateSignedGossip, regenerated]
  exact .ok trivial

lemma gossipNodeRecordOf_returns (inner nodeAddrOpt) : Safe (gossipNodeRecordOf env inner nodeAddrOpt) := by
  obtain ⟨signed, regenerated⟩ := dependable.signs inner
  obtain ⟨signedData, serialized, signs⟩ := ok_of_bind regenerated
  rw [gossipNodeRecordOf, serialized, ok_bind]
  -- the same data are serialized and signed in two steps
  split at signs
  · exact .ok trivial
  · cases signs

lemma incrementVersion_returns (record : NodeRecord) : Safe (record.incrementVersion env) :=
  (returns_arith dependable.release _ _).andThen fun _ => .ok trivial

lemma calculateCountryUndesirability_returns (priority) :
    Safe (ExitPreferences.calculateCountryUndesirability env.profile priority) :=
  (returns_arith dependable.release _ _).andThen fun _ => returns_arith dependable.release _ _

lemma newNodeRecord_returns (now metadata agr) :
    Returns (newNodeRecord env now metadata agr) fun record =>
      Brings agr record ∧ record.metadata.nodeAddrOpt = agr.nodeAddrOpt := by
  have returns : Safe (newNodeRecord env now metadata agr) := by
    unfold newNodeRecord
    split
    next preferences _ =>
      exact assignNodesCountryUndesirability_returns
        (fun _ _ => calculateCountryUndesirability_returns dependable _) _
    · exact .ok trivial
  exact (returns.also fun _ made => newNodeRecord_eq_ok made).mono fun _ => And.right

/-- A new Node can be added if its address, where it has one, has a port. -/
lemma newNodeRecord_added (now metadata) (fresh : db.nodeByKey agr.inner.publicKey = none)
    (reachable : ∀ nodeAddr ∈ agr.nodeAddrOpt, nodeAddr.ports ≠ []) :
    Returns (newNodeRecord env now metadata agr) fun record =>
      record.publicKey = agr.inner.publicKey ∧ record.metadata.nodeAddrOpt = agr.nodeAddrOpt ∧
        db.addNode record = .ok (record.publicKey, db.addArbitraryNode record) := by
  refine (newNodeRecord_returns dependable now metadata agr).mono ?_
  rintro record ⟨brings, hasAddr⟩
  have under : record.publicKey = agr.inner.publicKey := by rw [NodeRecord.publicKey, brings.inner]
  have ported : ∀ nodeAddr ∈ record.nodeAddrOpt, nodeAddr.ports ≠ [] := by
    rw [nodeAddrOpt, hasAddr, Option.forall_mem_map]
    intro nodeAddr told
    rw [Ne, NodeAddr.ports_clone_eq_nil]
    exact reachable nodeAddr told
  rw [← under] at fresh
  exact ⟨under, hasAddr, addNode_eq_ok.mpr ⟨ported, fresh, rfl, rfl⟩⟩

omit dependable in
lemma reachable_clone (reachable : ∀ nodeAddr ∈ agr.nodeAddrOpt, nodeAddr.ports ≠ []) :
    ∀ nodeAddr ∈ agr.clone.nodeAddrOpt, nodeAddr.ports ≠ [] := by
  rw [AccessibleGossipRecord.clone, Option.forall_mem_map]
  intro nodeAddr told
  rw [Ne, NodeAddr.ports_clone_eq_nil]
  exact reachable nodeAddr told

/-- The Node's own record has just been stored with the new link. -/
lemma signNewLink_returns (db : NeighborhoodDatabase) (record) :
    Safe (signNewLink env (db.store db.thisNode record)) := by
  have rooted : (db.store db.thisNode record).nodeByKey (db.store db.thisNode record).thisNode =
      some record := by
    rw [nodeByKey_store, thisNode_store, update_self]
  rw [signNewLink, root_eq_ok.mpr rooted]
  refine (incrementVersion_returns dependable record).andThen fun versioned => ?_
  exact (regenerateSignedGossip_returns dependable versioned).andThen fun _ => .ok trivial

end

/-- A Node that is in the database can become a half neighbor, unless it is one already. -/
lemma addHalfNeighbor_ok (rooted : db.HasRoot root) (found : db.nodeByKey key = some record)
    (foreign : key ≠ root.publicKey) (timeT) :
    key ∈ root.inner.neighbors ∧ db.addHalfNeighbor timeT key = .ok (false, db) ∨ key ∉ root.inner.neighbors ∧
        db.addHalfNeighbor timeT key = .ok (true, db.store db.thisNode (linked timeT root key)) := by
  have present : ¬ key ∉ db.keys := not_not.mpr (mem_keys.mpr (by simp [found]))
  unfold addHalfNeighbor
  rw [if_neg present]
  by_cases known : key ∈ root.inner.neighbors
  · left
    rw [if_pos (hasHalfNeighbor_eq_true.mpr ⟨root, rooted, known⟩)]
    exact ⟨known, rfl⟩
  · right
    -- there is only one record of the Node itself
    have unlinked : ¬ db.hasHalfNeighbor db.thisNode key = true := by
      rw [hasHalfNeighbor_eq_true]
      rintro ⟨root', rooted', linked⟩
      rw [rooted] at rooted'
      cases rooted'
      exact known linked
    rw [if_neg unlinked, rooted]
    dsimp only
    rw [addHalfNeighborKey_eq_some.mpr ⟨foreign, rfl⟩]
    exact ⟨known, rfl⟩

/-! ### Debut -/

/-- The address of a debut, told or taken from the stream, has a port. -/
lemma debutQualifies_matched (matched_ : debutQualifies env db agrs gossipSource = .matched) :
    ∃ agr, agrs = [agr] ∧ db.nodeByKey agr.inner.publicKey = none ∧
      (debutSourceAddr agr gossipSource).ports ≠ [] := by
  unfold debutQualifies at matched_
  split at matched_
  next agr =>
    split at matched_
    · cases matched_
    next unknown =>
      refine ⟨agr, rfl, by simpa using unknown, ?_⟩
      -- no address: that of the stream has its port
      split at matched_
      next silent =>
        rw [debutSourceAddr, silent, getD_none, NodeAddr.ofSocketAddr, Ne]
        exact cons_ne_nil _ _
      next nodeAddr told =>
        rw [debutSourceAddr, told]
        split at matched_
        · split at matched_
          · cases matched_
          next ports => exact ports
        · cases matched_
  · cases matched_

section

variable (dependable : Dependable env) (grounded : Grounded db)
include dependable grounded

lemma addDebutingNode_returns (told : agr.nodeAddrOpt = some nodeAddr) (ports : nodeAddr.ports ≠ [])
    (fresh : db.nodeByKey agr.inner.publicKey = none) :
    Returns (addDebutingNode env now metadata db agr) fun db' =>
      Grounded db' ∧ db'.thisNode = db.thisNode := by
  have reachable : ∀ nodeAddr ∈ agr.nodeAddrOpt, nodeAddr.ports ≠ [] := by
    rw [told]
    rintro _ ⟨⟩
    exact ports
  have freshClone : db.nodeByKey agr.clone.inner.publicKey = none := fresh
  refine (newNodeRecord_added dependable now metadata freshClone (reachable_clone reachable)).bind ?_
  rintro record ⟨under, hasAddr, added⟩
  rw [← under] at freshClone
  rw [added]
  -- a Node that was not in the database until now is nobody's neighbor here
  obtain ⟨root, rooted⟩ := grounded.rooted
  have foreign := ne_thisNode_of_fresh rooted freshClone
  have rooted' : (db.addArbitraryNode record).nodeByKey (db.addArbitraryNode record).thisNode = some root := by
    rw [thisNode_addArbitraryNode, nodeByKey_addArbitraryNode_ne foreign.symm, rooted]
  have notSelf : record.publicKey ≠ root.publicKey := by
    rw [grounded.keyed _ _ rooted]
    exact foreign
  -- so the link is new, and it is signed
  dsimp only
  rcases addHalfNeighbor_ok rooted' nodeByKey_addArbitraryNode_self notSelf now.timeT with
    ⟨linked, -⟩ | ⟨-, added⟩
  · obtain ⟨known, found, -⟩ := grounded.addressed root rooted _ linked
    rw [freshClone] at found
    cases found
  · rw [added]
    refine ((signNewLink_returns dependable _ _).also fun db' signed => ?_).mono fun _ => And.right
    obtain ⟨_, root', rootedBefore, -, new, other, links, rfl⟩ := link_eq_ok added signed
    have addressed : record.ipOpt.isSome := by
      rw [ipOpt, hasAddr, AccessibleGossipRecord.clone, told]
      rfl
    have change : GossipChange env [] (db.addArbitraryNode record) _ :=
      .linked rootedBefore nodeByKey_addArbitraryNode_self (fun _ => addressed) new other links
    exact ⟨(grounded.addArbitraryNode freshClone).change change, by simp⟩

lemma createDebutGossipResponse_returns (foreign : key ≠ db.thisNode) :
    Safe (createDebutGossipResponse env db key) := by
  obtain ⟨root, rooted⟩ := grounded.rooted
  have notSelf : key ≠ root.clearHalfNeighbors.publicKey := by
    rw [clearHalfNeighbors, publicKey_withNeighbors, grounded.keyed _ _ rooted]
    exact foreign
  rw [createDebutGossipResponse, root_eq_ok.mpr rooted, ok_bind,
    addHalfNeighborKey_eq_some.mpr ⟨notSelf, rfl⟩]
  exact (gossipNodeRecordOf_returns dependable _ _).andThen fun _ => .ok trivial

lemma debutHandle_returns (matched_ : debutQualifies env db agrs gossipSource = .matched) :
    Safe (debutHandle env order now metadata db agrs gossipSource) := by
  obtain ⟨agr, rfl, fresh, ports⟩ := debutQualifies_matched matched_
  obtain ⟨root, rooted⟩ := grounded.rooted
  have adds : Returns (addDebutingNode env now metadata db
      { agr with nodeAddrOpt := some (debutSourceAddr agr gossipSource) }) fun db' =>
        Grounded db' ∧ db'.thisNode = db.thisNode :=
    addDebutingNode_returns dependable grounded rfl ports fresh
  refine .of_ne_error fun panic fails => ?_
  -- only the new Node itself could be in the way
  rcases debutHandle_error grounded fails with failed | ⟨linked, added, failed⟩
  · obtain ⟨linked, added, -⟩ := adds
    rw [added] at failed
    cases failed
  · obtain ⟨groundedLinked, sameNode⟩ := adds.post added
    have foreign : agr.inner.publicKey ≠ linked.thisNode := by
      rw [sameNode]
      exact ne_thisNode_of_fresh rooted fresh
    obtain ⟨gossip, made, -⟩ := createDebutGossipResponse_returns dependable groundedLinked foreign
    rw [made] at failed
    cases failed

end

/-! ### Pass -/

/-- The clock has not gone back behind a Pass that is remembered. -/
def NotBefore (now : Clock) (previousPassTargets : PassTargets) : Prop :=
  ∀ ip timestamp, previousPassTargets.lookup ip = some timestamp →
    timestamp.nanos ≤ now.systemTime.nanos

lemma passQualifies_matched (matched_ : passQualifies env agrs gossipSource = .matched) :
    ∃ agr nodeAddr, agrs = [agr] ∧ agr.nodeAddrOpt = some nodeAddr := by
  unfold passQualifies at matched_
  split at matched_
  next agr =>
    split at matched_
    · cases matched_
    next nodeAddr told => exact ⟨agr, nodeAddr, rfl, told⟩
  · cases matched_

lemma passHandle_returns (grounded : Grounded db) (notBefore : NotBefore now previousPassTargets)
    (matched_ : passQualifies env agrs gossipSource = .matched) :
    Safe (passHandle now metadata db previousPassTargets agrs gossipSource) := by
  obtain ⟨agr, nodeAddr, rfl, told⟩ := passQualifies_matched matched_
  have debut : ∀ {progress : List ConnectionProgressMessage} {remembered : PassTargets}, Safe ((do
        let gossip ← produceDebut db
        return (⟨.reply gossip agr.inner.publicKey nodeAddr.clone, db, progress⟩ : Handled)) >>=
        fun handled => pure (handled, remembered)) := by
    obtain ⟨gossip, produced⟩ := produceDebut_ok grounded
    rw [produced]
    exact .ok trivial
  unfold passHandle
  dsimp only
  rw [told]
  dsimp only
  -- not passed to before, or passed to at a time that is not in the future
  split
  · split
    · exact .ok trivial
    · exact debut
  next timestamp remembered =>
    rw [if_neg (notBefore _ _ remembered).not_gt]
    split
    · exact .ok trivial
    · exact debut

/-! ### Introduction -/

lemma verifyIntroducer_returns (addressed : agr.nodeAddrOpt.isSome) :
    Safe (verifyIntroducer env agr root) := by
  obtain ⟨nodeAddr, told⟩ := isSome_iff_exists.mp addressed
  unfold verifyIntroducer
  rw [told]
  -- the introducer has an address by now, so that every check gives an answer
  split
  · exact .ok trivial
  · dsimp only
    split
    · exact .ok trivial
    · split <;> exact .ok trivial

lemma introductionQualifies_returns (rooted : db.HasRoot root) :
    Safe (introductionQualifies env db agrs gossipSource) := by
  unfold introductionQualifies
  split
  next first second =>
    split
    · exact .ok trivial
    next introducer introducee players =>
      obtain ⟨-, addressed, -⟩ := identifyPlayers_eq_ok players
      rw [root_eq_ok.mpr rooted]
      refine (verifyIntroducer_returns addressed).andThen fun qualificationOpt => ?_
      split <;> exact .ok trivial
  · exact .ok trivial

/-- An introducer that has been verified has a port. -/
lemma verifyIntroducer_eq_none (verified : verifyIntroducer env agr root = .ok none) :
    ∃ nodeAddr, agr.nodeAddrOpt = some nodeAddr ∧ nodeAddr.ports ≠ [] := by
  unfold verifyIntroducer at verified
  split at verified
  · cases verified
  · split at verified
    · cases verified
    next nodeAddr told =>
      split at verified
      · cases verified
      next ports => exact ⟨nodeAddr, told, ports⟩

lemma introducer_reachable
    (matched_ : introductionQualifies env db [first, second] gossipSource = .ok .matched)
    (players : identifyPlayers env first second gossipSource = .ok (introducer, introducee)) :
    ∃ nodeAddr, introducer.nodeAddrOpt = some nodeAddr ∧ nodeAddr.ports ≠ [] := by
  unfold introductionQualifies at matched_
  dsimp only at matched_
  rw [players] at matched_
  obtain ⟨root, -, matched_⟩ := ok_of_bind matched_
  obtain ⟨qualificationOpt, verified, matched_⟩ := ok_of_bind matched_
  rcases verifyIntroducer_eq_ok verified with ⟨rfl, -⟩ | ⟨reason, rfl⟩
  · exact verifyIntroducer_eq_none verified
  · cases matched_

section

variable (dependable : Dependable env)
include dependable

lemma linkIntroducer_returns (rooted : db.HasRoot root)
    (found : db.nodeByKey key = some record) (foreign : key ≠ root.publicKey) :
    Safe (linkIntroducer env now db key) := by
  unfold linkIntroducer
  -- a neighbor that is known is not signed for again
  rcases addHalfNeighbor_ok rooted found foreign now.timeT with ⟨-, known⟩ | ⟨-, added⟩
  · rw [known]
    exact .ok trivial
  · rw [added]
    exact signNewLink_returns dependable _ _

lemma updateDatabase_returns (rooted : db.HasRoot root) (notSelf : agr.inner.publicKey ≠ root.publicKey)
    (foreign : agr.inner.publicKey ≠ db.thisNode) (told : agr.nodeAddrOpt = some nodeAddr)
    (ports : nodeAddr.ports ≠ []) : Safe (updateDatabase env now metadata db agr) := by
  unfold updateDatabase
  dsimp only
  split
  -- an introducer that was known is updated, refused or left alone
  next existing found =>
    split
    · split
      · exact .ok trivial
      next updated accepts =>
        have lookup := nodeByKey_store db agr.inner.publicKey updated
        have rooted' : (db.store agr.inner.publicKey updated).nodeByKey db.thisNode = some root := by
          rw [lookup, update_of_ne foreign.symm, rooted]
        have found' : (db.store agr.inner.publicKey updated).nodeByKey agr.inner.publicKey =
            some updated := by
          rw [lookup, update_self]
        exact (linkIntroducer_returns dependable rooted' found' notSelf).andThen fun _ => .ok trivial
    · exact .ok trivial
  -- a new one can be added because the gossip tells a port of it
  next unknown =>
    have reachable : ∀ nodeAddr ∈ agr.nodeAddrOpt, nodeAddr.ports ≠ [] := by
      rw [told]
      rintro _ ⟨⟩
      exact ports
    refine (newNodeRecord_added dependable now metadata unknown reachable).bind ?_
    rintro record ⟨under, -, added⟩
    rw [added]
    rw [← under] at foreign notSelf ⊢
    refine Returns.andThen (linkIntroducer_returns dependable ?_ nodeByKey_addArbitraryNode_self notSelf)
      fun _ => .ok trivial
    rw [HasRoot, thisNode_addArbitraryNode, nodeByKey_addArbitraryNode_ne foreign.symm, rooted]

lemma introductionHandle_returns (grounded : Grounded db)
    (matched_ : introductionQualifies env db agrs gossipSource = .ok .matched) :
    Safe (introductionHandle env now metadata db agrs gossipSource) := by
  obtain ⟨first, second, introducer, introducee, rfl, introduces⟩ := introductionQualifies_matched matched_
  obtain ⟨introducerAddr, introducerTold, introducerPorts⟩ := introducer_reachable matched_ introduces.players
  obtain ⟨introduceeAddr, introduceeTold, introduceePorts⟩ := introduces.reachable
  obtain ⟨players, introducerAddressed, -⟩ := identifyPlayers_eq_ok introduces.players
  have heard : introducer ∈ [first, second] := by
    rcases players with ⟨rfl, -⟩ | ⟨rfl, -⟩ <;> simp
  obtain ⟨root, rooted⟩ := grounded.rooted
  have notSelf := introduces.foreign root rooted
  have foreign : introducer.inner.publicKey ≠ db.thisNode := by
    rw [← grounded.keyed _ _ rooted]
    exact notSelf
  rw [introductionHandle, root_eq_ok.mpr rooted, ok_bind]
  split
  · exact .ok trivial
  next room =>
    rw [introduces.players]
    dsimp only
    rw [introducerTold, introduceeTold]
    dsimp only
    obtain ⟨result, updates, -⟩ := updateDatabase_returns dependable rooted notSelf foreign introducerTold introducerPorts
    rw [updates, ok_bind]
    -- a refusal bans the introducer
    cases result with
    | error e => exact .ok trivial
    | ok updated =>
      obtain ⟨changes, -⟩ := updateDatabase_outcome rooted (Nat.lt_of_not_le room) heard notSelf
        introducerAddressed updates
      obtain ⟨gossip, produced⟩ := produceDebut_ok (grounded.changes changes)
      -- the introducee has an address with a port, so it gets a debut
      have debuts : makeDebutTriple env updated introducee =
          .ok (.ok (gossip, introducee.inner.publicKey, introduceeAddr.clone)) := by
        rw [makeDebutTriple, introduceeTold]
        dsimp only
        rw [if_neg introduceePorts, produced]
        rfl
      dsimp only
      rw [debuts]
      exact .ok trivial

end

/-! ### Standard gossip -/

lemma standardQualifies_returns (rooted : db.HasRoot root)
    (somewhere : AcceptsSomewhere db) : Safe (standardQualifies env db agrs gossipSource) := by
  have searched : Safe (findImpostor root (nextDoor agrs)) := by
    unfold findImpostor
    split
    · exact .ok trivial
    -- only here the Node's own address is needed
    next accepts =>
      have accepting : root.inner.acceptsConnections = true := by
        cases accepted : root.inner.acceptsConnections with
        | true => rfl
        | false => simp [accepted] at accepts
      obtain ⟨rootAddr, told⟩ := isSome_iff_exists.mp (somewhere root rooted accepting)
      rw [told]
      exact .ok trivial
  rw [standardQualifies, root_eq_ok.mpr rooted]
  refine searched.andThen fun impostorOpt => ?_
  split
  · exact .ok trivial
  · split
    · exact .ok trivial
    · split <;> exact .ok trivial

/-- An address by which a new Node is believed has the port that the gossip has come from. -/
lemma ports_of_isNonIntroductory (believed : isNonIntroductory gossipSource agr = true)
    (told : agr.nodeAddrOpt = some nodeAddr) : nodeAddr.ports ≠ [] := by
  intro none
  rw [isNonIntroductory, told] at believed
  have silent : nodeAddr.clone.ports = [] := NodeAddr.ports_clone_eq_nil.mpr none
  simp [NodeAddr.toSocketAddrs, silent] at believed

section

variable (dependable : Dependable env)
include dependable

lemma addNewNode_returns (fresh : db.nodeByKey agr.inner.publicKey = none)
    (believed : isNonIntroductory gossipSource agr = true) :
    Returns (addNewNode env now metadata db agr) fun db' =>
      ∀ key, key ≠ agr.inner.publicKey → db'.nodeByKey key = db.nodeByKey key := by
  have reachable : ∀ nodeAddr ∈ agr.nodeAddrOpt, nodeAddr.ports ≠ [] := fun nodeAddr told =>
    ports_of_isNonIntroductory believed told
  have freshClone : db.nodeByKey agr.clone.inner.publicKey = none := fresh
  refine (newNodeRecord_added dependable now metadata freshClone (reachable_clone reachable)).bind ?_
  rintro record ⟨under, -, added⟩
  rw [added]
  refine .ok fun key other => nodeByKey_addArbitraryNode_ne ?_
  rw [under]
  exact other

/-- New Nodes can be added one after the other if none of them comes twice. -/
lemma foldlM_addNewNode_returns {new : List AccessibleGossipRecord}
    (distinct : (new.map fun agr => agr.inner.publicKey).Nodup)
    (fresh : ∀ agr ∈ new, db.nodeByKey agr.inner.publicKey = none)
    (believed : ∀ agr ∈ new, isNonIntroductory gossipSource agr = true) :
    Safe (new.foldlM (addNewNode env now metadata) db) := by
  induction new generalizing db with
  | nil => exact .ok trivial
  | cons agr new ih =>
    rw [forall_mem_cons] at fresh believed
    rw [map_cons, nodup_cons] at distinct
    refine (addNewNode_returns dependable fresh.1 believed.1).bind fun added sameOthers => ?_
    refine ih distinct.2 ?_ believed.2
    -- the next records are still new, because none of them has the key just added
    intro other listed
    have different : other.inner.publicKey ≠ agr.inner.publicKey := fun same =>
      distinct.1 (mem_map.mpr ⟨other, listed, same⟩)
    rw [sameOthers _ different]
    exact fresh.2 other listed

lemma identifyAndAddNonIntroductoryNewNodes_returns (distinct : NewOnce db gossipSource agrs) :
    Safe (identifyAndAddNonIntroductoryNewNodes env now metadata db agrs gossipSource) := by
  have fresh : ∀ agr ∈ newAgrs db.keys gossipSource agrs, db.nodeByKey agr.inner.publicKey = none := by
    intro agr listed
    have unknown := (mem_filter.mp (mem_filter.mp listed).1).2
    exact notMem_keys.mp (of_decide_eq_true unknown)
  have believed : ∀ agr ∈ newAgrs db.keys gossipSource agrs, isNonIntroductory gossipSource agr = true :=
    fun agr listed => (mem_filter.mp listed).2
  exact (foldlM_addNewNode_returns dependable distinct fresh believed).andThen fun _ => .ok trivial

section

variable (rooted : db.HasRoot root)
include rooted

lemma addSrcNodeAsHalfNeighbor_returns :
    Safe (addSrcNodeAsHalfNeighbor env now db gossipSource) := by
  unfold addSrcNodeAsHalfNeighbor
  split
  · exact .ok trivial
  · rw [root_eq_ok.mpr rooted, ok_bind]
    split
    · exact .ok trivial
    · split
      · exact .ok trivial
      · exact .ok trivial
      next added =>
        obtain ⟨root', -, -, -, -, rfl⟩ := addHalfNeighbor_eq_true added
        exact (signNewLink_returns dependable _ _).andThen fun _ => .ok trivial

omit dependable in
lemma checkFullNeighbor_returns (ip) : Safe (checkFullNeighbor db ip) := by
  unfold checkFullNeighbor
  split
  · exact .ok trivial
  · rw [root_eq_ok.mpr rooted]
    exact .ok trivial

lemma applyStandardGossip_returns (distinct : NewOnce db gossipSource agrs)
    (matched_ : standardQualifies env db agrs gossipSource = .ok .matched) :
    Safe (applyStandardGossip env now metadata db agrs gossipSource) := by
  have notSelf := standardQualifies_matched rooted matched_
  rw [applyStandardGossip, root_eq_ok.mpr rooted, ok_bind]
  dsimp only
  -- only the records within the patch are looked at
  let chosen := filterAgrsByPatch agrs (computePatch agrs root metadata.dbPatchSize)
  have heard : ∀ agr ∈ chosen, agr ∈ agrs := fun agr inPatch => (mem_filter.mp inPatch).1
  have distinctChosen : NewOnce db gossipSource chosen :=
    distinct.sublist (((filter_sublist.filter _).filter _).map _)
  obtain ⟨⟨added, withNew⟩, adds, -⟩ := identifyAndAddNonIntroductoryNewNodes_returns dependable distinctChosen
  rw [adds]
  -- what is learned from others leaves the Node's own record where it is
  have learned := learned_of_chosen rooted notSelf heard adds
  have rootedUpdated := (rooted_of_learned learned.reflTransGen).trans rooted
  exact (addSrcNodeAsHalfNeighbor_returns dependable rootedUpdated).andThen fun _ => .ok trivial

end

lemma standardHandle_returns (grounded : Grounded db) (distinct : NewOnce db gossipSource agrs)
    (matched_ : standardQualifies env db agrs gossipSource = .ok .matched) :
    Safe (standardHandle env now metadata db agrs gossipSource) := by
  obtain ⟨root, rooted⟩ := grounded.rooted
  refine (checkFullNeighbor_returns rooted gossipSource.ip).andThen fun before => ?_
  obtain ⟨⟨changed, applied⟩, applies, -⟩ := applyStandardGossip_returns dependable rooted distinct matched_
  rw [applies]
  obtain ⟨advances, -⟩ := applyStandardGossip_eq_ok matched_ applies
  obtain ⟨root', rooted'⟩ := (grounded.changes advances.reflTransGen).rooted
  refine (checkFullNeighbor_returns rooted' gossipSource.ip).andThen fun after => ?_
  split
  · split <;> exact .ok trivial
  · exact .ok trivial

end

/-! ### The acceptor -/

section

variable (dependable : Dependable env) (grounded : Grounded db) (somewhere : AcceptsSomewhere db)
include grounded somewhere

/-- The last of the handlers leaves nothing alone. -/
lemma findHandler_returns :
    Returns (findHandler env db agrs gossipSource gossipHandlers) fun found =>
      found.1 ≠ .unmatched ∧ (found.1 = .matched → found.2 ≠ .rejectHandler) := by
  obtain ⟨root, rooted⟩ := grounded.rooted
  obtain ⟨introduction, asked, -⟩ : Safe (introductionQualifies env db agrs gossipSource) :=
    introductionQualifies_returns rooted
  obtain ⟨standard, asked', -⟩ : Safe (standardQualifies env db agrs gossipSource) :=
    standardQualifies_returns rooted somewhere
  -- the handlers are asked in their order, and the last one rejects
  simp only [gossipHandlers, findHandler, qualifies, ok_bind, asked, asked']
  cases debutQualifies env db agrs gossipSource with
  | matched | malformed => exact .ok (by simp)
  | unmatched =>
    cases passQualifies env agrs gossipSource with
    | matched | malformed => exact .ok (by simp)
    | unmatched =>
      cases introduction with
      | matched | malformed => exact .ok (by simp)
      | unmatched =>
        cases standard with
        | matched | malformed | unmatched => exact .ok (by simp)

include dependable

/-- **Acceptance**: gossip is handled, whatever it says and wherever it comes from. -/
theorem acceptGossip_returns (notBefore : NotBefore now previousPassTargets)
    (distinct : NewOnce db gossipSource agrs) :
    Safe (acceptGossip env order now metadata db previousPassTargets agrs gossipSource) := by
  obtain ⟨⟨qualification, handler⟩, found, matches_, kind⟩ := findHandler_returns grounded somewhere
  have asked := findHandler_eq_ok found
  rw [acceptGossip, found]
  cases qualification with
  | unmatched => exact absurd rfl matches_
  | malformed reason => exact .ok trivial
  | matched =>
    -- each handler has qualified the gossip before it handles it
    cases handler with
    | debutHandler =>
      have matched_ : debutQualifies env db agrs gossipSource = .matched := Except.ok.inj asked
      exact (debutHandle_returns dependable grounded matched_).andThen fun _ => .ok trivial
    | passHandler =>
      have matched_ : passQualifies env agrs gossipSource = .matched := Except.ok.inj asked
      exact (passHandle_returns grounded notBefore matched_).andThen fun _ => .ok trivial
    | introductionHandler =>
      exact (introductionHandle_returns dependable grounded asked).andThen fun _ => .ok trivial
    | standardGossipHandler =>
      exact (standardHandle_returns dependable grounded distinct asked).andThen fun _ => .ok trivial
    | rejectHandler => exact absurd rfl (kind rfl)

end

/-! ### The database -/

section

variable (dependable : Dependable env) (grounded : Grounded db)
include dependable grounded

lemma checkForDeadNodes_returns (lastDeadNodeCheck) :
    Safe (checkForDeadNodes env now db lastDeadNodeCheck) := by
  obtain ⟨root, rooted⟩ := grounded.rooted
  refine Returns.andThen (returns_arith dependable.release _ _) fun elapsed => ?_
  -- subtractions wrap in a released build
  split
  · rw [cullDeadNodes, referencedNodeKeys, root_eq_ok.mpr rooted, ok_bind, pure_eq_ok, ok_bind]
    refine Returns.andThen ?_ fun _ => .ok trivial
    exact Returns.andThen (returns_arith dependable.release _ _) fun _ => .ok trivial
  · exact .ok trivial

lemma produce_returns (order lastDeadNodeCheck key) :
    Returns (produce env order now db lastDeadNodeCheck key) fun produced =>
      checkForDeadNodes env now db lastDeadNodeCheck = .ok produced.2 := by
  obtain ⟨⟨db', checkedAt⟩, checked, -⟩ := checkForDeadNodes_returns dependable grounded lastDeadNodeCheck
  rw [produce, checked, ok_bind]
  dsimp only
  split
  · exact .ok rfl
  next record found =>
    obtain ⟨gossip, made⟩ := gossipFor_ok (grounded.checkForDeadNodes checked) order key record
    rw [made]
    exact .ok rfl

lemma removeNeighbor_returns (key : PublicKey) :
    Returns (db.removeNeighbor env key) fun removed => (db.nodeByKey key).isSome → removed.isOk := by
  unfold removeNeighbor
  split
  next unknown => exact .ok fun known => by simp [unknown] at known
  next record found =>
    obtain ⟨root, rooted⟩ := grounded.rooted
    obtain ⟨root', rooted'⟩ : ∃ root', (db.withoutAddress key record).nodeByKey
        (db.withoutAddress key record).thisNode = some root' := by
      rw [nodeByKey_withoutAddress, thisNode_withoutAddress]
      -- a Node that is told to forget itself still has its record
      by_cases own : db.thisNode = key
      · exact ⟨record.unsetNodeAddr, by rw [own, update_self]⟩
      · exact ⟨root, by rw [update_of_ne own, rooted]⟩
    have lookup : ((db.store key record.unsetNodeAddr).unindex record.nodeAddrOpt).root = .ok root' :=
      root_eq_ok.mpr rooted'
    dsimp only
    rw [lookup, ok_bind]
    split
    · refine (incrementVersion_returns dependable _).andThen fun _ => ?_
      exact .ok fun _ => rfl
    · exact .ok fun _ => rfl

end

end PulseMesh.Gossip
