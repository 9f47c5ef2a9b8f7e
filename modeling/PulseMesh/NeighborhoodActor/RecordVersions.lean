import PulseMesh.NeighborhoodActor.RecordConsistency

/-!
# The versions of the Node's own record

Other Nodes take over a record only if its version is newer than that of the record that they have.  So
the version of the Node's own record has to tell what is in it.  Wherever the record changes, its version
goes up before the record is sent, by one for every new and every lost neighbor; the exceptions are those
of its signature, and the greatest version that there is.
-/

namespace PulseMesh.NeighborhoodActor

open Machine SubLib Gossip Relation Runs NeighborhoodDatabase List Function Option

variable {env : NodeEnvironment} {db db' : NeighborhoodDatabase} {root : NodeRecord}
  {after : Correspondence} {inner inner' : NodeRecordInner}

/-- The data are the same as before, or they have a newer version. -/
def Succeeds (inner inner' : NodeRecordInner) : Prop :=
  inner' = inner ∨ inner.version.val < inner'.version.val

lemma Succeeds.refl (inner) : Succeeds inner inner := .inl rfl

lemma Succeeds.trans (first : Succeeds inner inner') (second : Succeeds inner' inner'') :
    Succeeds inner inner'' := by
  rcases first with rfl | newer
  · exact second
  · rcases second with rfl | newest
    · exact .inr newer
    · exact .inr (newer.trans newest)

lemma Succeeds.eq_of_version_eq (succeeds : Succeeds inner inner') (same : inner.version = inner'.version) :
    inner = inner' := by
  rcases succeeds with rfl | newer
  · rfl
  · rw [same] at newer
    exact absurd newer (lt_irrefl _)

/-! ### Version numbers -/

/-- There is a next version number, or the Node stops instead of starting again with 0. -/
def VersionLeft (env : NodeEnvironment) (db : NeighborhoodDatabase) : Prop :=
  ∀ root, db.nodeByKey db.thisNode = some root → env.profile = .debug ∨ root.version.val + 1 < 2 ^ 32

lemma add_one_exact {version version' : U32} (left : p = .debug ∨ version.val + 1 < 2 ^ 32)
    (added : version.add p ⟨1, by decide⟩ = .ok version') : version'.val = version.val + 1 := by
  -- a debug build stops where a released one wraps
  rcases left with rfl | small
  · exact arith_debug_eq_ok.mp added
  · have fits : u32.Holds (version.val + 1) := (u32_holds _).mpr ⟨by have := version.bounds; omega, small⟩
    have exactly := arith_ok p fits
    cases exactly.symm.trans added
    rfl

/-- How far gossip has brought the Node's own data: nowhere, one neighbor further, or more. -/
def Grown (inner inner' : NodeRecordInner) : Prop :=
  inner' = inner ∨
    inner'.neighbors.toList.length = inner.neighbors.toList.length + 1 ∧
      inner'.version.val = inner.version.val + 1 ∨
    inner.neighbors.toList.length + 2 ≤ inner'.neighbors.toList.length

lemma Grown.link (left : env.profile = .debug ∨ inner.version.val + 1 < 2 ^ 32)
    (grown : Grown inner root.inner) (new : key ∉ root.inner.neighbors)
    (links : Links env.toEnvironment key root root') : Grown inner root'.inner := by
  have length : root'.inner.neighbors.toList.length = root.inner.neighbors.toList.length + 1 := by
    rw [links.neighbors_eq, (SortedSet.perm_insert new).length_eq, length_cons]
  rcases grown with same | ⟨more, -⟩ | more
  · -- the first link takes the next version number
    refine .inr (.inl ⟨same ▸ length, ?_⟩)
    rw [← same] at left ⊢
    exact add_one_exact left links.version
  · exact .inr (.inr (by omega))
  · exact .inr (.inr (by omega))

lemma grown_of_changes (left : env.profile = .debug ∨ root.version.val + 1 < 2 ^ 32)
    (rooted : db.HasRoot root)
    (changes : ReflTransGen (GossipChange env.toEnvironment agrs) db db') :
    ∃ root', db'.HasRoot root' ∧ Grown root.inner root'.inner := by
  induction changes with
  | refl => exact ⟨root, rooted, .inl rfl⟩
  | tail _ change ih =>
    obtain ⟨root', rooted', grown⟩ := ih
    -- only a link changes the Node's own data
    cases change with
    | discovered heard brings fresh =>
      refine ⟨root', ?_, grown⟩
      rw [HasRoot, thisNode_addArbitraryNode, nodeByKey_addArbitraryNode_ne (ne_thisNode_of_fresh rooted' fresh).symm,
        rooted']
    | refreshed heard foreign found newer updated =>
      refine ⟨root', ?_, grown⟩
      rw [HasRoot, thisNode_store, nodeByKey_store, update_of_ne foreign.symm, rooted']
    | linked rooted'' found addressed new foreign links =>
      rw [rooted'] at rooted''
      cases rooted''
      refine ⟨_, ?_, grown.link left new links⟩
      rw [HasRoot, thisNode_store, nodeByKey_store, update_self]

lemma succeeds_of_outcome (left : VersionLeft env db) (rooted : db.HasRoot root)
    (outcome : Outcome env.toEnvironment agrs db handled) :
    ∃ root', handled.database.nodeByKey handled.database.thisNode = some root' ∧
      Succeeds root.inner root'.inner := by
  obtain ⟨root', rooted', grown⟩ := grown_of_changes (left root rooted) rooted outcome.changes
  refine ⟨root', rooted', ?_⟩
  rcases grown with same | ⟨-, version⟩ | tooMany
  · exact .inl same
  · exact .inr (by omega)
  · -- no gossip brings more than one neighbor
    exfalso
    have neighbors : rootNeighbors handled.database = some root'.inner.neighbors := by
      rw [rootNeighbors, rooted', map_some]
    rcases outcome.room with same | ⟨checked, linkRoot, key, linked⟩
    · rw [neighbors, rootNeighbors, rooted, map_some, some.injEq] at same
      rw [same] at tooMany
      omega
    · have linkRooted := linked.rooted
      rw [rooted] at linkRooted
      cases linkRooted
      have inserted := linked.linked
      rw [neighbors, some.injEq] at inserted
      rw [inserted, (SortedSet.perm_insert linked.new).length_eq, length_cons] at tooMany
      omega

/-! ### The Node's own data, one database after the other -/

/-- The Node's own data. -/
def rootInner (db : NeighborhoodDatabase) : Option NodeRecordInner :=
  (db.nodeByKey db.thisNode).map NodeRecord.inner

lemma rootInner_eq (rooted : db.HasRoot root) : rootInner db = some root.inner := by
  rw [rootInner, rooted, map_some]

lemma rootInner_store_root : rootInner (db.store db.thisNode root') = some root'.inner := by
  rw [rootInner, thisNode_store, nodeByKey_store, update_self, map_some]

/-- Another record is stored, or the Node's own one with the same data. -/
lemma rootInner_update (lookup : db'.nodeByKey = update db.nodeByKey key (some record'))
    (sameNode : db'.thisNode = db.thisNode) (found : db.nodeByKey key = some record)
    (sameInner : record'.inner = record.inner) : rootInner db' = rootInner db := by
  rw [rootInner, sameNode, lookup, rootInner]
  -- the stored record may be the Node's own one
  by_cases own : db.thisNode = key
  · subst own
    rw [update_self, found, map_some, sameInner, map_some]
  · rw [update_of_ne own]

lemma rootInner_withoutAddress (found : db.nodeByKey key = some record) :
    rootInner (db.withoutAddress key record) = rootInner db :=
  rootInner_update (nodeByKey_withoutAddress _ _ _) (thisNode_withoutAddress _ _ _) found rfl

lemma rootInner_newPublicIp (renewed : db.newPublicIp newIp = .ok db') : rootInner db' = rootInner db := by
  obtain ⟨record, oldNodeAddr, rooted, -, rfl⟩ := newPublicIp_eq_ok renewed
  rw [rootInner, thisNode_index, thisNode_unindex, thisNode_store, nodeByKey_index, nodeByKey_unindex,
    nodeByKey_store, update_self, rootInner_eq rooted]
  rfl

/-- The Node's own data in the second database succeed those in the first one. -/
def Later (db db' : NeighborhoodDatabase) : Prop :=
  ∃ inner inner', rootInner db = some inner ∧ rootInner db' = some inner' ∧ Succeeds inner inner'

lemma Later.of_same (known : rootInner db = some inner) (same : rootInner db' = rootInner db) :
    Later db db' :=
  ⟨inner, inner, known, same.trans known, .refl _⟩

lemma Later.trans (first : Later db mid) (second : Later mid db') : Later db db' := by
  obtain ⟨inner, inner', known, known', succeeds⟩ := first
  obtain ⟨again, inner'', knownAgain, known'', succeeds'⟩ := second
  rw [known'] at knownAgain
  cases knownAgain
  exact ⟨inner, inner'', known, known'', succeeds.trans succeeds'⟩

lemma later_unlinked (left : VersionLeft env db) (rooted : db.HasRoot root)
    (removed : db.removeNeighbor env.toEnvironment key = .ok (.ok (true, mid))) : Later db mid := by
  obtain ⟨record, oldRoot, found, oldRooted, ⟨changed, -, -⟩ | ⟨newRoot, incremented, -, -, rfl⟩⟩ :=
    removeNeighbor_eq_ok removed
  · cases changed
  · have sameNode := thisNode_withoutAddress db key record
    -- the address goes without a new version, the link with one
    have same : oldRoot.inner = root.inner := by
      have kept := rootInner_withoutAddress found
      rw [rootInner, sameNode, oldRooted, rootInner_eq rooted, map_some, some.injEq] at kept
      exact kept
    refine ⟨root.inner, newRoot.inner, rootInner_eq rooted, ?_, .inr ?_⟩
    · rw [← sameNode, rootInner_store_root]
    · obtain ⟨version, added, rfl⟩ := NodeRecord.incrementVersion_eq_ok incremented
      have leftNow := left root rooted
      rw [NodeRecord.version, ← same] at leftNow
      have next : version.val = oldRoot.inner.version.val + 1 := add_one_exact leftNow added
      rw [same] at next
      exact lt_of_lt_of_eq (Int.lt_succ _) next.symm

lemma Change.later (left : VersionLeft env db) (stays : StaysInCountry env db message)
    (grounded : Grounded db) (change : Change env message db db') : Later db db' := by
  obtain ⟨root, rooted⟩ := grounded.rooted
  have known := rootInner_eq rooted
  cases change with
  | nothing => exact .of_same known rfl
  | heard authentic outcome =>
    obtain ⟨root', rooted', succeeds⟩ := succeeds_of_outcome left rooted outcome
    exact ⟨root.inner, root'.inner, known, rootInner_eq rooted', succeeds⟩
  | unaddressed removes removed =>
    obtain ⟨record, oldRoot, found, -, ⟨-, -, rfl⟩ | ⟨newRoot, -, changed, -, -⟩⟩ :=
      removeNeighbor_eq_ok removed
    · exact .of_same known (rootInner_withoutAddress found)
    · cases changed
  | unlinked removes removed unlinkedRoot signed =>
    refine (later_unlinked left rooted removed).trans (.of_same (rootInner_eq unlinkedRoot) ?_)
    rw [rootInner_store_root, (NodeRecord.regenerateSignedGossip_eq_ok signed).1, rootInner_eq unlinkedRoot]
  | marked found => exact .of_same known (rootInner_update (nodeByKey_store _ _ _) rfl found rfl)
  -- the country would change without a version, but it stays
  | relocated told renewed located =>
    have renewedRoot := rootInner_newPublicIp renewed
    obtain ⟨midRoot, root', midRooted, rfl, inner, -⟩ := handleNewIpLocation_eq_ok located
    have same : midRoot.inner = root.inner := by
      rw [rootInner_eq midRooted, known, some.injEq] at renewedRoot
      exact renewedRoot
    refine .of_same known ?_
    rw [rootInner_store_root, inner, stays _ root told rooted, same, known]

lemma Tell.later (grounded : Grounded before.database) (tell : Tell env before after) :
    Later before.database after.database := by
  obtain ⟨root, rooted⟩ := grounded.rooted
  have known := rootInner_eq rooted
  cases tell with
  | signed signedRoot signed =>
    refine .of_same known ?_
    rw [rootInner_store_root, (NodeRecord.regenerateSignedGossip_eq_ok signed).1, rootInner_eq signedRoot]
  | culled checked =>
    refine .of_same known ?_
    rw [rootInner_eq (rooted_checkForDeadNodes checked grounded.keyed rooted), known]
  | quoted | answered => exact .of_same known rfl

/-! ### What has been sent -/

/-- Everything that is sent comes from the databases of the past, one later than the other. -/
structure Ordered (env : NodeEnvironment) (correspondence : Correspondence) : Prop
    extends Truthful env correspondence where
  past : ∀ sent ∈ correspondence.sent, Later sent.database correspondence.database
  snapshots : ∀ sent ∈ correspondence.sent, Consistent env sent.database
  ordered : correspondence.sent.Pairwise fun first second => Later first.database second.database

lemma ordered_append (ordered : Ordered env ⟨db, sent⟩)
    (truthful : Truthful env ⟨db, sent ++ [⟨target, gossip, db⟩]⟩) :
    Ordered env ⟨db, sent ++ [⟨target, gossip, db⟩]⟩ where
  toTruthful := truthful
  past := by
    obtain ⟨root, rooted⟩ := truthful.consistent.rooted
    rw [forall_mem_append, forall_mem_singleton]
    exact ⟨ordered.past, .of_same (rootInner_eq rooted) rfl⟩
  snapshots := by
    rw [forall_mem_append, forall_mem_singleton]
    exact ⟨ordered.snapshots, truthful.consistent⟩
  ordered := by
    refine pairwise_append.mpr ⟨ordered.ordered, pairwise_singleton _ _, ?_⟩
    intro earlier past last listed
    obtain rfl := mem_singleton.mp listed
    exact ordered.past earlier past

lemma Tell.ordered (signs : SignsVerifiably env) (ordered : Ordered env before)
    (tell : Tell env before after) (shows : ∀ sent ∈ after.sent, ShowsNeighbors env sent) :
    Ordered env after := by
  have truthful := tell.truthful signs ordered.toTruthful shows
  have later := tell.later ordered.consistent.toGrounded
  cases tell with
  | signed | culled =>
    exact ⟨truthful, fun sent listed => (ordered.past sent listed).trans later, ordered.snapshots,
      ordered.ordered⟩
  | quoted | answered => exact ordered_append ordered truthful

lemma handle_ordered {state next delivery} (signs : SignsVerifiably env)
    (ordered : Ordered env state.correspondence) (faithful : Faithful env state delivery)
    (left : VersionLeft env state.neighborhoodDatabase) (handled : handle env state delivery = .ok next) :
    Ordered env next.correspondence := by
  obtain ⟨db, change, tells⟩ := handle_eq_ok handled
  have later := change.later left faithful.country ordered.consistent.toGrounded
  -- everything sent so far is older than the database after the change
  have changed : Ordered env ⟨db, state.sent⟩ :=
    { consistent := change.consistent signs ordered.consistent faithful.country
      held := ordered.held
      past := fun sent listed => (ordered.past sent listed).trans later
      snapshots := ordered.snapshots
      ordered := ordered.ordered }
  exact of_tells (fun tell ordered => tell.ordered signs ordered) changed tells (faithful.answers next handled)

/-! ### Identification -/

/-- The data of the Node itself in a record that is sent. -/
structure TellsOwn (env : NodeEnvironment) (sent : Sent) (inner : NodeRecordInner) : Prop where
  listed : ∃ gnr ∈ sent.gossip.nodeRecords, env.innerCodec.deserialize gnr.signedData = .ok inner
  own : inner.publicKey = env.cryptde.publicKey

lemma TellsOwn.rootInner_eq (tells : TellsOwn env sent inner) (held : SignsHeldData env sent)
    (consistent : Consistent env sent.database) : rootInner sent.database = some inner := by
  obtain ⟨gnr, listed, decoded⟩ := tells.listed
  obtain ⟨key, record, found, heldData, -⟩ := held gnr listed
  rw [decoded] at heldData
  cases heldData
  -- a record with the Node's own key is the Node's own record
  have same : key = sent.database.thisNode :=
    (consistent.keyed key record found).symm.trans (tells.own.trans consistent.own.symm)
  subst same
  exact NeighborhoodActor.rootInner_eq found

/-- The versions of the Node's own records tell them apart. -/
def VersionsIdentify (env : NodeEnvironment) (log : List Sent) : Prop :=
  ∀ first ∈ log, ∀ second ∈ log, ∀ inner inner', TellsOwn env first inner → TellsOwn env second inner' →
    inner.version = inner'.version → inner = inner'

lemma Later.eq_of_version_eq (later : Later db db') (known : rootInner db = some inner)
    (known' : rootInner db' = some inner') (same : inner.version = inner'.version) : inner = inner' := by
  obtain ⟨first, second, isFirst, isSecond, succeeds⟩ := later
  rw [known] at isFirst
  cases isFirst
  rw [known'] at isSecond
  cases isSecond
  exact succeeds.eq_of_version_eq same

lemma Ordered.versionsIdentify (ordered : Ordered env correspondence) :
    VersionsIdentify env correspondence.sent := by
  intro first listed second listed' inner inner' tells tells' same
  have known := tells.rootInner_eq (ordered.held first listed) (ordered.snapshots first listed)
  have known' := tells'.rootInner_eq (ordered.held second listed') (ordered.snapshots second listed')
  -- the two may be sent in any order, or be one
  let Comparable (first second : Sent) : Prop :=
    Later first.database second.database ∨ Later second.database first.database
  have symmetric : Std.Symm Comparable := ⟨fun _ _ => Or.symm⟩
  have reflexive : ∀ sent ∈ correspondence.sent, Comparable sent sent := by
    intro sent listed
    obtain ⟨root, rooted⟩ := (ordered.snapshots sent listed).rooted
    exact .inl (.of_same (NeighborhoodActor.rootInner_eq rooted) rfl)
  have comparable : correspondence.sent.Pairwise Comparable := ordered.ordered.imp Or.inl
  rcases comparable.forall_of_forall reflexive listed listed' with later | later
  · exact later.eq_of_version_eq known known' same
  · exact (later.eq_of_version_eq known' known same.symm).symm

/-! ### One version for two countries -/

def frenchInner : NodeRecordInner := { sampleInner 1 ⟨1, u32_one⟩ [2] with countryCodeOpt := some "FR" }

def updateEnvironment : NodeEnvironment := sampleNodeEnvironment (debutTable ++ [lateInner, frenchInner])

/-- News of the Node 2 about itself. -/
def updateDelivery : Delivery :=
  sampleDelivery (.gossip ⟨[sampleGnr 3 (some (sampleNodeAddr 2))]⟩ (sampleSource 2))

end PulseMesh.NeighborhoodActor
