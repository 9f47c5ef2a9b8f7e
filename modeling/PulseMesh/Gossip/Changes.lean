import PulseMesh.Gossip.Acceptor
import PulseMesh.Gossip.IpIndex

/-!
# What gossip can change

Whatever handler it goes to, gossip changes the database in three ways only: a record of an unknown
Node is added, a record of a known one is replaced by a newer one, and the Node's own record gets a new
half neighbor and is signed again.  Invariants of the database are shown for these changes, and not for
the handlers.
-/

namespace PulseMesh.Gossip

open Machine SubLib Relation NeighborhoodDatabase Function NodeRecord SortedSet

variable {env : Environment} {db db' : NeighborhoodDatabase} {agr : AccessibleGossipRecord}
  {record root root' : NodeRecord} {agrs : List AccessibleGossipRecord} {key : PublicKey}

/-! ### The three changes -/

/-- A record has the signed data that gossip has brought. -/
structure Brings (agr : AccessibleGossipRecord) (record : NodeRecord) : Prop where
  inner : record.inner = agr.inner
  signedGossip : record.signedGossip = agr.signedGossip
  signature : record.signature = agr.signature

/-- The Node's own record before and after a link to a new half neighbor. -/
structure Links (env : Environment) (key : PublicKey) (root root' : NodeRecord) : Prop where
  version : root.version.add env.profile ⟨1, by decide⟩ = .ok root'.version
  inner : root'.inner =
    { root.inner with neighbors := root.inner.neighbors.insert key, version := root'.inner.version }
  nodeAddr : root'.metadata.nodeAddrOpt = root.metadata.nodeAddrOpt
  serialized : env.innerCodec.serialize root'.inner = .ok root'.signedGossip
  signed : env.cryptde.sign root'.signedGossip = .ok root'.signature

inductive GossipChange (env : Environment) (agrs : List AccessibleGossipRecord)
    (db : NeighborhoodDatabase) : NeighborhoodDatabase → Prop where
  | discovered {agr : AccessibleGossipRecord} {record : NodeRecord} (heard : agr ∈ agrs)
    (brings : Brings agr record) (fresh : db.nodeByKey record.publicKey = none) :
    GossipChange env agrs db (db.addArbitraryNode record)
  | refreshed {agr : AccessibleGossipRecord} {record record' : NodeRecord} (heard : agr ∈ agrs)
    (foreign : agr.inner.publicKey ≠ db.thisNode)
    (found : db.nodeByKey agr.inner.publicKey = some record)
    (newer : record.version.val < agr.inner.version.val)
    (updated : NodeRecord.Updated agr record record') :
    GossipChange env agrs db (db.store agr.inner.publicKey record')
  | linked {key : PublicKey} {root root' record : NodeRecord}
    (rooted : db.nodeByKey db.thisNode = some root) (found : db.nodeByKey key = some record)
    (addressed : WellIndexed db → record.ipOpt.isSome) (new : key ∉ root.inner.neighbors)
    (foreign : key ≠ root.publicKey) (links : Links env key root root') :
    GossipChange env agrs db (db.store db.thisNode root')

lemma GossipChange.thisNode_eq (change : GossipChange env agrs db db') : db'.thisNode = db.thisNode := by
  cases change with
  | discovered => simp
  | refreshed => rfl
  | linked => rfl

lemma thisNode_eq_of_changes (changes : ReflTransGen (GossipChange env agrs) db db') :
    db'.thisNode = db.thisNode := by
  induction changes with
  | refl => rfl
  | tail _ change ih => exact change.thisNode_eq.trans ih

section

variable (links : Links env key root root')
include links

lemma Links.publicKey_eq : root'.publicKey = root.publicKey := by
  rw [publicKey, links.inner]
  rfl

lemma Links.neighbors_eq : root'.inner.neighbors = root.inner.neighbors.insert key := by
  rw [links.inner]

lemma Links.ipOpt_eq : root'.ipOpt = root.ipOpt := by
  rw [ipOpt, links.nodeAddr]
  rfl

end

/-! ### Growth -/

/-- What gossip makes of a record: the Node's own one keeps its neighbors, another one is not set back. -/
def NodeRecord.GrowsTo (own : Prop) (record record' : NodeRecord) : Prop :=
  (own → ∀ key ∈ record.inner.neighbors, key ∈ record'.inner.neighbors) ∧
    (¬own → record.version.val ≤ record'.version.val)

/-- No record is lost, and every record that stays has grown. -/
def Grows (db db' : NeighborhoodDatabase) : Prop :=
  ∀ key record, db.nodeByKey key = some record →
    ∃ record', db'.nodeByKey key = some record' ∧ record.GrowsTo (key = db.thisNode) record'

lemma NodeRecord.GrowsTo.refl (own : Prop) (record : NodeRecord) : record.GrowsTo own record :=
  ⟨fun _ _ linked => linked, fun _ => le_rfl⟩

lemma NodeRecord.GrowsTo.trans {own : Prop} {record record' record'' : NodeRecord}
    (first : record.GrowsTo own record') (second : record'.GrowsTo own record'') :
    record.GrowsTo own record'' :=
  ⟨fun isOwn key linked => second.1 isOwn key (first.1 isOwn key linked),
    fun other => (first.2 other).trans (second.2 other)⟩

/-- The record of one key has been stored. -/
lemma grows_update {rows : PublicKey → Option NodeRecord} {record' : NodeRecord} {own : PublicKey → Prop}
    (grows : ∀ record, rows key = some record → record.GrowsTo (own key) record') :
    ∀ k record, rows k = some record → ∃ record'',
      update rows key (some record') k = some record'' ∧ record.GrowsTo (own k) record'' := by
  intro k record found
  by_cases same : k = key
  · subst same
    exact ⟨record', by simp, grows record found⟩
  · rw [update_of_ne same]
    exact ⟨record, found, .refl _ _⟩

lemma GossipChange.grows (change : GossipChange env agrs db db') : Grows db db' := by
  unfold Grows
  cases change with
  | discovered heard brings fresh =>
    rw [nodeByKey_addArbitraryNode]
    refine grows_update fun record found => ?_
    rw [fresh] at found
    cases found
  | refreshed heard foreign found newer updated =>
    rw [nodeByKey_store]
    refine grows_update fun record found' => ⟨fun own => absurd own foreign, fun _ => ?_⟩
    rw [found] at found'
    cases found'
    rw [version, version, updated.inner]
    exact newer.le
  | linked rooted found addressed new foreign links =>
    rw [nodeByKey_store]
    refine grows_update fun record rooted' => ⟨fun _ neighbor linked => ?_, fun other => absurd rfl other⟩
    rw [rooted] at rooted'
    cases rooted'
    rw [links.neighbors_eq, mem_insert]
    exact .inr linked

lemma grows_of_changes (changes : ReflTransGen (GossipChange env agrs) db db') : Grows db db' := by
  induction changes with
  | refl => exact fun key record found => ⟨record, found, .refl _ _⟩
  | tail changes change ih =>
    intro key record found
    obtain ⟨record', found', grows⟩ := ih key record found
    obtain ⟨record'', found'', grows'⟩ := change.grows key record' found'
    rw [thisNode_eq_of_changes changes] at grows'
    exact ⟨record'', found'', grows.trans grows'⟩

/-- After a first change, whatever comes later, some record is not what it was before. -/
lemma changes_differ (changes : TransGen (GossipChange env agrs) db db') :
    ∃ key, db'.nodeByKey key ≠ db.nodeByKey key := by
  obtain ⟨mid, change, later⟩ := TransGen.head'_iff.mp changes
  have grows := grows_of_changes later
  cases change with
  | @discovered agr record heard brings fresh =>
    obtain ⟨record', found, -⟩ := grows record.publicKey record (by simp [nodeByKey_addArbitraryNode])
    exact ⟨record.publicKey, by rw [found, fresh]; nofun⟩
  | @refreshed agr record record' heard foreign found newer updated =>
    obtain ⟨record'', found'', grown⟩ := grows agr.inner.publicKey record' (by simp [nodeByKey_store])
    refine ⟨agr.inner.publicKey, fun same => ?_⟩
    rw [found'', found] at same
    cases same
    have notOlder := grown.2 foreign
    rw [version, updated.inner] at notOlder
    exact absurd newer notOlder.not_gt
  | @linked key root root' record rooted found addressed new foreign links =>
    obtain ⟨root'', rooted'', grown⟩ := grows db.thisNode root' (by simp [nodeByKey_store])
    refine ⟨db.thisNode, fun same => ?_⟩
    rw [rooted'', rooted] at same
    cases same
    exact new (grown.1 rfl key (by simp [links.neighbors_eq]))

/-- What is known of another Node was known before, or gossip about that Node has brought it. -/
lemma origin_of_changes (changes : ReflTransGen (GossipChange env agrs) db db') (other : key ≠ db.thisNode)
    (found : db'.nodeByKey key = some record) :
    db.nodeByKey key = some record ∨ ∃ agr ∈ agrs, agr.inner.publicKey = key ∧ Brings agr record := by
  induction changes with
  | refl => exact .inl found
  | tail changes change ih =>
    cases change with
    | discovered heard brings fresh =>
      rw [nodeByKey_addArbitraryNode, update_apply] at found
      split at found
      next about =>
        cases found
        exact .inr ⟨_, heard, by rw [about, publicKey, brings.inner], brings⟩
      · exact ih found
    | refreshed heard foreign old newer updated =>
      rw [nodeByKey_store, update_apply] at found
      split at found
      next about =>
        cases found
        exact .inr ⟨_, heard, about.symm, updated.inner, updated.signedGossip, updated.signature⟩
      · exact ih found
    | linked =>
      rw [nodeByKey_store, thisNode_eq_of_changes changes, update_of_ne other] at found
      exact ih found

/-! ### The Node and its neighbors -/

/-- Every half neighbor of the Node is another Node that is in the database with an address. -/
structure Grounded (db : NeighborhoodDatabase) : Prop extends WellIndexed db where
  rooted : ∃ root, db.nodeByKey db.thisNode = some root
  foreign : ∀ root, db.nodeByKey db.thisNode = some root → db.thisNode ∉ root.inner.neighbors
  addressed : ∀ root, db.nodeByKey db.thisNode = some root → ∀ key ∈ root.inner.neighbors,
    ∃ record, db.nodeByKey key = some record ∧ record.ipOpt.isSome

/-- The Node's own record can be stored with any neighbors that are in the database. -/
lemma grounded_store_root (well : WellIndexed db) (rooted : db.HasRoot root)
    (sameKey : root'.publicKey = root.publicKey) (sameIp : root'.ipOpt = root.ipOpt)
    (foreign : db.thisNode ∉ root'.inner.neighbors)
    (addressed : ∀ key ∈ root'.inner.neighbors,
      ∃ record, db.nodeByKey key = some record ∧ record.ipOpt.isSome) :
    Grounded (db.store db.thisNode root') where
  toWellIndexed := by
    refine well.store (sameKey.trans (well.keyed _ _ rooted)) ?_
    intro ip claims
    rw [rooted] at claims
    exact sameIp.trans claims
  rooted := ⟨root', by simp [nodeByKey_store]⟩
  foreign := by
    rw [nodeByKey_store, thisNode_store, update_self]
    rintro _ ⟨⟩
    exact foreign
  addressed := by
    rw [nodeByKey_store, thisNode_store, update_self]
    rintro _ ⟨⟩ key linked
    have other : key ≠ db.thisNode := fun same => foreign (same ▸ linked)
    rw [update_of_ne other]
    exact addressed key linked

namespace Grounded

variable (grounded : Grounded db)
include grounded

/-- Any record but the Node's own one can be stored, as long as no address is lost. -/
lemma store_foreign (other : key ≠ db.thisNode) (under : record.publicKey = key)
    (kept : ∀ ip, (db.nodeByKey key).bind ipOpt = some ip → record.ipOpt = some ip) :
    Grounded (db.store key record) where
  toWellIndexed := grounded.toWellIndexed.store under kept
  rooted := by
    rw [nodeByKey_store, thisNode_store, update_of_ne other.symm]
    exact grounded.rooted
  foreign := by
    rw [nodeByKey_store, thisNode_store, update_of_ne other.symm]
    exact grounded.foreign
  addressed := by
    rw [nodeByKey_store, thisNode_store, update_of_ne other.symm]
    intro root rooted neighbor linked
    obtain ⟨old, found, addressed⟩ := grounded.addressed root rooted neighbor linked
    by_cases same : neighbor = key
    · subst same
      obtain ⟨ip, claims⟩ := Option.isSome_iff_exists.mp addressed
      refine ⟨record, by simp, ?_⟩
      rw [kept ip (by rw [found]; exact claims)]
      rfl
    · rw [update_of_ne same]
      exact ⟨old, found, addressed⟩

lemma addArbitraryNode (fresh : db.nodeByKey record.publicKey = none) :
    Grounded (db.addArbitraryNode record) := by
  have present : ∀ {k r}, db.nodeByKey k = some r → k ≠ record.publicKey := by
    rintro k r found rfl
    rw [fresh] at found
    cases found
  have kept : ∀ {k r}, db.nodeByKey k = some r → (db.addArbitraryNode record).nodeByKey k = some r := by
    intro k r found
    rw [nodeByKey_addArbitraryNode, update_of_ne (present found), found]
  obtain ⟨root, rooted⟩ := grounded.rooted
  refine ⟨grounded.toWellIndexed.addArbitraryNode fresh, ?_, ?_, ?_⟩
  all_goals rw [thisNode_addArbitraryNode, kept rooted]
  · exact ⟨root, rfl⟩
  · rintro _ ⟨⟩
    exact grounded.foreign root rooted
  · rintro _ ⟨⟩ neighbor linked
    obtain ⟨old, found, addressed⟩ := grounded.addressed root rooted neighbor linked
    exact ⟨old, kept found, addressed⟩

lemma change (change : GossipChange env agrs db db') : Grounded db' := by
  cases change with
  | discovered heard brings fresh => exact grounded.addArbitraryNode fresh
  | refreshed heard foreign found newer updated =>
    refine grounded.store_foreign foreign (updated.publicKey_eq.trans updated.publicKey.symm) ?_
    intro ip claims
    rw [found] at claims
    exact ipOpt_of_updated updated claims
  | linked rooted found addressed new foreign links =>
    refine grounded_store_root grounded.toWellIndexed rooted links.publicKey_eq links.ipOpt_eq ?_ ?_
    · rw [links.neighbors_eq, mem_insert]
      rw [grounded.keyed _ _ rooted] at foreign
      exact fun either => either.elim foreign.symm (grounded.foreign _ rooted)
    · intro neighbor linked
      rw [links.neighbors_eq, mem_insert] at linked
      rcases linked with rfl | linked
      · exact ⟨_, found, addressed grounded.toWellIndexed⟩
      · exact grounded.addressed _ rooted neighbor linked

lemma changes (changes : ReflTransGen (GossipChange env agrs) db db') : Grounded db' := by
  induction changes with
  | refl => exact grounded
  | tail _ change ih => exact ih.change change

/-! ### Removals and the public IP address -/

lemma removeNeighbor (removed : db.removeNeighbor env key = .ok (.ok (changed, db'))) : Grounded db' := by
  obtain ⟨record, root, found, rooted, outcome⟩ := removeNeighbor_eq_ok removed
  have well := grounded.toWellIndexed.withoutAddress found
  obtain ⟨root₀, rooted₀⟩ := grounded.rooted
  -- the Node can lose its own address this way, but not its neighbors
  have sameNeighbors : root.inner.neighbors = root₀.inner.neighbors := by
    rw [nodeByKey_withoutAddress] at rooted
    by_cases own : db.thisNode = key
    · rw [own, update_self] at rooted
      rw [own, found] at rooted₀
      cases rooted
      cases rooted₀
      rfl
    · rw [update_of_ne own, rooted₀] at rooted
      cases rooted
      rfl
  have foreign : db.thisNode ∉ root.inner.neighbors := sameNeighbors ▸ grounded.foreign root₀ rooted₀
  have others : ∀ k ∈ root.inner.neighbors, k ≠ key →
      ∃ record', (db.withoutAddress key record).nodeByKey k = some record' ∧ record'.ipOpt.isSome := by
    intro k linked other
    rw [nodeByKey_withoutAddress, update_of_ne other]
    exact grounded.addressed root₀ rooted₀ k (sameNeighbors ▸ linked)
  rcases outcome with ⟨-, unlinked, rfl⟩ | ⟨root', incremented, -, -, rfl⟩
  · refine ⟨well, ?_, ?_, ?_⟩
    all_goals rw [thisNode_withoutAddress, rooted]
    · exact ⟨root, rfl⟩
    · rintro _ ⟨⟩
      exact foreign
    · rintro _ ⟨⟩ k linked
      exact others k linked fun same => unlinked (same ▸ linked)
  · obtain ⟨sameKey, sameIp⟩ := unlinked_record incremented
    obtain ⟨version, -, rfl⟩ := incrementVersion_eq_ok incremented
    have erased : ∀ k, k ∈ (root.inner.neighbors.erase key) → k ≠ key ∧ k ∈ root.inner.neighbors :=
      fun k linked => mem_erase.mp linked
    rw [← thisNode_withoutAddress db key record] at rooted foreign ⊢
    exact grounded_store_root well rooted sameKey sameIp (fun linked => foreign (erased _ linked).2)
      fun k linked => others k (erased k linked).2 (erased k linked).1

lemma removeNode (rooted : db.HasRoot root) (foreign : key ≠ db.thisNode)
    (unlinked : key ∉ root.inner.neighbors) : Grounded (db.removeNode key) := by
  refine ⟨grounded.toWellIndexed.removeNode key, ?_, ?_, ?_⟩
  all_goals rw [thisNode_removeNode, nodeByKey_removeNode, update_of_ne foreign.symm, rooted]
  · exact ⟨root, rfl⟩
  · rintro _ ⟨⟩
    exact grounded.foreign root rooted
  · rintro _ ⟨⟩ k linked
    have other : k ≠ key := fun same => unlinked (same ▸ linked)
    rw [update_of_ne other]
    exact grounded.addressed root rooted k linked

lemma removeNodes (rooted : db.HasRoot root) {keys : List PublicKey}
    (unlinked : ∀ key ∈ keys, key ≠ db.thisNode ∧ key ∉ root.inner.neighbors) :
    Grounded (keys.foldl NeighborhoodDatabase.removeNode db) := by
  induction keys generalizing db with
  | nil => exact grounded
  | cons key keys ih =>
    rw [List.forall_mem_cons] at unlinked
    obtain ⟨⟨foreign, outside⟩, others⟩ := unlinked
    refine ih (grounded.removeNode rooted foreign outside) ?_ ?_
    · rw [HasRoot, thisNode_removeNode, nodeByKey_removeNode, update_of_ne foreign.symm, rooted]
    · rwa [thisNode_removeNode]

lemma cullDeadNodes (culled : db.cullDeadNodes env timeT = .ok db') : Grounded db' := by
  obtain ⟨root, toCull, rooted, rfl, unreferenced⟩ := cullDeadNodes_eq_ok culled
  refine grounded.removeNodes rooted ?_
  intro key chosen
  obtain ⟨notRoot, unmentioned⟩ := unreferenced key chosen
  exact ⟨grounded.keyed _ _ rooted ▸ notRoot, unmentioned db.thisNode root rooted⟩

lemma newPublicIp (renewed : db.newPublicIp ip = .ok db') : Grounded db' := by
  have well := grounded.toWellIndexed.newPublicIp renewed
  obtain ⟨root, oldNodeAddr, rooted, -, rfl⟩ := newPublicIp_eq_ok renewed
  refine ⟨well, ?_, ?_, ?_⟩
  all_goals rw [thisNode_index, thisNode_unindex, thisNode_store, nodeByKey_index, nodeByKey_unindex,
    nodeByKey_store, update_self]
  · exact ⟨_, rfl⟩
  · rintro _ ⟨⟩
    exact grounded.foreign root rooted
  · rintro _ ⟨⟩ k linked
    have other : k ≠ db.thisNode := fun same => grounded.foreign root rooted (same ▸ linked)
    rw [update_of_ne other]
    exact grounded.addressed root rooted k linked

end Grounded

lemma grounded_new (created : NeighborhoodDatabase.new env timeT mode earningWallet = .ok db) :
    Grounded db := by
  obtain ⟨record, rfl, own, alone⟩ := new_eq_ok created
  have fresh : nodeByKey ⟨env.cryptde.publicKey, ∅, ∅⟩ record.publicKey = none := by simp [nodeByKey]
  refine ⟨(wellIndexed_empty _).addArbitraryNode fresh, ?_, ?_, ?_⟩
  all_goals rw [thisNode_addArbitraryNode, nodeByKey_addArbitraryNode, own, update_self]
  · exact ⟨_, rfl⟩
  · rintro _ ⟨⟩
    rw [alone]
    exact notMem_empty
  · rintro _ ⟨⟩ k linked
    rw [alone] at linked
    exact absurd linked notMem_empty

end PulseMesh.Gossip
