import PulseMesh.NeighborhoodActor.Moves

/-!
# The signatures of the records

A record is stored with the data that its Node has signed.  Whatever gossip comes and whatever neighbors
go, these data say what the record says, and the signature fits to them: other Nodes' records are taken
as they come, and the Node signs its own record whenever it has changed it.

There are two exceptions.  A new public IP address can change the country of the Node, which is part of
the signed data, and nothing is signed then.  And the answer to a first debut shows the debuting Node as
the only neighbor, whatever neighbors the Node has.
-/

namespace PulseMesh.NeighborhoodActor

open Machine SubLib Gossip Relation Runs NeighborhoodDatabase NodeRecord Function

variable {env : NodeEnvironment} {message : NeighborhoodMessage} {db db' : NeighborhoodDatabase}
  {record record' root : NodeRecord} {agr : AccessibleGossipRecord}
  {agrs : List AccessibleGossipRecord} {key : PublicKey} {now : U32} {newIp : IpAddr}

/-- What is assumed of the signatures: the Node verifies what it has signed itself. -/
def SignsVerifiably (env : NodeEnvironment) : Prop :=
  ∀ data signature, env.cryptde.sign data = .ok signature →
    env.cryptde.verifySignature data signature env.cryptde.publicKey = .ok true

/-- The signed data say what the record says, and the signature is good. -/
structure SelfConsistent (env : NodeEnvironment) (record : NodeRecord) : Prop where
  decoded : env.innerCodec.deserialize record.signedGossip = .ok record.inner
  verified : env.cryptde.verifySignature record.signedGossip record.signature record.publicKey = .ok true

/-- All records are those of their Nodes, and self-consistent. -/
structure Consistent (env : NodeEnvironment) (db : NeighborhoodDatabase) : Prop extends Grounded db where
  own : db.thisNode = env.cryptde.publicKey
  selfConsistent : ∀ key record, db.nodeByKey key = some record → SelfConsistent env record

/-! ### Single records -/

lemma SelfConsistent.of_same (consistent : SelfConsistent env record)
    (inner : record'.inner = record.inner) (signedGossip : record'.signedGossip = record.signedGossip)
    (signature : record'.signature = record.signature) : SelfConsistent env record' where
  decoded := by rw [signedGossip, inner, consistent.decoded]
  verified := by
    rw [signedGossip, signature, publicKey, inner]
    exact consistent.verified

lemma Authentic.selfConsistent (authentic : Authentic env agr) (inner : record.inner = agr.inner)
    (signedGossip : record.signedGossip = agr.signedGossip) (signature : record.signature = agr.signature) :
    SelfConsistent env record where
  decoded := by rw [signedGossip, inner, authentic.decoded]
  verified := by
    rw [signedGossip, signature, publicKey, inner]
    exact authentic.verified

lemma selfConsistent_signed (signs : SignsVerifiably env) (own : record.publicKey = env.cryptde.publicKey)
    (serialized : env.innerCodec.serialize record.inner = .ok record.signedGossip)
    (signed : env.cryptde.sign record.signedGossip = .ok record.signature) : SelfConsistent env record where
  decoded := env.innerCodec.deserialize_serialize serialized
  verified := by
    rw [own]
    exact signs _ _ signed

/-! ### Changes of the database -/

lemma selfConsistent_update (consistent : ∀ key record, rows key = some record → SelfConsistent env record)
    (stored : SelfConsistent env record') :
    ∀ k record, update rows key (some record') k = some record → SelfConsistent env record := by
  intro k record found
  by_cases same : k = key
  · subst same
    rw [update_self] at found
    cases found
    exact stored
  · rw [update_of_ne same] at found
    exact consistent k record found

namespace Consistent

lemma root_publicKey (consistent : Consistent env db) (rooted : db.HasRoot root) :
    root.publicKey = env.cryptde.publicKey :=
  (consistent.keyed _ _ rooted).trans consistent.own

section

variable (signs : SignsVerifiably env) (authentic : ∀ agr ∈ agrs, Authentic env agr)
  (consistent : Consistent env db)
include signs authentic consistent

lemma gossipChange (change : GossipChange env.toEnvironment agrs db db') :
    Consistent env db' := by
  refine ⟨consistent.toGrounded.change change, change.thisNode_eq.trans consistent.own, ?_⟩
  cases change with
  | discovered heard brings fresh =>
    rw [nodeByKey_addArbitraryNode]
    refine selfConsistent_update consistent.selfConsistent ?_
    exact (authentic _ heard).selfConsistent brings.inner brings.signedGossip brings.signature
  | refreshed heard foreign found newer updated =>
    rw [nodeByKey_store]
    refine selfConsistent_update consistent.selfConsistent ?_
    exact (authentic _ heard).selfConsistent updated.inner updated.signedGossip updated.signature
  | linked rooted found addressed new foreign links =>
    rw [nodeByKey_store]
    refine selfConsistent_update consistent.selfConsistent ?_
    have own := links.publicKey_eq.trans (consistent.root_publicKey rooted)
    exact selfConsistent_signed signs own links.serialized links.signed

lemma gossipChanges (changes : ReflTransGen (GossipChange env.toEnvironment agrs) db db') :
    Consistent env db' := by
  induction changes with
  | refl => exact consistent
  | tail _ change ih => exact ih.gossipChange signs authentic change

end

/-- The Node's own record is stored after it has been signed again. -/
lemma resigned (signs : SignsVerifiably env) (own : db.thisNode = env.cryptde.publicKey)
    (others : ∀ k record, k ≠ db.thisNode → db.nodeByKey k = some record → SelfConsistent env record)
    (grounded : Grounded db) (rooted : db.HasRoot root)
    (signed : root.regenerateSignedGossip env.toEnvironment = .ok root') :
    Consistent env (db.store db.thisNode root') := by
  refine ⟨grounded_resigned grounded rooted signed, own, ?_⟩
  obtain ⟨inner, -, serialized, signedBy⟩ := regenerateSignedGossip_eq_ok signed
  have rootKey : root'.publicKey = env.cryptde.publicKey := by
    rw [publicKey, inner]
    exact (grounded.keyed _ _ rooted).trans own
  intro k record found
  rw [nodeByKey_store] at found
  -- the signature of the Node itself is new, those of the others are old
  by_cases same : k = db.thisNode
  · subst same
    rw [update_self] at found
    cases found
    exact selfConsistent_signed signs rootKey serialized signedBy
  · rw [update_of_ne same] at found
    exact others k record same found

section

variable (consistent : Consistent env db)
include consistent

lemma selfConsistent_withoutAddress (found : db.nodeByKey key = some record) :
    ∀ k r, (db.withoutAddress key record).nodeByKey k = some r → SelfConsistent env r := by
  rw [nodeByKey_withoutAddress]
  refine selfConsistent_update consistent.selfConsistent ?_
  exact (consistent.selfConsistent key record found).of_same rfl rfl rfl

lemma removeNeighbor_unlinked (signs : SignsVerifiably env)
    (removed : db.removeNeighbor env.toEnvironment key = .ok (.ok (true, mid))) (rooted : mid.HasRoot root)
    (signed : root.regenerateSignedGossip env.toEnvironment = .ok root') :
    Consistent env (mid.store mid.thisNode root') := by
  have sameNode := thisNode_removeNeighbor removed
  refine resigned signs (sameNode.trans consistent.own) ?_ (consistent.toGrounded.removeNeighbor removed)
    rooted signed
  -- the Node's own record is the only one whose data change
  intro k record other found
  rw [sameNode] at other
  obtain ⟨removedRecord, oldRoot, foundKey, -, outcome⟩ := removeNeighbor_eq_ok removed
  rcases outcome with ⟨unchanged, -, -⟩ | ⟨newRoot, -, -, -, rfl⟩
  · cases unchanged
  · rw [nodeByKey_store, update_of_ne other] at found
    exact consistent.selfConsistent_withoutAddress foundKey k record found

lemma relocated (rooted : db.HasRoot root)
    (stays : (getNodeLocation env.toEnvironment (some newIp)).map NodeLocation.countryCode =
      root.inner.countryCodeOpt) (renewed : db.newPublicIp newIp = .ok mid)
    (located : handleNewIpLocation env mid newIp = .ok db') :
    ∀ k record, db'.nodeByKey k = some record → SelfConsistent env record := by
  obtain ⟨midRoot, root', midRooted, rfl, inner, -, signedGossip, signature⟩ :=
    handleNewIpLocation_eq_ok located
  obtain ⟨record, oldNodeAddr, recordRooted, -, rfl⟩ := newPublicIp_eq_ok renewed
  cases rooted.symm.trans recordRooted
  rw [HasRoot, nodeByKey_index, nodeByKey_unindex, nodeByKey_store, thisNode_index, thisNode_unindex,
    thisNode_store, update_self] at midRooted
  cases midRooted
  have rootConsistent := consistent.selfConsistent _ _ rooted
  rw [nodeByKey_store, nodeByKey_index, nodeByKey_unindex, nodeByKey_store]
  -- the record is stored twice, with the new address and with the new country
  refine selfConsistent_update (selfConsistent_update consistent.selfConsistent ?_) ?_
  · exact rootConsistent.of_same rfl rfl rfl
  · refine rootConsistent.of_same ?_ signedGossip signature
    rw [inner, stays]
    rfl

end

end Consistent

/-- A new public IP address leaves the Node in the country that it has signed. -/
def StaysInCountry (env : NodeEnvironment) (db : NeighborhoodDatabase) (message : NeighborhoodMessage) :
    Prop :=
  ∀ newIp root, message = .newPublicIp newIp → db.nodeByKey db.thisNode = some root →
    (getNodeLocation env.toEnvironment (some newIp)).map NodeLocation.countryCode = root.inner.countryCodeOpt

lemma Change.consistent (signs : SignsVerifiably env) (consistent : Consistent env db)
    (stays : StaysInCountry env db message) (change : Change env message db db') : Consistent env db' := by
  have grounded := change.grounded consistent.toGrounded
  have own := change.thisNode_eq.trans consistent.own
  cases change with
  | nothing => exact consistent
  | heard authentic outcome => exact consistent.gossipChanges signs authentic outcome.changes
  | unaddressed removes removed =>
    refine ⟨grounded, own, ?_⟩
    obtain ⟨record, oldRoot, found, -, ⟨-, -, rfl⟩ | ⟨newRoot, -, changed, -, -⟩⟩ :=
      removeNeighbor_eq_ok removed
    · exact consistent.selfConsistent_withoutAddress found
    · cases changed
  | unlinked removes removed rooted signed =>
    exact consistent.removeNeighbor_unlinked signs removed rooted signed
  | marked found =>
    refine ⟨grounded, own, ?_⟩
    rw [nodeByKey_store]
    refine selfConsistent_update consistent.selfConsistent ?_
    exact (consistent.selfConsistent _ _ found).of_same rfl rfl rfl
  -- the country is signed data, and nothing is signed here
  | relocated told renewed located =>
    obtain ⟨root, rooted⟩ := consistent.rooted
    exact ⟨grounded, own, consistent.relocated rooted (stays _ root told rooted) renewed located⟩

/-! ### What is told -/

lemma Tell.consistent (signs : SignsVerifiably env) (consistent : Consistent env before.database)
    (tell : Tell env before after) : Consistent env after.database := by
  cases tell with
  | signed rooted signed =>
    exact .resigned signs consistent.own (fun k record _ found => consistent.selfConsistent k record found)
      consistent.toGrounded rooted signed
  | culled checked =>
    refine ⟨consistent.toGrounded.checkForDeadNodes checked,
      (thisNode_checkForDeadNodes checked).trans consistent.own, ?_⟩
    intro k record found
    exact consistent.selfConsistent k record (nodeByKey_of_checkForDeadNodes checked found)
  | quoted | answered => exact consistent

lemma Tell.sent_subset (tell : Tell env before after) : ∀ sent ∈ before.sent, sent ∈ after.sent := by
  intro sent listed
  cases tell with
  | signed | culled => exact listed
  | quoted | answered => exact List.mem_append_left _ listed

/-- Every record of the gossip has a signature over the data that the database holds. -/
def SignsHeldData (env : NodeEnvironment) (sent : Sent) : Prop :=
  ∀ gnr ∈ sent.gossip.nodeRecords, ∃ key record, sent.database.nodeByKey key = some record ∧
    env.innerCodec.deserialize gnr.signedData = .ok record.inner ∧
    env.cryptde.verifySignature gnr.signedData gnr.signature record.publicKey = .ok true

/-- An answer to a debut shows the neighbors that the Node has. -/
def ShowsNeighbors (env : NodeEnvironment) (sent : Sent) : Prop :=
  RespondsToDebut env.toEnvironment sent.database sent.target sent.gossip →
    rootNeighbors sent.database = some ((∅ : SortedSet PublicKey).insert sent.target)

lemma Consistent.signsHeldData_of_quotes (consistent : Consistent env db) (quotes : Quotes db gossip) :
    SignsHeldData env ⟨target, gossip, db⟩ := by
  intro gnr listed
  obtain ⟨key, record, found, signedData, signature⟩ := quotes gnr listed
  have selfConsistent := consistent.selfConsistent key record found
  refine ⟨key, record, found, ?_, ?_⟩
  · rw [signedData, selfConsistent.decoded]
  · rw [signedData, signature, selfConsistent.verified]

lemma Consistent.signsHeldData_of_responds (signs : SignsVerifiably env) (consistent : Consistent env db)
    (responds : RespondsToDebut env.toEnvironment db target gossip)
    (shows : rootNeighbors db = some ((∅ : SortedSet PublicKey).insert target)) :
    SignsHeldData env ⟨target, gossip, db⟩ := by
  obtain ⟨root, gnr, rooted, rfl, serialized, signed⟩ := responds
  rw [rootNeighbors, rooted, Option.map_some, Option.some.injEq] at shows
  -- the answer shows one neighbor, and that is all the Node has
  rw [← shows] at serialized
  intro only listed
  obtain rfl := List.mem_singleton.mp listed
  refine ⟨db.thisNode, root, rooted, env.innerCodec.deserialize_serialize serialized, ?_⟩
  rw [consistent.root_publicKey rooted]
  exact signs _ _ signed

/-- What holds of the database and of everything that has been sent. -/
structure Truthful (env : NodeEnvironment) (correspondence : Correspondence) : Prop where
  consistent : Consistent env correspondence.database
  held : ∀ sent ∈ correspondence.sent, SignsHeldData env sent

lemma Tell.truthful (signs : SignsVerifiably env) (truthful : Truthful env before)
    (tell : Tell env before after) (shows : ∀ sent ∈ after.sent, ShowsNeighbors env sent) :
    Truthful env after := by
  refine ⟨tell.consistent signs truthful.consistent, ?_⟩
  cases tell with
  | signed | culled => exact truthful.held
  -- one package is added to those sent before
  | quoted quotes =>
    rw [List.forall_mem_append, List.forall_mem_singleton]
    exact ⟨truthful.held, truthful.consistent.signsHeldData_of_quotes quotes⟩
  | answered responds =>
    rw [List.forall_mem_append, List.forall_mem_singleton] at shows ⊢
    exact ⟨truthful.held, truthful.consistent.signsHeldData_of_responds signs responds (shows.2 responds)⟩

/-- What every telling keeps holds after any number of them. -/
lemma of_tells {Inv : Correspondence → Prop} (keeps : ∀ {before after}, Tell env before after → Inv before →
      (∀ sent ∈ after.sent, ShowsNeighbors env sent) → Inv after) (holds : Inv before)
    (tells : ReflTransGen (Tell env) before after) (shows : ∀ sent ∈ after.sent, ShowsNeighbors env sent) :
    Inv after := by
  induction tells with
  | refl => exact holds
  | tail _ tell ih => exact keeps tell (ih fun sent listed => shows sent (tell.sent_subset sent listed)) shows

/-! ### Versions -/

/-- No record of another Node is replaced by an older one. -/
def VersionsKept (db db' : NeighborhoodDatabase) : Prop :=
  ∀ key record record', key ≠ db.thisNode → db.nodeByKey key = some record →
    db'.nodeByKey key = some record' → record.version.val ≤ record'.version.val

/-- The other Nodes' records that are left have the data that they had. -/
def OthersSame (db db' : NeighborhoodDatabase) : Prop :=
  ∀ key record', key ≠ db.thisNode → db'.nodeByKey key = some record' →
    ∃ record, db.nodeByKey key = some record ∧ record.inner = record'.inner

lemma OthersSame.refl (db) : OthersSame db db := fun _ record _ found => ⟨record, found, rfl⟩

lemma OthersSame.trans (first : OthersSame db mid) (second : OthersSame mid db')
    (sameNode : mid.thisNode = db.thisNode) : OthersSame db db' := by
  intro key record'' other found
  obtain ⟨record', found', same'⟩ := second key record'' (sameNode ▸ other) found
  obtain ⟨record, found, same⟩ := first key record' other found'
  exact ⟨record, found, same.trans same'⟩

lemma OthersSame.versionsKept (same : OthersSame db db') : VersionsKept db db' := by
  intro key record record' other found found'
  obtain ⟨before, foundBefore, sameInner⟩ := same key record' other found'
  rw [found] at foundBefore
  cases foundBefore
  rw [version, version, sameInner]

lemma VersionsKept.trans_othersSame (kept : VersionsKept db mid) (same : OthersSame mid db')
    (sameNode : mid.thisNode = db.thisNode) : VersionsKept db db' := by
  intro key record record'' other found found''
  obtain ⟨record', found', sameInner⟩ := same key record'' (sameNode ▸ other) found''
  have notOlder := kept key record record' other found found'
  rwa [version, version, sameInner] at notOlder

/-- The record that is stored is the Node's own one, or it has the same data as before. -/
lemma othersSame_update (lookup : db'.nodeByKey = update db.nodeByKey key (some record'))
    (known : key = db.thisNode ∨ ∃ record, db.nodeByKey key = some record ∧ record.inner = record'.inner) :
    OthersSame db db' := by
  intro k found other foundAfter
  rw [lookup] at foundAfter
  by_cases stored : k = key
  · subst stored
    rw [update_self] at foundAfter
    cases foundAfter
    -- another Node's record is stored with the data it had
    rcases known with own | same
    · exact absurd own other
    · exact same
  · rw [update_of_ne stored] at foundAfter
    exact ⟨found, foundAfter, rfl⟩

lemma othersSame_withoutAddress (found : db.nodeByKey key = some record) :
    OthersSame db (db.withoutAddress key record) :=
  othersSame_update (nodeByKey_withoutAddress _ _ _) (.inr ⟨record, found, rfl⟩)

lemma othersSame_store_root : OthersSame db (db.store db.thisNode root') :=
  othersSame_update (nodeByKey_store _ _ _) (.inl rfl)

lemma othersSame_removeNeighbor
    (removed : db.removeNeighbor env.toEnvironment key = .ok (.ok (changed, db'))) : OthersSame db db' := by
  obtain ⟨record, root, found, -, ⟨-, -, rfl⟩ | ⟨root', -, -, -, rfl⟩⟩ := removeNeighbor_eq_ok removed
  · exact othersSame_withoutAddress found
  · have sameNode := thisNode_withoutAddress db key record
    rw [← sameNode]
    exact (othersSame_withoutAddress found).trans othersSame_store_root sameNode

lemma othersSame_newPublicIp (renewed : db.newPublicIp newIp = .ok db') :
    OthersSame db db' ∧ db'.thisNode = db.thisNode := by
  obtain ⟨record, oldNodeAddr, -, -, rfl⟩ := newPublicIp_eq_ok renewed
  constructor
  · apply othersSame_update
    · rw [nodeByKey_index, nodeByKey_unindex, nodeByKey_store]
    · exact .inl rfl
  · simp

lemma Change.versionsKept (change : Change env message db db') : VersionsKept db db' := by
  cases change with
  | nothing => exact (OthersSame.refl db).versionsKept
  -- gossip replaces the record of another Node by a newer one at most
  | heard authentic outcome =>
    intro key record record' other found found'
    obtain ⟨grown, foundGrown, grows⟩ := grows_of_changes outcome.changes key record found
    rw [found'] at foundGrown
    cases foundGrown
    exact grows.2 other
  | unaddressed removes removed => exact (othersSame_removeNeighbor removed).versionsKept
  | unlinked removes removed rooted signed =>
    have unlinked := othersSame_removeNeighbor removed
    exact (unlinked.trans othersSame_store_root (thisNode_removeNeighbor removed)).versionsKept
  | marked found =>
    refine OthersSame.versionsKept (othersSame_update (nodeByKey_store _ _ _) ?_)
    exact .inr ⟨_, found, rfl⟩
  | relocated told renewed located =>
    obtain ⟨midRoot, root', -, rfl, -⟩ := handleNewIpLocation_eq_ok located
    obtain ⟨same, sameNode⟩ := othersSame_newPublicIp renewed
    exact (same.trans othersSame_store_root sameNode).versionsKept

lemma Tell.othersSame (tell : Tell env before after) : OthersSame before.database after.database := by
  cases tell with
  | signed rooted signed => exact othersSame_store_root
  | culled checked =>
    intro key record other found
    exact ⟨record, nodeByKey_of_checkForDeadNodes checked found, rfl⟩
  | quoted | answered => exact .refl _

lemma othersSame_of_tells (tells : ReflTransGen (Tell env) before after) :
    OthersSame before.database after.database := by
  induction tells with
  | refl => exact .refl _
  | tail tells tell ih => exact ih.trans tell.othersSame (thisNode_eq_of_tells tells)

/-! ### Runs -/

/-- Neither of the two exceptions happens with the message. -/
structure Faithful (env : NodeEnvironment) (state : ActorState) (delivery : Delivery) : Prop where
  country : StaysInCountry env state.neighborhoodDatabase delivery.message
  answers : ∀ next, handle env state delivery = .ok next → ∀ sent ∈ next.sent, ShowsNeighbors env sent

lemma consistent_new (signs : SignsVerifiably env)
    (created : NeighborhoodDatabase.new env.toEnvironment now mode earningWallet = .ok db) :
    Consistent env db := by
  have grounded := grounded_new created
  obtain ⟨⟨signedGossip, signature⟩, regenerated, created⟩ := ok_of_bind created
  cases created
  refine ⟨grounded, by simp, ?_⟩
  obtain ⟨serialized, signed⟩ := regenerateSignedGossip_inner_eq_ok regenerated
  rw [nodeByKey_addArbitraryNode]
  refine selfConsistent_update ?_ (selfConsistent_signed signs rfl serialized signed)
  intro key record found
  simp [nodeByKey] at found

variable {state next : ActorState} {config : BootstrapperConfig} {delivery : Delivery}

lemma new_state (created : ActorState.new env now config = .ok state) :
    NeighborhoodDatabase.new env.toEnvironment now config.mode config.earningWallet =
      .ok state.neighborhoodDatabase ∧ state.sent = [] ∧
      state.consumingWalletOpt = config.consumingWalletOpt ∧ state.minHops = config.minHops ∧
      state.dbPatchSize = calculateDbPatchSize config.minHops := by
  unfold ActorState.new at created
  split at created
  · cases created
  · obtain ⟨db, made, created⟩ := ok_of_bind created
    split at created
    · cases created
    · obtain ⟨status, -, created⟩ := ok_of_bind created
      cases created
      exact ⟨made, rfl, rfl, rfl, rfl⟩

lemma truthful_new (signs : SignsVerifiably env) (created : ActorState.new env now config = .ok state) :
    Truthful env state.correspondence := by
  obtain ⟨made, nothingSent, -⟩ := new_state created
  refine ⟨consistent_new signs made, ?_⟩
  simp [ActorState.correspondence, nothingSent]

lemma handle_truthful (signs : SignsVerifiably env) (truthful : Truthful env state.correspondence)
    (faithful : Faithful env state delivery) (handled : handle env state delivery = .ok next) :
    Truthful env next.correspondence := by
  -- first the change, then what is told after it
  obtain ⟨db, change, tells⟩ := handle_eq_ok handled
  have changed : Truthful env ⟨db, state.sent⟩ :=
    ⟨change.consistent signs truthful.consistent faithful.country, truthful.held⟩
  exact of_tells (fun tell truthful => tell.truthful signs truthful) changed tells (faithful.answers next handled)

lemma handle_versionsKept (handled : handle env state delivery = .ok next) :
    VersionsKept state.neighborhoodDatabase next.neighborhoodDatabase := by
  obtain ⟨db, change, tells⟩ := handle_eq_ok handled
  exact change.versionsKept.trans_othersSame (othersSame_of_tells tells) change.thisNode_eq

/-! ### A Node in two countries -/

/-- The message that all gossip is written as. -/
def sampleGossipData : VersionedData SubLib.Gossip := ⟨⟨0, 1⟩, []⟩

/-- A Node with the key 1 that can serialize what is in the table; there is one IP address in France. -/
def sampleNodeEnvironment (table : List NodeRecordInner) : NodeEnvironment :=
  { sampleEnvironment table with
    findCountry := fun ip => if ip = .v4 9 then some "FR" else none
    keccak256 := id, idCodec := tableCodec [], contract := 0
    hopCodec := tableCodec [⟨sampleKey 2, none, .hopper⟩, ⟨emptyKey, none, .neighborhood⟩]
    mode := .standard, chain := .dev
    messageCodec := tableCodec [.gossip sampleGossipData]
    gossipData := fun _ => sampleGossipData
    gossipFailureData := fun _ => ⟨⟨0, 1⟩, []⟩
    firstContactPublicKey := .ok
    descriptorText := fun _ => "a descriptor"
    traceEnabled := false }

lemma sampleNodeEnvironment_signs (table) : SignsVerifiably (sampleNodeEnvironment table) := by
  rintro data signature ⟨⟩
  simp [sampleNodeEnvironment, sampleEnvironment]

def sampleDescriptor : NodeDescriptor := ⟨.dev, sampleKey 2, some (sampleNodeAddr 2)⟩

def sampleConfig : BootstrapperConfig :=
  ⟨.standard (sampleNodeAddr 1) [sampleDescriptor] NeighborhoodMode.zeroRatePack, .threeHops, ⟨1⟩, none, none⟩

def sampleOrders : Orders :=
  ⟨Neighborhood.listedOrder, Neighborhood.listedOrder, Neighborhood.listedOrder,
    fun _ => Neighborhood.listedOrder⟩

def sampleDelivery (message : NeighborhoodMessage) : Delivery := ⟨sampleOrders, sampleClock, message⟩

/-- The records that a debut of the Node 2 leads to, and its own one. -/
def debutTable : List NodeRecordInner :=
  [sampleInner 1 ⟨0, u32_zero⟩ [], sampleInner 1 ⟨1, u32_one⟩ [2], earlyInner]

def debutEnvironment : NodeEnvironment := sampleNodeEnvironment debutTable

/-- A record as it travels, with its place in the table. -/
def sampleGnr (place : Nat) (nodeAddrOpt : Option NodeAddr) : GossipNodeRecord :=
  ⟨⟨List.replicate place 0⟩, ⟨List.replicate place 0⟩, nodeAddrOpt⟩

def debutDelivery : Delivery :=
  sampleDelivery (.gossip ⟨[sampleGnr 2 (some (sampleNodeAddr 2))]⟩ (sampleSource 2))

def strangerEnvironment : NodeEnvironment := sampleNodeEnvironment [sampleInner 1 ⟨0, u32_zero⟩ []]

end PulseMesh.NeighborhoodActor
