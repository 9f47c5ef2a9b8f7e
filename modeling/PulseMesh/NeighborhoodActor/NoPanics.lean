import PulseMesh.NeighborhoodActor.RecordConsistency
import PulseMesh.NeighborhoodActor.RouteTotality

/-!
# Messages that do not stop the actor

A handler that panics takes the whole Node with it.  Most of what the handlers expect is true of every
database that gossip can lead to; the rest is up to the messages, and some of it is up to peers.  A gossip
failure from a stranger is enough.

The messages are divided into harmless ones and others.  Harmless ones do not stop the actor of a released
build, and leave it in a state where the same is true again.
-/

namespace PulseMesh.NeighborhoodActor

open Machine SubLib Gossip ProxyServer Relation NeighborhoodDatabase Option Function
open Function.Injective (countable)
open Neighborhood (SetOrder RouteDirection)

variable {env : NodeEnvironment} {db db' : NeighborhoodDatabase} {key : PublicKey}
  {record root root' : NodeRecord} {agrs : List AccessibleGossipRecord}

/-! ### What the actor relies on -/

/-- A key that belongs to a Node: its own one, or one by which something has been verified. -/
def Usable (env : NodeEnvironment) (key : PublicKey) : Prop :=
  key = env.cryptde.publicKey ∨
    ∃ data signature, env.cryptde.verifySignature data signature key = .ok true

/-- A released build that draws no pictures of gossip, and libraries that do not fail on usable keys. -/
structure Reliable (env : NodeEnvironment) : Prop extends Dependable env.toEnvironment where
  silent : env.traceEnabled = false
  encryptsHops : ∀ key, Usable env key → EncryptsFor env.hopCodec env.cryptde.toCryptDE key
  encryptsId : ∀ returnRouteId, ∃ crypt,
    encodex env.idCodec env.cryptde.toCryptDE env.cryptde.publicKey returnRouteId = .ok crypt
  encryptsGossip : ∀ key, Usable env key → ∀ gossip, ∃ crypt,
    encodex env.messageCodec env.cryptde.toCryptDE key (.gossip (env.gossipData gossip)) = .ok crypt
  describes : ∀ key, Usable env key → ∃ described, env.firstContactPublicKey key = .ok described

/-! ### Databases that can be relied on -/

/-- The neighbors are there, the Node knows where it is, and all keys are usable. -/
structure Steady (env : NodeEnvironment) (db : NeighborhoodDatabase) : Prop extends Grounded db where
  own : db.thisNode = env.cryptde.publicKey
  somewhere : AcceptsSomewhere db
  usable : ∀ key ∈ db.keys, Usable env key

/-- No key is new unless it is usable, and the Node itself does not lose its address. -/
structure Continues (env : NodeEnvironment) (db db' : NeighborhoodDatabase) : Prop where
  sameNode : db'.thisNode = db.thisNode
  keys : ∀ key ∈ db'.keys, key ∈ db.keys ∨ Usable env key
  root : ∀ root', db'.nodeByKey db.thisNode = some root' → ∃ root, db.nodeByKey db.thisNode = some root ∧
    root'.inner.acceptsConnections = root.inner.acceptsConnections ∧
    (root.metadata.nodeAddrOpt.isSome → root'.metadata.nodeAddrOpt.isSome)

lemma Continues.trans (first : Continues env db mid) (second : Continues env mid db') :
    Continues env db db' where
  sameNode := second.sameNode.trans first.sameNode
  keys key listed := by
    rcases second.keys key listed with known | usable
    · exact first.keys key known
    · exact .inr usable
  root root' rooted' := by
    rw [← first.sameNode] at rooted'
    obtain ⟨root₁, rooted₁, accepts₁, addressed₁⟩ := second.root root' rooted'
    rw [first.sameNode] at rooted₁
    obtain ⟨root₀, rooted₀, accepts₀, addressed₀⟩ := first.root root₁ rooted₁
    exact ⟨root₀, rooted₀, accepts₁.trans accepts₀, fun addressed => addressed₁ (addressed₀ addressed)⟩

/-- One record has been stored, in whatever way the index has changed with it. -/
lemma continues_of_update (sameNode : db'.thisNode = db.thisNode)
    (lookup : db'.nodeByKey = update db.nodeByKey key (some record))
    (usable : key ∈ db.keys ∨ Usable env key)
    (own : key = db.thisNode → ∃ root, db.HasRoot root ∧
      record.inner.acceptsConnections = root.inner.acceptsConnections ∧
      (root.metadata.nodeAddrOpt.isSome → record.metadata.nodeAddrOpt.isSome)) :
    Continues env db db' where
  sameNode := sameNode
  keys k listed := by
    by_cases same : k = key
    · exact same ▸ usable
    · rw [mem_keys, lookup, update_of_ne same, ← mem_keys] at listed
      exact .inl listed
  root root' rooted' := by
    by_cases same : db.thisNode = key
    · rw [lookup, same, update_self] at rooted'
      cases rooted'
      exact own same.symm
    · rw [lookup, update_of_ne same] at rooted'
      exact ⟨root', rooted', rfl, id⟩

/-- The Node's own record has been stored. -/
lemma continues_of_root (sameNode : db'.thisNode = db.thisNode) (rooted : db.HasRoot root)
    (lookup : db'.nodeByKey = update db.nodeByKey db.thisNode (some root'))
    (accepts : root'.inner.acceptsConnections = root.inner.acceptsConnections)
    (addressed : root.metadata.nodeAddrOpt.isSome → root'.metadata.nodeAddrOpt.isSome) :
    Continues env db db' :=
  continues_of_update sameNode lookup (.inl (mem_keys_of_found rooted))
    fun _ => ⟨root, rooted, accepts, addressed⟩

lemma Authentic.usable (authentic : Authentic env agr) :
    Usable env agr.inner.publicKey := .inr ⟨_, _, authentic.verified⟩

lemma gossipChange_continues (authentic : ∀ agr ∈ agrs, Authentic env agr) (grounded : Grounded db)
    (change : GossipChange env.toEnvironment agrs db db') : Continues env db db' := by
  cases change with
  | @discovered agr record heard brings fresh =>
    have under : record.publicKey = agr.inner.publicKey := by rw [NodeRecord.publicKey, brings.inner]
    refine continues_of_update (thisNode_addArbitraryNode _ _) (nodeByKey_addArbitraryNode _ _) ?_ ?_
    · exact .inr (under ▸ (authentic agr heard).usable)
    · intro own
      obtain ⟨root, rooted⟩ := grounded.rooted
      exact absurd own (ne_thisNode_of_fresh rooted fresh)
  | refreshed heard foreign found newer updated =>
    refine continues_of_update rfl (nodeByKey_store _ _ _) (.inl (mem_keys_of_found found)) ?_
    exact fun own => absurd own foreign
  | linked rooted found addressed new foreign links =>
    refine continues_of_root rfl rooted (nodeByKey_store _ _ _) ?_ ?_
    · rw [links.inner]
    · rw [links.nodeAddr]
      exact id

lemma resigned_continues (rooted : db.HasRoot root)
    (signed : root.regenerateSignedGossip env.toEnvironment = .ok root') :
    Continues env db (db.store db.thisNode root') := by
  obtain ⟨sameInner, sameMetadata, -, -⟩ := NodeRecord.regenerateSignedGossip_eq_ok signed
  refine continues_of_root rfl rooted (nodeByKey_store _ _ _) ?_ ?_
  · rw [sameInner]
  · rw [sameMetadata]
    exact id

/-- Another Node loses its address, and the link to it is gone. -/
lemma removeNeighbor_continues (foreign : key ≠ db.thisNode)
    (removed : db.removeNeighbor env.toEnvironment key = .ok (.ok (changed, db'))) :
    Continues env db db' := by
  obtain ⟨record, root, found, rooted, outcome⟩ := removeNeighbor_eq_ok removed
  have sameNode := thisNode_withoutAddress db key record
  have unaddressed : Continues env db (db.withoutAddress key record) := by
    apply continues_of_update sameNode (nodeByKey_withoutAddress _ _ _)
    · exact .inl (mem_keys_of_found found)
    · exact fun own => absurd own foreign
  rcases outcome with ⟨-, -, rfl⟩ | ⟨root', incremented, -, -, rfl⟩
  · exact unaddressed
  · obtain ⟨version, -, rfl⟩ := NodeRecord.incrementVersion_eq_ok incremented
    rw [← sameNode] at rooted ⊢
    exact unaddressed.trans (continues_of_root rfl rooted (nodeByKey_store _ _ _) rfl id)

lemma newPublicIp_continues (renewed : db.newPublicIp newIp = .ok db') :
    Continues env db db' := by
  obtain ⟨root, oldNodeAddr, rooted, -, rfl⟩ := newPublicIp_eq_ok renewed
  apply continues_of_root _ rooted
  · rw [nodeByKey_index, nodeByKey_unindex, nodeByKey_store]
  · rfl
  · exact fun _ => rfl
  · rw [thisNode_index, thisNode_unindex, thisNode_store]

lemma handleNewIpLocation_continues (located : handleNewIpLocation env db newIp = .ok db') :
    Continues env db db' := by
  obtain ⟨root, root', rooted, rfl, inner, nodeAddr, -, -⟩ := handleNewIpLocation_eq_ok located
  refine continues_of_root rfl rooted (nodeByKey_store _ _ _) ?_ ?_
  · rw [inner]
  · rw [nodeAddr]
    exact id

lemma checkForDeadNodes_continues (checked : checkForDeadNodes env.toEnvironment now db lastDeadNodeCheck =
      .ok (db', lastDeadNodeCheck')) : Continues env db db' where
  sameNode := thisNode_checkForDeadNodes checked
  keys key listed := by
    obtain ⟨record, found⟩ := isSome_iff_exists.mp (mem_keys.mp listed)
    exact .inl (mem_keys_of_found (nodeByKey_of_checkForDeadNodes checked found))
  root root' rooted' := ⟨root', nodeByKey_of_checkForDeadNodes checked rooted', rfl, id⟩

namespace Steady

lemma continues (steady : Steady env db) (grounded : Grounded db') (continues : Continues env db db') :
    Steady env db' where
  toGrounded := grounded
  own := continues.sameNode.trans steady.own
  somewhere root' rooted' accepting := by
    rw [continues.sameNode] at rooted'
    obtain ⟨root, rooted, accepts, addressed⟩ := continues.root root' rooted'
    have told := steady.somewhere root rooted (accepts ▸ accepting)
    rw [NodeRecord.nodeAddrOpt, isSome_map] at told ⊢
    exact addressed told
  usable key listed := by
    rcases continues.keys key listed with known | usable
    · exact steady.usable key known
    · exact usable

lemma changes (steady : Steady env db) (authentic : ∀ agr ∈ agrs, Authentic env agr)
    (changes : ReflTransGen (GossipChange env.toEnvironment agrs) db db') : Steady env db' := by
  induction changes with
  | refl => exact steady
  | tail _ change ih =>
    exact ih.continues (ih.toGrounded.change change) (gossipChange_continues authentic ih.toGrounded change)

lemma usable_neighbor (steady : Steady env db) (rooted : db.HasRoot root)
    (linked : key ∈ root.inner.neighbors) : Usable env key := by
  obtain ⟨record, found, -⟩ := steady.addressed root rooted key linked
  exact steady.usable key (mem_keys_of_found found)

end Steady

/-! ### Telling the neighbors -/

/-- What a handler has made of the state so far can still be relied on, and what else the handlers look
at is as it was. -/
structure Follows (env : NodeEnvironment) (before state : ActorState) : Prop where
  steady : Steady env state.neighborhoodDatabase
  wallet : state.consumingWalletOpt = before.consumingWalletOpt
  started : state.isStarted = before.isStarted
  password : state.dbPasswordOpt = before.dbPasswordOpt

variable {state : ActorState}

lemma Follows.refl (steady : Steady env state.neighborhoodDatabase) :
    Follows env state state := ⟨steady, rfl, rfl, rfl⟩

section

variable (reliable : Reliable env)
include reliable

lemma Reliable.traceGossip_eq (gossip) : traceGossip env gossip = .ok () := by
  rw [traceGossip, reliable.silent]
  rfl

lemma createSingleHopRoute_returns (usable : Usable env key) :
    Safe (createSingleHopRoute env key) := by
  -- one hop for the Node itself, one for its neighbor
  let here : LiveHop := ⟨key, none, .hopper⟩
  let there : LiveHop := ⟨emptyKey, none, .neighborhood⟩
  obtain ⟨hereEnc, encodesHere⟩ := reliable.encryptsHops env.cryptde.publicKey (.inl rfl) here
  obtain ⟨thereEnc, encodesThere⟩ := reliable.encryptsHops key usable there
  have encoded : encodeHops env.hopCodec env.cryptde.toCryptDE env.cryptde.publicKey [here, there] =
      .ok [hereEnc, thereEnc] := by
    simp [encodeHops, encodesHere, here, encodesThere]
  have routed : oneWay env.keccak256 env.hopCodec env.idCodec none none
      ⟨[env.cryptde.publicKey, key], .neighborhood⟩ env.cryptde.toCryptDE = .ok (.ok ⟨[hereEnc, thereEnc]⟩) := by
    change hopsToRoute env.hopCodec env.idCodec [here, there] env.cryptde.publicKey none
      env.cryptde.toCryptDE = _
    rw [hopsToRoute, encoded]
  rw [createSingleHopRoute, routed]
  exact .ok trivial

lemma gossipToNeighbor_returns (usable : Usable env key) :
    Returns (gossipToNeighbor env state key gossip) fun state' => state' = recordSent state key gossip := by
  have sends : Safe (gossipToNeighbor env state key gossip) := by
    refine (createSingleHopRoute_returns reliable usable).andThen fun route => ?_
    obtain ⟨payload, encrypted⟩ := reliable.encryptsGossip key usable gossip
    rw [IncipientCoresPackage.new, encrypted]
    rw [reliable.traceGossip_eq, reliable.silent]
    exact .ok trivial
  exact (sends.also fun _ sent => gossipToNeighbor_eq_ok sent).mono fun _ => And.right

lemma updateNeighbor_returns (follows : Follows env before state) (usable : Usable env key) :
    Returns (updateNeighbor env order now state key) (Follows env before) := by
  refine (produce_returns reliable.toDependable follows.steady.toGrounded order state.lastDeadNodeCheck
    key).bind ?_
  rintro ⟨gossipOpt, db, checkedAt⟩ checked
  have steady : Steady env db := follows.steady.continues
    (follows.steady.toGrounded.checkForDeadNodes checked) (checkForDeadNodes_continues checked)
  -- a neighbor without a record gets nothing
  cases gossipOpt with
  | none => exact .ok ⟨steady, follows.wallet, follows.started, follows.password⟩
  | some gossip =>
    refine (gossipToNeighbor_returns reliable usable).mono ?_
    rintro _ rfl
    exact ⟨steady, follows.wallet, follows.started, follows.password⟩

lemma gossipToNeighbors_returns (follows : Follows env before state) :
    Returns (gossipToNeighbors env order now state) (Follows env before) := by
  obtain ⟨root, rooted⟩ := follows.steady.rooted
  obtain ⟨root', signed, -⟩ := regenerateSignedGossip_returns reliable.toDependable root
  rw [gossipToNeighbors, root_eq_ok.mpr rooted, ok_bind, signed]
  have sameNeighbors : root'.inner.neighbors = root.inner.neighbors := by
    rw [(NodeRecord.regenerateSignedGossip_eq_ok signed).1]
  -- every neighbor that is told leaves the actor ready for the next one
  refine returns_foldlM ?_ ?_
  · intro state neighbor linked follows'
    have usable : Usable env neighbor := by
      rw [sameNeighbors] at linked
      exact follows.steady.usable_neighbor rooted linked
    exact updateNeighbor_returns reliable follows' usable
  · have steady := follows.steady.continues (grounded_resigned follows.steady.toGrounded rooted signed)
      (resigned_continues rooted signed)
    exact ⟨steady, follows.wallet, follows.started, follows.password⟩

end

/-! ### Gossip -/

section

variable {before state : ActorState} {orders : Orders} (reliable : Reliable env)
include reliable

lemma routesReady (steady : Steady env state.neighborhoodDatabase)
    (pays : Pays env.keccak256 state.consumingWalletOpt (some env.contract)) :
    RoutesReady env.toActorEnvironment state.toRouteQueryState where
  grounded := steady.toGrounded
  own := steady.own
  encrypts key listed := reliable.encryptsHops key (steady.usable key listed)
  encryptsId := reliable.encryptsId
  pays := pays

section

variable (follows : Follows env before state)
include follows

lemma withDbCountries_returns :
    Returns (withDbCountries env orders.exits state) (Follows env before) := by
  obtain ⟨root, rooted⟩ := follows.steady.rooted
  obtain ⟨viewed, viewedAt⟩ := nodeByKey_routeView rooted
  -- the search for exits starts from the Node itself, which is in the view
  have counted : Safe (initDbCountries env orders.exits state) :=
    (Neighborhood.findExitLocations_returns reliable.release viewedAt _).andThen fun _ => .ok trivial
  refine counted.andThen fun dbCountries => ?_
  exact .ok { follows with }

lemma withDbCountriesOfNeighbors_returns :
    Returns (withDbCountriesOfNeighbors env orders.exits state) (Follows env before) := by
  unfold withDbCountriesOfNeighbors
  split
  · exact withDbCountries_returns reliable follows
  · exact .ok follows

omit reliable in
lemma sendGossipNoLookup_follows (gossip) :
    Follows env before (sendGossipNoLookup env state key gossip) := by
  unfold sendGossipNoLookup
  split
  · exact { follows with }
  · exact follows

lemma handleAcceptance_returns (result) :
    Returns (handleAcceptance env orders now state result) (Follows env before) := by
  cases result with
  | accepted =>
    refine (withDbCountries_returns reliable follows).bind fun counted follows' => ?_
    exact gossipToNeighbors_returns reliable follows'
  | reply gossip targetKey targetNodeAddr =>
    refine (withDbCountriesOfNeighbors_returns reliable follows).bind fun counted follows' => ?_
    rw [reliable.traceGossip_eq]
    exact .ok (sendGossipNoLookup_follows follows' gossip)
  | failed | ignored | ban => exact .ok follows

end

lemma toNodeDescriptors_returns (steady : Steady env db) {keys}
    (known : ∀ key ∈ keys, key ∈ db.keys) : Safe (toNodeDescriptors env db keys) := by
  refine returns_mapM fun key listed => ?_
  have present := known key listed
  obtain ⟨record, found⟩ := isSome_iff_exists.mp (mem_keys.mp present)
  obtain ⟨described, describes⟩ := reliable.describes key (steady.usable key present)
  -- the key of a record is the one it is stored under, and that can be described
  rw [found]
  dsimp only
  rw [steady.keyed key record found, describes]
  exact .ok trivial

/-- Neighbors are saved only once the configuration database is connected. -/
lemma curatePastNeighbors_returns (steady : Steady env state.neighborhoodDatabase)
    (saves : state.isStarted = true ∨ state.dbPasswordOpt = none) {keysBefore keysAfter}
    (known : ∀ key ∈ keysAfter, key ∈ state.neighborhoodDatabase.keys) :
    Safe (curatePastNeighbors env state keysBefore keysAfter) := by
  unfold curatePastNeighbors
  -- without a password nothing is saved
  rcases saves with started | unprotected
  · split
    · exact .ok trivial
    · exact (toNodeDescriptors_returns reliable steady known).andThen fun descriptors => .ok trivial
  · rw [unprotected]
    simp only [isNone_none, Bool.or_true, ↓reduceIte]
    exact .ok trivial

lemma checkConnectedness_returns (follows : Follows env before state)
    (pays : Pays env.keccak256 state.consumingWalletOpt (some env.contract)) :
    Returns (checkConnectedness env orders state) (Follows env before) := by
  unfold checkConnectedness
  split
  · exact .ok follows
  · have searched : Safe (handleRouteQueryMessage env.toActorEnvironment orders.route
        state.toRouteQueryState connectivityQuery) :=
      handleRouteQueryMessage_returns reliable.release (routesReady reliable follows.steady pays) rfl
    obtain ⟨⟨responseOpt, routing⟩, answered, -⟩ := searched
    -- the query changes nothing but the counter of return routes
    obtain ⟨nextReturnRouteId, rfl⟩ := handleRouteQueryMessage_counts answered
    rw [searchForANewRoute, answered, ok_bind]
    dsimp only
    split
    · exact .ok { follows with }
    · exact .ok { follows with }

omit reliable in
lemma neighborKeys_returns (steady : Steady env db) :
    Returns (neighborKeys db) fun keys => ∀ key ∈ keys, key ∈ db.keys := by
  obtain ⟨root, rooted⟩ := steady.rooted
  rw [neighborKeys, root_eq_ok.mpr rooted]
  refine .ok fun key full => ?_
  obtain ⟨record, found, -⟩ := steady.addressed root rooted key (mem_of_mem_fullNeighborKeys full)
  exact mem_keys_of_found found

lemma handleGossipAgrs_returns (steady : Steady env state.neighborhoodDatabase)
    (pays : Pays env.keccak256 state.consumingWalletOpt (some env.contract))
    (authentic : ∀ agr ∈ agrs, Authentic env agr) (notBefore : NotBefore now state.previousPassTargets)
    (distinct : NewOnce state.neighborhoodDatabase gossipSource agrs)
    (saves : state.isStarted = true ∨ state.dbPasswordOpt = none) :
    Returns (handleGossipAgrs env orders now state agrs gossipSource) (Follows env state) := by
  refine (neighborKeys_returns steady).bind fun keysBefore _ => ?_
  have handled : Returns (handleAgrs env orders now state agrs gossipSource) (Follows env state) := by
    obtain ⟨acceptance, accepted, -⟩ := acceptGossip_returns reliable.toDependable steady.toGrounded steady.somewhere notBefore distinct
    rw [handleAgrs, accepted]
    apply handleAcceptance_returns reliable
    exact ⟨steady.changes authentic (acceptGossip_outcome accepted).changes, rfl, rfl, rfl⟩
  refine handled.bind fun told follows => ?_
  refine (neighborKeys_returns follows.steady).bind fun keysAfter known => ?_
  -- the handling of the gossip has not disconnected the configuration
  have savesStill : told.isStarted = true ∨ told.dbPasswordOpt = none := by
    rw [follows.started, follows.password]
    exact saves
  refine (curatePastNeighbors_returns reliable follows.steady savesStill known).andThen fun _ => ?_
  exact checkConnectedness_returns reliable follows (follows.wallet ▸ pays)

end

/-! ### Harmless messages -/

/-- What a message must not ask for. -/
def Harmless (env : NodeEnvironment) (state : ActorState) (delivery : Delivery) : Prop :=
  let db := state.neighborhoodDatabase
  let status := state.overallConnectionStatus
  match delivery.message with
  | .start _ => ∀ descriptor ∈ status.initialNodeDescriptors, descriptor.nodeAddrOpt.isSome
  | .newPublicIp _ => ∀ root, db.nodeByKey db.thisNode = some root → root.nodeAddrOpt.isSome
  | .routeQuery request => request.returnComponentOpt.isSome
  | .gossip incomingGossip gossipSource =>
    NotBefore delivery.now state.previousPassTargets ∧
      (state.isStarted = true ∨ state.dbPasswordOpt = none) ∧
      -- the verification does not stop, and no new Node comes twice in verified gossip
      ∀ agrs, readGossip env incomingGossip = some agrs → ∃ valid, signaturesValid env agrs = .ok valid ∧
        (valid = true →
          ((newAgrs db.keys gossipSource agrs).map fun agr => agr.inner.publicKey).Nodup)
  | .gossipFailure failureSource _ =>
    ∃ descriptor ∈ status.initialNodeDescriptors, ∃ nodeAddr, descriptor.nodeAddrOpt = some nodeAddr ∧
      nodeAddr.ipAddr = failureSource.ip
  | .removeNeighbor key => key ≠ db.thisNode
  | .connectionProgress message =>
    ∀ position progress, status.getConnectionProgressToModify message = some position →
      status.progress[position]? = some progress → progress.connectionStage.Permits message.event
  | .askAboutDebutGossip _ => True
  | .addUnreachableHost key _ => key ∈ db.keys
  | .streamShutdown peerAddr streamType =>
    streamType = .clandestine ∧
      ∀ record, db.nodeByIp peerAddr.ip = some record → record.publicKey ≠ db.thisNode

/-- The state that harmless messages lead from and to. -/
structure Ready (env : NodeEnvironment) (state : ActorState) : Prop where
  steady : Steady env state.neighborhoodDatabase
  pays : Pays env.keccak256 state.consumingWalletOpt (some env.contract)

variable {next : ActorState}

lemma Ready.follows (ready : Ready env state) (follows : Follows env state next) :
    Ready env next := ⟨follows.steady, follows.wallet ▸ ready.pays⟩

section

variable {state : ActorState} {failure : GossipFailure}

lemma handleGossipFailure_returns (ready : Ready env state)
    (configured : Harmless env state ⟨orders, now, .gossipFailure failureSource failure⟩) :
    Returns (handleGossipFailure state failureSource) (Ready env) := by
  obtain ⟨descriptor, listed, nodeAddr, told, sameIp⟩ := configured
  unfold handleGossipFailure
  split
  next missing =>
    have unlisted := List.findIdx?_eq_none_iff.mp missing descriptor listed
    simp [told, sameIp] at unlisted
  · exact .ok { ready with }

lemma handleAddUnreachableHost_returns (ready : Ready env state)
    (known : key ∈ state.neighborhoodDatabase.keys) (hostname : String) :
    Returns (handleAddUnreachableHost state key hostname) (Ready env) := by
  obtain ⟨record, found⟩ := isSome_iff_exists.mp (mem_keys.mp known)
  unfold handleAddUnreachableHost
  rw [found]
  let unreachableHosts := record.metadata.unreachableHosts.insert hostname
  -- only the metadata of the record change
  have change : Change env (.addUnreachableHost key hostname) state.neighborhoodDatabase
      (state.neighborhoodDatabase.store key
        { record with metadata := { record.metadata with unreachableHosts } }) := .marked found
  refine .ok ⟨ready.steady.continues (change.grounded ready.steady.toGrounded) ?_, ready.pays⟩
  refine continues_of_update rfl (nodeByKey_store _ _ _) (.inl known) fun own => ?_
  subst own
  exact ⟨record, found, rfl, id⟩

lemma handleNewPublicIp_returns (ready : Ready env state)
    (addressed : Harmless env state ⟨orders, now, .newPublicIp newIp⟩) :
    Returns (handleNewPublicIp env state newIp) (Ready env) := by
  obtain ⟨root, rooted⟩ := ready.steady.rooted
  obtain ⟨oldNodeAddr, told⟩ := isSome_iff_exists.mp (addressed root rooted)
  obtain ⟨mid, renewed⟩ : ∃ mid, state.neighborhoodDatabase.newPublicIp newIp = .ok mid := by
    rw [NeighborhoodDatabase.newPublicIp, root_eq_ok.mpr rooted, ok_bind, told]
    exact ⟨_, rfl⟩
  have steady := ready.steady.continues (ready.steady.toGrounded.newPublicIp renewed)
    (newPublicIp_continues renewed)
  -- the Node's own record is there again for the second step
  obtain ⟨moved, rootedMoved⟩ := steady.rooted
  obtain ⟨db, located⟩ : ∃ db, handleNewIpLocation env mid newIp = .ok db := by
    rw [handleNewIpLocation, root_eq_ok.mpr rootedMoved]
    exact ⟨_, rfl⟩
  have change : Change env (.newPublicIp newIp) state.neighborhoodDatabase db :=
    .relocated rfl renewed located
  rw [handleNewPublicIp, renewed, ok_bind, located]
  exact .ok ⟨steady.continues (change.grounded ready.steady.toGrounded)
    (handleNewIpLocation_continues located), ready.pays⟩

section

variable (reliable : Reliable env)
include reliable

section

variable (ready : Ready env state)
include ready

lemma handleStartMessage_returns (addressed : Harmless env state ⟨orders, now, .start minHopsInDatabase⟩) :
    Returns (handleStartMessage env state minHopsInDatabase) (Ready env) := by
  unfold handleStartMessage sendDebutGossipToAllInitialDescriptors
  split
  · exact .ok { ready with }
  · obtain ⟨gossip, produced⟩ := produceDebut_ok ready.steady.toGrounded
    rw [produced]
    -- every configured Node gets the same debut
    refine returns_foldlM ?_ { ready with }
    intro told descriptor listed readyTold
    obtain ⟨nodeAddr, hasAddr⟩ := isSome_iff_exists.mp (addressed descriptor listed)
    rw [sendDebutGossipToDescriptor, hasAddr]
    rw [reliable.traceGossip_eq]
    exact .ok (readyTold.follows (sendGossipNoLookup_follows (.refl readyTold.steady) gossip))

lemma Ready.gossipToNeighbors_returns :
    Returns (gossipToNeighbors env order now state) (Ready env) :=
  (NeighborhoodActor.gossipToNeighbors_returns reliable (.refl ready.steady)).mono
    fun _ follows => ready.follows follows

omit reliable in
lemma Ready.removeNeighbor (foreign : key ≠ state.neighborhoodDatabase.thisNode)
    (removed : state.neighborhoodDatabase.removeNeighbor env.toEnvironment key = .ok (.ok (changed, db))) :
    Ready env { state with neighborhoodDatabase := db } where
  steady := ready.steady.continues (ready.steady.toGrounded.removeNeighbor removed)
    (removeNeighbor_continues foreign removed)
  pays := ready.pays

lemma handleRemoveNeighborMessage_returns (foreign : key ≠ state.neighborhoodDatabase.thisNode) :
    Returns (handleRemoveNeighborMessage env order now state key) (Ready env) := by
  obtain ⟨result, removed, -⟩ := removeNeighbor_returns reliable.toDependable ready.steady.toGrounded key
  rw [handleRemoveNeighborMessage, removed, ok_bind]
  -- unknown, a neighbor whose loss is told, or no neighbor
  split
  · exact .ok ready
  · exact (ready.removeNeighbor foreign removed).gossipToNeighbors_returns reliable
  · exact .ok (ready.removeNeighbor foreign removed)

lemma handleStreamShutdownMsg_returns
    (harmless : Harmless env state ⟨orders, now, .streamShutdown peerAddr streamType⟩) :
    Returns (handleStreamShutdownMsg env order now state peerAddr streamType) (Ready env) := by
  obtain ⟨rfl, foreign⟩ := harmless
  unfold handleStreamShutdownMsg
  rw [if_neg (not_not.mpr rfl)]
  split
  · exact .ok ready
  next neighbor found =>
    have other := foreign neighbor found
    have known := (nodeByIp_eq_some ready.steady.toWellIndexed found).1
    obtain ⟨result, removed, present⟩ := removeNeighbor_returns reliable.toDependable
      ready.steady.toGrounded neighbor.publicKey
    rw [removed, ok_bind]
    -- the Node was found by its address, so it is not unknown
    split
    next e => cases present (isSome_of_eq_some known)
    · exact (ready.removeNeighbor other removed).gossipToNeighbors_returns reliable
    · exact .ok (ready.removeNeighbor other removed)

lemma handleGossip_returns
    (harmless : Harmless env state ⟨orders, now, .gossip incomingGossip gossipSource⟩) :
    Returns (handleGossip env orders now state incomingGossip gossipSource) (Ready env) := by
  obtain ⟨notBefore, saves, readable⟩ := harmless
  rw [handleGossip, reliable.traceGossip_eq]
  split
  · exact .ok ready
  next agrs read =>
    obtain ⟨valid, validated, distinct⟩ := readable agrs read
    rw [validated]
    -- what is not authentic is dropped
    cases valid with
    | false => exact .ok ready
    | true =>
      have authentic : ∀ agr ∈ agrs, Authentic env agr := fun agr listed =>
        ⟨readGossip_eq_some read agr listed, signaturesValid_eq_true validated agr listed⟩
      refine (handleGossipAgrs_returns reliable ready.steady ready.pays authentic notBefore
        (distinct rfl) saves).mono fun next follows => ?_
      exact ready.follows follows

/-- **One message**: if it is harmless, it is handled, and the actor is ready for the next one. -/
theorem handle_returns (harmless : Harmless env state delivery) :
    Returns (handle env state delivery) (Ready env) := by
  obtain ⟨orders, now, message⟩ := delivery
  cases message with
  | start minHopsInDatabase => exact handleStartMessage_returns reliable ready harmless
  | newPublicIp newIp => exact handleNewPublicIp_returns ready harmless
  | routeQuery request =>
    have searched : Safe (handleRouteQueryMessage env.toActorEnvironment orders.route
        state.toRouteQueryState request) :=
      handleRouteQueryMessage_returns reliable.release (routesReady reliable ready.steady ready.pays) harmless
    obtain ⟨⟨responseOpt, routing⟩, answered, -⟩ := searched
    obtain ⟨nextReturnRouteId, rfl⟩ := handleRouteQueryMessage_counts answered
    unfold handle
    dsimp only
    rw [answered]
    exact .ok { ready with }
  | gossip incomingGossip gossipSource => exact handleGossip_returns reliable ready harmless
  | gossipFailure failureSource failure => exact handleGossipFailure_returns ready harmless
  | removeNeighbor key => exact handleRemoveNeighborMessage_returns reliable ready harmless
  | connectionProgress message =>
    exact (handleConnectionProgressMessage_settles fun _ => { ready with }).total harmless
  | askAboutDebutGossip prev => exact handleAskAboutDebutGossipMessage_returns (fun _ => { ready with }) prev
  | addUnreachableHost key hostname => exact handleAddUnreachableHost_returns ready harmless hostname
  | streamShutdown peerAddr streamType => exact handleStreamShutdownMsg_returns reliable ready harmless

end

end

/-! ### Harmful messages -/

/-- What others report about Nodes and connections. -/
def NeighborhoodMessage.IsReport : NeighborhoodMessage → Prop
  | .gossipFailure _ _ => True
  | .connectionProgress _ => True
  | .addUnreachableHost _ _ => True
  | _ => False

lemma configured_of_handled (handled : handleGossipFailure state failureSource = .ok next) :
    Harmless env state ⟨orders, now, .gossipFailure failureSource failure⟩ := by
  unfold handleGossipFailure at handled
  split at handled
  · cases handled
  next position found =>
    have present := isSome_of_eq_some found
    rw [List.findIdx?_isSome, List.any_eq_true] at present
    obtain ⟨descriptor, listed, sameIp⟩ := present
    cases told : descriptor.nodeAddrOpt with
    | none => simp [told] at sameIp
    | some nodeAddr => exact ⟨descriptor, listed, nodeAddr, told, by simpa [told] using sameIp⟩

lemma permitted_of_handled (handled : handleConnectionProgressMessage env state message = .ok next) :
    Permitted state message := by
  intro position progress modifies found
  unfold handleConnectionProgressMessage at handled
  rw [modifies] at handled
  obtain ⟨status, advanced, -⟩ := ok_of_bind handled
  rw [OverallConnectionStatus.advance, found] at advanced
  obtain ⟨updated, updates, -⟩ := ok_of_bind advanced
  exact (updateConnectionStage_ok_iff env.toEnvironment progress message.event).mp ⟨updated, updates⟩

lemma harmless_of_handled (report : delivery.message.IsReport)
    (handled : handle env state delivery = .ok next) : Harmless env state delivery := by
  obtain ⟨orders, now, message⟩ := delivery
  cases message with
  | gossipFailure failureSource failure => exact configured_of_handled handled
  | connectionProgress progress => exact permitted_of_handled handled
  | addUnreachableHost key hostname =>
    unfold handle handleAddUnreachableHost at handled
    dsimp only at handled
    split at handled
    · cases handled
    next record found => exact mem_keys_of_found found
  | _ => exact report.elim

end

/-! ### Runs -/

lemma steady_new (created : NeighborhoodDatabase.new env.toEnvironment now mode earningWallet = .ok db) :
    Steady env db := by
  have grounded := grounded_new created
  obtain ⟨⟨signedGossip, signature⟩, -, created⟩ := ok_of_bind created
  cases created
  refine ⟨grounded, by simp, ?_, ?_⟩
  · intro root rooted accepting
    rw [thisNode_addArbitraryNode] at rooted
    cases nodeByKey_addArbitraryNode_self.symm.trans rooted
    -- only a standard Node accepts connections, and it is given an address
    cases mode with
    | standard => rfl
    | zeroHop | originateOnly | consumeOnly => cases accepting
  · intro key listed
    by_cases own : key = env.cryptde.publicKey
    · exact .inl own
    · rw [mem_keys, nodeByKey_addArbitraryNode_ne own] at listed
      simp [nodeByKey] at listed

lemma ready_new (pays : Pays env.keccak256 config.consumingWalletOpt (some env.contract))
    (created : ActorState.new env now config = .ok state) : Ready env state := by
  obtain ⟨made, -, wallet, -⟩ := new_state created
  exact ⟨steady_new made, wallet ▸ pays⟩

/-- **No panics**: in a released build, no sequence of harmless messages stops the actor.  For the
reports of others, harmlessness is not only enough but also needed. -/
theorem harmless_messages_are_handled {now : U32} {config : BootstrapperConfig} {state : ActorState}
    {deliveries : List Delivery} (reliable : Reliable env)
    (pays : Pays env.keccak256 config.consumingWalletOpt (some env.contract))
    (created : ActorState.new env now config = .ok state)
    (harmless : Runs.Along (handle env) (Harmless env) state deliveries) :
    ∃ reached, Runs.run (handle env) state deliveries = .ok reached ∧
      ∀ delivery, delivery.message.IsReport →
        ((∃ next, handle env reached delivery = .ok next) ↔ Harmless env reached delivery) := by
  have steps : ∀ state delivery, Ready env state → Harmless env state delivery →
      ∃ next, handle env state delivery = .ok next ∧ Ready env next :=
    fun _ _ ready harmless => handle_returns reliable ready harmless
  obtain ⟨reached, handled, ready⟩ := Runs.run_ok steps harmless (ready_new pays created)
  refine ⟨reached, handled, fun delivery report => ⟨?_, ?_⟩⟩
  · rintro ⟨next, handled⟩
    exact harmless_of_handled report handled
  · intro harmless
    obtain ⟨next, handled, -⟩ := handle_returns reliable ready harmless
    exact ⟨next, handled⟩

/-! ### Serializations that never fail -/

instance countableChar : Countable Char :=
  countable (f := Char.toNat) fun _ _ same => Char.toNat_inj.mp same

instance countableString : Countable String :=
  countable (f := String.toList) fun _ _ same => String.toList_inj.mp same

instance (t : IntType) : Countable (Word t) :=
  countable (f := Word.val) fun _ _ same => Word.ext same

instance {α : Type} [LinearOrder α] [Countable α] : Countable (SortedSet α) :=
  countable (f := SortedSet.toList) fun _ _ same => by
    rwa [SortedSet.mk.injEq]

instance : Countable Bytes := inferInstanceAs (Countable (List UInt8))

deriving instance Countable for PublicKey
deriving instance Countable for Neighborhood.RatePack
deriving instance Countable for Accountant.Wallet
deriving instance Countable for NodeRecordInner
deriving instance Countable for Component
deriving instance Countable for Signature
deriving instance Countable for Payer
deriving instance Countable for LiveHop

/-- A number for everything. -/
noncomputable def code (α : Type) [Countable α] : α → Nat := Classical.choose (exists_injective_nat α)

lemma code_injective (α : Type) [Countable α] : Function.Injective (code α) :=
  Classical.choose_spec (exists_injective_nat α)

open Classical in
/-- As many bytes as the number says. -/
noncomputable def countableCodec (α : Type) [Countable α] : Codec α where
  serialize item := .ok ⟨List.replicate (code α item) 0⟩
  deserialize plain :=
    if coded : ∃ item, code α item = plain.data.length then .ok coded.choose else .error ⟨"no such number"⟩
  deserialize_serialize := by
    rintro item _ ⟨⟩
    have coded : ∃ other, code α other = (List.replicate (code α item) (0 : UInt8)).length :=
      ⟨item, List.length_replicate.symm⟩
    rw [dif_pos coded]
    refine congrArg Except.ok (code_injective α ?_)
    rw [coded.choose_spec, List.length_replicate]

/-- A released Node with the key 1 that can serialize everything. -/
noncomputable def tirelessEnvironment : NodeEnvironment :=
  { sampleNodeEnvironment [] with
    profile := .release
    innerCodec := countableCodec NodeRecordInner
    hopCodec := countableCodec LiveHop
    idCodec := countableCodec UInt32 }

lemma tirelessEnvironment_reliable : Reliable tirelessEnvironment where
  release := rfl
  signs _ := ⟨_, rfl⟩
  silent := rfl
  encryptsHops _ _ _ := ⟨_, rfl⟩
  encryptsId _ := ⟨_, rfl⟩
  encryptsGossip _ _ _ := ⟨_, rfl⟩
  describes _ _ := ⟨_, rfl⟩

/-- The record of the Node 2 as it travels. -/
noncomputable def debutGnr : GossipNodeRecord :=
  ⟨⟨List.replicate (code NodeRecordInner earlyInner) 0⟩, ⟨List.replicate (code NodeRecordInner earlyInner) 0⟩,
    some (sampleNodeAddr 2)⟩

/-- A connection that comes about and a stream that ends; then a configured Node refuses, and debuts. -/
noncomputable def harmlessDeliveries : List Delivery :=
  [sampleDelivery (.connectionProgress ⟨(sampleSource 2).ip, .tcpConnectionSuccessful⟩),
    sampleDelivery (.streamShutdown (sampleSource 3) .clandestine),
    sampleDelivery (.gossipFailure (sampleSource 2) .noSuitableNeighbors),
    sampleDelivery (.gossip ⟨[debutGnr]⟩ (sampleSource 2))]

lemma signaturesValid_ok (verifies : ∀ agr ∈ agrs, ∃ valid,
      env.cryptde.verifySignature agr.signedGossip agr.signature agr.inner.publicKey = .ok valid) :
    ∃ valid, signaturesValid env agrs = .ok valid := by
  induction agrs with
  | nil => exact ⟨true, rfl⟩
  | cons agr agrs ih =>
    rw [List.forall_mem_cons] at verifies
    obtain ⟨verdict, verified⟩ := verifies.1
    rw [signaturesValid, verified]
    cases verdict with
    | true => exact ih verifies.2
    | false => exact ⟨false, rfl⟩

lemma readGossip_single (read : readGossip env ⟨[gnr]⟩ = some agrs) : ∃ agr, agrs = [agr] := by
  unfold readGossip at read
  cases decoded : (AccessibleGossipRecord.tryFrom env.toEnvironment gnr).toOption with
  | none => simp [decoded] at read
  | some agr =>
    simp only [List.filterMap_cons, decoded, List.filterMap_nil, List.length_singleton, lt_irrefl,
      ↓reduceIte, some.injEq] at read
    exact ⟨agr, read.symm⟩

lemma harmlessDeliveries_harmless
    (created : ActorState.new tirelessEnvironment sampleNow sampleConfig = .ok state) :
    Runs.Along (handle tirelessEnvironment) (Harmless tirelessEnvironment) state harmlessDeliveries := by
  cases created
  -- the connection is new, so it may come about
  constructor
  · intro position progress modifies found
    cases modifies
    cases found
    exact .inl rfl
  intro next handled
  cases handled
  -- nobody is known under the address of the stream
  constructor
  · refine ⟨rfl, ?_⟩
    intro record found
    cases found
  intro next handled
  cases handled
  -- the Node that refuses is the configured one
  constructor
  · exact ⟨sampleDescriptor, .head _, _, rfl, rfl⟩
  intro next handled
  cases handled
  refine ⟨⟨?_, .inr rfl, ?_⟩, fun _ _ => trivial⟩
  · intro ip timestamp found
    cases found
  · intro agrs read
    obtain ⟨agr, rfl⟩ := readGossip_single read
    obtain ⟨valid, validated⟩ : ∃ valid, signaturesValid tirelessEnvironment [agr] = .ok valid :=
      signaturesValid_ok fun _ _ => ⟨_, rfl⟩
    refine ⟨valid, validated, fun _ => ?_⟩
    have few : ∀ keys gossipSource, (newAgrs keys gossipSource [agr]).Sublist [agr] :=
      fun _ _ => List.filter_sublist.trans List.filter_sublist
    exact (List.nodup_singleton agr.inner.publicKey).sublist ((few _ _).map _)

theorem harmless_sample_is_handled : ∃ state reached,
    ActorState.new tirelessEnvironment sampleNow sampleConfig = .ok state ∧
    Runs.run (handle tirelessEnvironment) state harmlessDeliveries = .ok reached := by
  obtain ⟨reached, handled, -⟩ := harmless_messages_are_handled tirelessEnvironment_reliable
    pays_without_wallet (rfl : ActorState.new tirelessEnvironment sampleNow sampleConfig = .ok _)
    (harmlessDeliveries_harmless rfl)
  exact ⟨_, reached, rfl, handled⟩

/-- Nobody but the configured Nodes may refuse a debut. -/
theorem gossip_failure_from_stranger_panics : Reliable tirelessEnvironment ∧ ∃ state,
    ActorState.new tirelessEnvironment sampleNow sampleConfig = .ok state ∧
    handle tirelessEnvironment state (sampleDelivery (.gossipFailure (sampleSource 3) .unknown)) =
      .error (.raised "not implemented: TODO: Test-drive me (or replace me with a panic)") := ⟨tirelessEnvironment_reliable, _, rfl, rfl⟩

end PulseMesh.NeighborhoodActor
