import PulseMesh.Gossip.RootNeighbors
import PulseMesh.Lib.Returns
import PulseMesh.NeighborhoodActor.Actor

/-!
# What a message does

A message changes the database first, in one of a few ways.  Then the actor tells others about it: it
signs its own record again, culls dead Nodes, and sends gossip that quotes the database or answers a
debut.  Invariants of the database and of what is sent are shown for these moves, and not for the
handlers.

The choice of exits, the minimum hops and the size of the patch are set by the configuration and by the
user.  Other Nodes cannot change them: of all messages that are not from the user, only the start of the
actor does, with the minimum hops from the configuration database.
-/

namespace PulseMesh.NeighborhoodActor

open Machine SubLib Gossip ProxyServer Relation NeighborhoodDatabase
open Neighborhood (SetOrder RouteDirection FallbackPreference)

/-- What other Nodes can come to know of the Node. -/
structure Correspondence where
  database : NeighborhoodDatabase
  sent : List Sent

def ActorState.correspondence (state : ActorState) : Correspondence :=
  ⟨state.neighborhoodDatabase, state.sent⟩

/-- The countries of the database are no choice, they are looked up again and again. -/
structure Settings where
  exitCountries : List String
  fallbackPreference : FallbackPreference
  locationsOpt : Option (List ExitLocation)
  minHops : Hops
  dbPatchSize : Nat

def ActorState.settings (state : ActorState) : Settings :=
  ⟨state.userExitPreferences.exitCountries, state.userExitPreferences.fallbackPreference,
    state.userExitPreferences.locationsOpt, state.minHops, state.dbPatchSize⟩

/-- A record that can be read and that is signed by its Node. -/
structure Authentic (env : NodeEnvironment) (agr : AccessibleGossipRecord) : Prop where
  decoded : env.innerCodec.deserialize agr.signedGossip = .ok agr.inner
  verified : env.cryptde.verifySignature agr.signedGossip agr.signature agr.inner.publicKey = .ok true

/-- The message asks for the Node with the key to be no neighbor any more. -/
def Removes (db : NeighborhoodDatabase) (message : NeighborhoodMessage) (key : PublicKey) : Prop :=
  message = .removeNeighbor key ∨
    ∃ peerAddr streamType record, message = .streamShutdown peerAddr streamType ∧
      db.nodeByIp peerAddr.ip = some record ∧ record.publicKey = key

inductive Change (env : NodeEnvironment) (message : NeighborhoodMessage) (db : NeighborhoodDatabase) :
    NeighborhoodDatabase → Prop where
  | nothing : Change env message db db
  | heard {agrs : List AccessibleGossipRecord} {handled : Handled}
    (authentic : ∀ agr ∈ agrs, Authentic env agr)
    (outcome : Outcome env.toEnvironment agrs db handled) : Change env message db handled.database
  | unaddressed {key : PublicKey} {db' : NeighborhoodDatabase} (removes : Removes db message key)
    (removed : db.removeNeighbor env.toEnvironment key = .ok (.ok (false, db'))) :
    Change env message db db'
  | unlinked {key : PublicKey} {mid : NeighborhoodDatabase} {root root' : NodeRecord}
    (removes : Removes db message key)
    (removed : db.removeNeighbor env.toEnvironment key = .ok (.ok (true, mid)))
    (rooted : mid.nodeByKey mid.thisNode = some root)
    (signed : root.regenerateSignedGossip env.toEnvironment = .ok root') :
    Change env message db (mid.store mid.thisNode root')
  | marked {key : PublicKey} {record : NodeRecord} {unreachableHosts : List String}
    (found : db.nodeByKey key = some record) :
    Change env message db
      (db.store key { record with metadata := { record.metadata with unreachableHosts } })
  | relocated {newIp : IpAddr} {mid db' : NeighborhoodDatabase} (told : message = .newPublicIp newIp)
    (renewed : db.newPublicIp newIp = .ok mid) (located : handleNewIpLocation env mid newIp = .ok db') :
    Change env message db db'

inductive Tell (env : NodeEnvironment) : Correspondence → Correspondence → Prop where
  | signed {db : NeighborhoodDatabase} {sent : List Sent} {root root' : NodeRecord}
    (rooted : db.nodeByKey db.thisNode = some root)
    (signed : root.regenerateSignedGossip env.toEnvironment = .ok root') :
    Tell env ⟨db, sent⟩ ⟨db.store db.thisNode root', sent⟩
  | culled {db db' : NeighborhoodDatabase} {sent : List Sent} {now : Clock}
    {lastDeadNodeCheck lastDeadNodeCheck' : U32}
    (checked : checkForDeadNodes env.toEnvironment now db lastDeadNodeCheck =
      .ok (db', lastDeadNodeCheck')) :
    Tell env ⟨db, sent⟩ ⟨db', sent⟩
  | quoted {db : NeighborhoodDatabase} {sent : List Sent} {target : PublicKey} {gossip : SubLib.Gossip}
    (quotes : Quotes db gossip) : Tell env ⟨db, sent⟩ ⟨db, sent ++ [⟨target, gossip, db⟩]⟩
  | answered {db : NeighborhoodDatabase} {sent : List Sent} {target : PublicKey} {gossip : SubLib.Gossip}
    (responds : RespondsToDebut env.toEnvironment db target gossip) :
    Tell env ⟨db, sent⟩ ⟨db, sent ++ [⟨target, gossip, db⟩]⟩

variable {env : NodeEnvironment} {state state' : ActorState} {delivery : Delivery}

/-- Neither the others nor the user can tell the states apart. -/
def Same (state state' : ActorState) : Prop :=
  state'.correspondence = state.correspondence ∧ state'.settings = state.settings

/-- From this state on the others have only been told. -/
def Tells (env : NodeEnvironment) (told : Correspondence) (settings : Settings) (state : ActorState) : Prop :=
  ReflTransGen (Tell env) told state.correspondence ∧ state.settings = settings

lemma Same.tells (same : Same state state') : Tells env state.correspondence state.settings state' := by
  refine ⟨?_, same.2⟩
  rw [same.1]

lemma Tells.refl (state) : Tells env state.correspondence state.settings state := ⟨.refl, rfl⟩

/-! ### Telling the neighbors -/

lemma produce_eq_ok (produced : produce env.toEnvironment order now db lastDeadNodeCheck key =
      .ok (gossipOpt, db', lastDeadNodeCheck')) :
    checkForDeadNodes env.toEnvironment now db lastDeadNodeCheck = .ok (db', lastDeadNodeCheck') ∧
      ∀ gossip ∈ gossipOpt, Quotes db' gossip := by
  obtain ⟨⟨checkedDb, checkedAt⟩, checked, produced⟩ := ok_of_bind produced
  dsimp only at produced
  -- a Node that has just been culled gets no gossip
  split at produced
  · cases produced
    exact ⟨checked, nofun⟩
  · obtain ⟨gossip, made, produced⟩ := ok_of_bind produced
    cases produced
    refine ⟨checked, ?_⟩
    rintro _ ⟨⟩
    exact quotes_gossipFor made

lemma gossipToNeighbor_eq_ok (sends : gossipToNeighbor env state key gossip = .ok state') :
    state' = recordSent state key gossip := by
  obtain ⟨route, -, sends⟩ := ok_of_bind sends
  split at sends
  · cases sends
  · obtain ⟨_, -, sends⟩ := ok_of_bind sends
    split at sends
    · cases sends
    · cases sends
      rfl

lemma updateNeighbor_tells (updates : updateNeighbor env order now state key = .ok state') :
    Tells env state.correspondence state.settings state' := by
  obtain ⟨⟨gossipOpt, db, checkedAt⟩, produced, updates⟩ := ok_of_bind updates
  obtain ⟨checked, quotes⟩ := produce_eq_ok produced
  have culled : Tell env state.correspondence ⟨db, state.sent⟩ := .culled checked
  cases gossipOpt with
  | none =>
    cases updates
    exact ⟨.single culled, rfl⟩
  | some gossip =>
    rw [gossipToNeighbor_eq_ok updates]
    exact ⟨(ReflTransGen.single culled).tail (.quoted (quotes gossip rfl)), rfl⟩

lemma gossipToNeighbors_eq_ok (tells : gossipToNeighbors env order now state = .ok state') :
    ∃ root root', state.neighborhoodDatabase.nodeByKey state.neighborhoodDatabase.thisNode = some root ∧
      root.regenerateSignedGossip env.toEnvironment = .ok root' ∧
      Tells env ⟨state.neighborhoodDatabase.store state.neighborhoodDatabase.thisNode root', state.sent⟩
        state.settings state' := by
  obtain ⟨root, rooted, tells⟩ := ok_of_bind tells
  obtain ⟨root', signed, tells⟩ := ok_of_bind tells
  refine ⟨root, root', root_eq_ok.mp rooted, signed, ?_⟩
  rw [← Runs.run_eq_foldlM] at tells
  -- the neighbors are told one after the other
  have kept : ∀ start told neighbor next, Tells env start state.settings told →
      updateNeighbor env order now told neighbor = .ok next → Tells env start state.settings next := by
    intro start told neighbor next tells updates
    obtain ⟨more, same⟩ := updateNeighbor_tells updates
    exact ⟨tells.1.trans more, same.trans tells.2⟩
  refine Runs.invariant_of_steps (kept _) ?_ tells
  exact ⟨.refl, rfl⟩

/-! ### Route queries -/

/-- A route query counts the routes and changes nothing else. -/
def OnlyCounts (state state' : RouteQueryState) : Prop :=
  ∃ nextReturnRouteId, state' = { state with nextReturnRouteId }

section

lemma OnlyCounts.refl (query) : OnlyCounts query query := ⟨_, rfl⟩

lemma composeRouteQueryResponse_counts
    (composed : composeRouteQueryResponse actor query overLeg back = .ok (result, query')) :
    OnlyCounts query query' := by
  -- the id is taken only when both lists of services are there
  unfold composeRouteQueryResponse at composed
  split at composed
  · cases composed
    exact .refl query
  · split at composed
    · cases composed
      exact .refl query
    · obtain ⟨overServices, -, composed⟩ := ok_of_bind composed
      split at composed
      · cases composed
        exact .refl query
      · obtain ⟨backServices, -, composed⟩ := ok_of_bind composed
        split at composed
        · cases composed
          exact .refl query
        · obtain ⟨routed, -, composed⟩ := ok_of_bind composed
          split at composed
          · cases composed
          · cases composed
            exact ⟨_, rfl⟩

lemma makeRoundTripRoute_counts (made : makeRoundTripRoute actor routes query request = .ok (result, query')) :
    OnlyCounts query query' := by
  obtain ⟨overResult, -, made⟩ := ok_of_bind made
  split at made
  · cases made
    exact .refl query
  · obtain ⟨payloadSize, -, made⟩ := ok_of_bind made
    split at made
    · cases made
    · cases made
    · obtain ⟨backResult, -, made⟩ := ok_of_bind made
      split at made
      · cases made
        exact .refl query
      · exact composeRouteQueryResponse_counts made

lemma handleRouteQueryMessage_counts
    (handled : handleRouteQueryMessage actor routes query request = .ok (responseOpt, query')) :
    OnlyCounts query query' := by
  unfold handleRouteQueryMessage at handled
  -- a Node without other Nodes answers at once
  split at handled
  · obtain ⟨⟨response, next⟩, answered, handled⟩ := ok_of_bind handled
    obtain ⟨routed, -, answered⟩ := ok_of_bind answered
    split at answered
    · cases answered
    · cases answered
      cases handled
      exact ⟨_, rfl⟩
  · obtain ⟨⟨result, next⟩, made, handled⟩ := ok_of_bind handled
    have counts := makeRoundTripRoute_counts made
    cases result with
    | ok | error =>
      cases handled
      exact counts

end

/-- The route query of a connectivity check leaves the rest of the actor alone. -/
lemma searchForANewRoute_same (searched : searchForANewRoute env orders state = .ok state') :
    Same state state' := by
  obtain ⟨⟨responseOpt, routing⟩, handled, searched⟩ := ok_of_bind searched
  obtain ⟨nextReturnRouteId, rfl⟩ := handleRouteQueryMessage_counts handled
  dsimp only at searched
  split at searched
  all_goals
    cases searched
    exact ⟨rfl, rfl⟩

lemma checkConnectedness_same (checked : checkConnectedness env orders state = .ok state') :
    Same state state' := by
  unfold checkConnectedness at checked
  split at checked
  · cases checked
    exact ⟨rfl, rfl⟩
  · exact searchForANewRoute_same checked

/-! ### Gossip -/

lemma withDbCountries_same (counted : withDbCountries env order state = .ok state') :
    Same state state' := by
  obtain ⟨dbCountries, -, counted⟩ := ok_of_bind counted
  cases counted
  exact ⟨rfl, rfl⟩

lemma withDbCountriesOfNeighbors_same (counted : withDbCountriesOfNeighbors env order state = .ok state') :
    Same state state' := by
  unfold withDbCountriesOfNeighbors at counted
  split at counted
  · exact withDbCountries_same counted
  · cases counted
    exact ⟨rfl, rfl⟩

lemma sendGossipNoLookup_tells
    (tells : Tell env state.correspondence (recordSent state key gossip).correspondence) :
    Tells env state.correspondence state.settings (sendGossipNoLookup env state key gossip) := by
  unfold sendGossipNoLookup
  split
  · exact ⟨.single tells, rfl⟩
  · exact .refl state

lemma handleAcceptance_tells
    (reply : ∀ gossip targetKey targetNodeAddr, result = .reply gossip targetKey targetNodeAddr →
      Quotes state.neighborhoodDatabase gossip ∨
        RespondsToDebut env.toEnvironment state.neighborhoodDatabase targetKey gossip)
    (handled : handleAcceptance env orders now state result = .ok state') :
    Tells env state.correspondence state.settings state' := by
  cases result with
  | accepted =>
    obtain ⟨counted, counts, handled⟩ := ok_of_bind handled
    obtain ⟨root, root', rooted, signed, tells⟩ := gossipToNeighbors_eq_ok handled
    obtain ⟨same, sameSettings⟩ := withDbCountries_same counts
    rw [← same, ← sameSettings]
    exact ⟨tells.1.head (.signed rooted signed), tells.2⟩
  -- a reply is told to one Node, anything accepted to all neighbors
  | reply gossip targetKey targetNodeAddr =>
    obtain ⟨counted, counts, handled⟩ := ok_of_bind handled
    obtain ⟨_, -, handled⟩ := ok_of_bind handled
    cases handled
    obtain ⟨same, sameSettings⟩ := withDbCountriesOfNeighbors_same counts
    have sameDb : counted.neighborhoodDatabase = state.neighborhoodDatabase :=
      congrArg Correspondence.database same
    rw [← same, ← sameSettings]
    apply sendGossipNoLookup_tells
    rcases reply gossip targetKey targetNodeAddr rfl with quotes | responds
    · exact .quoted (sameDb ▸ quotes)
    · exact .answered (sameDb ▸ responds)
  | failed | ignored | ban =>
    cases handled
    exact .refl state

lemma signaturesValid_eq_true (valid : signaturesValid env agrs = .ok true) :
    ∀ agr ∈ agrs,
      env.cryptde.verifySignature agr.signedGossip agr.signature agr.inner.publicKey = .ok true := by
  induction agrs with
  | nil => simp
  | cons agr agrs ih =>
    obtain ⟨verdict, verified, valid⟩ := ok_of_bind valid
    -- the verification stops at the first record that fails
    cases verdict with
    | false => cases valid
    | true => exact List.forall_mem_cons.mpr ⟨verified, ih valid⟩

lemma readGossip_eq_some (read : readGossip env incomingGossip = some agrs) :
    ∀ agr ∈ agrs, env.innerCodec.deserialize agr.signedGossip = .ok agr.inner := by
  unfold readGossip at read
  dsimp only at read
  split at read
  · cases read
  · cases read
    intro agr listed
    obtain ⟨gnr, -, decoded⟩ := List.mem_filterMap.mp listed
    unfold AccessibleGossipRecord.tryFrom at decoded
    split at decoded
    next inner deserialized =>
      cases decoded
      exact deserialized
    · cases decoded

lemma handleGossip_eq_ok
    (handled : handleGossip env orders now state incomingGossip gossipSource = .ok state') :
    ∃ db, Change env (.gossip incomingGossip gossipSource) state.neighborhoodDatabase db ∧
      Tells env ⟨db, state.sent⟩ state.settings state' := by
  obtain ⟨_, -, handled⟩ := ok_of_bind handled
  split at handled
  · cases handled
    exact ⟨_, .nothing, .refl state⟩
  next agrs read =>
    obtain ⟨valid, validated, handled⟩ := ok_of_bind handled
    cases valid with
    | false =>
      cases handled
      exact ⟨_, .nothing, .refl state⟩
    | true =>
      obtain ⟨keysBefore, -, handled⟩ := ok_of_bind handled
      obtain ⟨told, acts, handled⟩ := ok_of_bind handled
      obtain ⟨keysAfter, -, handled⟩ := ok_of_bind handled
      obtain ⟨saved, -, handled⟩ := ok_of_bind handled
      obtain ⟨acceptance, accepted, acts⟩ := ok_of_bind acts
      -- the acceptor changes the database, and everything else only tells
      have outcome := acceptGossip_outcome accepted
      have authentic : ∀ agr ∈ agrs, Authentic env agr := fun agr listed =>
        ⟨readGossip_eq_some read agr listed, signaturesValid_eq_true validated agr listed⟩
      refine ⟨acceptance.handled.database, .heard authentic outcome, ?_⟩
      obtain ⟨same, sameSettings⟩ := checkConnectedness_same handled
      obtain ⟨tells, toldSettings⟩ := handleAcceptance_tells outcome.reply acts
      exact ⟨same ▸ tells, sameSettings.trans toldSettings⟩

/-! ### The other messages -/

lemma handleStartMessage_tells (handled : handleStartMessage env state minHopsInDatabase = .ok state') :
    Tells env state.correspondence { state.settings with minHops := minHopsInDatabase } state' := by
  unfold handleStartMessage sendDebutGossipToAllInitialDescriptors at handled
  split at handled
  · cases handled
    exact ⟨.refl, rfl⟩
  · obtain ⟨gossip, produced, handled⟩ := ok_of_bind handled
    have quotes := quotes_produceDebut produced
    rw [← Runs.run_eq_foldlM] at handled
    -- the same debut goes to all initial neighbors, from the same database
    let Inv (told : ActorState) : Prop :=
      Tells env state.correspondence { state.settings with minHops := minHopsInDatabase } told ∧
        told.neighborhoodDatabase = state.neighborhoodDatabase
    have kept : ∀ told descriptor next, Inv told →
        sendDebutGossipToDescriptor env gossip told descriptor = .ok next → Inv next := by
      rintro told descriptor next ⟨tells, sameDb⟩ sends
      unfold sendDebutGossipToDescriptor at sends
      split at sends
      · cases sends
      · obtain ⟨_, -, sends⟩ := ok_of_bind sends
        cases sends
        obtain ⟨more, same⟩ := sendGossipNoLookup_tells (.quoted (sameDb ▸ quotes))
        refine ⟨⟨tells.1.trans more, same.trans tells.2⟩, ?_⟩
        unfold sendGossipNoLookup
        split
        · exact sameDb
        · exact sameDb
    have told : Inv state' := by
      refine Runs.invariant_of_steps kept ?_ handled
      exact ⟨⟨.refl, rfl⟩, rfl⟩
    exact told.1

lemma handleRemoveNeighborMessage_eq_ok
    (handled : handleRemoveNeighborMessage env order now state key = .ok state') :
    ∃ db, Change env (.removeNeighbor key) state.neighborhoodDatabase db ∧
      Tells env ⟨db, state.sent⟩ state.settings state' := by
  obtain ⟨result, removed, handled⟩ := ok_of_bind handled
  split at handled
  · cases handled
    exact ⟨_, .nothing, .refl state⟩
  · obtain ⟨root, root', rooted, signed, tells⟩ := gossipToNeighbors_eq_ok handled
    exact ⟨_, .unlinked (.inl rfl) removed rooted signed, tells⟩
  · cases handled
    exact ⟨_, .unaddressed (.inl rfl) removed, .refl, rfl⟩

lemma handleStreamShutdownMsg_eq_ok
    (handled : handleStreamShutdownMsg env order now state peerAddr streamType = .ok state') :
    ∃ db, Change env (.streamShutdown peerAddr streamType) state.neighborhoodDatabase db ∧
      Tells env ⟨db, state.sent⟩ state.settings state' := by
  unfold handleStreamShutdownMsg at handled
  split at handled
  · cases handled
  · split at handled
    · cases handled
      exact ⟨_, .nothing, .refl state⟩
    next neighbor found =>
      -- the stream names an address, the database the Node behind it
      have removes : Removes state.neighborhoodDatabase (.streamShutdown peerAddr streamType)
          neighbor.publicKey := .inr ⟨_, _, neighbor, rfl, found, rfl⟩
      obtain ⟨result, removed, handled⟩ := ok_of_bind handled
      split at handled
      · cases handled
      · obtain ⟨root, root', rooted, signed, tells⟩ := gossipToNeighbors_eq_ok handled
        exact ⟨_, .unlinked removes removed rooted signed, tells⟩
      · cases handled
        exact ⟨_, .unaddressed removes removed, .refl, rfl⟩

section

variable {status : OverallConnectionStatus} {position : Nat} {progress : ConnectionProgress}

lemma advance_ok (permitted : ∀ progress, status.progress[position]? = some progress →
      progress.connectionStage.Permits event) :
    ∃ status', status.advance env.toEnvironment position event = .ok status' := by
  unfold OverallConnectionStatus.advance
  -- a connection that is not there is not advanced
  split
  · exact ⟨_, rfl⟩
  next progress found =>
    obtain ⟨next, updated⟩ := (updateConnectionStage_ok_iff env.toEnvironment progress event).mpr
      (permitted progress found)
    rw [updated]
    exact ⟨_, rfl⟩

/-- A TCP connection leads to the same peer as before. -/
lemma peer_of_tcpConnection (found : status.progress[position]? = some progress)
    (advanced : status.advance env.toEnvironment position .tcpConnectionSuccessful = .ok status') :
    ∃ next ∈ status'.progress, next.currentPeerAddr = progress.currentPeerAddr := by
  rw [OverallConnectionStatus.advance, found] at advanced
  obtain ⟨next, updated, advanced⟩ := ok_of_bind advanced
  cases advanced
  exact ⟨next, List.mem_set (List.getElem?_eq_some_iff.mp found).1 next,
    currentPeerAddr_updateConnectionStage updated⟩

/-- The connection that the message is about, if there is one, permits its event. -/
abbrev Permitted (state : ActorState) (message : ConnectionProgressMessage) : Prop :=
  ∀ position progress, state.overallConnectionStatus.getConnectionProgressToModify message = some position →
    state.overallConnectionStatus.progress[position]? = some progress →
      progress.connectionStage.Permits message.event

variable {Post : ActorState → Prop} (kept : ∀ status, Post { state with overallConnectionStatus := status })
include kept

lemma handleConnectionProgressMessage_settles :
    Settles (Permitted state message) (handleConnectionProgressMessage env state message) Post := by
  unfold handleConnectionProgressMessage
  split
  · exact .ok (kept _)
  next position modifies =>
    have advances : Settles (Permitted state message)
        (state.overallConnectionStatus.advance env.toEnvironment position message.event) fun status =>
        state.overallConnectionStatus.advance env.toEnvironment position message.event = .ok status :=
      ⟨fun _ advanced => advanced, fun permitted =>
        advance_ok fun progress found => permitted position progress modifies found⟩
    refine advances.bind fun status advanced => ?_
    split
    next successful =>
      rw [successful] at advanced
      rw [OverallConnectionStatus.getConnectionProgressToModify, successful] at modifies
      -- the peer that the connection was found by is still the one it leads to
      obtain ⟨inRange, sameAddr, -⟩ := List.findIdx?_eq_some_iff_getElem.mp modifies
      obtain ⟨next, listed, samePeer⟩ := peer_of_tcpConnection (List.getElem?_eq_getElem inRange) advanced
      -- so the peer is found once more
      have asks : sendAskAboutDebutGossipMessage env status message.peerAddr = .ok () := by
        unfold sendAskAboutDebutGossipMessage
        split
        · rfl
        next missing =>
          have unlisted := List.findIdx?_eq_none_iff.mp missing next listed
          rw [samePeer, sameAddr] at unlisted
          cases unlisted
      rw [asks]
      exact .ok (kept _)
    · exact .ok (kept _)
    · exact .ok (kept _)
    · exact .ok (kept _)

/-- A missing answer is permitted at every stage. -/
lemma handleAskAboutDebutGossipMessage_returns (prev) :
    Returns (handleAskAboutDebutGossipMessage env state prev) Post := by
  unfold handleAskAboutDebutGossipMessage
  dsimp only
  split
  · exact .ok (kept _)
  · split
    next position _ _ =>
      obtain ⟨status, advanced⟩ : ∃ status, state.overallConnectionStatus.advance env.toEnvironment position
          .noGossipResponseReceived = .ok status := advance_ok fun _ _ => trivial
      rw [advanced]
      exact .ok (kept status)
    · exact .ok (kept _)

end

lemma handleGossipFailure_same (handled : handleGossipFailure state failureSource = .ok state') :
    Same state state' := by
  unfold handleGossipFailure at handled
  split at handled
  · cases handled
  · cases handled
    exact ⟨rfl, rfl⟩

def minHopsAfter (minHops : Hops) : NeighborhoodMessage → Hops
  | .start minHopsInDatabase => minHopsInDatabase
  | _ => minHops

section

variable (handled : handle env state delivery = .ok state')
include handled

/-- **Messages**: the database is changed at once, and what comes after that is only told.  The settings are
left alone, except for the minimum hops that the actor starts with. -/
lemma handle_moves :
    ∃ db, Change env delivery.message state.neighborhoodDatabase db ∧ Tells env ⟨db, state.sent⟩
      { state.settings with minHops := minHopsAfter state.minHops delivery.message } state' := by
  obtain ⟨orders, now, message⟩ := delivery
  cases message with
  | start minHopsInDatabase => exact ⟨_, .nothing, handleStartMessage_tells handled⟩
  | newPublicIp newIp =>
    obtain ⟨mid, renewed, handled⟩ := ok_of_bind handled
    obtain ⟨db, located, handled⟩ := ok_of_bind handled
    cases handled
    exact ⟨db, .relocated rfl renewed located, .refl, rfl⟩
  | routeQuery request =>
    obtain ⟨⟨responseOpt, routing⟩, answered, handled⟩ := ok_of_bind handled
    obtain ⟨nextReturnRouteId, rfl⟩ := handleRouteQueryMessage_counts answered
    cases handled
    exact ⟨_, .nothing, .refl, rfl⟩
  | gossip incomingGossip gossipSource => exact handleGossip_eq_ok handled
  | gossipFailure failureSource failure => exact ⟨_, .nothing, (handleGossipFailure_same handled).tells⟩
  | removeNeighbor key => exact handleRemoveNeighborMessage_eq_ok handled
  | connectionProgress progress =>
    have same : Same state state' :=
      (handleConnectionProgressMessage_settles fun _ => ⟨rfl, rfl⟩).meets _ handled
    exact ⟨_, .nothing, same.tells⟩
  | askAboutDebutGossip progress =>
    have same : Same state state' :=
      (handleAskAboutDebutGossipMessage_returns (fun _ => ⟨rfl, rfl⟩) progress).post handled
    exact ⟨_, .nothing, same.tells⟩
  | addUnreachableHost key hostname =>
    unfold handle handleAddUnreachableHost at handled
    dsimp only at handled
    split at handled
    · cases handled
    next record found =>
      cases handled
      exact ⟨_, .marked found, .refl, rfl⟩
  | streamShutdown peerAddr streamType => exact handleStreamShutdownMsg_eq_ok handled

lemma handle_eq_ok :
    ∃ db, Change env delivery.message state.neighborhoodDatabase db ∧
      ReflTransGen (Tell env) ⟨db, state.sent⟩ state'.correspondence := by
  obtain ⟨db, change, tells, -⟩ := handle_moves handled
  exact ⟨db, change, tells⟩

lemma handle_settings :
    state'.settings = { state.settings with minHops := minHopsAfter state.minHops delivery.message } := by
  obtain ⟨db, -, -, settings⟩ := handle_moves handled
  exact settings

end

/-! ### What every message keeps -/

section

variable {db : NeighborhoodDatabase} {root : NodeRecord}

/-- The record of the Node before and after it has got a new place. -/
lemma handleNewIpLocation_eq_ok (located : handleNewIpLocation env db newIp = .ok db') :
    ∃ root root', db.HasRoot root ∧ db' = db.store db.thisNode root' ∧ root'.inner = { root.inner with
        countryCodeOpt := (getNodeLocation env.toEnvironment (some newIp)).map NodeLocation.countryCode } ∧
      root'.metadata.nodeAddrOpt = root.metadata.nodeAddrOpt ∧
      root'.signedGossip = root.signedGossip ∧ root'.signature = root.signature := by
  obtain ⟨root, rooted, located⟩ := ok_of_bind located
  cases located
  exact ⟨root, _, root_eq_ok.mp rooted, rfl, rfl, rfl, rfl, rfl⟩

/-- The Node's own record can be stored again with the same neighbors and address. -/
lemma grounded_restore (grounded : Grounded db) (rooted : db.HasRoot root)
    (sameKey : root'.publicKey = root.publicKey) (sameNeighbors : root'.inner.neighbors = root.inner.neighbors)
    (sameAddr : root'.metadata.nodeAddrOpt = root.metadata.nodeAddrOpt) :
    Grounded (db.store db.thisNode root') := by
  -- neighbors and address are all that the invariant knows of the record
  have sameIp : root'.ipOpt = root.ipOpt := by
    rw [NodeRecord.ipOpt, sameAddr]
    rfl
  refine grounded_store_root grounded.toWellIndexed rooted sameKey sameIp ?_ ?_
  · rw [sameNeighbors]
    exact grounded.foreign root rooted
  · rw [sameNeighbors]
    exact grounded.addressed root rooted

lemma grounded_resigned (grounded : Grounded db) (rooted : db.HasRoot root)
    (signed : root.regenerateSignedGossip env.toEnvironment = .ok root') :
    Grounded (db.store db.thisNode root') := by
  obtain ⟨sameInner, sameMetadata, -, -⟩ := NodeRecord.regenerateSignedGossip_eq_ok signed
  apply grounded_restore grounded rooted
  · rw [NodeRecord.publicKey, sameInner]
    rfl
  · rw [sameInner]
  · rw [sameMetadata]

lemma Change.grounded (change : Change env message db db') (grounded : Grounded db) : Grounded db' := by
  cases change with
  | nothing => exact grounded
  | heard authentic outcome => exact grounded.changes outcome.changes
  | unaddressed removes removed => exact grounded.removeNeighbor removed
  | unlinked removes removed rooted signed =>
    exact grounded_resigned (grounded.removeNeighbor removed) rooted signed
  | @marked key record unreachableHosts found =>
    by_cases own : key = db.thisNode
    · subst own
      exact grounded_restore grounded found rfl rfl rfl
    · refine grounded.store_foreign own (grounded.keyed key record found) ?_
      intro ip claims
      rw [found] at claims
      exact claims
  | relocated told renewed located =>
    obtain ⟨root, root', rooted, rfl, inner, nodeAddr, -, -⟩ := handleNewIpLocation_eq_ok located
    apply grounded_restore (grounded.newPublicIp renewed) rooted
    · rw [NodeRecord.publicKey, inner]
      rfl
    · rw [inner]
    · exact nodeAddr

lemma thisNode_removeNeighbor (removed : db.removeNeighbor env.toEnvironment key = .ok (.ok (changed, db'))) :
    db'.thisNode = db.thisNode := by
  obtain ⟨record, root, -, -, ⟨-, -, rfl⟩ | ⟨root', -, -, -, rfl⟩⟩ := removeNeighbor_eq_ok removed
  · simp [withoutAddress]
  · simp [withoutAddress]

lemma Change.thisNode_eq (change : Change env message db db') : db'.thisNode = db.thisNode := by
  cases change with
  | nothing => rfl
  | heard authentic outcome => exact thisNode_eq_of_changes outcome.changes
  | unaddressed removes removed => exact thisNode_removeNeighbor removed
  | unlinked removes removed rooted signed =>
    rw [thisNode_store]
    exact thisNode_removeNeighbor removed
  | marked found => rfl
  | relocated told renewed located =>
    obtain ⟨root, root', -, rfl, -⟩ := handleNewIpLocation_eq_ok located
    obtain ⟨record, oldNodeAddr, -, -, rfl⟩ := newPublicIp_eq_ok renewed
    simp

lemma Tell.thisNode_eq (tell : Tell env before after) :
    after.database.thisNode = before.database.thisNode := by
  cases tell with
  | signed rooted signed => rfl
  | culled checked => exact thisNode_checkForDeadNodes checked
  | quoted quotes => rfl
  | answered responds => rfl

lemma thisNode_eq_of_tells (tells : ReflTransGen (Tell env) before after) :
    after.database.thisNode = before.database.thisNode := by
  induction tells with
  | refl => rfl
  | tail _ tell ih => exact tell.thisNode_eq.trans ih

end

end PulseMesh.NeighborhoodActor
