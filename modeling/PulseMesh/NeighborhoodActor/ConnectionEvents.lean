import PulseMesh.NeighborhoodActor.ExitCountries
import PulseMesh.NeighborhoodActor.NoPanics

/-!
# Events of connections in any order

What becomes of the connections to the configured neighbors is told by others: the pool of streams tells of
TCP connections, the gossip handlers of Passes, introductions and standard gossip, and a timer reminds of
debuts without an answer.  Nobody keeps these events in order.  The connections lead to different peers
whatever happens, but an event that comes out of turn stops the actor.
-/

namespace PulseMesh.NeighborhoodActor

open Machine SubLib Gossip Runs OverallConnectionStatus List

inductive ConnectionEvent where
  | progress (message : ConnectionProgressMessage)
  | askAboutDebutGossip (prevConnectionProgress : ConnectionProgress)

def ConnectionEvent.toMessage : ConnectionEvent → NeighborhoodMessage
  | .progress message => .connectionProgress message
  | .askAboutDebutGossip prevConnectionProgress => .askAboutDebutGossip prevConnectionProgress

variable {env : NodeEnvironment} {state next : ActorState} {status : OverallConnectionStatus}
  {descriptors : List NodeDescriptor} {position : Nat}

/-- The orders of sets and the time make no difference to these events. -/
def handleConnectionEvent (env : NodeEnvironment) (state : ActorState) :
    ConnectionEvent → Except Panic ActorState
  | .progress message => handleConnectionProgressMessage env state message
  | .askAboutDebutGossip prevConnectionProgress =>
    handleAskAboutDebutGossipMessage env state prevConnectionProgress

lemma handle_toMessage (orders now) :
    handle env state ⟨orders, now, event.toMessage⟩ = handleConnectionEvent env state event := by
  cases event <;> rfl

/-- The connection that the event is about, if there is one, permits it. -/
def InTurn (state : ActorState) : ConnectionEvent → Prop
  | .progress message => ∀ position progress,
    state.overallConnectionStatus.getConnectionProgressToModify message = some position →
      state.overallConnectionStatus.progress[position]? = some progress →
        progress.connectionStage.Permits message.event
  | .askAboutDebutGossip _ => True

lemma handleConnectionEvent_ok_iff :
    (∃ next, handleConnectionEvent env state event = .ok next) ↔ InTurn state event := by
  cases event with
  | progress message =>
    constructor
    · rintro ⟨next, handled⟩
      exact permitted_of_handled handled
    · intro inTurn
      obtain ⟨next, handled, -⟩ : Safe (handleConnectionProgressMessage env state message) :=
        (handleConnectionProgressMessage_settles fun _ => trivial).total inTurn
      exact ⟨next, handled⟩
  | askAboutDebutGossip prev =>
    obtain ⟨next, handled, -⟩ : Safe (handleAskAboutDebutGossipMessage env state prev) :=
      handleAskAboutDebutGossipMessage_returns (fun _ => trivial) prev
    exact iff_of_true ⟨next, handled⟩ trivial

/-! ### Different peers -/

/-- An event moves one connection, if any, and no connection to a peer of another one. -/
lemma nodup_of_advance {event} (distinct : status.getPeerAddrs.Nodup)
    (new : ∀ target, event = .passGossipReceived target → target ∉ status.getPeerAddrs)
    (advanced : status.advance env.toEnvironment position event = .ok status') :
    status'.getPeerAddrs.Nodup := by
  unfold advance at advanced
  split at advanced
  · cases advanced
    exact distinct
  next progress found =>
    obtain ⟨moved, updated, advanced⟩ := ok_of_bind advanced
    cases advanced
    have peer := currentPeerAddr_updateConnectionStage updated
    change ((status.progress.set position moved).map ConnectionProgress.currentPeerAddr).Nodup
    rw [map_set]
    change (status.getPeerAddrs.set position moved.currentPeerAddr).Nodup
    by_cases passes : ∃ target, event = .passGossipReceived target
    · obtain ⟨target, rfl⟩ := passes
      rw [peer]
      exact distinct.set (new target rfl)
    · have same : moved.currentPeerAddr = progress.currentPeerAddr := by
        rw [peer]
        cases event with
        | passGossipReceived target => exact absurd ⟨target, rfl⟩ passes
        | _ => rfl
      have inPlace : status.getPeerAddrs[position]? = some moved.currentPeerAddr := by
        rw [getPeerAddrs, getElem?_map, found, same]
        rfl
      obtain ⟨inRange, isElem⟩ := List.getElem?_eq_some_iff.mp inPlace
      rw [← isElem, set_getElem_self]
      exact distinct

/-- A Pass to the peer of any connection is not followed. -/
lemma new_of_modified (modifies : status.getConnectionProgressToModify message = some position)
    (passes : message.event = .passGossipReceived target) : target ∉ status.getPeerAddrs := by
  rw [getConnectionProgressToModify, passes] at modifies
  dsimp only at modifies
  split at modifies
  · cases modifies
  next new => exact new

lemma distinct_of_handled (distinct : state.overallConnectionStatus.getPeerAddrs.Nodup)
    (handled : handleConnectionEvent env state event = .ok next) :
    next.overallConnectionStatus.getPeerAddrs.Nodup := by
  cases event with
  | progress message =>
    simp only [handleConnectionEvent, handleConnectionProgressMessage] at handled
    split at handled
    · cases handled
      exact distinct
    next position modifies =>
      obtain ⟨status, advanced, handled⟩ := ok_of_bind handled
      have moved := nodup_of_advance distinct (fun target => new_of_modified modifies) advanced
      -- the stage of the whole status has nothing to do with the peers
      split at handled
      · obtain ⟨_, -, handled⟩ := ok_of_bind handled
        cases handled
        exact moved
      all_goals
        cases handled
        exact moved
  | askAboutDebutGossip prev =>
    simp only [handleConnectionEvent, handleAskAboutDebutGossipMessage] at handled
    split at handled
    · cases handled
      exact distinct
    · split at handled
      · obtain ⟨status, advanced, handled⟩ := ok_of_bind handled
        cases handled
        refine nodup_of_advance distinct (fun target passes => ?_) advanced
        cases passes
      · cases handled
        exact distinct

/-- At first, every connection leads to the address of its descriptor. -/
lemma peerAddrs_of_mapM {progress} (created : descriptors.mapM ConnectionProgress.new = .ok progress) :
    (descriptors.map fun descriptor => descriptor.nodeAddrOpt.map NodeAddr.ipAddr) =
      (progress.map ConnectionProgress.currentPeerAddr).map some := by
  induction descriptors generalizing progress with
  | nil =>
    cases created
    rfl
  | cons descriptor descriptors ih =>
    rw [mapM_cons] at created
    obtain ⟨first, isNew, created⟩ := ok_of_bind created
    obtain ⟨rest, areNew, created⟩ := ok_of_bind created
    cases created
    unfold ConnectionProgress.new at isNew
    split at isNew
    · cases isNew
    next nodeAddr hasAddr =>
      cases isNew
      simp only [map_cons, hasAddr, ih areNew]
      rfl

lemma distinct_new
    (distinct : (descriptors.map fun descriptor => descriptor.nodeAddrOpt.map NodeAddr.ipAddr).Nodup)
    (created : new descriptors = .ok status) : status.getPeerAddrs.Nodup := by
  obtain ⟨progress, mapped, created⟩ := ok_of_bind created
  cases created
  rw [peerAddrs_of_mapM mapped] at distinct
  exact distinct.of_map some

/-- **Events in any order**: they stop the actor if and only if one of them comes out of turn, and never
lead two connections to the same peer. -/
theorem connection_events_handled_iff (env : NodeEnvironment) (descriptors : List NodeDescriptor)
    (distinct : (descriptors.map fun descriptor => descriptor.nodeAddrOpt.map NodeAddr.ipAddr).Nodup)
    (state : ActorState) (created : OverallConnectionStatus.new descriptors = .ok state.overallConnectionStatus)
    (events : List ConnectionEvent) :
    ((∃ reached, run (handleConnectionEvent env) state events = .ok reached) ↔
      Along (handleConnectionEvent env) InTurn state events) ∧
    ∀ before after reached, events = before ++ after →
      run (handleConnectionEvent env) state before = .ok reached →
      reached.overallConnectionStatus.getPeerAddrs.Nodup := by
  have start := distinct_new distinct created
  have kept : ∀ state event next, state.overallConnectionStatus.getPeerAddrs.Nodup →
      handleConnectionEvent env state event = .ok next → next.overallConnectionStatus.getPeerAddrs.Nodup :=
    fun state event next distinct handled => distinct_of_handled distinct handled
  constructor
  · exact run_returns_iff_of_invariant (fun state event _ _ => handleConnectionEvent_ok_iff)
      (fun state event next distinct _ => kept state event next distinct) (along_trivial _ _) start
  · intro before after reached _ ran
    exact invariant_of_steps kept start ran

/-! ### A connection that comes twice -/

def connectingState : ActorState :=
  { researchState ⟨sampleKey 1, ∅, ∅⟩ .threeHops with
    overallConnectionStatus := ⟨.notConnected, [⟨sampleDescriptor, (sampleNodeAddr 2).ipAddr, .stageZero⟩]⟩ }

def connected : ConnectionEvent := .progress ⟨(sampleNodeAddr 2).ipAddr, .tcpConnectionSuccessful⟩

def passed : ConnectionEvent := .progress ⟨(sampleNodeAddr 2).ipAddr, .passGossipReceived (.v4 9)⟩

theorem passed_connection_is_handled : ∃ reached,
    run (handleConnectionEvent debutEnvironment) connectingState [connected, passed] = .ok reached ∧
    reached.overallConnectionStatus.getPeerAddrs.Nodup := by
  refine ⟨_, rfl, ?_⟩
  exact (connection_events_handled_iff debutEnvironment [sampleDescriptor] (by decide) connectingState rfl
    [connected, passed]).2 [connected, passed] [] _ rfl rfl

/-- The peer has connected to the Node while the Node was connecting to it, say. -/
theorem second_connection_stops_actor : ∃ state panic,
    OverallConnectionStatus.new [sampleDescriptor] = .ok connectingState.overallConnectionStatus ∧
    handleConnectionEvent debutEnvironment connectingState connected = .ok state ∧
    handleConnectionEvent debutEnvironment state connected = .error panic := by
  exact ⟨_, _, rfl, rfl, rfl⟩

end PulseMesh.NeighborhoodActor
