import PulseMesh.NeighborhoodActor.ExpectedServices
import PulseMesh.ProxyServerActor.Handlers

/-!
# Sound worlds

The handlers rely on each other and on the rest of the Node: that a route which the Neighborhood answers
is a round trip whose services can be reported, that what is stored of it can be reported later, and that
the clock does not go back.  A world in which this has been so is sound.
-/

namespace PulseMesh.ProxyServerActor

open Machine Runs SubLib Accountant Streams List NeighborhoodActor
open PulseMesh.ProxyServer

variable {config : ProxyServerConfig} {proxy next : ProxyServer} {world after : World}

/-! ### Round trips -/

variable (config : ProxyServerConfig)

/-- A request can be encrypted for the Node with the key. -/
def Encrypts (key : PublicKey) : Prop :=
  ∀ route payload, ∃ package, IncipientCoresPackage.new config.messageCodec config.mainCryptde route
    (.clientRequest (config.versioned payload)) key = .ok package

/-- The way over has one exit, at its end; in zero-hop mode the Node itself is the exit. -/
def OverServices (services : List ExpectedService) : Prop :=
  if config.isDecentralized then
    ∃ routing key wallet ratePack, services = routing ++ [.exit key wallet ratePack] ∧
      (∀ service ∈ routing, service.isExit = false) ∧ Encrypts config key
  else Encrypts config config.mainCryptde.publicKey

/-- The way back begins with the exit; in zero-hop mode nobody is paid. -/
def BackServices (services : List ExpectedService) : Prop :=
  if config.isDecentralized then
    ∃ key wallet ratePack rest, services = .exit key wallet ratePack :: rest
  else ∀ service ∈ services, service = .nothing

def RoundTrip (response : RouteQueryResponse) : Prop :=
  ∃ overServices backServices returnRouteId,
    response.expectedServices = .roundTrip overServices backServices returnRouteId ∧
    OverServices config overServices ∧ BackServices config backServices

variable {config}

/-! ### Lawful events -/

/-- The Neighborhood answers round trips.  The Hopper has opened the top hop of what it delivers.  The
dispatcher reports the end of local streams only.  The clock does not go back. -/
def Lawful (config : ProxyServerConfig) (world : World) : Event → Prop
  | .answer _ (.ok (some response)) => RoundTrip config response
  | .clientResponse msg =>
    (∃ hop rest, msg.remainingRoute.shift config.hopCodec config.mainCryptde config.random = (.ok hop, rest)) ∧
      msg.payload.sequencedPacket.sequenceNumber.val + 1 < 2 ^ 64
  | .dnsResolveFailure msg =>
    ∃ hop rest, msg.remainingRoute.shift config.hopCodec config.mainCryptde config.random = (.ok hop, rest)
  | .streamShutdown msg => msg.streamType ≠ .clandestine
  | .clock now => world.now.nanos ≤ now.nanos
  | _ => True

/-! ### What is stored and what is on its way -/

def SoundEffect (config : ProxyServerConfig) : Effect → Prop
  | .addReturnRoute msg => BackServices config msg.expectedServices
  | .addRouteResult msg => ∀ response, msg.result = .ok response → RoundTrip config response
  | .streamShutdown msg => msg.streamType ≠ .clandestine
  | _ => True

structure SoundProxy (config : ProxyServerConfig) (now : SystemTime) (proxy : ProxyServer) : Prop where
  routes : ∀ key response, proxy.streamKeyRoutes key = some response → RoundTrip config response
  returnRoutes : ∀ id msg, proxy.routeIdsToReturnRoutes id = some msg →
    BackServices config msg.expectedServices
  closed : ∀ key time, proxy.streamKeyTtl key = some time → time.nanos ≤ now.nanos

structure Sound (config : ProxyServerConfig) (world : World) : Prop where
  proxy : SoundProxy config world.now world.proxy
  sent : ∀ effect ∈ world.sent, SoundEffect config effect

lemma sound_initial : Sound config World.initial := by
  refine ⟨⟨?_, ?_, ?_⟩, ?_⟩ <;> simp [World.initial, ProxyServer.new]

/-- What holds of the entries of a map, and of the one that is written. -/
lemma forall_update {α β : Type} [DecidableEq α] {P : β → Prop} {map : α → Option β} {key value}
    (old : ∀ other entry, map other = some entry → P entry) (new : ∀ entry, value = some entry → P entry) :
    ∀ other entry, Function.update map key value other = some entry → P entry := by
  intro other entry present
  rw [Function.update_apply] at present
  split at present
  · exact new entry present
  · exact old other entry present

/-! ### Effects -/

lemma soundEffect_transmitData (occasion msg) :
    SoundEffect config (.transmitData occasion msg) := trivial

lemma soundEffect_failureMsg (clientAddr data) :
    SoundEffect config (failureMsg clientAddr data) := trivial

lemma soundEffect_reportEffects (report) :
    ∀ effect ∈ reportEffects report, SoundEffect config effect := by
  cases report with
  | none => simp [reportEffects]
  | some report => simp [reportEffects, SoundEffect]

lemma Forwards.sound (forwards : Forwards args effects) :
    ∀ effect ∈ effects, SoundEffect config effect := by
  cases forwards with
  | failed data =>
    intro effect listed
    rw [mem_singleton.mp listed]
    exact soundEffect_failureMsg _ data
  | sent report package =>
    simp only [forall_mem_append, forall_mem_singleton]
    refine ⟨⟨soundEffect_reportEffects report, trivial⟩, ?_⟩
    split
    · simp [SoundEffect, retireStreamMsg]
    · simp

lemma tryTransmitToHopper_sound (roundTrip : RoundTrip config response)
    (transmitted : tryTransmitToHopper config args response = .ok (result, effects)) :
    ∀ effect ∈ effects, SoundEffect config effect := by
  obtain ⟨overServices, backServices, returnRouteId, rest, services, rfl, forwards⟩ :=
    tryTransmitToHopper_cases transmitted
  obtain ⟨_, _, _, same, -, backOk⟩ := roundTrip
  rw [services] at same
  cases same
  exact forall_mem_cons.mpr ⟨backOk, forwards.sound⟩

lemma Resolves.sound
    (roundTrip : ∀ response, routeResultOpt = .ok (some response) → RoundTrip config response)
    (resolves : Resolves config args routeResultOpt effects) :
    ∀ effect ∈ effects, SoundEffect config effect := by
  cases resolves with
  | @answered response _ transmitted transmits =>
    have trip := roundTrip response rfl
    simp only [forall_mem_append, forall_mem_singleton]
    refine ⟨tryTransmitToHopper_sound trip transmits, ?_⟩
    intro routed result_eq
    cases transmitted with
    | error e => cases result_eq
    | ok =>
      cases result_eq
      exact trip
  | unanswered pages atMostOne error =>
    simp only [forall_mem_append, forall_mem_singleton, forall_mem_map]
    exact ⟨fun data _ => soundEffect_failureMsg _ data, fun response result_eq => by cases result_eq⟩

/-! ### Handlers -/

section

variable {now : SystemTime}

section

variable (sound : SoundProxy config now proxy)
include sound

lemma SoundProxy.later {later} (forward : now.nanos ≤ later.nanos) : SoundProxy config later proxy :=
  ⟨sound.routes, sound.returnRoutes, fun key time closed => (sound.closed key time closed).trans forward⟩

lemma SoundProxy.purge (streamKey) : SoundProxy config now (purgeStreamKey proxy streamKey) :=
  ⟨forall_update sound.routes (by simp), sound.returnRoutes, forall_update sound.closed (by simp)⟩

lemma SoundProxy.schedule (streamKey) :
    SoundProxy config now (scheduleStreamKeyPurge proxy now streamKey) :=
  ⟨sound.routes, sound.returnRoutes, forall_update sound.closed (by simp)⟩

/-- Neither finding a key nor an entry for a retry touches routes and times. -/
lemma SoundProxy.ends (ends : ClientDataEnds config proxy msg retireStreamKey next effects) :
    SoundProxy config now next ∧ ∀ effect ∈ effects, SoundEffect config effect := by
  have found : SoundProxy config now (findOrGenerateStreamKey config proxy msg.clientAddr).2 := by
    constructor
    · simpa using sound.routes
    · simpa using sound.returnRoutes
    · simpa using sound.closed
  have ensured (streamKey : StreamKey) (payload : ClientRequestPayload) : SoundProxy config now
      (ensureRetry config (findOrGenerateStreamKey config proxy msg.clientAddr).2 streamKey payload) := by
    constructor
    · simpa using sound.routes
    · simpa using sound.returnRoutes
    · simpa using sound.closed
  cases ends with
  | refused pages atMostOne =>
    exact ⟨sound, forall_mem_map.mpr fun data _ => soundEffect_failureMsg _ data⟩
  | rejected => exact ⟨found, by simp⟩
  | transmitted own routed transmits =>
    exact ⟨ensured _ _, tryTransmitToHopper_sound (sound.routes _ _ routed) transmits⟩
  | requested own => exact ⟨ensured _ _, by simp [SoundEffect]⟩

end

end

/-! ### Steps -/

section

variable (sound : Sound config world)
include sound

lemma Sound.proceed (kept : SoundProxy config world.now next)
    (new : ∀ effect ∈ effects, SoundEffect config effect) : Sound config (world.proceed (next, effects)) :=
  ⟨kept, forall_mem_append.mpr ⟨sound.sent, new⟩⟩

lemma Sound.withoutEffect (index : Nat) : Sound config (world.withoutEffect index) :=
  ⟨sound.proxy, fun effect listed => sound.sent effect (mem_of_mem_eraseIdx listed)⟩

lemma Sound.pending {index : Nat} (pending : world.sent[index]? = some effect) :
    SoundEffect config effect :=
  sound.sent effect (mem_of_getElem? pending)

lemma Sound.shuts (shuts : Shuts config world msg after) : Sound config after := by
  cases shuts with
  | unknown => exact sound
  | @scheduled streamKey _ _ _ known ends =>
    obtain ⟨kept, new⟩ := (sound.proxy.schedule streamKey).ends ends
    have marked : Sound config { world with ended := world.ended ++ [(msg.peerAddr, streamKey)] } :=
      ⟨sound.proxy, sound.sent⟩
    exact marked.proceed kept (forall_mem_cons.mpr ⟨trivial, new⟩)

end

lemma soundEffect_complaint (config) (complaint : Option (PublicKey × String)) :
    ∀ effect ∈ (complaint.map fun (key, host) => Effect.addUnreachableHost key host).toList,
      SoundEffect config effect := by
  cases complaint with
  | none => simp
  | some => simp [SoundEffect]

lemma sound_step (world event after) (sound : Sound config world) (lawful : Lawful config world event)
    (stepped : step config world event = .ok after) : Sound config after := by
  have same : SoundProxy config world.now world.proxy := sound.proxy
  cases step_steps stepped with
  | unchanged => exact sound
  | @connected msg host data =>
    refine sound.proceed ⟨?_, ?_, ?_⟩ (by simp [connectAnswer, SoundEffect])
    · simpa using same.routes
    · simpa using same.returnRoutes
    · simpa using same.closed
  | notConnected =>
    exact sound.proceed { same with } (by simp [connectAnswer, SoundEffect])
  | served ends =>
    obtain ⟨kept, new⟩ := same.ends ends
    exact sound.proceed kept new
  | @responded msg _ _ report relays =>
    have answered : SoundProxy config world.now (removeDnsFailureRetry world.proxy msg.payload.streamKey) :=
      { same with }
    cases relays with
    | dropped => exact sound.proceed answered (by simpa using soundEffect_reportEffects report)
    | relayed _ _ _ purged =>
      refine sound.proceed ?_ (forall_mem_append.mpr ⟨soundEffect_reportEffects report, ?_⟩)
      · obtain rfl | rfl := purged
        · exact answered
        · exact answered.purge _
      · simp [soundEffect_transmitData]
  | @unresolved msg _ _ _ complaint report known retries =>
    have earlier := forall_mem_append.mpr
      ⟨soundEffect_complaint config complaint, soundEffect_reportEffects report⟩
    have answered : SoundProxy config world.now (removeDnsFailureRetry world.proxy msg.payload.streamKey) :=
      { same with }
    cases retries with
    | unknown => exact sound.proceed same (forall_mem_append.mpr ⟨earlier, by simp⟩)
    | again =>
      exact sound.proceed { same with } (forall_mem_append.mpr ⟨earlier, by simp [SoundEffect]⟩)
    | failed data =>
      exact sound.proceed (answered.purge _)
        (forall_mem_append.mpr ⟨earlier, by simp [soundEffect_failureMsg]⟩)
  | shut shuts => exact sound.shuts shuts
  | answered asked resolves =>
    refine (sound.withoutEffect _).proceed same (resolves.sound ?_)
    rintro response rfl
    exact lawful
  | returnRoute pending =>
    have new := sound.pending pending
    refine (sound.withoutEffect _).proceed ⟨same.routes, forall_update same.returnRoutes ?_, same.closed⟩
      (by simp)
    rintro _ ⟨⟩
    exact new
  | routed pending awaited =>
    have new := sound.pending pending
    refine (sound.withoutEffect _).proceed ⟨forall_update same.routes ?_, same.returnRoutes, same.closed⟩
      (by simp)
    rintro _ ⟨⟩
    exact new _ rfl
  | unrouted => exact sound.withoutEffect _
  | retired pending shuts => exact (sound.withoutEffect _).shuts shuts
  | purged pending => exact (sound.withoutEffect _).proceed (same.purge _) (by simp)
  | expired =>
    exact sound.proceed ⟨same.routes, forall_update same.returnRoutes (by simp), same.closed⟩ (by simp)
  | clock => exact ⟨same.later lawful, sound.sent⟩

end PulseMesh.ProxyServerActor
