import PulseMesh.ProxyServerActor.Handlers

/-!
# Stream keys

A stream key is a hash of the client's address.  As long as no two addresses have the same hash, every
key belongs to one address, and the two directions of the key map agree.

Everything else that is kept for a stream is kept under its key, in maps of their own.  When a key is
purged it is removed from all of them but the requests that may be tried again.
-/

namespace PulseMesh.ProxyServerActor

open Machine Runs SubLib Accountant Streams BidiHashMap Function
open PulseMesh.ProxyServer

variable {config : ProxyServerConfig} {proxy next : ProxyServer} {world after : World}
  {event : Event} {β : Type}

/-! ### Keys and addresses -/

/-- Every key is the one of its address. -/
structure Keyed (config : ProxyServerConfig) (keys : BidiHashMap StreamKey SocketAddr) : Prop where
  consistent : keys.Consistent
  streamKeyOf : ∀ key addr, keys.aToB key = some addr → key = config.streamKeyOf addr

def withKey (config : ProxyServerConfig) (keys : BidiHashMap StreamKey SocketAddr) (addr : SocketAddr) :
    BidiHashMap StreamKey SocketAddr :=
  match keys.bToA addr with
  | some _ => keys
  | none => keys.insert (config.streamKeyOf addr) addr

lemma keysAndAddrs_findOrGenerateStreamKey (addr) :
    (findOrGenerateStreamKey config proxy addr).2.keysAndAddrs = withKey config proxy.keysAndAddrs addr := by
  unfold findOrGenerateStreamKey withKey
  split
  next streamKey known => simp only [known]
  next absent => simp only [absent]

section

variable {keys : BidiHashMap StreamKey SocketAddr}

lemma Keyed.bToA_eq (keyed : Keyed config keys) (known : keys.bToA addr = some key) :
    key = config.streamKeyOf addr :=
  keyed.streamKeyOf key addr ((keyed.consistent key addr).mpr known)

lemma Keyed.fst_findOrGenerateStreamKey (keyed : Keyed config proxy.keysAndAddrs) (addr) :
    (findOrGenerateStreamKey config proxy addr).1 = config.streamKeyOf addr := by
  unfold findOrGenerateStreamKey
  split
  next streamKey known => exact keyed.bToA_eq known
  next => rfl

section

variable (keyed : Keyed config keys)
include keyed

/-- A new key is not in use, since its address is not. -/
lemma Keyed.aToB_eq_none (injective : Injective config.streamKeyOf)
    (absent : keys.bToA addr = none) : keys.aToB (config.streamKeyOf addr) = none := by
  cases used : keys.aToB (config.streamKeyOf addr) with
  | none => rfl
  | some other =>
    have same : addr = other := injective (keyed.streamKeyOf _ _ used)
    have known := (keyed.consistent _ _).mp used
    rw [← same, absent] at known
    cases known

lemma Keyed.withKey (injective : Injective config.streamKeyOf) (addr) :
    Keyed config (withKey config keys addr) := by
  unfold ProxyServerActor.withKey
  split
  · exact keyed
  next absent =>
    constructor
    · exact consistent_insert keyed.consistent (keyed.aToB_eq_none injective absent) absent
    · intro key other known
      rw [aToB_insert] at known
      split at known
      next same =>
        cases known
        exact same
      next => exact keyed.streamKeyOf key other known

lemma Keyed.removeA (key) : Keyed config (keys.removeA key) := by
  constructor
  · exact consistent_removeA keyed.consistent key
  · intro other addr known
    rw [aToB_removeA] at known
    split at known
    · cases known
    · exact keyed.streamKeyOf other addr known

lemma Keyed.aToB_withKey (addr) :
    (ProxyServerActor.withKey config keys addr).aToB (config.streamKeyOf addr) = some addr := by
  unfold ProxyServerActor.withKey
  split
  next key known =>
    rw [← keyed.bToA_eq known]
    exact (keyed.consistent key addr).mpr known
  next => simp [aToB_insert]

/-- A key is found or added, but none is lost. -/
lemma Keyed.isSome_aToB_withKey (addr) (known : (keys.aToB key).isSome) :
    ((ProxyServerActor.withKey config keys addr).aToB key).isSome := by
  by_cases same : key = config.streamKeyOf addr
  · rw [same, keyed.aToB_withKey]
    rfl
  · unfold ProxyServerActor.withKey
    split
    · exact known
    · rw [aToB_insert, if_neg same]
      exact known

end

end

/-- What a step can do to the keys. -/
inductive KeyChange (config : ProxyServerConfig) (keys : BidiHashMap StreamKey SocketAddr) :
    BidiHashMap StreamKey SocketAddr → Prop
  | same : KeyChange config keys keys
  | found (addr : SocketAddr) : KeyChange config keys (withKey config keys addr)
  | removed (key : StreamKey) : KeyChange config keys (keys.removeA key)

lemma ClientDataEnds.keyChange (ends : ClientDataEnds config proxy msg retireStreamKey next effects) :
    KeyChange config proxy.keysAndAddrs next.keysAndAddrs := by
  cases ends with
  | refused => exact .same
  | rejected =>
    rw [keysAndAddrs_findOrGenerateStreamKey]
    exact .found _
  | transmitted | requested =>
    rw [(ensureRetry_same ..).1, keysAndAddrs_findOrGenerateStreamKey]
    exact .found _

lemma Shuts.keyChange {msg} (shuts : Shuts config world msg after) :
    KeyChange config world.proxy.keysAndAddrs after.proxy.keysAndAddrs := by
  cases shuts with
  | unknown => exact .same
  | scheduled known ends => exact ends.keyChange

lemma Steps.keyChange (steps : Steps config world event after) :
    KeyChange config world.proxy.keysAndAddrs after.proxy.keysAndAddrs := by
  cases steps with
  | connected =>
    simp only [World.proceed, keysAndAddrs_findOrGenerateStreamKey]
    exact .found _
  | served ends => exact ends.keyChange
  | responded relays =>
    cases relays with
    | dropped => exact .same
    | relayed _ _ _ purged =>
      obtain rfl | rfl := purged
      · exact .same
      · exact .removed _
  | unresolved _ retries =>
    cases retries with
    | unknown | again => exact .same
    | failed => exact .removed _
  | shut shuts | retired _ shuts => exact shuts.keyChange
  | purged => exact .removed _
  | unchanged | notConnected | answered | returnRoute | routed | unrouted | expired | clock => exact .same

lemma keyed_step (injective : Injective config.streamKeyOf) (world event after)
    (keyed : Keyed config world.proxy.keysAndAddrs) (stepped : step config world event = .ok after) :
    Keyed config after.proxy.keysAndAddrs := by
  have change := (step_steps stepped).keyChange
  generalize after.proxy.keysAndAddrs = keys at change ⊢
  cases change with
  | same => exact keyed
  | found addr => exact keyed.withKey injective addr
  | removed key => exact keyed.removeA key

lemma keyed_initial : Keyed config World.initial.proxy.keysAndAddrs :=
  ⟨consistent_new, by simp [World.initial, ProxyServer.new, new]⟩

/-! ### The other maps -/

/-- Something is kept only under keys that belong to a client. -/
structure KnownKeys (proxy : ProxyServer) : Prop where
  tunneledHosts : ∀ key, (proxy.tunneledHosts key).isSome → (proxy.keysAndAddrs.aToB key).isSome
  streamKeyRoutes : ∀ key, (proxy.streamKeyRoutes key).isSome → (proxy.keysAndAddrs.aToB key).isSome
  streamKeyTtl : ∀ key, (proxy.streamKeyTtl key).isSome → (proxy.keysAndAddrs.aToB key).isSome
  dnsFailureRetries : ∀ key, (proxy.dnsFailureRetries key).isSome → (proxy.keysAndAddrs.aToB key).isSome

lemma isSome_update {α : Type} [DecidableEq α] {map : α → Option β} {key other value}
    (present : (update map key value other).isSome) : other = key ∨ (map other).isSome := by
  by_cases same : other = key
  · exact .inl same
  · rw [update_of_ne same] at present
    exact .inr present

variable {keys : BidiHashMap StreamKey SocketAddr} {index : Nat}

/-- What is written under a known key. -/
lemma known_update {map : StreamKey → Option β} {key value} (known : (keys.aToB key).isSome)
    (within : ∀ other, (map other).isSome → (keys.aToB other).isSome) (other)
    (present : (update map key value other).isSome) : (keys.aToB other).isSome := by
  obtain rfl | there := isSome_update present
  · exact known
  · exact within other there

/-- What is left in a map when a key is removed from it and from the keys. -/
lemma known_purged {map : StreamKey → Option β}
    (within : ∀ other, (map other).isSome → (keys.aToB other).isSome) (other)
    (present : (update map key none other).isSome) : ((keys.removeA key).aToB other).isSome := by
  rw [aToB_removeA]
  by_cases same : other = key
  · simp [same] at present
  · rw [if_neg same]
    rw [update_of_ne same] at present
    exact within other present

section

lemma KnownKeys.found (known : KnownKeys proxy) (keyed : Keyed config proxy.keysAndAddrs) (addr) :
    KnownKeys (findOrGenerateStreamKey config proxy addr).2 := by
  constructor <;> intro key present <;> rw [keysAndAddrs_findOrGenerateStreamKey] <;>
    apply keyed.isSome_aToB_withKey <;> simp only [findOrGenerateStreamKey_same] at present
  · exact known.tunneledHosts key present
  · exact known.streamKeyRoutes key present
  · exact known.streamKeyTtl key present
  · exact known.dnsFailureRetries key present

lemma isSome_aToB_findOrGenerateStreamKey (keyed : Keyed config proxy.keysAndAddrs) (addr) :
    ((findOrGenerateStreamKey config proxy addr).2.keysAndAddrs.aToB
      (findOrGenerateStreamKey config proxy addr).1).isSome := by
  rw [keysAndAddrs_findOrGenerateStreamKey, keyed.fst_findOrGenerateStreamKey, keyed.aToB_withKey]
  rfl

section

variable (known : KnownKeys proxy)
include known

lemma KnownKeys.ensureRetry (payload) (here : (proxy.keysAndAddrs.aToB streamKey).isSome) :
    KnownKeys (ProxyServerActor.ensureRetry config proxy streamKey payload) := by
  constructor <;> intro key present <;>
    simp only [ensureRetry_same, isSome_dnsFailureRetries_ensureRetry] at present ⊢
  · exact known.tunneledHosts key present
  · exact known.streamKeyRoutes key present
  · exact known.streamKeyTtl key present
  · obtain rfl | there := present
    · exact here
    · exact known.dnsFailureRetries key there

lemma KnownKeys.removeRetry (streamKey) : KnownKeys (removeDnsFailureRetry proxy streamKey) := by
  refine ⟨known.tunneledHosts, known.streamKeyRoutes, known.streamKeyTtl, fun key present => ?_⟩
  by_cases same : key = streamKey
  · simp [removeDnsFailureRetry, same] at present
  · simp only [removeDnsFailureRetry, update_of_ne same] at present
    exact known.dnsFailureRetries key present

/-- A purge leaves a request that may be tried again, and then without its key. -/
lemma KnownKeys.purge_iff (streamKey) :
    KnownKeys (purgeStreamKey proxy streamKey) ↔ proxy.dnsFailureRetries streamKey = none := by
  constructor
  · intro purged
    cases present : proxy.dnsFailureRetries streamKey with
    | none => rfl
    | some retry =>
      have left := purged.dnsFailureRetries streamKey (by simp [purgeStreamKey, present])
      simp [purgeStreamKey, aToB_removeA] at left
  · intro absent
    refine ⟨known_purged known.tunneledHosts, known_purged known.streamKeyRoutes,
      known_purged known.streamKeyTtl, fun key present => ?_⟩
    have other : key ≠ streamKey := by
      rintro rfl
      simp [purgeStreamKey, absent] at present
    simp only [purgeStreamKey, aToB_removeA, if_neg other]
    exact known.dnsFailureRetries key present

lemma KnownKeys.purgeAnswered (streamKey) :
    KnownKeys (purgeStreamKey (removeDnsFailureRetry proxy streamKey) streamKey) :=
  ((known.removeRetry streamKey).purge_iff streamKey).mpr (by simp [removeDnsFailureRetry])

lemma KnownKeys.schedule (now) (here : (proxy.keysAndAddrs.aToB streamKey).isSome) :
    KnownKeys (scheduleStreamKeyPurge proxy now streamKey) :=
  ⟨known.tunneledHosts, known.streamKeyRoutes, known_update here known.streamKeyTtl, known.dnsFailureRetries⟩

lemma KnownKeys.ends (keyed : Keyed config proxy.keysAndAddrs)
    (ends : ClientDataEnds config proxy msg retireStreamKey next effects) : KnownKeys next := by
  have here := isSome_aToB_findOrGenerateStreamKey keyed msg.clientAddr
  cases ends with
  | refused => exact known
  | rejected => exact known.found keyed msg.clientAddr
  | transmitted own | requested own =>
    rw [← own] at here
    exact (known.found keyed msg.clientAddr).ensureRetry _ here

end

lemma KnownKeys.shuts {msg} (known : KnownKeys world.proxy)
    (keyed : Keyed config world.proxy.keysAndAddrs) (shuts : Shuts config world msg after) :
    KnownKeys after.proxy := by
  cases shuts with
  | unknown => exact known
  | @scheduled streamKey _ _ _ client ends =>
    have here : (world.proxy.keysAndAddrs.aToB streamKey).isSome := by
      rw [(keyed.consistent _ _).mpr client]
      rfl
    exact (known.schedule world.now here).ends keyed ends

end

/-- A delayed purge finds no request that may be tried again. -/
def PurgesNoRetry (world : World) : Event → Prop
  | .deliver index =>
    match world.sent[index]? with
    | some (.streamKeyPurge streamKey) => world.proxy.dnsFailureRetries streamKey = none
    | _ => True
  | _ => True

instance (proxy : ProxyServer) (pending : Option Effect) : Decidable (match pending with
    | some (.streamKeyPurge streamKey) => proxy.dnsFailureRetries streamKey = none
    | _ => True) := by
  split <;> infer_instance

instance (world : World) : (event : Event) → Decidable (PurgesNoRetry world event)
  | .deliver _ => by
    dsimp only [PurgesNoRetry]
    infer_instance
  | .clientData _ | .clientResponse _ | .dnsResolveFailure _ | .streamShutdown _ | .answer .. |
    .returnRouteExpires _ | .clock _ => .isTrue trivial

lemma purgesNoRetry_deliver :
    PurgesNoRetry world (.deliver index) ↔ ∀ streamKey,
      world.sent[index]? = some (.streamKeyPurge streamKey) →
        world.proxy.dnsFailureRetries streamKey = none := by
  simp only [PurgesNoRetry]
  split
  next streamKey pending => simp [pending]
  next harmless => exact iff_of_true trivial fun streamKey pending => (harmless streamKey pending).elim

lemma purgesNoRetry_of_pending (pending : world.sent[index]? = some effect)
    (other : ∀ streamKey, effect ≠ .streamKeyPurge streamKey) : PurgesNoRetry world (.deliver index) := by
  rw [purgesNoRetry_deliver]
  intro streamKey purge
  exact absurd (Option.some.inj (pending.symm.trans purge)) (other streamKey)

lemma knownKeys_step_iff (keyed : Keyed config world.proxy.keysAndAddrs) (known : KnownKeys world.proxy)
    (steps : Steps config world event after) : KnownKeys after.proxy ↔ PurgesNoRetry world event := by
  -- only a delayed purge can fail; everything else keeps the keys
  cases steps with
  | unchanged idle =>
    refine iff_of_true known ?_
    cases event with
    | deliver index =>
      rw [purgesNoRetry_deliver]
      intro streamKey purge
      cases idle _ purge
    | clientData | clientResponse | dnsResolveFailure | streamShutdown | answer | returnRouteExpires
    | clock => trivial
  | @connected msg host data =>
    refine iff_of_true ?_ trivial
    have found := known.found keyed msg.clientAddr
    have here := isSome_aToB_findOrGenerateStreamKey keyed msg.clientAddr
    have hosts := found.tunneledHosts
    simp only [findOrGenerateStreamKey_same] at hosts
    exact ⟨known_update here hosts, found.streamKeyRoutes, found.streamKeyTtl, found.dnsFailureRetries⟩
  | notConnected | expired => exact iff_of_true { known with } trivial
  | served ends => exact iff_of_true (known.ends keyed ends) trivial
  | responded relays =>
    refine iff_of_true ?_ trivial
    cases relays with
    | dropped => exact known.removeRetry _
    | relayed _ _ _ purged =>
      obtain rfl | rfl := purged
      · exact known.removeRetry _
      · exact known.purgeAnswered _
  | unresolved client retries =>
    refine iff_of_true ?_ trivial
    have here := Option.isSome_of_eq_some client
    cases retries with
    | unknown => exact known
    | again => exact ⟨known.1, known.2, known.3, known_update here known.4⟩
    | failed => exact known.purgeAnswered _
  | shut shuts => exact iff_of_true (known.shuts keyed shuts) trivial
  | answered | clock => exact iff_of_true known trivial
  | returnRoute pending => exact iff_of_true { known with } (purgesNoRetry_of_pending pending (by simp))
  | routed pending awaited =>
    refine iff_of_true ?_ (purgesNoRetry_of_pending pending (by simp))
    have here := known.dnsFailureRetries _ awaited
    exact ⟨known.1, known_update here known.2, known.3, known.4⟩
  | unrouted pending => exact iff_of_true known (purgesNoRetry_of_pending pending (by simp))
  | retired pending shuts =>
    exact iff_of_true (@KnownKeys.shuts config (world.withoutEffect _) _ _ known keyed shuts)
      (purgesNoRetry_of_pending pending (by simp))
  | purged pending =>
    refine (known.purge_iff _).trans ?_
    simp only [PurgesNoRetry, pending]

/-- A delayed purge goes through in any case. -/
lemma purgesNoRetry_of_step (met : ∀ after, step config world event = .ok after → PurgesNoRetry world event) :
    PurgesNoRetry world event := by
  cases event with
  | deliver index =>
    rw [purgesNoRetry_deliver]
    intro streamKey pending
    have goesThrough : step config world (.deliver index) =
        .ok ((world.withoutEffect index).proceed (purgeStreamKey world.proxy streamKey, [])) := by
      simp only [step, pending]
      rfl
    exact purgesNoRetry_deliver.mp (met _ goesThrough) streamKey pending
  | clientData | clientResponse | dnsResolveFailure | streamShutdown | answer | returnRouteExpires
  | clock => trivial

theorem known_keys_iff (injective : Function.Injective config.streamKeyOf) (events : List Event) :
    (∀ before after reached, events = before ++ after →
      run (step config) World.initial before = .ok reached → KnownKeys reached.proxy) ↔
      Along (step config) PurgesNoRetry World.initial events := by
  have initially : KnownKeys World.initial.proxy := by
    constructor <;> intro key present <;> cases present
  rw [always_iff_along (keyed_step injective)
    (fun _ _ _ keyed known stepped => knownKeys_step_iff keyed known (step_steps stepped))
    keyed_initial initially]
  constructor
  · exact along_mono fun _ _ => purgesNoRetry_of_step
  · exact along_mono fun _ _ clean _ _ => clean

/-- A client closes its stream. -/
def sampleShutdown : Event :=
  .streamShutdown ⟨sampleAddr 5000, .nonClandestine ⟨httpPort, ⟨1, u64_one⟩⟩, false⟩

/-- The request has left, but nothing has come back. -/
def closedStream : List Event := sampleExchange.take 4 ++ [sampleShutdown]

/-- A response came before the stream was closed, and now the purge is due. -/
def answeredStream : List Event := sampleExchange.take 5 ++ [sampleShutdown, .deliver 4]

theorem answered_stream_known :
    ∃ world, run (step (sampleConfig true)) World.initial answeredStream = .ok world ∧
      KnownKeys world.proxy := by
  obtain ⟨world, reached⟩ : ∃ world,
      run (step (sampleConfig true)) World.initial answeredStream = .ok world := by
    decide +kernel
  have clean : Along (step (sampleConfig true)) PurgesNoRetry World.initial answeredStream := by
    decide +kernel
  refine ⟨world, reached, ?_⟩
  exact (known_keys_iff (sampleConfig_injective true) answeredStream).mpr clean answeredStream [] world
    (List.append_nil _).symm reached

/-- Nothing came back from the server before the purge, and the request is still there to be tried again. -/
theorem purge_leaves_retry :
    ∃ world, run (step (sampleConfig true)) World.initial (closedStream ++ [.deliver 2]) = .ok world ∧
      ¬KnownKeys world.proxy := by
  let streamKey := (sampleConfig true).streamKeyOf (sampleAddr 5000)
  obtain ⟨world, reached, retries, unknown⟩ : ∃ world, run (step (sampleConfig true)) World.initial
      (closedStream ++ [.deliver 2]) = .ok world ∧ (world.proxy.dnsFailureRetries streamKey).isSome ∧
        ¬(world.proxy.keysAndAddrs.aToB streamKey).isSome := by
    decide +kernel
  exact ⟨world, reached, fun known => unknown (known.dnsFailureRetries streamKey retries)⟩

end PulseMesh.ProxyServerActor
