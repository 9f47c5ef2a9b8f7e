import PulseMesh.ProxyServerActor.StreamKeys
import PulseMesh.ProxyServerActor.Transmissions

/-!
# Connections from one address

A client that has closed its stream may open another from the same address.  Since the key is a hash of
the address, it is the same for both; and while the purge of the first is pending, it is in use.
-/

namespace PulseMesh.ProxyServerActor

open Machine Runs SubLib Accountant Streams
open PulseMesh.ProxyServer

variable {config : ProxyServerConfig} {next : ProxyServer} {world after : World} {addr : SocketAddr}

/-! ### Connections that have ended -/

def EndedKeys (config : ProxyServerConfig) (world : World) : Prop :=
  ∀ ended ∈ world.ended, ended.2 = config.streamKeyOf ended.1

lemma EndedKeys.shuts (keyed : Keyed config world.proxy.keysAndAddrs) (ended : EndedKeys config world)
    (shuts : Shuts config world msg after) : EndedKeys config after := by
  cases shuts with
  | unknown => exact ended
  | scheduled known ends =>
    intro connection listed
    obtain earlier | new := List.mem_append.mp listed
    · exact ended connection earlier
    · rw [List.mem_singleton.mp new]
      exact keyed.bToA_eq known

lemma endedKeys_step (keyed : Keyed config world.proxy.keysAndAddrs) (ended : EndedKeys config world)
    (steps : Steps config world event after) : EndedKeys config after := by
  cases steps with
  | shut shuts => exact ended.shuts keyed shuts
  | retired pending shuts => exact @EndedKeys.shuts config (world.withoutEffect _) _ _ keyed ended shuts
  | unchanged | connected | notConnected | served | responded | unresolved | answered | returnRoute | routed
  | unrouted | purged | expired | clock => exact ended

lemma ended_of_run (injective : Function.Injective config.streamKeyOf)
    (reached : run (step config) World.initial events = .ok world) :
    Keyed config world.proxy.keysAndAddrs ∧ EndedKeys config world := by
  have kept : ∀ world event after, Keyed config world.proxy.keysAndAddrs ∧ EndedKeys config world →
      step config world event = .ok after →
      Keyed config after.proxy.keysAndAddrs ∧ EndedKeys config after :=
    fun world event after inv stepped =>
      ⟨keyed_step injective world event after inv.1 stepped, endedKeys_step inv.1 inv.2 (step_steps stepped)⟩
  have initially : EndedKeys config World.initial := by
    intro ended listed
    cases listed
  exact invariant_of_steps kept ⟨keyed_initial, initially⟩ reached

/-! ### Isolation -/

/-- Nothing that is kept for a stream has changed. -/
structure SameStream (streamKey : StreamKey) (addr : SocketAddr) (before after : ProxyServer) : Prop where
  aToB : after.keysAndAddrs.aToB streamKey = before.keysAndAddrs.aToB streamKey
  bToA : after.keysAndAddrs.bToA addr = before.keysAndAddrs.bToA addr
  tunneledHosts : after.tunneledHosts streamKey = before.tunneledHosts streamKey
  dnsFailureRetries : after.dnsFailureRetries streamKey = before.dnsFailureRetries streamKey
  streamKeyRoutes : after.streamKeyRoutes streamKey = before.streamKeyRoutes streamKey
  streamKeyTtl : after.streamKeyTtl streamKey = before.streamKeyTtl streamKey

/-- The key of an earlier connection is not used for data from the address; its purge does not touch what
is kept for them; and a response for it does not go there. -/
structure Isolated (config : ProxyServerConfig) (world : World) (oldKey : StreamKey) (addr : SocketAddr) :
    Prop where
  key : (findOrGenerateStreamKey config world.proxy addr).1 ≠ oldKey
  purge : SameStream (findOrGenerateStreamKey config world.proxy addr).1 addr world.proxy
    (purgeStreamKey world.proxy oldKey)
  response : ∀ msg after, msg.payload.streamKey = oldKey →
    step config world (.clientResponse msg) = .ok after →
    transmissionsTo addr after.sent = transmissionsTo addr world.sent

section

variable {oldKey : StreamKey}

section

variable (other : config.streamKeyOf addr ≠ oldKey)
include other

lemma Keyed.purge_sameStream (keyed : Keyed config proxy.keysAndAddrs) :
    SameStream (config.streamKeyOf addr) addr proxy (purgeStreamKey proxy oldKey) := by
  have unused : proxy.keysAndAddrs.bToA addr ≠ some oldKey := fun used => other (keyed.bToA_eq used).symm
  constructor
  · simp [purgeStreamKey, BidiHashMap.aToB_removeA, other]
  · simp [purgeStreamKey, BidiHashMap.bToA_removeA keyed.consistent, unused]
  · simp [purgeStreamKey, other]
  · rfl
  · simp [purgeStreamKey, other]
  · simp [purgeStreamKey, other]

/-- A response goes to the address of its key. -/
lemma Keyed.response_elsewhere (keyed : Keyed config world.proxy.keysAndAddrs)
    (old : msg.payload.streamKey = oldKey) (steps : Steps config world (.clientResponse msg) after) :
    transmissionsTo addr after.sent = transmissionsTo addr world.sent := by
  cases steps with
  | unchanged => rfl
  | responded relays =>
    rw [World.proceed, transmissionsTo_append, transmissionsTo_append, transmissionsTo_reportEffects]
    cases relays with
    | dropped => simp [transmissionsTo]
    | @relayed socketAddr _ _ open_ known offset purged =>
      have elsewhere : socketAddr ≠ addr := by
        rintro rfl
        exact other ((keyed.streamKeyOf _ _ known).symm.trans old)
      simp [transmissionsTo, Effect.transmissionTo, elsewhere]

lemma Keyed.isolated (keyed : Keyed config world.proxy.keysAndAddrs) :
    Isolated config world oldKey addr := by
  have own := keyed.fst_findOrGenerateStreamKey addr
  constructor
  · rw [own]
    exact other
  · rw [own]
    exact keyed.purge_sameStream other
  · intro msg after old stepped
    exact keyed.response_elsewhere other old (step_steps stepped)

end

end

theorem new_connection_isolated_iff (injective : Function.Injective config.streamKeyOf)
    {events : List Event} (reached : run (step config) World.initial events = .ok world)
    (addr : SocketAddr) :
    (∀ ended ∈ world.ended, Isolated config world ended.2 addr) ↔
      ∀ ended ∈ world.ended, ended.1 ≠ addr := by
  obtain ⟨keyed, endedKeys⟩ := ended_of_run injective reached
  constructor
  · rintro isolated ended listed rfl
    apply (isolated ended listed).key
    rw [keyed.fst_findOrGenerateStreamKey, endedKeys ended listed]
  · intro fresh ended listed
    apply keyed.isolated
    rw [endedKeys ended listed]
    intro same
    exact fresh ended listed (injective same).symm

/-- A connection from another port is not touched by the one that has ended. -/
theorem other_port_isolated :
    ∃ world, run (step (sampleConfig true)) World.initial closedStream = .ok world ∧ world.ended ≠ [] ∧
      ∀ ended ∈ world.ended, Isolated (sampleConfig true) world ended.2 (sampleAddr 5001) := by
  obtain ⟨world, reached, listed⟩ :
      ∃ world, run (step (sampleConfig true)) World.initial closedStream = .ok world ∧
        world.ended = [(sampleAddr 5000, (sampleConfig true).streamKeyOf (sampleAddr 5000))] := by
    decide +kernel
  refine ⟨world, reached, by simp [listed], ?_⟩
  apply (new_connection_isolated_iff (sampleConfig_injective true) reached (sampleAddr 5001)).mpr
  rw [listed]
  decide

/-- The client opens another connection from the port that it had before. -/
def reopened : Event := .clientData (sampleData 5000 ⟨0, u64_zero⟩ "another request")

/-- The data of the new connection go under the key of the old one; when the purge comes, the new
connection is unknown; and if it is opened after the purge, it gets the response to the old request. -/
theorem reused_address_keeps_key :
    (do let world ← run (step (sampleConfig true)) World.initial closedStream
        return (world.ended, (findOrGenerateStreamKey (sampleConfig true) world.proxy (sampleAddr 5000)).1)) =
      .ok ([(sampleAddr 5000, (sampleConfig true).streamKeyOf (sampleAddr 5000))],
        (sampleConfig true).streamKeyOf (sampleAddr 5000)) ∧
    (do let world ← run (step (sampleConfig true)) World.initial (closedStream ++ [reopened, Event.deliver 2])
        return world.proxy.keysAndAddrs.bToA (sampleAddr 5000)) = .ok none ∧
    (do let world ← run (step (sampleConfig true)) World.initial (closedStream ++ [Event.deliver 2, reopened,
          .clientResponse (sampleResponse true 5000 0 ⟨0, by decide⟩)])
        return (transmissionsTo (sampleAddr 5000) world.sent).length) = .ok 1 := by
  decide +kernel

/-! ### Whose responses they are -/

/-- What a client has got from exits had come in for its own stream. -/
structure ServedApart (config : ProxyServerConfig) (events : List Event) (addr : SocketAddr) (world : World) :
    Prop where
  keyed : Keyed config world.proxy.keysAndAddrs
  responses : ∀ number packet, (.response number, packet) ∈ transmissionsTo addr world.sent →
    ∃ msg, .clientResponse msg ∈ events ∧ msg.payload.streamKey = config.streamKeyOf addr ∧
      msg.payload.sequencedPacket.sequenceNumber = number ∧ msg.payload.sequencedPacket.data = packet.data

lemma ServedApart.step (injective : Function.Injective config.streamKeyOf)
    (apart : ServedApart config events addr world) (listed : event ∈ events)
    (stepped : step config world event = .ok after) : ServedApart config events addr after where
  keyed := keyed_step injective world event after apart.keyed stepped
  responses := by
    intro number packet sent
    obtain ⟨added, adds, atMostOne⟩ := (step_steps stepped).transmits addr
    rw [adds, List.mem_append] at sent
    rcases sent with earlier | new
    · exact apart.responses number packet earlier
    · obtain rfl | ⟨transmission, rfl, transmits⟩ := atMostOne
      · cases new
      · obtain rfl := List.mem_singleton.mp new
        -- neither an acknowledgement nor a failure is a response
        cases transmits with
        | responded known offset => exact ⟨_, listed, apart.keyed.streamKeyOf _ _ known, rfl, rfl⟩

end PulseMesh.ProxyServerActor
