import PulseMesh.ProxyServerActor.Handlers

/-!
# What clients are sent

The dispatcher puts the packets for a client into the order of their sequence numbers.  A packet from the
exit has a number of its own, to which one is added if there was a CONNECT before, on whatever stream.
The acknowledgement of a CONNECT has the number of the request, and a failure is always number zero.
-/

namespace PulseMesh.ProxyServerActor

open Machine Runs SubLib Accountant Streams List
open PulseMesh.ProxyServer

variable {config : ProxyServerConfig} {next : ProxyServer} {world after : World} {event : Event}
  {addr : SocketAddr} {msg : TransmitDataMsg}

abbrev Transmission := Occasion × TransmitDataMsg

def Effect.transmissionTo (addr : SocketAddr) : Effect → Option Transmission
  | .transmitData occasion msg => if msg.endpoint = .socket addr then some (occasion, msg) else none
  | _ => none

def transmissionsTo (addr : SocketAddr) (sent : List Effect) : List Transmission :=
  sent.filterMap (Effect.transmissionTo addr)

@[simp]
lemma transmissionsTo_append (before after) :
    transmissionsTo addr (before ++ after) = transmissionsTo addr before ++ transmissionsTo addr after :=
  filterMap_append

/-- Nothing is lost if something else comes back. -/
lemma transmissionsTo_eraseIdx (pending : sent[index]? = some effect)
    (silent : effect.transmissionTo addr = none) :
    transmissionsTo addr (sent.eraseIdx index) = transmissionsTo addr sent := by
  induction sent generalizing index with
  | nil => rfl
  | cons first rest ih =>
    cases index with
    | zero =>
      cases pending
      simp [transmissionsTo, filterMap_cons_none silent]
    | succ index =>
      have rest_eq := ih pending
      simp only [transmissionsTo] at rest_eq ⊢
      simp [filterMap_cons, rest_eq]

@[simp]
lemma transmissionsTo_reportEffects (report) : transmissionsTo addr (reportEffects report) = [] := by
  cases report with
  | none => rfl
  | some report => rfl

@[simp]
lemma transmissionsTo_addRouteResult (msg) :
    transmissionsTo addr [.addRouteResult msg] = [] := rfl

/-! ### One message -/

/-- What a message can send to the client at the address. -/
inductive Transmits (config : ProxyServerConfig) (addr : SocketAddr) (world : World) :
    Event → Transmission → Prop
  | acknowledged {msg : InboundClientData} (lastData : Bool) (data : Bytes) (own : msg.clientAddr = addr) :
    Transmits config addr world (.clientData msg)
      (.acknowledgement, ⟨.socket addr, lastData, msg.sequenceNumber, data⟩)
  | failed {event : Event} (data : Bytes) :
    Transmits config addr world event (.failure, ⟨.socket addr, true, some ⟨0, by decide⟩, data⟩)
  | responded {msg : ExpiredCoresPackage ClientResponsePayload} {sequenceNumber : U64}
    (known : world.proxy.keysAndAddrs.aToB msg.payload.streamKey = some addr)
    (offset : offsetSequenceNumber config world.proxy msg.payload.sequencedPacket.sequenceNumber =
      .ok sequenceNumber) :
    Transmits config addr world (.clientResponse msg)
      (.response msg.payload.sequencedPacket.sequenceNumber,
        ⟨.socket addr, msg.payload.sequencedPacket.lastData, some sequenceNumber,
          msg.payload.sequencedPacket.data⟩)

/-- At most one packet, of which something is known. -/
def AtMostOne (known : Transmission → Prop) (transmissions : List Transmission) : Prop :=
  transmissions = [] ∨ ∃ transmission, transmissions = [transmission] ∧ known transmission

/-- To other clients nothing is sent. -/
lemma atMostOne_transmitData (own : msg.endpoint = .socket addr → known (occasion, msg)) :
    AtMostOne known (transmissionsTo addr [.transmitData occasion msg]) := by
  by_cases here : msg.endpoint = .socket addr
  · exact .inr ⟨(occasion, msg), by simp [transmissionsTo, Effect.transmissionTo, here], own here⟩
  · exact .inl (by simp [transmissionsTo, Effect.transmissionTo, here])

lemma atMostOne_failureMsg (clientAddr data) :
    AtMostOne (Transmits config addr world event) (transmissionsTo addr [failureMsg clientAddr data]) := by
  apply atMostOne_transmitData
  intro here
  cases here
  exact .failed data

lemma atMostOne_failures (clientAddr) {pages : List Bytes} (atMostOne : pages.length ≤ 1) :
    AtMostOne (Transmits config addr world event)
      (transmissionsTo addr (pages.map (failureMsg clientAddr))) := by
  match pages, atMostOne with
  | [], _ => exact .inl rfl
  | [data], _ => exact atMostOne_failureMsg clientAddr data

variable {base : World}

lemma Forwards.transmits (forwards : Forwards args effects) :
    AtMostOne (Transmits config addr world event) (transmissionsTo addr effects) := by
  cases forwards with
  | failed data => exact atMostOne_failureMsg _ data
  | sent report package =>
    refine .inl ?_
    rw [transmissionsTo_append, transmissionsTo_append, transmissionsTo_reportEffects]
    split <;> rfl

lemma tryTransmitToHopper_transmits
    (transmitted : tryTransmitToHopper config args response = .ok (result, effects)) :
    AtMostOne (Transmits config addr world event) (transmissionsTo addr effects) := by
  obtain ⟨_, _, _, rest, -, rfl, forwards⟩ := tryTransmitToHopper_cases transmitted
  exact forwards.transmits

lemma ClientDataEnds.transmits {msg : InboundClientData}
    (ends : ClientDataEnds config proxy msg retireStreamKey next effects) :
    AtMostOne (Transmits config addr world event) (transmissionsTo addr effects) := by
  cases ends with
  | refused pages atMostOne => exact atMostOne_failures _ atMostOne
  | rejected => exact .inl rfl
  | transmitted own routed transmits => exact tryTransmitToHopper_transmits transmits
  | requested => exact .inl rfl

lemma Resolves.transmits {routeResultOpt : Except MailboxError (Option RouteQueryResponse)}
    (resolves : Resolves config args routeResultOpt effects) :
    AtMostOne (Transmits config addr world event) (transmissionsTo addr effects) := by
  cases resolves with
  | answered transmits =>
    rw [transmissionsTo_append, transmissionsTo_addRouteResult, append_nil]
    exact tryTransmitToHopper_transmits transmits
  | unanswered pages atMostOne error =>
    rw [transmissionsTo_append, transmissionsTo_addRouteResult, append_nil]
    exact atMostOne_failures _ atMostOne

/-- What a step adds to the packets of a client. -/
def Adds (config : ProxyServerConfig) (addr : SocketAddr) (world : World) (event : Event) (after : World) :
    Prop :=
  ∃ added, transmissionsTo addr after.sent = transmissionsTo addr world.sent ++ added ∧
    AtMostOne (Transmits config addr world event) added

lemma adds_proceed (same : transmissionsTo addr base.sent = transmissionsTo addr world.sent)
    (transmits : AtMostOne (Transmits config addr world event) (transmissionsTo addr effects)) :
    Adds config addr world event (base.proceed (next, effects)) :=
  ⟨_, by rw [World.proceed, transmissionsTo_append, same], transmits⟩

lemma adds_nothing (same : transmissionsTo addr after.sent = transmissionsTo addr world.sent) :
    Adds config addr world event after :=
  ⟨[], by rw [same, append_nil], .inl rfl⟩

lemma Shuts.transmits {msg} (shuts : Shuts config base msg after)
    (same : transmissionsTo addr base.sent = transmissionsTo addr world.sent) :
    Adds config addr world event after := by
  cases shuts with
  | unknown => exact adds_nothing same
  | scheduled known ends => exact adds_proceed same ends.transmits

lemma transmissionsTo_complaint (complaint : Option (PublicKey × String)) : transmissionsTo addr
    (complaint.map fun (key, host) => Effect.addUnreachableHost key host).toList = [] := by
  cases complaint with
  | none => rfl
  | some => rfl

lemma Steps.transmits (steps : Steps config world event after) (addr) :
    Adds config addr world event after := by
  cases steps with
  | unchanged | clock => exact adds_nothing rfl
  | connected | notConnected =>
    apply adds_proceed rfl
    apply atMostOne_transmitData
    intro here
    cases here
    exact .acknowledged _ _ rfl
  | served ends => exact adds_proceed rfl ends.transmits
  | responded relays =>
    apply adds_proceed rfl
    rw [transmissionsTo_append, transmissionsTo_reportEffects]
    cases relays with
    | dropped => exact .inl rfl
    | relayed open_ known offset purged =>
      apply atMostOne_transmitData
      intro here
      cases here
      exact .responded known offset
  | @unresolved msg clientAddr _ _ complaint report known retries =>
    apply adds_proceed rfl
    rw [transmissionsTo_append, transmissionsTo_append, transmissionsTo_reportEffects,
      transmissionsTo_complaint]
    cases retries with
    | unknown | again => exact .inl rfl
    | failed data => exact atMostOne_failureMsg clientAddr data
  | shut shuts => exact shuts.transmits rfl
  | answered asked resolves => exact adds_proceed (transmissionsTo_eraseIdx asked rfl) resolves.transmits
  | returnRoute pending | routed pending | purged pending =>
    exact adds_proceed (transmissionsTo_eraseIdx pending rfl) (.inl rfl)
  | unrouted pending => exact adds_nothing (transmissionsTo_eraseIdx pending rfl)
  | retired pending shuts => exact shuts.transmits (transmissionsTo_eraseIdx pending rfl)
  | expired => exact adds_proceed rfl (.inl rfl)

/-! ### The numbers of a client's packets -/

variable (transmissions : List Transmission)

def numbers : List (Option Int) :=
  transmissions.map fun transmission => transmission.2.sequenceNumber.map Word.val

def Occasion.packet : Occasion → Option Int
  | .response sequenceNumber => some sequenceNumber.val
  | _ => none

/-- The numbers that the packets from the exit have there. -/
def packets : List Int :=
  transmissions.filterMap fun transmission => transmission.1.packet

def acknowledged : Bool :=
  transmissions.any fun transmission => transmission.1 == .acknowledgement

def failed : Bool :=
  transmissions.any fun transmission => transmission.1 == .failure

/-- Something was sent that did not come from the exit. -/
def opened : Bool :=
  acknowledged transmissions || failed transmissions

/-- The packet concerns its own stream only: an acknowledgement is the first, with the first number, a
failure is the first, and a packet from the exit does not come after a failure and finds the offset as
the client's own CONNECT has set it, if there was one. -/
def OwnTransmission (addr : SocketAddr) (world : World) (transmission : Transmission) : Prop :=
  match transmission.1 with
  | .acknowledgement =>
    transmissionsTo addr world.sent = [] ∧ transmission.2.sequenceNumber = some ⟨0, u64_zero⟩
  | .failure => transmissionsTo addr world.sent = []
  | .response sequenceNumber =>
    failed (transmissionsTo addr world.sent) = false ∧
      world.proxy.browserProxySequenceOffset = acknowledged (transmissionsTo addr world.sent) ∧
      sequenceNumber.val + 1 < 2 ^ 64

instance (addr : SocketAddr) (world : World) (transmission : Transmission) :
    Decidable (OwnTransmission addr world transmission) := by
  unfold OwnTransmission
  split <;> infer_instance

def newTransmissions (config : ProxyServerConfig) (addr : SocketAddr) (world : World) (event : Event) :
    List Transmission :=
  match step config world event with
  | .ok after => (transmissionsTo addr after.sent).drop (transmissionsTo addr world.sent).length
  | .error _ => []

def OwnNumbering (config : ProxyServerConfig) (addr : SocketAddr) (world : World) (event : Event) : Prop :=
  ∀ transmission ∈ newTransmissions config addr world event, OwnTransmission addr world transmission

instance (config : ProxyServerConfig) (addr : SocketAddr) (world : World) (event : Event) :
    Decidable (OwnNumbering config addr world event) :=
  inferInstanceAs (Decidable (∀ transmission ∈ _, _))

/-- The numbers are those of the packets from the exit, moved by one if something came before them. -/
def Numbered : Prop :=
  numbers transmissions = (if opened transmissions then [some 0] else []) ++
    (packets transmissions).map fun packet => some (packet + if opened transmissions then 1 else 0)

variable {transmissions}

lemma offsetSequenceNumber_val (room : sequenceNumber.val + 1 < 2 ^ 64)
    (offset : offsetSequenceNumber config proxy sequenceNumber = .ok shifted) :
    shifted.val = sequenceNumber.val + if proxy.browserProxySequenceOffset then 1 else 0 := by
  have same : (proxy.browserProxySequenceOffset.toNat : Int) =
      if proxy.browserProxySequenceOffset then 1 else 0 := by
    cases proxy.browserProxySequenceOffset <;> rfl
  have fits : u64.Holds (sequenceNumber.val + if proxy.browserProxySequenceOffset then 1 else 0) := by
    have bounds := U64.bounds sequenceNumber
    rw [u64_holds]
    split <;> omega
  rw [offsetSequenceNumber, same, arith_ok config.profile fits] at offset
  cases offset
  rfl

lemma numbered_response (numbered : Numbered earlier) (has : msg.sequenceNumber = some number)
    (shifted : number.val = packet.val + if opened earlier then 1 else 0) :
    Numbered (earlier ++ [(.response packet, msg)]) := by
  have openedStill : opened (earlier ++ [(.response packet, msg)]) = opened earlier := by
    have other : (Occasion.response packet == .acknowledgement) = false := rfl
    have otherToo : (Occasion.response packet == .failure) = false := rfl
    simp [opened, acknowledged, failed, other, otherToo]
  have number_eq : numbers (earlier ++ [(.response packet, msg)]) =
      numbers earlier ++ [some (packet.val + if opened earlier then 1 else 0)] := by
    simp only [numbers, map_append, map_cons, map_nil, has, Option.map_some, shifted]
  have packets_eq : packets (earlier ++ [(.response packet, msg)]) = packets earlier ++ [packet.val] := by
    simp [packets, Occasion.packet]
  rw [Numbered, openedStill, number_eq, packets_eq, numbered, map_append, append_assoc, map_singleton]

/-- A packet of the stream keeps its packets numbered. -/
lemma numbered_snoc (numbered : Numbered (transmissionsTo addr world.sent))
    (transmits : Transmits config addr world event transmission)
    (own : OwnTransmission addr world transmission) :
    Numbered (transmissionsTo addr world.sent ++ [transmission]) := by
  cases transmits with
  | acknowledged lastData data client =>
    obtain ⟨first, zero⟩ := own
    dsimp only at zero
    rw [first, zero]
    rfl
  | failed data =>
    have first : transmissionsTo addr world.sent = [] := own
    rw [first]
    rfl
  | responded known offset =>
    obtain ⟨answered, offsetOwn, room⟩ := own
    have shifted := offsetSequenceNumber_val room offset
    have openedBefore : opened (transmissionsTo addr world.sent) =
        acknowledged (transmissionsTo addr world.sent) := by
      rw [opened, answered, Bool.or_false]
    rw [offsetOwn, ← openedBefore] at shifted
    exact numbered_response numbered rfl shifted

lemma numbered_step (addr world event after) (numbered : Numbered (transmissionsTo addr world.sent))
    (own : OwnNumbering config addr world event) (stepped : step config world event = .ok after) :
    Numbered (transmissionsTo addr after.sent) := by
  obtain ⟨added, sent, rfl | ⟨transmission, rfl, transmits⟩⟩ := (step_steps stepped).transmits addr
  · rw [sent, append_nil]
    exact numbered
  · have new : newTransmissions config addr world event = [transmission] := by
      simp only [newTransmissions, stepped, sent, drop_left]
    rw [sent]
    exact numbered_snoc numbered transmits (own transmission (by simp [new]))

/-- The packets that came first are counted on from zero. -/
def firstNumbers (count : Nat) : List (Option Int) := (range count).map fun number : Nat => some (number : Int)

lemma numbered_range {transmissions} (numbered : Numbered transmissions) {count}
    (inOrder : (packets transmissions).Perm ((range count).map Int.ofNat)) :
    (numbers transmissions).Perm (firstNumbers (count + (opened transmissions).toNat)) := by
  rw [numbered]
  cases opened transmissions with
  | false =>
    simpa [firstNumbers, Function.comp_def] using inOrder.map fun packet => some packet
  | true =>
    have shifted := inOrder.map fun packet : Int => some (packet + 1)
    have counted : firstNumbers (count + 1) =
        some 0 :: ((range count).map Int.ofNat).map fun packet => some (packet + 1) := by
      simp [firstNumbers, range_succ_eq_map, Function.comp_def]
    rw [Bool.toNat_true, counted]
    exact shifted.cons _

def sampleConnect : Event :=
  .clientData (sampleData 6000 ⟨0, u64_zero⟩ "CONNECT example.com:443 HTTP/1.1\r\n\r\n")

/-- Another client's CONNECT comes in between. -/
def connectElsewhere : List Event := sampleExchange.take 4 ++ sampleConnect :: sampleExchange.drop 4

/-- There is no route for the first data in a tunnel. -/
def refusedTunnel : List Event :=
  [sampleConnect, .clientData (sampleData 6000 ⟨1, u64_one⟩ "hello"), .answer 1 (.ok none)]

def numbersAfter (events : List Event) (addr : SocketAddr) : Except Panic (List (Option Int)) := do
  let world ← run (step (sampleConfig true)) World.initial events
  return numbers (transmissionsTo addr world.sent)

end PulseMesh.ProxyServerActor
