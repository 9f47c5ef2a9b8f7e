import PulseMesh.ProxyClientPool.Places

/-!
# The numbers of the answers

Each reader numbers its packets from zero on, and its kill message carries the next number.  A request
that fails sends an empty last packet with the number zero.  So the numbers of a stream key are right as
long as all its packets come from one reader or from one failure.
-/

namespace PulseMesh.ProxyClientPool

open Machine Runs SubLib Accountant ProxyClient List Option

variable {p : Profile} {config : ProxyClientConfig} {world next : World}

/-- A packet for the originator, with its sender. -/
structure Packet where
  sender : Sender
  msg : InboundServerData

/-- The reader that has numbered the packet; a failure numbers its packet itself. -/
def Sender.producer : Sender → Option Nat
  | .reader stream => some stream
  | .killer killed _ => some killed
  | .failure => none

def Posted.packet : Posted → Option Packet
  | ⟨sender, .inboundServerData msg⟩ => some ⟨sender, msg⟩
  | ⟨_, .dnsResolveFailed _⟩ => none

def World.packets (world : World) : List Packet := world.mailbox.filterMap Posted.packet

/-- What was sent for the stream key. -/
def World.packetsFor (world : World) (streamKey : StreamKey) : List Packet :=
  world.packets.filter (·.msg.streamKey = streamKey)

def producedBy (stream : Nat) (packets : List Packet) : List Packet :=
  packets.filter (·.sender.producer = some stream)

def numbers (packets : List Packet) : List Int := packets.map (·.msg.sequenceNumber.val)

/-! ### The numbers of a reader -/

section

variable {packets : List Packet} {stream : Nat}

lemma producedBy_append (added) :
    producedBy stream (packets ++ added) = producedBy stream packets ++ producedBy stream added :=
  filter_append ..

lemma producedBy_of_eq (produced : packet.sender.producer = some stream) :
    producedBy stream [packet] = [packet] := by
  simp [producedBy, produced]

lemma producedBy_of_ne (other : packet.sender.producer ≠ some stream) :
    producedBy stream [packet] = [] := by
  simp [producedBy, other]

/-- The number that comes after so many. -/
def numberAfter (taken : Nat) : Int := u64.wrap taken

lemma numberAfter_succ (taken : Nat) : u64.wrap (numberAfter taken + 1) = numberAfter (taken + 1) := by
  rw [numberAfter, IntType.wrap_wrap_add]
  norm_cast

/-- The packets are numbered in order from zero on. -/
abbrev InSequence (packets : List Packet) : Prop :=
  numbers packets = (range packets.length).map numberAfter

/-- Each reader has numbered its packets in order. -/
def Sequential (packets : List Packet) : Prop :=
  ∀ stream, numbers (producedBy stream packets) =
    (range (producedBy stream packets).length).map numberAfter

lemma Sequential.append (sequential : Sequential packets)
    (numbered : ∀ stream, packet.sender.producer = some stream →
      packet.msg.sequenceNumber.val = numberAfter (producedBy stream packets).length) :
    Sequential (packets ++ [packet]) := by
  intro stream
  rw [producedBy_append]
  by_cases produced : packet.sender.producer = some stream
  · rw [producedBy_of_eq produced, numbers, map_append, ← numbers, sequential stream,
      length_append, length_singleton, range_succ]
    simp [numbered stream produced]
  · rw [producedBy_of_ne produced, append_nil]
    exact sequential stream

end

lemma nextSequenceNumber_eq_ok {sequencer : Sequencer} {taken : U64 × Sequencer}
    (returned : sequencer.nextSequenceNumber p = .ok taken) :
    taken.1 = sequencer.currentSequenceNumber ∧
      taken.2.currentSequenceNumber.val = u64.wrap (sequencer.currentSequenceNumber.val + 1) := by
  obtain ⟨next, added, returned⟩ := ok_of_bind returned
  cases returned
  exact ⟨rfl, val_of_arith_eq_ok added⟩

/-! ### What is counted -/

/-- The readers and the kill messages have the numbers that come next, and a reader's packets have the key
of its stream. -/
structure Counted (world : World) : Prop where
  sequential : Sequential world.packets
  current : ∀ stream reader, world.readers[stream]? = some reader → reader.phase ≠ .ended →
    reader.sequencer.currentSequenceNumber.val = numberAfter (producedBy stream world.packets).length
  kill : ∀ kill ∈ world.streamKiller,
    kill.sequenceNumber.val = numberAfter (producedBy kill.stream world.packets).length
  keyed : ∀ packet ∈ world.packets, ∀ stream, packet.sender.producer = some stream →
    world.keys[stream]? = some packet.msg.streamKey
  failure : ∀ packet ∈ world.packets, packet.sender.producer = none →
    packet.msg.sequenceNumber.val = 0 ∧ packet.msg.lastData = true

lemma counted_initial : Counted World.initial := by
  constructor <;> simp [World.initial, World.packets, Sequential, producedBy, numbers]

lemma packets_post (sender mail) :
    (post world sender mail).packets = world.packets ++ (Posted.packet ⟨sender, mail⟩).toList := by
  rw [World.packets, post, filterMap_append]
  cases mail <;> rfl

@[simp] lemma packets_removeWriter (streamKey) :
    (removeWriter world streamKey).packets = world.packets := by
  simp only [World.packets, removeWriter_same]

variable {stream : Nat} {after : StreamReader}

/-- A signal changes neither the phase of a reader nor its numbers. -/
lemma reader_of_removeWriter (known : (removeWriter world streamKey).readers[stream]? = some after) :
    ∃ before, world.readers[stream]? = some before ∧ after.phase = before.phase ∧
      after.sequencer = before.sequencer := by
  obtain same | ⟨signalled, same⟩ := readers_removeWriter world streamKey
  · rw [same] at known
    exact ⟨after, known, rfl, rfl⟩
  · rw [same, sendShutdownSignalToStreamReader, getElem?_modify] at known
    obtain ⟨before, knownBefore, rfl⟩ := map_eq_some_iff.mp known
    refine ⟨before, knownBefore, ?_, ?_⟩ <;> split <;> rfl

lemma producedBy_append_of_ne (other : packet.sender.producer ≠ some stream) :
    producedBy stream (packets ++ [packet]) = producedBy stream packets := by
  rw [producedBy_append, producedBy_of_ne other, append_nil]

section

variable (counted : Counted world)
include counted

/-- One more packet, with the number that its producer has next. -/
lemma Counted.append (packets : next.packets = world.packets ++ [packet]) (keys : next.keys = world.keys)
    (numbered : ∀ stream, packet.sender.producer = some stream →
      packet.msg.sequenceNumber.val = numberAfter (producedBy stream world.packets).length ∧
        world.keys[stream]? = some packet.msg.streamKey) (failure : packet.sender.producer = none →
      packet.msg.sequenceNumber.val = 0 ∧ packet.msg.lastData = true)
    (current : ∀ stream reader, next.readers[stream]? = some reader → reader.phase ≠ .ended →
      reader.sequencer.currentSequenceNumber.val = numberAfter (producedBy stream next.packets).length)
    (kill : ∀ kill ∈ next.streamKiller,
      kill ∈ world.streamKiller ∧ packet.sender.producer ≠ some kill.stream) : Counted next := by
  constructor
  · rw [packets]
    exact counted.sequential.append fun stream produced => (numbered stream produced).1
  · exact current
  · intro message mem
    obtain ⟨old, other⟩ := kill message mem
    rw [packets, producedBy_append_of_ne other]
    exact counted.kill message old
  · intro other mem stream produced
    rw [packets] at mem
    rw [keys]
    obtain old | new := mem_append.mp mem
    · exact counted.keyed other old stream produced
    · cases mem_singleton.mp new
      exact (numbered stream produced).2
  · intro other mem produced
    rw [packets] at mem
    obtain old | new := mem_append.mp mem
    · exact counted.failure other old produced
    · cases mem_singleton.mp new
      exact failure produced

lemma Counted.of_packets (packets : next.packets = world.packets)
    (keys : ∀ (stream : Nat) key, world.keys[stream]? = some key → next.keys[stream]? = some key)
    (current : ∀ stream reader, next.readers[stream]? = some reader → reader.phase ≠ .ended →
      reader.sequencer.currentSequenceNumber.val = numberAfter (producedBy stream world.packets).length)
    (kill : ∀ kill ∈ next.streamKiller,
      kill.sequenceNumber.val = numberAfter (producedBy kill.stream world.packets).length) :
    Counted next := by
  constructor
  · rw [packets]
    exact counted.sequential
  · rw [packets]
    exact current
  · rw [packets]
    exact kill
  · rw [packets]
    exact fun packet mem stream produced => keys _ _ (counted.keyed packet mem stream produced)
  · rw [packets]
    exact counted.failure

lemma counted_removeWriter (streamKey) : Counted (removeWriter world streamKey) := by
  apply counted.of_packets (packets_removeWriter streamKey)
  · simp
  · intro stream reader known running
    obtain ⟨before, knownBefore, phase, sequencer⟩ := reader_of_removeWriter known
    rw [sequencer]
    exact counted.current stream before knownBefore (phase ▸ running)
  · rw [(removeWriter_same streamKey).2.2.1]
    exact counted.kill

lemma counted_fail (fails : FailureMail mail) : Counted (post world .failure mail) := by
  cases fails with
  | dnsResolveFailed msg =>
    apply counted.of_packets
    · rw [packets_post]
      exact append_nil _
    · exact fun _ _ known => known
    · exact counted.current
    · exact counted.kill
  | terminating streamKey source =>
    have packets : (post world .failure (terminatingPackage streamKey ⟨0, by decide⟩ source)).packets =
        world.packets ++ [⟨.failure, ⟨streamKey, true, ⟨0, by decide⟩, source, []⟩⟩] := packets_post ..
    apply counted.append packets rfl
    · intro stream produced
      cases produced
    · exact fun _ => ⟨rfl, rfl⟩
    · intro stream reader known running
      have other : Sender.failure.producer ≠ some stream := nofun
      rw [packets, producedBy_append_of_ne other]
      exact counted.current stream reader known running
    · exact fun kill mem => ⟨mem, nofun⟩

lemma counted_spawn (write peerAddr) : Counted (spawnStreamReader world write peerAddr) := by
  apply counted.of_packets
  · rfl
  · intro stream key known
    rw [keys_spawnStreamReader, List.getElem?_append_left (List.getElem?_eq_some_iff.mp known).1, known]
  · intro stream reader known running
    by_cases old : stream < world.readers.length
    · rw [spawnStreamReader, getElem?_append_left old] at known
      exact counted.current stream reader known running
    · -- nothing was sent with the number of a stream that is still to come
      have unsent : producedBy stream world.packets = [] := by
        apply filter_eq_nil_iff.mpr
        intro packet mem produced
        have keyed := counted.keyed packet mem stream (of_decide_eq_true produced)
        have inside := (List.getElem?_eq_some_iff.mp keyed).1
        rw [World.keys, length_map] at inside
        exact old inside
      rw [spawnStreamReader, getElem?_append_right (not_lt.mp old), getElem?_singleton] at known
      split at known
      · cases known
        rw [unsent]
        rfl
      · cases known
  · exact counted.kill

end

lemma reader_of_setReader (known : (setReader world stream after).readers[other]? = some found) :
    other = stream ∧ found = after ∨ other ≠ stream ∧ world.readers[other]? = some found := by
  rw [setReader, getElem?_set] at known
  split at known
  next same =>
    split at known
    · exact .inl ⟨same.symm, (some.inj known).symm⟩
    · cases known
  next different => exact .inr ⟨Ne.symm different, known⟩

lemma counted_turn (counted : Counted world) (known : world.readers[stream]? = some reader)
    (running : reader.phase ≠ .ended) (phase) :
    Counted (setReader world stream { reader with phase }) := by
  have keys : (setReader world stream { reader with phase }).keys = world.keys := keys_setReader known rfl
  apply counted.of_packets
  · rfl
  · rw [keys]
    exact fun _ _ keyed => keyed
  · intro other found knownAfter runs
    obtain ⟨rfl, rfl⟩ | ⟨-, knownBefore⟩ := reader_of_setReader knownAfter
    · exact counted.current other reader known running
    · exact counted.current other found knownBefore runs
  · exact counted.kill

/-- The reader of a kill message has ended. -/
lemma Killed.ne_stream (killed : Killed world) (known : world.readers[stream]? = some reader)
    (running : reader.phase ≠ .ended) (waits : kill ∈ world.streamKiller) : stream ≠ kill.stream := by
  rintro rfl
  obtain ⟨other, knownHere, ended⟩ := killed.ended kill.stream (mem_append_right _ (mem_map_of_mem waits))
  cases known.symm.trans knownHere
  exact running ended

lemma counted_send (killed : Killed world) (counted : Counted world) {data : Bytes}
    (known : world.readers[stream]? = some reader) (reading : reader.phase = .reading)
    (sent : sendInboundServerData p world stream reader data = .ok next) : Counted next := by
  have running : reader.phase ≠ .ended := by simp [reading]
  have current := counted.current stream reader known running
  obtain ⟨taken, numbered, sent⟩ := ok_of_bind sent
  obtain ⟨number, later⟩ := nextSequenceNumber_eq_ok numbered
  cases sent
  have packets : (post (setReader world stream { reader with sequencer := taken.2, phase := .looking })
      (.reader stream) (.inboundServerData ⟨reader.streamKey, false, taken.1, reader.peerAddr, data⟩)).packets =
      world.packets ++ [⟨.reader stream, ⟨reader.streamKey, false, taken.1, reader.peerAddr, data⟩⟩] :=
    packets_post ..
  apply counted.append packets
  · exact keys_setReader known rfl
  · rintro other ⟨⟩
    exact ⟨by rw [number, current], getElem?_keys known⟩
  · exact nofun
  · intro other found knownAfter runs
    rw [packets]
    obtain ⟨rfl, rfl⟩ | ⟨different, knownBefore⟩ := reader_of_setReader knownAfter
    · rw [producedBy_append, producedBy_of_eq rfl, length_append, length_singleton,
        ← numberAfter_succ, ← current]
      exact later
    · have elsewhere : (Sender.reader stream).producer ≠ some other := fun same =>
        different (some.inj same).symm
      rw [producedBy_append_of_ne elsewhere]
      exact counted.current other found knownBefore runs
  · intro kill mem
    refine ⟨mem, ?_⟩
    intro same
    exact killed.ne_stream known running mem (some.inj same)

lemma counted_die (counted : Counted world) (known : world.readers[stream]? = some reader)
    (reading : reader.phase = .reading) (died : shutdown p world stream reader = .ok next) :
    Counted next := by
  have current := counted.current stream reader known (by simp [reading])
  obtain ⟨taken, numbered, died⟩ := ok_of_bind died
  obtain ⟨number, -⟩ := nextSequenceNumber_eq_ok numbered
  cases died
  apply counted.of_packets
  · rfl
  · intro other key keyed
    have keys : (setReader world stream { reader with sequencer := taken.2, phase := .ended }).keys =
      world.keys := keys_setReader known rfl
    exact (congrArg (·[other]?) keys).trans keyed
  · intro other found knownAfter runs
    obtain ⟨rfl, rfl⟩ | ⟨different, knownBefore⟩ := reader_of_setReader knownAfter
    · exact absurd rfl runs
    · exact counted.current other found knownBefore runs
  · intro kill mem
    obtain old | new := mem_append.mp mem
    · exact counted.kill kill old
    · cases mem_singleton.mp new
      rw [number, current]

lemma packets_cleanUpDeadStream (kill) :
    (cleanUpDeadStream world kill).packets =
      world.packets ++ ((world.streamWriterChannels kill.streamKey).map fun senders =>
        ⟨.killer kill.stream senders.stream,
          ⟨kill.streamKey, true, kill.sequenceNumber, senders.peerAddr, []⟩⟩).toList := by
  rw [World.packets, mailbox_cleanUpDeadStream, filterMap_append, serverDropReport]
  cases world.streamWriterChannels kill.streamKey <;> rfl

lemma reader_of_cleanUpDeadStream (known : (cleanUpDeadStream world kill).readers[stream]? = some after) :
    ∃ before, world.readers[stream]? = some before ∧ after.phase = before.phase ∧
      after.sequencer = before.sequencer := by
  unfold cleanUpDeadStream at known
  dsimp only at known
  split at known
  · obtain ⟨before, knownBefore, same⟩ := reader_of_removeWriter known
    exact ⟨before, knownBefore, same⟩
  · exact ⟨after, known, rfl, rfl⟩

/-- The message of an ended reader, with the number that comes after its packets. -/
lemma counted_kill (counted : Counted world) (ended : Ended world kill.stream)
    (numbered : kill.sequenceNumber.val = numberAfter (producedBy kill.stream world.packets).length)
    (keyed : world.keys[kill.stream]? = some kill.streamKey)
    (fresh : ∀ other ∈ world.streamKiller, kill.stream ≠ other.stream) :
    Counted (cleanUpDeadStream world kill) := by
  have current (stream : Nat) (reader : StreamReader)
      (known : (cleanUpDeadStream world kill).readers[stream]? = some reader) (running : reader.phase ≠ .ended) :
      kill.stream ≠ stream ∧ reader.sequencer.currentSequenceNumber.val =
        numberAfter (producedBy stream world.packets).length := by
    obtain ⟨before, knownBefore, phase, sequencer⟩ := reader_of_cleanUpDeadStream known
    have runs : before.phase ≠ .ended := phase ▸ running
    rw [sequencer]
    refine ⟨?_, counted.current stream before knownBefore runs⟩
    rintro rfl
    obtain ⟨reader, knownHere, ended⟩ := ended
    cases knownHere.symm.trans knownBefore
    exact runs ended
  have packets : (cleanUpDeadStream world kill).packets = _ := packets_cleanUpDeadStream kill
  cases present : world.streamWriterChannels kill.streamKey with
  | none =>
    rw [present, map_none, toList_none, append_nil] at packets
    apply counted.of_packets packets
    · rw [(cleanUpDeadStream_same kill).2.1]
      exact fun _ _ known => known
    · exact fun stream reader known running => (current stream reader known running).2
    · rw [(cleanUpDeadStream_same kill).2.2.1]
      exact counted.kill
  | some senders =>
    rw [present, map_some, toList_some] at packets
    apply counted.append packets (cleanUpDeadStream_same kill).2.1
    · rintro stream ⟨⟩
      exact ⟨numbered, keyed⟩
    · exact nofun
    · intro stream reader known running
      obtain ⟨other, counts⟩ := current stream reader known running
      have elsewhere : (Sender.killer kill.stream senders.stream).producer ≠ some stream := fun same =>
        other (some.inj same)
      rw [packets, producedBy_append_of_ne elsewhere, counts]
    · intro other mem
      rw [(cleanUpDeadStream_same kill).2.2.1] at mem
      exact ⟨mem, fun same => fresh other mem (some.inj same)⟩

lemma counted_move (killed : Killed world) (counted : Counted world) (move : Move p world next) :
    Counted next := by
  cases move with
  | @kill kill kills waits =>
    have here : kill ∈ world.streamKiller := waits ▸ mem_cons_self
    have once := killed.once
    rw [World.killed, waits, map_cons] at once
    apply counted_kill
    · exact counted.of_packets rfl (fun _ _ known => known) counted.current
        (fun other mem => counted.kill other (waits ▸ mem_cons_of_mem _ mem))
    · exact killed.ended kill.stream (mem_append_right _ (mem_map_of_mem here))
    · exact counted.kill kill here
    · exact killed.keyed kill here
    · intro other mem same
      exact (nodup_cons.mp (nodup_append'.mp once).2.1).1 (same ▸ mem_map_of_mem mem)
  | quiet quiet =>
    cases quiet with
    | books | add | handOver => exact { counted with }
    | removeWriter streamKey => exact counted_removeWriter counted streamKey
    | fail fails => exact counted_fail counted fails
    | spawn write peerAddr idle => exact counted_spawn counted write peerAddr
    | turn known running phase => exact counted_turn counted known running phase
    | send known reading sent => exact counted_send killed counted known reading sent
    | die known reading died => exact counted_die counted known reading died

lemma counted_of_run (reached : run (step p config) World.initial events = .ok world) : Counted world := by
  have invariant : Killed world ∧ Counted world := by
    apply invariant_of_moves _ ⟨killed_initial, counted_initial⟩ reached
    rintro before after ⟨killed, counted⟩ move
    exact ⟨killed_move killed move, counted_move killed counted move⟩
  exact invariant.2

/-! ### One producer -/

/-- The numbers are pairwise distinct, and there is at most one last packet, which has the highest. -/
@[mk_iff]
structure Numbered (packets : List Packet) : Prop where
  distinct : (numbers packets).Nodup
  one_last : packets.countP (·.msg.lastData) ≤ 1
  last_highest : ∀ last ∈ packets, last.msg.lastData = true → ∀ packet ∈ packets,
    packet.msg.sequenceNumber.val ≤ last.msg.sequenceNumber.val

instance (packets : List Packet) : Decidable (Numbered packets) := decidable_of_iff' _ (numbered_iff packets)

/-- All packets are from one reader or one failure, and none follows a last one. -/
def OneProducer (packets : List Packet) : Prop :=
  packets.Pairwise fun earlier later =>
    earlier.msg.lastData = false ∧ earlier.sender.producer = later.sender.producer

instance (packets : List Packet) : Decidable (OneProducer packets) :=
  inferInstanceAs (Decidable (List.Pairwise _ _))

section

variable {packets : List Packet}

lemma numberAfter_of_lt (fits : taken < 2 ^ 64) : numberAfter taken = taken := by
  apply IntType.wrap_of_holds
  rw [u64_holds]
  omega

lemma pairwise_lt_of_sequence (sequence : InSequence packets) (few : packets.length ≤ 2 ^ 64) :
    packets.Pairwise fun earlier later =>
      earlier.msg.sequenceNumber.val < later.msg.sequenceNumber.val := by
  apply pairwise_map.mp
  rw [← numbers, sequence]
  apply pairwise_map.mpr
  apply pairwise_lt_range.imp_of_mem
  intro earlier later earlierMem laterMem less
  rw [mem_range] at earlierMem laterMem
  rw [numberAfter_of_lt (by omega), numberAfter_of_lt (by omega)]
  exact_mod_cast less

lemma length_le_of_nodup (sequence : InSequence packets)
    (distinct : (numbers packets).Nodup) : packets.length ≤ 2 ^ 64 := by
  by_contra more
  rw [sequence] at distinct
  have wraps : numberAfter 0 = numberAfter (2 ^ 64) := by decide +kernel
  have same := inj_on_of_nodup_map distinct (mem_range.mpr (by omega)) (mem_range.mpr (by omega)) wraps
  omega

lemma countP_lastData_le_one (openBefore : packets.Pairwise fun earlier _ => earlier.msg.lastData = false) :
    packets.countP (·.msg.lastData) ≤ 1 := by
  induction openBefore with
  | nil => simp
  | @cons packet later openHere _ ih =>
    cases later with
    | nil => exact countP_le_length
    | cons next later =>
      rw [countP_cons_of_neg (by simp [openHere next mem_cons_self])]
      exact ih

lemma last_highest_of_pairwise (ordered : packets.Pairwise fun earlier later =>
      earlier.msg.lastData = false ∧ earlier.msg.sequenceNumber.val < later.msg.sequenceNumber.val)
    (lastMem : last ∈ packets) (isLast : last.msg.lastData = true) (mem : packet ∈ packets) :
    packet.msg.sequenceNumber.val ≤ last.msg.sequenceNumber.val := by
  induction ordered with
  | nil => cases mem
  | @cons first later before _ ih =>
    obtain rfl | lastLater := mem_cons.mp lastMem
    · obtain rfl | memLater := mem_cons.mp mem
      · exact le_rfl
      · rw [(before packet memLater).1] at isLast
        cases isLast
    · obtain rfl | memLater := mem_cons.mp mem
      · exact (before last lastLater).2.le
      · exact ih lastLater memLater

end

section

lemma mem_packetsFor :
    packet ∈ world.packetsFor streamKey ↔ packet ∈ world.packets ∧ packet.msg.streamKey = streamKey := by
  simp [World.packetsFor]

section

variable (counted : Counted world)
include counted

/-- Every producer has sent a packet with the number zero. -/
lemma Counted.exists_zero (mem : packet ∈ world.packetsFor streamKey) :
    ∃ first ∈ world.packetsFor streamKey,
      first.sender.producer = packet.sender.producer ∧ first.msg.sequenceNumber.val = 0 := by
  obtain ⟨sent, key⟩ := mem_packetsFor.mp mem
  cases produced : packet.sender.producer with
  | none => exact ⟨packet, mem, produced, (counted.failure packet sent produced).1⟩
  | some stream =>
    have sequence := counted.sequential stream
    have here : packet ∈ producedBy stream world.packets := by simp [producedBy, sent, produced]
    cases all : producedBy stream world.packets with
    | nil =>
      rw [all] at here
      cases here
    | cons first later =>
      obtain ⟨firstSent, firstProduced⟩ : first ∈ world.packets ∧ first.sender.producer = some stream := by
        have firstHere : first ∈ producedBy stream world.packets := all ▸ mem_cons_self
        simpa [producedBy] using firstHere
      have keys := counted.keyed packet sent stream produced
      rw [counted.keyed first firstSent stream firstProduced, key] at keys
      rw [all, length_cons, range_succ_eq_map] at sequence
      exact ⟨first, mem_packetsFor.mpr ⟨firstSent, some.inj keys⟩, firstProduced,
        (cons_eq_cons.mp sequence).1⟩

lemma Counted.producer_eq (distinct : (numbers (world.packetsFor streamKey)).Nodup)
    (mem : packet ∈ world.packetsFor streamKey) (otherMem : other ∈ world.packetsFor streamKey) :
    packet.sender.producer = other.sender.producer := by
  obtain ⟨first, firstMem, produced, zero⟩ := counted.exists_zero mem
  obtain ⟨otherFirst, otherFirstMem, otherProduced, otherZero⟩ := counted.exists_zero otherMem
  have same := inj_on_of_nodup_map distinct firstMem otherFirstMem (zero.trans otherZero.symm)
  rw [← produced, ← otherProduced, same]

/-- A reader that has sent everything for the key has numbered it all. -/
lemma Counted.sequence_of_reader (mem : packet ∈ world.packetsFor streamKey)
    (all : ∀ other ∈ world.packetsFor streamKey, other.sender.producer = some stream) :
    InSequence (world.packetsFor streamKey) := by
  obtain ⟨sent, key⟩ := mem_packetsFor.mp mem
  have keyed := counted.keyed packet sent stream (all packet mem)
  have same : world.packetsFor streamKey = producedBy stream world.packets := by
    apply filter_congr
    intro other otherSent
    apply decide_eq_decide.mpr
    constructor
    · exact fun otherKey => all other (mem_packetsFor.mpr ⟨otherSent, otherKey⟩)
    · intro produced
      have otherKeyed := counted.keyed other otherSent stream produced
      rw [keyed, key] at otherKeyed
      exact (some.inj otherKeyed).symm
  rw [same]
  exact counted.sequential stream

lemma Counted.sequence_of_producer
    (same : ∀ packet ∈ world.packetsFor streamKey, ∀ other ∈ world.packetsFor streamKey,
      packet.sender.producer = other.sender.producer)
    (alone : ∀ first later, world.packetsFor streamKey = first :: later →
      first.sender.producer = none → later = []) : InSequence (world.packetsFor streamKey) := by
  cases all : world.packetsFor streamKey with
  | nil => rfl
  | cons first later =>
    have mem : first ∈ world.packetsFor streamKey := all ▸ mem_cons_self
    cases produced : first.sender.producer with
    | none =>
      cases alone first later all produced
      have zero := (counted.failure first (mem_packetsFor.mp mem).1 produced).1
      rw [InSequence, numbers, map_singleton, zero]
      rfl
    | some stream =>
      rw [← all]
      exact counted.sequence_of_reader mem fun other otherMem => (same other otherMem first mem).trans produced

lemma Counted.sequence_of_nodup
    (distinct : (numbers (world.packetsFor streamKey)).Nodup) : InSequence (world.packetsFor streamKey) := by
  apply counted.sequence_of_producer
  · exact fun packet mem other otherMem => counted.producer_eq distinct mem otherMem
  · intro first later all produced
    cases later with
    | nil => rfl
    | cons next later =>
      -- two failures would both have the number zero
      have firstMem : first ∈ world.packetsFor streamKey := by simp [all]
      have nextMem : next ∈ world.packetsFor streamKey := by simp [all]
      have nextProduced := (counted.producer_eq distinct nextMem firstMem).trans produced
      have zero := (counted.failure first (mem_packetsFor.mp firstMem).1 produced).1
      have nextZero := (counted.failure next (mem_packetsFor.mp nextMem).1 nextProduced).1
      rw [all] at distinct
      simp [numbers, zero, nextZero] at distinct

lemma Counted.sequence_of_oneProducer
    (one : OneProducer (world.packetsFor streamKey)) : InSequence (world.packetsFor streamKey) := by
  apply counted.sequence_of_producer
  · intro packet mem other otherMem
    have same : (world.packetsFor streamKey).Pairwise fun earlier later =>
        earlier.sender.producer = later.sender.producer := one.imp And.right
    have reflexive : ∀ packet ∈ world.packetsFor streamKey,
        packet.sender.producer = packet.sender.producer := fun _ _ => rfl
    exact Pairwise.forall_of_forall reflexive same mem otherMem
  · intro first later all produced
    cases later with
    | nil => rfl
    | cons next later =>
      rw [all] at one
      have openFirst := ((pairwise_cons.mp one).1 next mem_cons_self).1
      have mem : first ∈ world.packetsFor streamKey := by simp [all]
      rw [(counted.failure first (mem_packetsFor.mp mem).1 produced).2] at openFirst
      cases openFirst

end

end

/-- The server has answered and closed its side, and the next packet of the client cannot be queued. -/
def refusedLater : List Event :=
  sampleConnection ++ [sampleRequest ⟨1, u64_one⟩, .poll ⟨0⟩ 0 none] ++ sampleRead 0 [7] ++
    [.writerEnds 0, sampleRequest ⟨2, u64_two⟩, .poll ⟨0⟩ 0 none]

end PulseMesh.ProxyClientPool
