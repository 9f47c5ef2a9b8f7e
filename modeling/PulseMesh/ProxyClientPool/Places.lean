import PulseMesh.ProxyClientPool.Moves

/-!
# Where a stream is

A stream that was connected to waits until it is handed to the pool, and then its writer stands under its
key until it is removed or another stream with the same key takes the place.  It does not come back.

A reader that has ended has sent at most one message to the stream killer.
-/

namespace PulseMesh.ProxyClientPool

open Machine Runs SubLib Accountant ProxyClient Function List

/-- The keys of the streams. -/
def World.keys (world : World) : List StreamKey := world.readers.map (·.streamKey)

/-- The streams that the pool is still to get. -/
def World.waiting (world : World) : List (StreamKey × StreamSenders) :=
  world.streamAdder ++
    world.establishing.toList.map fun entry => (entry.write.payload.streamKey, entry.senders)

def streamsOf (waiting : List (StreamKey × StreamSenders)) : List Nat := waiting.map (·.2.stream)

variable {world next : World}

/-! ### Keys -/

@[simp] lemma keys_sendShutdownSignalToStreamReader (stream : Nat) :
    (sendShutdownSignalToStreamReader world stream).keys = world.keys := by
  simp only [World.keys, sendShutdownSignalToStreamReader]
  apply ext_getElem?
  intro index
  simp only [getElem?_map, getElem?_modify]
  split <;> cases world.readers[index]? <;> rfl

lemma readers_removeWriter (world streamKey) :
    (removeWriter world streamKey).readers = world.readers ∨
      ∃ stream, (removeWriter world streamKey).readers =
        (sendShutdownSignalToStreamReader world stream).readers := by
  unfold removeWriter
  split
  next senders _ => exact .inr ⟨senders.stream, rfl⟩
  next => exact .inl rfl

@[simp] lemma keys_removeWriter (streamKey) : (removeWriter world streamKey).keys = world.keys := by
  obtain same | ⟨stream, signalled⟩ := readers_removeWriter world streamKey
  · rw [World.keys, same, World.keys]
  · rw [World.keys, signalled]
    exact keys_sendShutdownSignalToStreamReader stream

variable {stream : Nat}

lemma getElem?_keys (known : world.readers[stream]? = some reader) :
    world.keys[stream]? = some reader.streamKey := by
  rw [World.keys, getElem?_map, known]
  rfl

variable {after : StreamReader}

lemma keys_setReader (known : world.readers[stream]? = some before) (same : after.streamKey = before.streamKey) :
    (setReader world stream after).keys = world.keys := by
  obtain ⟨inside, stands⟩ := List.getElem?_eq_some_iff.mp (getElem?_keys known)
  rw [World.keys, setReader, map_set, same, ← stands]
  exact set_getElem_self inside

/-! ### Writers -/

lemma streamWriterChannels_removeWriter (streamKey) :
    (removeWriter world streamKey).streamWriterChannels =
      update world.streamWriterChannels streamKey none := by
  unfold removeWriter
  split
  · rfl
  next absent => exact (update_eq_self_iff.mpr absent.symm).symm

@[simp] lemma removeWriter_same (streamKey) :
    (removeWriter world streamKey).waiting = world.waiting ∧
      (removeWriter world streamKey).mailbox = world.mailbox ∧
      (removeWriter world streamKey).streamKiller = world.streamKiller ∧
      (removeWriter world streamKey).consumed = world.consumed := by
  unfold removeWriter
  split <;> exact ⟨rfl, rfl, rfl, rfl⟩

/-! ### New streams -/

variable {entry : StreamKey × StreamSenders}

lemma waiting_spawnStreamReader (idle : world.establishing = none) :
    (spawnStreamReader world write peerAddr).waiting =
      world.waiting ++ [(write.payload.streamKey, ⟨world.keys.length, peerAddr⟩)] := by
  simp [World.waiting, World.keys, spawnStreamReader, idle]

lemma keys_spawnStreamReader :
    (spawnStreamReader world write peerAddr).keys = world.keys ++ [write.payload.streamKey] := by
  simp [World.keys, spawnStreamReader, StreamReader.new]

lemma waiting_handOver (busy : world.establishing = some ⟨write, senders⟩) :
    (handOver world write senders).waiting = world.waiting := by
  simp [World.waiting, handOver, busy]

lemma waiting_addNewStream (waits : world.streamAdder = entry :: streams) :
    world.waiting = entry :: (addNewStream { world with streamAdder := streams } entry).waiting := by
  rw [World.waiting, waits]
  rfl

/-! ### Dead streams -/

lemma streamWriterChannels_cleanUpDeadStream (kill) :
    (cleanUpDeadStream world kill).streamWriterChannels =
      update world.streamWriterChannels kill.streamKey none := by
  unfold cleanUpDeadStream
  dsimp only
  split
  · exact streamWriterChannels_removeWriter kill.streamKey
  next absent => exact (update_eq_self_iff.mpr absent.symm).symm

@[simp] lemma cleanUpDeadStream_same (kill) :
    (cleanUpDeadStream world kill).waiting = world.waiting ∧
      (cleanUpDeadStream world kill).keys = world.keys ∧
      (cleanUpDeadStream world kill).streamKiller = world.streamKiller ∧
      (cleanUpDeadStream world kill).consumed = world.consumed ++ [kill.stream] := by
  unfold cleanUpDeadStream
  dsimp only
  split
  · obtain ⟨waiting, -, streamKiller, consumed⟩ := removeWriter_same kill.streamKey
    exact ⟨waiting, keys_removeWriter kill.streamKey, streamKiller, consumed⟩
  · exact ⟨rfl, rfl, rfl, rfl⟩

/-- The report that a kill message causes. -/
def serverDropReport (world : World) (kill : Kill) : Option Posted :=
  (world.streamWriterChannels kill.streamKey).map fun senders =>
    ⟨.killer kill.stream senders.stream,
      terminatingPackage kill.streamKey kill.sequenceNumber senders.peerAddr⟩

lemma mailbox_cleanUpDeadStream (kill) :
    (cleanUpDeadStream world kill).mailbox = world.mailbox ++ (serverDropReport world kill).toList := by
  unfold cleanUpDeadStream serverDropReport
  dsimp only
  split
  next senders present =>
    simp only [present, post, removeWriter_same]
    rfl
  next absent =>
    rw [absent]
    exact (append_nil _).symm

/-! ### Places -/

/-- Each stream is under its own key, and waits at most once and only before its writer is in the pool. -/
structure Placed (writers : StreamKey → Option StreamSenders) (waiting : List (StreamKey × StreamSenders))
    (keys : List StreamKey) : Prop where
  writer_keyed : ∀ key senders, writers key = some senders → keys[senders.stream]? = some key
  waiting_keyed : ∀ entry ∈ waiting, keys[entry.2.stream]? = some entry.1
  waiting_once : (streamsOf waiting).Nodup
  apart : ∀ key senders, writers key = some senders → senders.stream ∉ streamsOf waiting

section

variable {keys : List StreamKey}

lemma Placed.remove (placed : Placed writers waiting keys) (streamKey) :
    Placed (update writers streamKey none) waiting keys := by
  have shrinks {key senders} (present : update writers streamKey none key = some senders) :
      writers key = some senders := by
    rw [update_apply] at present
    split at present
    · cases present
    · exact present
  constructor
  · exact fun key senders present => placed.writer_keyed key senders (shrinks present)
  · exact placed.waiting_keyed
  · exact placed.waiting_once
  · exact fun key senders present => placed.apart key senders (shrinks present)

lemma Placed.add (placed : Placed writers (entry :: waiting) keys) :
    Placed (update writers entry.1 (some entry.2)) waiting keys := by
  obtain ⟨here, later⟩ := forall_mem_cons.mp placed.waiting_keyed
  obtain ⟨fresh, once⟩ := nodup_cons.mp placed.waiting_once
  constructor
  · intro key senders present
    rw [update_apply] at present
    split at present
    next same =>
      cases present
      rw [same]
      exact here
    next => exact placed.writer_keyed key senders present
  · exact later
  · exact once
  · intro key senders present
    rw [update_apply] at present
    split at present
    · cases present
      exact fresh
    · exact fun mem => placed.apart key senders present (mem_cons_of_mem _ mem)

lemma Placed.lt_length (placed : Placed writers waiting keys) (mem : stream ∈ streamsOf waiting) :
    stream < keys.length := by
  obtain ⟨entry, waits, rfl⟩ := mem_map.mp mem
  exact (List.getElem?_eq_some_iff.mp (placed.waiting_keyed entry waits)).1

lemma Placed.spawn (placed : Placed writers waiting keys) (key peerAddr) :
    Placed writers (waiting ++ [(key, ⟨keys.length, peerAddr⟩)]) (keys ++ [key]) := by
  have keeps {stream : Nat} {key' : StreamKey} (known : keys[stream]? = some key') :
      (keys ++ [key])[stream]? = some key' := by
    rw [List.getElem?_append_left (List.getElem?_eq_some_iff.mp known).1, known]
  constructor
  · exact fun key' senders present => keeps (placed.writer_keyed key' senders present)
  · intro entry mem
    obtain old | rfl := mem_append.mp mem |>.imp_right mem_singleton.mp
    · exact keeps (placed.waiting_keyed entry old)
    · simp
  · rw [streamsOf, map_append]
    apply nodup_append'.mpr
    refine ⟨placed.waiting_once, by simp, ?_⟩
    intro stream old new
    cases mem_singleton.mp new
    exact absurd (placed.lt_length old) (lt_irrefl _)
  · intro key' senders present mem
    rw [streamsOf, map_append] at mem
    obtain old | new := mem_append.mp mem
    · exact placed.apart key' senders present old
    · have inside := (List.getElem?_eq_some_iff.mp (placed.writer_keyed key' senders present)).1
      simp only [map_cons, map_nil, mem_singleton] at new
      omega

end

lemma placed_initial :
    Placed World.initial.streamWriterChannels World.initial.waiting World.initial.keys := by
  constructor <;> simp [World.initial, World.waiting, streamsOf]

section

variable (placed : Placed world.streamWriterChannels world.waiting world.keys)
include placed

lemma placed_setReader (known : world.readers[stream]? = some before)
    (same : after.streamKey = before.streamKey) :
    Placed world.streamWriterChannels world.waiting (setReader world stream after).keys := by
  rw [keys_setReader known same]
  exact placed

lemma placed_move (move : Move p world next) : Placed next.streamWriterChannels next.waiting next.keys := by
  cases move with
  | @kill kill kills waiting =>
    simp only [streamWriterChannels_cleanUpDeadStream, cleanUpDeadStream_same]
    exact placed.remove kill.streamKey
  | quiet quiet =>
    cases quiet with
    | books | fail => exact placed
    | removeWriter streamKey =>
      simp only [streamWriterChannels_removeWriter, removeWriter_same, keys_removeWriter]
      exact placed.remove streamKey
    | @add stream streams waits =>
      rw [waiting_addNewStream waits] at placed
      exact placed.add
    | spawn write peerAddr idle =>
      rw [waiting_spawnStreamReader idle, keys_spawnStreamReader]
      exact placed.spawn write.payload.streamKey peerAddr
    | handOver busy =>
      rw [waiting_handOver busy]
      exact placed
    | turn known running phase => exact placed_setReader placed known rfl
    | send known reading sent =>
      obtain ⟨taken, -, sent⟩ := ok_of_bind sent
      cases sent
      exact placed_setReader placed known rfl
    | die known reading died =>
      obtain ⟨taken, -, died⟩ := ok_of_bind died
      cases died
      exact placed_setReader placed known rfl

end

/-! ### Ends -/

def Ended (world : World) (stream : Nat) : Prop :=
  ∃ reader, world.readers[stream]? = some reader ∧ reader.phase = .ended

lemma ended_removeWriter (ended : Ended world stream) (streamKey) :
    Ended (removeWriter world streamKey) stream := by
  obtain ⟨reader, known, phase⟩ := ended
  obtain same | ⟨signalled, same⟩ := readers_removeWriter world streamKey
  · exact ⟨reader, by rw [same, known], phase⟩
  · rw [Ended, same, sendShutdownSignalToStreamReader, getElem?_modify, known]
    by_cases here : signalled = stream
    · exact ⟨{ reader with shutdownSignal := true }, by simp [here], phase⟩
    · exact ⟨reader, by simp [here], phase⟩

lemma ended_cleanUpDeadStream (ended : Ended world stream) (kill) :
    Ended (cleanUpDeadStream world kill) stream := by
  unfold cleanUpDeadStream
  dsimp only
  split
  · apply ended_removeWriter
    exact ended
  · exact ended

/-- The reader that changes has not ended, so it is another one. -/
lemma ended_setReader (ended : Ended world stream) (known : world.readers[changed]? = some before)
    (running : before.phase ≠ .ended) : Ended (setReader world changed after) stream := by
  obtain ⟨reader, knownHere, phase⟩ := ended
  have other : changed ≠ stream := by
    rintro rfl
    cases knownHere.symm.trans known
    exact running phase
  exact ⟨reader, by rw [setReader, getElem?_set_ne other, knownHere], phase⟩

/-- The streams whose readers have called for the killer. -/
def World.killed (world : World) : List Nat := world.consumed ++ world.streamKiller.map (·.stream)

/-- The messages to the killer have the keys of their streams, and an ended reader sends no more. -/
structure Killed (world : World) : Prop where
  keyed : ∀ kill ∈ world.streamKiller, world.keys[kill.stream]? = some kill.streamKey
  once : world.killed.Nodup
  ended : ∀ stream ∈ world.killed, Ended world stream

lemma killed_initial : Killed World.initial := by
  constructor <;> simp [World.initial, World.killed]

lemma killed_setReader (killed : Killed world) (known : world.readers[stream]? = some before)
    (running : before.phase ≠ .ended)
    (same : after.streamKey = before.streamKey) : Killed (setReader world stream after) := by
  constructor
  · rw [keys_setReader known same]
    exact killed.keyed
  · exact killed.once
  · exact fun stream mem => ended_setReader (killed.ended stream mem) known running

lemma killed_move (killed : Killed world) (move : Move p world next) : Killed next := by
  cases move with
  | @kill kill kills waiting =>
    have same : (cleanUpDeadStream { world with streamKiller := kills } kill).killed = world.killed := by
      simp [World.killed, waiting]
    constructor
    · simp only [cleanUpDeadStream_same]
      exact fun other mem => killed.keyed other (by rw [waiting]; exact mem_cons_of_mem _ mem)
    · exact same ▸ killed.once
    · intro stream mem
      rw [same] at mem
      apply ended_cleanUpDeadStream
      exact killed.ended stream mem
  | quiet quiet =>
    cases quiet with
    | books | fail | add | handOver => exact { killed with }
    | removeWriter streamKey =>
      have same : (removeWriter world streamKey).killed = world.killed := by
        simp only [World.killed, removeWriter_same]
      constructor
      · simpa only [removeWriter_same, keys_removeWriter] using killed.keyed
      · exact same ▸ killed.once
      · exact fun stream mem => ended_removeWriter (killed.ended stream (same ▸ mem)) streamKey
    | spawn write peerAddr idle =>
      have keeps {stream : Nat} {reader : StreamReader} (known : world.readers[stream]? = some reader) :
          (spawnStreamReader world write peerAddr).readers[stream]? = some reader := by
        rw [spawnStreamReader, List.getElem?_append_left (List.getElem?_eq_some_iff.mp known).1, known]
      constructor
      · intro kill mem
        obtain ⟨reader, known, -⟩ := killed.ended kill.stream (mem_append_right _ (mem_map_of_mem mem))
        rw [getElem?_keys (keeps known), ← getElem?_keys known]
        exact killed.keyed kill mem
      · exact killed.once
      · intro stream mem
        obtain ⟨reader, known, phase⟩ := killed.ended stream mem
        exact ⟨reader, keeps known, phase⟩
    | turn known running phase => exact killed_setReader killed known running rfl
    | @send stream reader known reading data next sent =>
      obtain ⟨taken, -, sent⟩ := ok_of_bind sent
      cases sent
      have turned : Killed (setReader world stream { reader with sequencer := taken.2, phase := .looking }) :=
        killed_setReader killed known (by simp [reading]) rfl
      exact { turned with }
    | @die stream reader known reading next died =>
      obtain ⟨taken, -, died⟩ := ok_of_bind died
      cases died
      have turned : Killed (setReader world stream { reader with sequencer := taken.2, phase := .ended }) :=
        killed_setReader killed known (by simp [reading]) rfl
      have fresh : stream ∉ world.killed := by
        intro mem
        obtain ⟨other, knownHere, phase⟩ := killed.ended stream mem
        cases known.symm.trans knownHere
        cases reading.symm.trans phase
      have inside := (List.getElem?_eq_some_iff.mp known).1
      constructor
      · intro kill mem
        obtain old | new := mem_append.mp mem
        · exact turned.keyed kill old
        · cases mem_singleton.mp new
          have same : (setReader world stream { reader with sequencer := taken.2, phase := .ended }).keys =
            world.keys := keys_setReader known rfl
          exact (congrArg (·[stream]?) same).trans (getElem?_keys known)
      · rw [World.killed, map_append, ← append_assoc]
        exact nodup_append'.mpr ⟨turned.once, by simp, by simpa [World.killed, setReader] using fresh⟩
      · intro other mem
        rw [World.killed, map_append, ← append_assoc] at mem
        obtain old | new := mem_append.mp mem
        · exact turned.ended other old
        · cases mem_singleton.mp new
          exact ⟨_, getElem?_set_self inside, rfl⟩

end PulseMesh.ProxyClientPool
