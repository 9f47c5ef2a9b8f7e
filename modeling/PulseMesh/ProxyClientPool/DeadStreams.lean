import PulseMesh.ProxyClientPool.Places

/-!
# Dead streams

When the reader of a stream finds it dead, its kill message should remove the writer and cause one empty
last packet for the client.  Housekeeping takes all the kill messages before it adds the new streams, so
a message that comes before its stream was added finds no writer: nothing is reported, and then the
writer of the dead stream is added.
-/

namespace PulseMesh.ProxyClientPool

open Machine Runs SubLib Accountant ProxyClient List Function Option World
open Relation (ReflTransGen)

variable {p : Profile} {config : ProxyClientConfig} {world next : World} {event : Event}

/-- The stream whose end is reported by an empty last packet. -/
def Posted.report : Posted → Option Nat
  | ⟨.killer _ removed, .inboundServerData msg⟩ =>
    if msg.lastData && msg.data.isEmpty then some removed else none
  | _ => none

def World.reported (world : World) : List Nat := world.mailbox.filterMap Posted.report

lemma reported_cleanUpDeadStream (kill) :
    (cleanUpDeadStream world kill).reported =
      world.reported ++ ((world.streamWriterChannels kill.streamKey).map (·.stream)).toList := by
  rw [reported, mailbox_cleanUpDeadStream, filterMap_append, serverDropReport]
  cases world.streamWriterChannels kill.streamKey <;> rfl

lemma Quiet.consumed (quiet : Quiet p world next) : next.consumed = world.consumed := by
  cases quiet with
  | removeWriter streamKey => exact (removeWriter_same streamKey).2.2.2
  | send _ _ sent =>
    obtain ⟨taken, -, sent⟩ := ok_of_bind sent
    cases sent
    rfl
  | die _ _ died =>
    obtain ⟨taken, -, died⟩ := ok_of_bind died
    cases died
    rfl
  | books | fail | add | spawn | handOver | turn => rfl

lemma Quiet.reported (quiet : Quiet p world next) : next.reported = world.reported := by
  have unreported {posted : Posted} (none : posted.report = none) :
      (world.mailbox ++ [posted]).filterMap Posted.report = world.reported := by
    simp [none, World.reported]
  cases quiet with
  | removeWriter streamKey => simp only [reported, removeWriter_same]
  | fail fails => exact unreported rfl
  | send _ _ sent =>
    obtain ⟨taken, -, sent⟩ := ok_of_bind sent
    cases sent
    exact unreported rfl
  | die _ _ died =>
    obtain ⟨taken, -, died⟩ := ok_of_bind died
    cases died
    rfl
  | books | add | spawn | handOver | turn => rfl

/-! ### A reported stream is gone -/

structure Gone (world : World) (stream : Nat) : Prop where
  known : stream < world.keys.length
  unwritten : ∀ key senders, world.streamWriterChannels key = some senders → senders.stream ≠ stream
  unawaited : stream ∉ streamsOf world.waiting

variable {stream : Nat}

section

variable (gone : Gone world stream)
include gone

lemma Gone.of_removed (writers : next.streamWriterChannels = update world.streamWriterChannels streamKey none)
    (waiting : next.waiting = world.waiting) (keys : next.keys = world.keys) : Gone next stream := by
  constructor
  · rw [keys]
    exact gone.known
  · intro key senders present
    rw [writers, update_apply] at present
    split at present
    · cases present
    · exact gone.unwritten key senders present
  · rw [waiting]
    exact gone.unawaited

lemma Gone.of_keys (writers : next.streamWriterChannels = world.streamWriterChannels)
    (waiting : next.waiting = world.waiting) (keys : next.keys = world.keys) : Gone next stream :=
  ⟨keys ▸ gone.known, writers ▸ gone.unwritten, waiting ▸ gone.unawaited⟩

lemma Gone.quiet (quiet : Quiet p world next) : Gone next stream := by
  cases quiet with
  | books | fail => exact gone.of_keys rfl rfl rfl
  | removeWriter streamKey =>
    exact gone.of_removed (streamWriterChannels_removeWriter streamKey) (removeWriter_same streamKey).1
      (keys_removeWriter streamKey)
  | @add entry streams waits =>
    have unawaited := gone.unawaited
    rw [waiting_addNewStream waits, streamsOf, map_cons, mem_cons, not_or] at unawaited
    constructor
    · exact gone.known
    · intro key senders present
      change update world.streamWriterChannels entry.1 (some entry.2) key = some senders at present
      rw [update_apply] at present
      split at present
      · cases present
        exact unawaited.1 ∘ Eq.symm
      · exact gone.unwritten key senders present
    · exact unawaited.2
  | spawn write peerAddr idle =>
    have known := gone.known
    constructor
    · rw [keys_spawnStreamReader, length_append]
      omega
    · exact gone.unwritten
    · -- the new stream has the next number
      rw [waiting_spawnStreamReader idle, streamsOf, map_append, mem_append, not_or]
      exact ⟨gone.unawaited, by simpa using known.ne⟩
  | handOver busy => exact gone.of_keys rfl (waiting_handOver busy) rfl
  | turn known running phase => exact gone.of_keys rfl rfl (keys_setReader known rfl)
  | send known reading sent =>
    obtain ⟨taken, -, sent⟩ := ok_of_bind sent
    cases sent
    exact gone.of_keys rfl rfl (keys_setReader known rfl)
  | die known reading died =>
    obtain ⟨taken, -, died⟩ := ok_of_bind died
    cases died
    exact gone.of_keys rfl rfl (keys_setReader known rfl)

lemma Gone.kill (kill) : Gone (cleanUpDeadStream world kill) stream :=
  gone.of_removed (streamWriterChannels_cleanUpDeadStream kill) (cleanUpDeadStream_same kill).1
    (cleanUpDeadStream_same kill).2.1

end

/-- The writer that a kill message removes was the only one of its stream. -/
lemma gone_of_kill (placed : Placed world.streamWriterChannels world.waiting world.keys)
    (present : world.streamWriterChannels kill.streamKey = some senders) :
    Gone (cleanUpDeadStream world kill) senders.stream := by
  have keyed := placed.writer_keyed _ _ present
  constructor
  · rw [(cleanUpDeadStream_same kill).2.1]
    exact (List.getElem?_eq_some_iff.mp keyed).1
  · intro key other stands same
    rw [streamWriterChannels_cleanUpDeadStream, update_apply] at stands
    split at stands
    · cases stands
    next elsewhere =>
      have otherKeyed := placed.writer_keyed _ _ stands
      rw [same, keyed] at otherKeyed
      exact elsewhere (some.inj otherKeyed).symm
  · rw [(cleanUpDeadStream_same kill).1]
    exact placed.apart _ _ present

/-- A stream is reported once at most, for one of the consumed messages, and is gone then. -/
structure Reported (world : World) : Prop where
  gone : ∀ stream ∈ world.reported, Gone world stream
  once : world.reported.Nodup
  fewer : world.reported.length ≤ world.consumed.length

lemma Reported.quiet (reported : Reported world) (quiet : Quiet p world next) : Reported next := by
  constructor
  · rw [quiet.reported]
    exact fun stream mem => (reported.gone stream mem).quiet quiet
  · rw [quiet.reported]
    exact reported.once
  · rw [quiet.reported, quiet.consumed]
    exact reported.fewer

lemma Reported.kill (reported : Reported world)
    (placed : Placed world.streamWriterChannels world.waiting world.keys) (kill) :
    Reported (cleanUpDeadStream world kill) := by
  have fewer := reported.fewer
  have added : (cleanUpDeadStream world kill).reported = _ := reported_cleanUpDeadStream kill
  cases present : world.streamWriterChannels kill.streamKey with
  | none =>
    rw [present, map_none, toList_none, append_nil] at added
    constructor
    · rw [added]
      exact fun stream mem => (reported.gone stream mem).kill kill
    · rw [added]
      exact reported.once
    · rw [added, (cleanUpDeadStream_same kill).2.2.2, length_append]
      omega
  | some senders =>
    rw [present, map_some] at added
    constructor
    · intro stream mem
      rw [added] at mem
      obtain old | new := mem_append.mp mem
      · exact (reported.gone stream old).kill kill
      · cases mem_singleton.mp new
        exact gone_of_kill placed present
    · rw [added]
      have fresh : senders.stream ∉ world.reported := fun mem =>
        (reported.gone _ mem).unwritten _ _ present rfl
      exact nodup_append'.mpr ⟨reported.once, by simp, by simpa using fresh⟩
    · rw [added, (cleanUpDeadStream_same kill).2.2.2, length_append]
      simpa using fewer

structure Supported (world : World) : Prop where
  placed : Placed world.streamWriterChannels world.waiting world.keys
  killed : Killed world
  reported : Reported world

lemma supported_initial : Supported initial := by
  refine ⟨placed_initial, killed_initial, ?_, ?_, ?_⟩ <;> simp [initial, reported]

lemma supported_move (supported : Supported world) (move : Move p world next) : Supported next := by
  refine ⟨placed_move supported.placed move, killed_move supported.killed move, ?_⟩
  cases move with
  | quiet quiet => exact supported.reported.quiet quiet
  | @kill kill kills waits =>
    apply Reported.kill
    · constructor
      · intro stream mem
        have gone := supported.reported.gone stream mem
        exact { gone with }
      · exact supported.reported.once
      · exact supported.reported.fewer
    · exact supported.placed

/-! ### One housekeeping -/

lemma consumed_cleanUpDeadStreams (kills) :
    (cleanUpDeadStreams world kills).consumed = world.consumed ++ kills.map (·.stream) := by
  induction kills generalizing world with
  | nil => exact (append_nil _).symm
  | cons kill kills ih => simp [cleanUpDeadStreams, ih]

lemma mem_reported_cleanUpDeadStreams (kills) (mem : stream ∈ world.reported) :
    stream ∈ (cleanUpDeadStreams world kills).reported := by
  induction kills generalizing world with
  | nil => exact mem
  | cons kill kills ih =>
    apply ih
    rw [reported_cleanUpDeadStream]
    exact mem_append_left _ mem

/-- What the messages report had a writer in the pool. -/
lemma of_mem_reported_cleanUpDeadStreams (mem : stream ∈ (cleanUpDeadStreams world kills).reported) :
    stream ∈ world.reported ∨
      ∃ key senders, world.streamWriterChannels key = some senders ∧ senders.stream = stream := by
  induction kills generalizing world with
  | nil => exact .inl mem
  | cons kill kills ih =>
    obtain reported | ⟨key, senders, stands, same⟩ := ih mem
    · rw [reported_cleanUpDeadStream] at reported
      obtain old | new := mem_append.mp reported
      · exact .inl old
      · obtain ⟨senders, present, same⟩ := map_eq_some_iff.mp (mem_toList.mp new)
        exact .inr ⟨kill.streamKey, senders, present, same⟩
    · rw [streamWriterChannels_cleanUpDeadStream, update_apply] at stands
      split at stands
      · cases stands
      · exact .inr ⟨key, senders, stands, same⟩

/-- The kill message finds the writer of its own stream. -/
def FindsOwnWriter (world : World) (kill : Kill) : Prop :=
  (world.streamWriterChannels kill.streamKey).map (·.stream) = some kill.stream

instance (kill : Kill) : Decidable (FindsOwnWriter world kill) :=
  inferInstanceAs (Decidable (_ = _))

lemma mem_reported_of_own (once : (kills.map (·.stream)).Nodup)
    (own : ∀ kill ∈ kills, FindsOwnWriter world kill) (mem : kill ∈ kills) :
    kill.stream ∈ (cleanUpDeadStreams world kills).reported := by
  induction kills generalizing world with
  | nil => cases mem
  | cons first kills ih =>
    obtain ⟨fresh, once⟩ := nodup_cons.mp once
    obtain ⟨here, later⟩ := forall_mem_cons.mp own
    obtain rfl | mem := mem_cons.mp mem
    · rw [cleanUpDeadStreams]
      apply mem_reported_cleanUpDeadStreams
      rw [reported_cleanUpDeadStream]
      apply mem_append_right
      exact mem_toList.mpr here
    · apply ih once _ mem
      intro other otherMem
      have found := later other otherMem
      -- no two messages are of the same stream, so they have different keys
      have elsewhere : other.streamKey ≠ first.streamKey := by
        intro same
        rw [FindsOwnWriter, same, here] at found
        exact fresh (mem_map.mpr ⟨other, otherMem, (some.inj found).symm⟩)
      rw [FindsOwnWriter, streamWriterChannels_cleanUpDeadStream, update_of_ne elsewhere]
      exact found

/-! ### All along a run -/

/-- Every stream whose kill message was consumed is out of the pool and was reported once. -/
def DeadStreamsStayDead (world : World) : Prop :=
  ∀ stream ∈ world.consumed,
    (∀ key senders, world.streamWriterChannels key = some senders → senders.stream ≠ stream) ∧
      world.reported.count stream = 1

lemma deadStreamsStayDead_iff_subset (supported : Supported world) :
    DeadStreamsStayDead world ↔ world.consumed ⊆ world.reported := by
  constructor
  · intro dead stream mem
    apply count_pos_iff.mp
    rw [(dead stream mem).2]
    exact Nat.one_pos
  · intro subset stream mem
    exact ⟨(supported.reported.gone stream (subset mem)).unwritten,
      count_eq_one_of_mem supported.reported.once (subset mem)⟩

/-- If all consumed messages were reported, nothing else was. -/
lemma not_mem_reported (supported : Supported world) (subset : world.consumed ⊆ world.reported)
    (waits : kill ∈ world.streamKiller) : kill.stream ∉ world.reported := by
  obtain ⟨once, -, disjoint⟩ := nodup_append'.mp supported.killed.once
  have perm := (subperm_of_subset once subset).perm_of_length_le supported.reported.fewer
  intro mem
  exact disjoint (perm.mem_iff.mpr mem) (mem_map_of_mem waits)

lemma consumed_of_quiet (moves : ReflTransGen (Quiet p) world next) : next.consumed = world.consumed := by
  induction moves with
  | refl => rfl
  | tail _ quiet ih => exact quiet.consumed.trans ih

lemma reported_of_quiet (moves : ReflTransGen (Quiet p) world next) : next.reported = world.reported := by
  induction moves with
  | refl => rfl
  | tail _ quiet ih => exact quiet.reported.trans ih

/-- Whenever the pool does its housekeeping, each kill message finds the writer of its own stream. -/
def KillsOwnWriters (world : World) (event : Event) : Prop :=
  Housekeeps world event → ∀ kill ∈ world.streamKiller, FindsOwnWriter world kill

instance (event : Event) : Decidable (KillsOwnWriters world event) :=
  inferInstanceAs (Decidable (_ → _))

lemma subset_cleanUpDeadStreams_iff (supported : Supported world) (subset : world.consumed ⊆ world.reported) :
    (cleanUpDeadStreams world world.streamKiller).consumed ⊆
        (cleanUpDeadStreams world world.streamKiller).reported ↔
      ∀ kill ∈ world.streamKiller, FindsOwnWriter world kill := by
  rw [consumed_cleanUpDeadStreams, append_subset]
  constructor
  · rintro ⟨-, kills⟩ kill mem
    obtain reported | ⟨key, senders, stands, same⟩ :=
      of_mem_reported_cleanUpDeadStreams (kills (mem_map_of_mem mem))
    · exact absurd reported (not_mem_reported supported subset mem)
    · have keyed := supported.placed.writer_keyed key senders stands
      rw [same, supported.killed.keyed kill mem] at keyed
      rw [FindsOwnWriter, some.inj keyed, stands, map_some, same]
  · intro own
    refine ⟨fun stream mem => mem_reported_cleanUpDeadStreams _ (subset mem), ?_⟩
    intro stream mem
    obtain ⟨kill, waits, rfl⟩ := mem_map.mp mem
    exact mem_reported_of_own (nodup_append'.mp supported.killed.once).2.1 own waits

lemma deadStreamsStayDead_step_iff (supported : Supported world) (dead : DeadStreamsStayDead world)
    (stepped : step p config world event = .ok next) :
    DeadStreamsStayDead next ↔ KillsOwnWriters world event := by
  have subset := (deadStreamsStayDead_iff_subset supported).mp dead
  rw [deadStreamsStayDead_iff_subset (invariant_of_step (fun _ _ => supported_move) supported stepped)]
  by_cases housekeeps : Housekeeps world event
  · have quiet := step_housekeeps stepped housekeeps
    rw [consumed_of_quiet quiet, reported_of_quiet quiet, subset_cleanUpDeadStreams_iff supported subset]
    exact ⟨fun own _ => own, fun own => own housekeeps⟩
  · have quiet := step_quiet stepped housekeeps
    rw [consumed_of_quiet quiet, reported_of_quiet quiet]
    exact iff_of_true subset fun does => absurd does housekeeps

/-- Housekeeping always comes to an end. -/
lemma killsOwnWriters_of_step
    (own : ∀ next, step p config world event = .ok next → KillsOwnWriters world event) :
    KillsOwnWriters world event := by
  intro housekeeps
  cases event with
  | package => exact own _ rfl housekeeps
  | poll | established | look | read | writerEnds => cases housekeeps

theorem dead_streams_stay_dead_iff (p : Profile) (config : ProxyClientConfig) (events : List Event) :
    (∀ before after reached, events = before ++ after →
      run (step p config) World.initial before = .ok reached → DeadStreamsStayDead reached) ↔
      Along (step p config) KillsOwnWriters World.initial events := by
  have initially : DeadStreamsStayDead initial := by
    intro stream mem
    cases mem
  rw [always_iff_along (fun _ _ _ => invariant_of_step fun _ _ => supported_move)
    (fun _ _ _ => deadStreamsStayDead_step_iff) supported_initial initially]
  constructor
  · exact along_mono fun _ _ => killsOwnWriters_of_step
  · exact along_mono fun _ _ own _ _ => own

theorem closed_later_stays_dead :
    ∃ world, run (step .debug sampleConfig) World.initial closedLater = .ok world ∧
      world.consumed = [0] ∧ DeadStreamsStayDead world := by
  obtain ⟨world, reached, consumed⟩ : ∃ world, run (step .debug sampleConfig) initial closedLater =
      .ok world ∧ world.consumed = [0] := by
    decide +kernel
  have own : Along (step .debug sampleConfig) KillsOwnWriters initial closedLater := by
    decide +kernel
  exact ⟨world, reached, consumed,
    (dead_streams_stay_dead_iff .debug sampleConfig closedLater).mpr own closedLater [] world
      (append_nil _).symm reached⟩

/-- The server closes the stream before the next packet of the client comes. -/
def closedAtOnce : List Event :=
  sampleConnection ++ sampleRead 0 [7] ++ sampleRead 0 [] ++ [sampleRequest ⟨1, u64_one⟩]

theorem closed_at_once_comes_back :
    ∃ world, run (step .debug sampleConfig) World.initial closedAtOnce = .ok world ∧
      0 ∈ world.consumed ∧ world.reported = [] ∧
      world.streamWriterChannels sampleKey = some ⟨0, sampleServer⟩ ∧ ¬DeadStreamsStayDead world := by
  obtain ⟨world, reached, killed, reported, stands⟩ : ∃ world, run (step .debug sampleConfig) initial
      closedAtOnce = .ok world ∧ 0 ∈ world.consumed ∧ world.reported = [] ∧
        world.streamWriterChannels sampleKey = some ⟨0, sampleServer⟩ := by
    decide +kernel
  exact ⟨world, reached, killed, reported, stands, fun dead => (dead 0 killed).1 sampleKey _ stands rfl⟩

end PulseMesh.ProxyClientPool
