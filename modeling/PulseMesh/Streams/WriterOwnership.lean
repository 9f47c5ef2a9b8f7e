import PulseMesh.Streams.StreamHandlerPool

/-!
# Which stream a writer belongs to

Reports that a stream has closed name its peer's address, and the pool then removes whatever writer it has under
the key of that address.  Several streams with one key take each other's writers away.  As long as the streams
and the attempts to connect that have one key come one after another, the pool has the writers of all streams
that live.
-/

namespace PulseMesh.Streams

open Machine SubLib Runs StreamHandlerPool DispatcherNodeQueryResponse PeerStream AList List

variable {env : PoolEnvironment} {network next : Network} {event : NetworkEvent}

/-! ### What the pool does with a packet -/

/-- The address that a packet goes to. -/
def DispatcherNodeQueryResponse.target (msg : DispatcherNodeQueryResponse) : Option SocketAddr := do
  let metadata ← msg.result
  let nodeAddr ← metadata.nodeAddrOpt
  let port ← nodeAddr.clone.ports.head?
  return ⟨nodeAddr.clone.ipAddr, port⟩

def packetOf (env : PoolEnvironment) (msg : DispatcherNodeQueryResponse) : SequencedPacket :=
  if msg.context.sequenceNumber.isNone then
    ⟨env.json msg.context.data, ⟨0, u64_zero⟩, false⟩
  else
    sequencedPacketOf msg.context

lemma sendPacketOnOpenStream_eq (receives : Nat → Bool) (msg peerAddr tx) :
    sendPacketOnOpenStream env receives msg peerAddr tx =
      if receives tx.channel then
        .ok (msg.context.lastData, [.send tx.channel (packetOf env msg) msg.context.lastData])
      else
        .ok (true, []) := by
  unfold sendPacketOnOpenStream packetOf
  cases msg.context.sequenceNumber <;> cases receives tx.channel <;> rfl

/-- All that can come of a packet. -/
inductive PacketHandled (env : PoolEnvironment) (receives : Nat → Bool) (pool : StreamHandlerPool)
    (msg : DispatcherNodeQueryResponse) : StreamHandlerPool × List PoolEffect → Prop
  | unaddressed (text : String) (nowhere : msg.target = none) :
    PacketHandled env receives pool msg (pool, [.logError text])
  | sent (peerAddr : SocketAddr) (tx : Sender) (target : msg.target = some peerAddr)
    (stored : pool.streamWriters.lookup (.ofSocketAddr peerAddr) = some (some tx))
    (received : receives tx.channel = true) :
    PacketHandled env receives pool msg
      (if msg.context.lastData then ⟨pool.streamWriters.erase (.ofSocketAddr peerAddr)⟩ else pool,
        [.send tx.channel (packetOf env msg) msg.context.lastData])
  | disabled (peerAddr : SocketAddr) (tx : Sender) (target : msg.target = some peerAddr)
    (stored : pool.streamWriters.lookup (.ofSocketAddr peerAddr) = some (some tx))
    (stopped : receives tx.channel = false) :
    PacketHandled env receives pool msg (⟨pool.streamWriters.erase (.ofSocketAddr peerAddr)⟩, [])
  | delayed (peerAddr : SocketAddr) (target : msg.target = some peerAddr)
    (opening : pool.streamWriters.lookup (.ofSocketAddr peerAddr) = some none) :
    PacketHandled env receives pool msg (pool, [.submit msg])
  | discarded (peerAddr : SocketAddr) (text : String) (target : msg.target = some peerAddr)
    (absent : pool.streamWriters.lookup (.ofSocketAddr peerAddr) = none) :
    PacketHandled env receives pool msg (pool, [.logError text])
  | connecting (peerAddr : SocketAddr) (target : msg.target = some peerAddr)
    (absent : pool.streamWriters.lookup (.ofSocketAddr peerAddr) = none) (remote : peerAddr.ip ≠ localhost) :
    PacketHandled env receives pool msg
      (⟨pool.streamWriters.insert (.ofSocketAddr peerAddr) none⟩, [.connect peerAddr msg])

variable {pool : StreamHandlerPool} {msg : DispatcherNodeQueryResponse} {peerAddr : SocketAddr}

lemma packetHandled_of_sendOrQueuePacket (target : msg.target = some peerAddr) :
    PacketHandled env receives pool msg
      (match sendOrQueuePacket env receives pool msg peerAddr with
        | .ok handled => handled
        | .error e => (pool, [.logError e])) := by
  unfold sendOrQueuePacket
  cases found : pool.streamWriters.lookup (.ofSocketAddr peerAddr) with
  | none =>
    by_cases isLocal : peerAddr.ip = localhost
    · simp only [isLocal, if_true]
      exact .discarded peerAddr _ target found
    · simp only [isLocal, if_false]
      exact .connecting peerAddr target found isLocal
  | some writer =>
    cases writer with
    | none => exact .delayed peerAddr target found
    | some tx =>
      simp only [sendPacketOnOpenStream_eq]
      cases received : receives tx.channel with
      | false => exact .disabled peerAddr tx target found received
      | true => exact .sent peerAddr tx target found received

variable {outcome : StreamHandlerPool × List PoolEffect}

lemma packetHandled (handled : pool.handleDispatcherNodeQueryResponse env receives msg = .ok outcome) :
    PacketHandled env receives pool msg outcome := by
  unfold handleDispatcherNodeQueryResponse extractNodeAddr at handled
  rcases found : msg.result with _ | ⟨publicKey, _ | nodeAddr⟩
  · simp only [found] at handled
    cases handled
    exact .unaddressed _ (by simp [target, found])
  · simp only [found] at handled
    cases handled
    exact .unaddressed _ (by simp [target, found])
  · simp only [found] at handled
    cases ports : nodeAddr.clone.ports with
    | nil =>
      simp only [ports] at handled
      cases handled
    | cons port rest =>
      have target : msg.target = some ⟨nodeAddr.clone.ipAddr, port⟩ := by
        simp [target, found, ports]
      have sorted : PacketHandled env receives pool msg _ := packetHandled_of_sendOrQueuePacket target
      simp only [ports] at handled
      split at handled
      next outcome' sent =>
        cases handled
        rw [sent] at sorted
        exact sorted
      next e failed =>
        cases handled
        rw [failed] at sorted
        exact sorted

/-! ### Streams that come one after another -/

/-- The stream is open, and so is the way to its peer. -/
def Live (network : Network) (stream : PeerStream) : Prop :=
  stream ∈ network.streams ∧ stream.removal = none ∧ stream.stopped = false ∧ stream.finished = false

/-- No stream and no attempt has a key that another has already. -/
def Apart (network : Network) : NetworkEvent → Prop
  | .accepted msg =>
    (∀ stream ∈ network.streams, stream.key ≠ .ofSocketAddr msg.peerAddr) ∧
      ∀ attempt ∈ network.attempts, attempt.key ≠ .ofSocketAddr msg.peerAddr
  | .response index =>
    ∀ msg ∈ network.mailbox[index]?, ∀ peerAddr ∈ msg.target, peerAddr.ip ≠ localhost →
      network.pool.streamWriters.lookup (.ofSocketAddr peerAddr) = none →
      ∀ stream ∈ network.streams, stream.key ≠ .ofSocketAddr peerAddr
  | _ => True

instance (network : Network) (event : NetworkEvent) : Decidable (Apart network event) := by
  unfold Apart
  split <;> infer_instance

/-- The pool's writers are those of the streams. -/
structure Tidy (network : Network) : Prop where
  streamsApart : (network.streams.map PeerStream.key).Nodup
  attemptsApart : (network.attempts.map Attempt.key).Nodup
  bothApart : ∀ attempt ∈ network.attempts, ∀ stream ∈ network.streams, stream.key ≠ attempt.key
  channelsApart : (network.streams.map PeerStream.channel).Nodup
  channelsUsed : ∀ stream ∈ network.streams, stream.channel < network.channels
  opening : ∀ attempt ∈ network.attempts, network.pool.streamWriters.lookup attempt.key = some none
  owned : ∀ key tx, network.pool.streamWriters.lookup key = some (some tx) →
    ∃ stream ∈ network.streams, stream.key = key ∧ stream.channel = tx.channel
  stored : ∀ stream ∈ network.streams, stream.stopped = false → stream.finished = false →
    network.pool.streamWriters.lookup stream.key = some (some ⟨stream.channel, stream.peerAddr⟩)

lemma tidy_new : Tidy .new := by
  constructor <;> simp [Network.new, new]

/-- It is the same stream, and it may have come closer to its end. -/
structure Ages (before after : PeerStream) : Prop where
  channel : after.channel = before.channel
  peerAddr : after.peerAddr = before.peerAddr
  stopped : after.stopped = false → before.stopped = false
  finished : after.finished = false → before.finished = false

lemma Ages.refl (stream) : Ages stream stream := ⟨rfl, rfl, id, id⟩

lemma Ages.key {before after} (ages : Ages before after) : after.key = before.key :=
  congrArg StreamWriterKey.ofSocketAddr ages.peerAddr

namespace Tidy

variable (tidy : Tidy network)
include tidy

/-- An attempt is over. -/
lemma forgetAttempt (index : Nat) :
    Tidy { network with attempts := network.attempts.eraseIdx index } := by
  have fewer := eraseIdx_sublist network.attempts index
  refine { tidy with attemptsApart := ?_, bothApart := ?_, opening := ?_ }
  · exact tidy.attemptsApart.sublist (fewer.map _)
  · exact fun attempt listed => tidy.bothApart attempt (fewer.subset listed)
  · exact fun attempt listed => tidy.opening attempt (fewer.subset listed)

/-- No other attempt has the key of this one. -/
lemma key_ne_of_eraseIdx (found : network.attempts[index]? = some attempt) :
    ∀ other ∈ network.attempts.eraseIdx index, other.key ≠ attempt.key := by
  obtain ⟨inside, rfl⟩ := List.getElem?_eq_some_iff.mp found
  have split := (getElem_cons_eraseIdx_perm inside).map Attempt.key
  have apart := split.nodup_iff.mpr tidy.attemptsApart
  intro other listed same
  rw [map_cons, nodup_cons] at apart
  exact apart.1 (mem_map.mpr ⟨other, listed, same⟩)

variable {key : StreamWriterKey}

/-- A writer that no stream needs is removed. -/
lemma erase (unattempted : ∀ attempt ∈ network.attempts, attempt.key ≠ key)
    (unneeded : ∀ stream ∈ network.streams, stream.key = key → stream.stopped = true ∨ stream.finished = true) :
    Tidy { network with pool := ⟨network.pool.streamWriters.erase key⟩ } := by
  refine { tidy with opening := ?_, owned := ?_, stored := ?_ }
  · intro attempt listed
    rw [lookup_erase_ne (unattempted attempt listed)]
    exact tidy.opening attempt listed
  · intro other tx found
    by_cases same : other = key
    · subst same
      simp at found
    · rw [lookup_erase_ne same] at found
      exact tidy.owned other tx found
  · intro stream listed running unfinished
    have different : stream.key ≠ key := by
      intro same
      rcases unneeded stream listed same with stopped | finished
      · simp [running] at stopped
      · simp [unfinished] at finished
    rw [lookup_erase_ne different]
    exact tidy.stored stream listed running unfinished

/-- Streams come closer to their ends. -/
lemma mapStreams (ages : ∀ stream, Ages stream (update stream)) :
    Tidy { network with streams := network.streams.map update } := by
  have keys : (network.streams.map update).map key = network.streams.map key := by
    rw [map_map]
    exact map_congr_left fun stream _ => (ages stream).key
  have channels :
      (network.streams.map update).map channel = network.streams.map channel := by
    rw [map_map]
    exact map_congr_left fun stream _ => (ages stream).channel
  constructor
  · exact keys ▸ tidy.streamsApart
  · exact tidy.attemptsApart
  · intro attempt listed stream updated
    obtain ⟨before, isBefore, rfl⟩ := mem_map.mp updated
    rw [(ages before).key]
    exact tidy.bothApart attempt listed before isBefore
  · exact channels ▸ tidy.channelsApart
  · intro stream updated
    obtain ⟨before, isBefore, rfl⟩ := mem_map.mp updated
    rw [(ages before).channel]
    exact tidy.channelsUsed before isBefore
  · exact tidy.opening
  · intro key tx found
    obtain ⟨stream, listed, isKey, isChannel⟩ := tidy.owned key tx found
    exact ⟨update stream, mem_map_of_mem listed, (ages stream).key.trans isKey,
      (ages stream).channel.trans isChannel⟩
  · intro stream updated running unfinished
    obtain ⟨before, isBefore, rfl⟩ := mem_map.mp updated
    rw [(ages before).key, (ages before).channel, (ages before).peerAddr]
    exact tidy.stored before isBefore ((ages before).stopped running) ((ages before).finished unfinished)

lemma updateStream (channel : Nat) (ages : ∀ stream, Ages stream (update stream)) :
    Tidy (network.updateStream channel update) := by
  apply tidy.mapStreams
  intro stream
  split
  · exact ages stream
  · exact .refl stream

/-- A stream is opened whose key no other has. -/
lemma addStream {msg} (unshared : ∀ stream ∈ network.streams, stream.key ≠ .ofSocketAddr msg.peerAddr)
    (unattempted : ∀ attempt ∈ network.attempts, attempt.key ≠ .ofSocketAddr msg.peerAddr) :
    Tidy (network.addStream msg) := by
  have fresh : ∀ stream ∈ network.streams, stream.channel ≠ network.channels := fun stream listed =>
    (tidy.channelsUsed stream listed).ne
  constructor
  · change ((network.streams ++ [_]).map key).Nodup
    rw [map_append, nodup_append]
    simpa [key] using ⟨tidy.streamsApart, unshared⟩
  · exact tidy.attemptsApart
  · intro attempt isAttempt stream isStream
    rcases mem_append.mp isStream with old | isNew
    · exact tidy.bothApart attempt isAttempt stream old
    · rw [mem_singleton.mp isNew]
      exact (unattempted attempt isAttempt).symm
  · change ((network.streams ++ [_]).map channel).Nodup
    rw [map_append, nodup_append]
    simpa using ⟨tidy.channelsApart, fresh⟩
  · intro stream isStream
    rcases mem_append.mp isStream with old | isNew
    · exact (tidy.channelsUsed stream old).trans (Nat.lt_succ_self _)
    · rw [mem_singleton.mp isNew]
      exact Nat.lt_succ_self _
  · intro attempt listed
    change (network.pool.streamWriters.insert _ _).lookup _ = _
    rw [lookup_insert_ne (unattempted attempt listed)]
    exact tidy.opening attempt listed
  · intro key tx found
    change (network.pool.streamWriters.insert _ _).lookup _ = _ at found
    by_cases same : key = .ofSocketAddr msg.peerAddr
    · subst same
      rw [lookup_insert] at found
      cases found
      exact ⟨_, mem_append_right _ (mem_singleton_self _), rfl, rfl⟩
    · rw [lookup_insert_ne same] at found
      obtain ⟨stream, listed, owns⟩ := tidy.owned key tx found
      exact ⟨stream, mem_append_left _ listed, owns⟩
  · intro stream isStream running unfinished
    change (network.pool.streamWriters.insert _ _).lookup _ = _
    rcases mem_append.mp isStream with old | isNew
    · rw [lookup_insert_ne (unshared stream old)]
      exact tidy.stored stream old running unfinished
    · rw [mem_singleton.mp isNew]
      exact lookup_insert _

/-- An attempt is made for a key that no other has. -/
lemma connect (attempt) (absent : network.pool.streamWriters.lookup attempt.key = none)
    (unshared : ∀ stream ∈ network.streams, stream.key ≠ attempt.key) :
    Tidy { network with
      pool := ⟨network.pool.streamWriters.insert attempt.key none⟩
      attempts := network.attempts ++ [attempt] } := by
  have unattempted : ∀ other ∈ network.attempts, other.key ≠ attempt.key := by
    -- an attempt has its key in the pool
    intro other listed same
    have opening := tidy.opening other listed
    rw [same, absent] at opening
    cases opening
  refine { tidy with attemptsApart := ?_, bothApart := ?_, opening := ?_, owned := ?_, stored := ?_ }
  · rw [map_append, nodup_append]
    simpa using ⟨tidy.attemptsApart, unattempted⟩
  · intro other isAttempt stream isStream
    rcases mem_append.mp isAttempt with old | isNew
    · exact tidy.bothApart other old stream isStream
    · rw [mem_singleton.mp isNew]
      exact unshared stream isStream
  · intro other isAttempt
    rcases mem_append.mp isAttempt with old | isNew
    · rw [lookup_insert_ne (unattempted other old)]
      exact tidy.opening other old
    · rw [mem_singleton.mp isNew]
      exact lookup_insert _
  · intro key tx found
    by_cases same : key = attempt.key
    · subst same
      rw [lookup_insert] at found
      cases found
    · rw [lookup_insert_ne same] at found
      exact tidy.owned key tx found
  · intro stream listed running unfinished
    rw [lookup_insert_ne (unshared stream listed)]
    exact tidy.stored stream listed running unfinished

/-- A stream is removed together with its writer. -/
lemma removeStream (listed : stream ∈ network.streams) :
    Tidy { network with
      pool := ⟨network.pool.streamWriters.erase stream.key⟩
      streams := network.streams.filter fun other => other.channel != stream.channel } := by
  have fewer := filter_sublist (p := fun other : PeerStream => other.channel != stream.channel)
    (l := network.streams)
  have others : ∀ other ∈ network.streams.filter (fun other => other.channel != stream.channel),
      other ∈ network.streams ∧ other.key ≠ stream.key := by
    intro other kept
    obtain ⟨isOther, different⟩ := mem_filter.mp kept
    -- a stream with the same key would be the same stream
    refine ⟨isOther, fun same => ?_⟩
    rw [inj_on_of_nodup_map tidy.streamsApart isOther listed same] at different
    simp at different
  constructor
  · exact tidy.streamsApart.sublist (fewer.map _)
  · exact tidy.attemptsApart
  · exact fun attempt isAttempt other kept => tidy.bothApart attempt isAttempt other (others other kept).1
  · exact tidy.channelsApart.sublist (fewer.map _)
  · exact fun other kept => tidy.channelsUsed other (others other kept).1
  · intro attempt isAttempt
    rw [lookup_erase_ne (tidy.bothApart attempt isAttempt stream listed).symm]
    exact tidy.opening attempt isAttempt
  · intro key tx found
    by_cases same : key = stream.key
    · subst same
      simp at found
    · rw [lookup_erase_ne same] at found
      obtain ⟨owner, isOwner, isKey, isChannel⟩ := tidy.owned key tx found
      refine ⟨owner, mem_filter.mpr ⟨isOwner, ?_⟩, isKey, isChannel⟩
      have different : owner.channel ≠ stream.channel := by
        intro shared
        rw [inj_on_of_nodup_map tidy.channelsApart isOwner listed shared] at isKey
        exact same isKey.symm
      simpa using different
  · intro other kept running unfinished
    obtain ⟨isOther, different⟩ := others other kept
    rw [lookup_erase_ne different]
    exact tidy.stored other isOther running unfinished

variable {tx : Sender} (stored : network.pool.streamWriters.lookup key = some (some tx))
include stored

lemma unattempted_of_stored : ∀ attempt ∈ network.attempts, attempt.key ≠ key := by
  intro attempt listed same
  have opening := tidy.opening attempt listed
  rw [same, stored] at opening
  cases opening

/-- The stream that has a writer's key also has its channel. -/
lemma channel_of_key (listed : stream ∈ network.streams) (isKey : stream.key = key) :
    stream.channel = tx.channel := by
  obtain ⟨owner, isOwner, ownsKey, ownsChannel⟩ := tidy.owned key tx stored
  rw [inj_on_of_nodup_map tidy.streamsApart listed isOwner (isKey.trans ownsKey.symm)]
  exact ownsChannel

end Tidy

/-! ### Steps -/

def finish (stream : PeerStream) : PeerStream := { stream with finished := true }

lemma ages_finish (stream) : Ages stream (finish stream) := ⟨rfl, rfl, id, nofun⟩

variable {stream : PeerStream}

/-- A writer that nothing receives from belongs to a stream that has stopped. -/
lemma stopped_of_not_receives {channel} (silent : network.receives channel = false)
    (listed : stream ∈ network.streams) (isChannel : stream.channel = channel) :
    stream.stopped = true := by
  have each := any_eq_false.mp silent stream listed
  simpa [isChannel] using each

variable {index : Nat}

lemma response_cases (stepped : network.step env (.response index) = .ok next) :
    (network.mailbox[index]? = none ∧ next = network) ∨ ∃ msg outcome, network.mailbox[index]? = some msg ∧
        PacketHandled env network.receives network.pool msg outcome ∧
        next = { network with mailbox := network.mailbox.eraseIdx index }.handled outcome := by
  unfold Network.step at stepped
  cases found : network.mailbox[index]? with
  | none =>
    simp only [found] at stepped
    cases stepped
    exact .inl ⟨rfl, rfl⟩
  | some msg =>
    simp only [found] at stepped
    obtain ⟨outcome, handled, returned⟩ := ok_of_bind stepped
    cases returned
    exact .inr ⟨msg, outcome, rfl, packetHandled handled, rfl⟩

lemma Tidy.response (tidy : Tidy network) (found : network.mailbox[index]? = some msg)
    (apart : Apart network (.response index))
    (handled : PacketHandled env network.receives network.pool msg outcome) :
    Tidy ({ network with mailbox := network.mailbox.eraseIdx index }.handled outcome) := by
  cases handled with
  | unaddressed | delayed | discarded => exact { tidy with }
  | sent peerAddr tx target stored received =>
    cases last : msg.context.lastData with
    | false => exact { tidy with }
    | true =>
      -- the stream that has just been sent its last data needs no writer
      have ended := (tidy.updateStream tx.channel ages_finish).erase (tidy.unattempted_of_stored stored) (by
        intro stream updated isKey
        obtain ⟨before, isBefore, rfl⟩ := mem_map.mp updated
        have sameKey : before.key = .ofSocketAddr peerAddr := by
          split at isKey
          · exact (ages_finish before).key ▸ isKey
          · exact isKey
        rw [if_pos (tidy.channel_of_key stored isBefore sameKey)]
        exact .inr rfl)
      exact { ended with }
  | disabled peerAddr tx target stored silent =>
    -- a writer that has stopped is found out by the first packet that is sent to it
    have removed := tidy.erase (tidy.unattempted_of_stored stored) fun stream listed isKey =>
      .inl (stopped_of_not_receives silent listed (tidy.channel_of_key stored listed isKey))
    exact { removed with }
  | connecting peerAddr target absent remote =>
    have attempted := tidy.connect ⟨peerAddr, msg⟩ absent (apart msg found peerAddr target remote absent)
    exact { attempted with }

/-- All that a step can do to streams, attempts and writers. -/
inductive Moved (env : PoolEnvironment) (network : Network) : NetworkEvent → Network → Prop
  | idle (event : NetworkEvent) : Moved env network event network
  | told (event : NetworkEvent) (queries : List TransmitDataMsg) (mailbox : List DispatcherNodeQueryResponse) :
    Moved env network event { network with queries, mailbox }
  | aged (event : NetworkEvent) (channel : Nat) {update : PeerStream → PeerStream}
    (ages : ∀ stream, Ages stream (update stream)) :
    Moved env network event (network.updateStream channel update)
  | accepted (msg : AddStreamMsg) : Moved env network (.accepted msg) (network.addStream msg)
  | response {index : Nat} {msg : DispatcherNodeQueryResponse} {outcome : StreamHandlerPool × List PoolEffect}
    (found : network.mailbox[index]? = some msg)
    (handled : PacketHandled env network.receives network.pool msg outcome) :
    Moved env network (.response index)
      ({ network with mailbox := network.mailbox.eraseIdx index }.handled outcome)
  | connected {index : Nat} {attempt : Attempt} (found : network.attempts[index]? = some attempt) :
    Moved env network (.connected index) ({ network with
      attempts := network.attempts.eraseIdx index
      mailbox := network.mailbox ++ [attempt.response] }.addStream ⟨attempt.peerAddr, true⟩)
  | rejected {index : Nat} {attempt : Attempt} (found : network.attempts[index]? = some attempt) :
    Moved env network (.rejected index) ({ network with attempts := network.attempts.eraseIdx index }.handled
      (network.pool.handleRemoveStreamMsg ⟨attempt.peerAddr, .clandestine⟩))
  | removed {stream : PeerStream} {streamType : RemovedStreamType} (listed : stream ∈ network.streams) :
    Moved env network (.removed stream.channel) ({ network with
      streams := network.streams.filter fun other => other.channel != stream.channel }.handled
        (network.pool.handleRemoveStreamMsg ⟨stream.peerAddr, streamType⟩))

lemma moved (stepped : network.step env event = .ok next) : Moved env network event next := by
  cases event with
  | accepted msg =>
    cases stepped
    exact .accepted msg
  | transmit msg =>
    cases stepped
    unfold handleTransmitDataMsg
    split
    · exact .told _ _ network.mailbox
    · exact .told _ network.queries _
  | answered query result =>
    simp only [Network.step] at stepped
    split at stepped
    · cases stepped
      exact .idle _
    · cases stepped
      exact .told _ _ _
  | response index =>
    rcases response_cases stepped with ⟨-, rfl⟩ | ⟨msg, outcome, found, handled, rfl⟩
    · exact .idle _
    · exact .response found handled
  | connected index =>
    simp only [Network.step] at stepped
    split at stepped
    · cases stepped
      exact .idle _
    next attempt found =>
      cases stepped
      exact .connected found
  | rejected index =>
    simp only [Network.step] at stepped
    split at stepped
    · cases stepped
      exact .idle _
    next attempt found =>
      cases stepped
      exact .rejected found
  | closed channel streamType =>
    cases stepped
    exact .aged _ channel fun stream => ⟨rfl, rfl, id, id⟩
  | removed channel =>
    simp only [Network.step] at stepped
    split at stepped
    · cases stepped
      exact .idle _
    next stream found =>
      have isChannel : stream.channel = channel := by simpa using find?_some found
      subst isChannel
      split at stepped
      · cases stepped
        exact .idle _
      · cases stepped
        exact .removed (mem_of_find?_eq_some found)
  | stopped channel =>
    cases stepped
    exact .aged _ channel fun stream => ⟨rfl, rfl, nofun, id⟩

lemma Tidy.step (tidy : Tidy network) (apart : Apart network event) (moved : Moved env network event next) :
    Tidy next := by
  cases moved with
  | idle => exact tidy
  | told _ queries mailbox => exact { tidy with }
  | aged _ channel ages => exact tidy.updateStream channel ages
  | accepted msg => exact tidy.addStream apart.1 apart.2
  | response found handled => exact tidy.response found apart handled
  | @connected index attempt found =>
    have added : Tidy (Network.addStream _ ⟨attempt.peerAddr, true⟩) := (tidy.forgetAttempt index).addStream
      (tidy.bothApart attempt (mem_of_getElem? found)) (tidy.key_ne_of_eraseIdx found)
    exact { added with }
  | @rejected index attempt found =>
    have unshared := tidy.bothApart attempt (mem_of_getElem? found)
    have forgotten := (tidy.forgetAttempt index).erase (tidy.key_ne_of_eraseIdx found)
      fun stream isStream same => absurd same (unshared stream isStream)
    exact { forgotten with }
  | removed listed =>
    have removed := tidy.removeStream listed
    exact { removed with }

/-! ### Writers and packets -/

/-- What a step does to writers, and to a packet that it is about. -/
structure WritersOwned (env : PoolEnvironment) (network : Network) (event : NetworkEvent) (next : Network) :
    Prop where
  /-- A stored writer goes when its stream is removed, or when its stream has been sent its last data or its
  writer has stopped. -/
  removedWithStream : ∀ key tx, network.pool.streamWriters.lookup key = some (some tx) →
    next.pool.streamWriters.lookup key ≠ some (some tx) →
    event = .removed tx.channel ∨
      ∃ stream ∈ next.streams, stream.channel = tx.channel ∧ (stream.finished = true ∨ stream.stopped = true)
  /-- A packet to a peer with a live stream is sent to that stream's writer. -/
  delivered : ∀ index msg peerAddr stream, event = .response index → network.mailbox[index]? = some msg →
    msg.target = some peerAddr → Live network stream → stream.key = .ofSocketAddr peerAddr →
    next.sent = network.sent ++ [(stream.channel, packetOf env msg)]

variable {key : StreamWriterKey} {tx : Sender}

section

variable (stored : pool.streamWriters.lookup key = some (some tx))
include stored

lemma lookup_erase_of_ne_gone (gone : (pool.streamWriters.erase other).lookup key ≠ some (some tx)) :
    key = other := by
  by_contra different
  rw [lookup_erase_ne different] at gone
  exact gone stored

lemma lookup_insert_of_ne_gone (gone : (pool.streamWriters.insert other writer).lookup key ≠ some (some tx)) :
    key = other := by
  by_contra different
  rw [lookup_insert_ne different] at gone
  exact gone stored

end

section

variable (tidy : Tidy network) (stored : network.pool.streamWriters.lookup key = some (some tx))
  (gone : next.pool.streamWriters.lookup key ≠ some (some tx))
include tidy stored gone

lemma Tidy.writer_goes_with_packet (handled : PacketHandled env network.receives network.pool msg outcome)
    (isNext : next = { network with mailbox := network.mailbox.eraseIdx index }.handled outcome) :
    ∃ stream ∈ next.streams, stream.channel = tx.channel ∧ (stream.finished = true ∨ stream.stopped = true) := by
  obtain ⟨owner, isOwner, ownsKey, ownsChannel⟩ := tidy.owned key tx stored
  subst isNext
  cases handled with
  | unaddressed | delayed | discarded => exact absurd stored gone
  | sent peerAddr tx' target stored' received =>
    cases last : msg.context.lastData with
    | false =>
      rw [last] at gone
      exact absurd stored gone
    | true =>
      rw [last] at gone
      cases lookup_erase_of_ne_gone stored gone
      cases stored.symm.trans stored'
      exact ⟨finish owner, mem_map.mpr ⟨owner, isOwner, if_pos ownsChannel⟩, ownsChannel, .inl rfl⟩
  | disabled peerAddr tx' target stored' silent =>
    cases lookup_erase_of_ne_gone stored gone
    cases stored.symm.trans stored'
    exact ⟨owner, isOwner, ownsChannel, .inr (stopped_of_not_receives silent isOwner ownsChannel)⟩
  | connecting peerAddr target absent remote =>
    cases lookup_insert_of_ne_gone stored gone
    cases stored.symm.trans absent

lemma Tidy.writer_goes (apart : Apart network event) (moved : Moved env network event next) :
    event = .removed tx.channel ∨ ∃ stream ∈ next.streams, stream.channel = tx.channel ∧
        (stream.finished = true ∨ stream.stopped = true) := by
  cases moved with
  | idle | told | aged => exact absurd stored gone
  | accepted msg =>
    obtain ⟨owner, isOwner, ownsKey, -⟩ := tidy.owned key tx stored
    cases lookup_insert_of_ne_gone stored gone
    exact absurd ownsKey (apart.1 owner isOwner)
  | response found handled => exact .inr (tidy.writer_goes_with_packet stored gone handled rfl)
  | @connected index attempt found =>
    -- an attempt's key has no writer
    have same := lookup_insert_of_ne_gone stored gone
    exact absurd same.symm (tidy.unattempted_of_stored stored attempt (mem_of_getElem? found))
  | @rejected index attempt found =>
    have same := lookup_erase_of_ne_gone stored gone
    exact absurd same.symm (tidy.unattempted_of_stored stored attempt (mem_of_getElem? found))
  | removed listed =>
    have same := lookup_erase_of_ne_gone stored gone
    rw [tidy.channel_of_key stored listed same.symm]
    exact .inl rfl

end

lemma Live.receives (live : Live network stream) : network.receives stream.channel = true := by
  obtain ⟨listed, -, running, -⟩ := live
  exact any_eq_true.mpr ⟨stream, listed, by simp [running]⟩

lemma Tidy.delivered (tidy : Tidy network) (stepped : network.step env (.response index) = .ok next)
    (found : network.mailbox[index]? = some msg) (target : msg.target = some peerAddr)
    (live : Live network stream) (isKey : stream.key = .ofSocketAddr peerAddr) :
    next.sent = network.sent ++ [(stream.channel, packetOf env msg)] := by
  -- the pool has the writer of a live stream, so there is only one way that the packet can go
  have stored := tidy.stored stream live.1 live.2.2.1 live.2.2.2
  rw [isKey] at stored
  rcases response_cases stepped with ⟨none, -⟩ | ⟨msg', outcome, found', handled, rfl⟩
  · cases none.symm.trans found
  · cases found.symm.trans found'
    cases handled with
    | unaddressed text nowhere => cases nowhere.symm.trans target
    | sent peerAddr' tx target' stored' received =>
      cases target.symm.trans target'
      cases stored.symm.trans stored'
      cases msg.context.lastData <;> rfl
    | disabled peerAddr' tx target' stored' silent =>
      cases target.symm.trans target'
      cases stored.symm.trans stored'
      cases live.receives.symm.trans silent
    | delayed peerAddr' target' opening =>
      cases target.symm.trans target'
      cases stored.symm.trans opening
    | discarded peerAddr' text target' absent | connecting peerAddr' target' absent remote =>
      cases target.symm.trans target'
      cases stored.symm.trans absent

/-- Streams and attempts to connect come and go, those with one key one after another.  Whatever has happened
before, a writer then goes only with its stream, and no packet is lost that has a live stream. -/
theorem writers_stay_with_streams (env : PoolEnvironment) {before : List NetworkEvent} {event : NetworkEvent}
    {network next : Network} (apart : Along (Network.step env) Apart .new (before ++ [event]))
    (reached : run (Network.step env) .new before = .ok network) (stepped : network.step env event = .ok next) :
    WritersOwned env network event next := by
  have tidy : Tidy network := invariant_of_run (fun network event next tidy apart stepped =>
    tidy.step apart (moved stepped)) (along_of_append apart) tidy_new reached
  constructor
  · intro key tx stored gone
    exact tidy.writer_goes stored gone (along_append apart reached).1 (moved stepped)
  · rintro index msg peerAddr stream rfl found target live isKey
    exact tidy.delivered stepped found target live isKey

/-! ### One peer with several streams -/

def plainEnvironment : PoolEnvironment := ⟨id, fun _ => "address", fun _ => "key", fun _ => "endpoint"⟩

def peerPort (port : UInt16) : SocketAddr := ⟨.v4 0x0A000009#32, port⟩

/-- A peer connects, hangs up and connects again, and then there is a packet for it. -/
def reconnection : List NetworkEvent :=
  [.accepted ⟨peerPort 1000, true⟩, .closed 0 .clandestine, .removed 0, .accepted ⟨peerPort 2000, true⟩,
    .transmit ⟨.socket (peerPort 2000), false, none, [1, 2]⟩]

lemma apart_reconnection :
    Along (Network.step plainEnvironment) Apart .new (reconnection ++ [.response 0]) := by
  decide +kernel

theorem reconnection_keeps_writers : ∃ network next : Network,
    Along (Network.step plainEnvironment) Apart .new (reconnection ++ [.response 0]) ∧
    run (Network.step plainEnvironment) .new reconnection = .ok network ∧
    network.step plainEnvironment (.response 0) = .ok next ∧
    WritersOwned plainEnvironment network (.response 0) next :=
  ⟨_, _, apart_reconnection, rfl, rfl, writers_stay_with_streams plainEnvironment apart_reconnection rfl rfl⟩

/-- Two streams with one peer, the first of which closes. -/
def firstCloses : List NetworkEvent :=
  [.accepted ⟨peerPort 1000, true⟩, .accepted ⟨peerPort 2000, true⟩, .closed 0 .clandestine]

def secondStream : PeerStream := ⟨1, peerPort 2000, true, none, false, false⟩

/-- A packet for the second stream's peer, which does not let anyone connect to that port. -/
def packetForSecond : List NetworkEvent :=
  [.transmit ⟨.socket (peerPort 2000), false, none, [1, 2]⟩, .response 0, .rejected 0]

theorem closed_stream_takes_writer : ∃ network next lost : Network,
    run (Network.step plainEnvironment) .new firstCloses = .ok network ∧
    network.pool.streamWriters.lookup secondStream.key = some (some ⟨1, peerPort 2000⟩) ∧
    network.step plainEnvironment (.removed 0) = .ok next ∧
    next.pool.streamWriters.lookup secondStream.key = none ∧
    Live next secondStream ∧ ¬ WritersOwned plainEnvironment network (.removed 0) next ∧
    run (Network.step plainEnvironment) next packetForSecond = .ok lost ∧
    Live lost secondStream ∧ lost.sent = [] ∧ lost.mailbox = [] ∧ lost.attempts = [] := by
  refine ⟨_, _, _, rfl, rfl, rfl, rfl, ?_, ?_, rfl, ?_, rfl, rfl, rfl⟩
  · exact ⟨.head _, rfl, rfl, rfl⟩
  · intro owned
    -- the report is about channel 0, and the writer that goes is that of channel 1
    have gone := owned.removedWithStream secondStream.key ⟨1, peerPort 2000⟩ rfl nofun
    rcases gone with other | ⟨stream, listed, -, ended⟩
    · cases other
    · have only : stream = secondStream := mem_singleton.mp listed
      subst only
      rcases ended with finished | stopped
      · cases finished
      · cases stopped
  · exact ⟨.head _, rfl, rfl, rfl⟩

end PulseMesh.Streams
