import PulseMesh.Lib.Returns
import PulseMesh.Streams.StreamWriters

/-!
# Delivery in order

The ideal stream is the data of all packets one after another.  A writer is always somewhere in it: it has
written all data up to a byte of a packet, and the packets from there on wait in its buffer or its channel, or
have not come yet.
-/

namespace PulseMesh.Streams

open Machine SubLib Runs SequenceBuffer SequencedPacket List Cursor StreamWriterSorted

/-! ### The ideal stream -/

def bytesOf (packets : List SequencedPacket) : Bytes := packets.flatMap SequencedPacket.data

lemma bytesOf_append (before after) :
    bytesOf (before ++ after) = bytesOf before ++ bytesOf after := flatMap_append

lemma bytesOf_singleton (packet) : bytesOf [packet] = packet.data := by
  simp [bytesOf]

/-- The packet without the first bytes of its data. -/
def trim (taken : Nat) (packet : SequencedPacket) : SequencedPacket :=
  { packet with data := packet.data.drop taken }

lemma trim_trim (taken len : Nat) (packet) :
    { trim taken packet with data := (trim taken packet).data.drop len } = trim (taken + len) packet := by
  simp [trim]

/-- A place in the stream: the packets before it, and how much is before it of the first packet that is not. -/
structure Cursor where
  done : List SequencedPacket
  todo : List SequencedPacket
  taken : Nat

namespace Cursor

variable (cursor : Cursor)

def written : Bytes :=
  bytesOf cursor.done ++
    match cursor.todo with
    | [] => []
    | packet :: _ => packet.data.take cursor.taken

def waiting : List SequencedPacket :=
  match cursor.todo with
  | [] => []
  | packet :: packets => trim cursor.taken packet :: packets

lemma written_append_waiting :
    cursor.written ++ bytesOf cursor.waiting = bytesOf (cursor.done ++ cursor.todo) := by
  obtain ⟨done, todo, taken⟩ := cursor
  cases todo with
  | nil => simp [written, waiting, bytesOf]
  | cons packet todo => simp [written, waiting, bytesOf, trim, ← append_assoc (packet.data.take taken)]

lemma map_number_waiting :
    cursor.waiting.map sequenceNumber = cursor.todo.map sequenceNumber := by
  unfold waiting
  split
  next none => rw [none]
  next some => rw [some, map_cons, map_cons, trim]

section

variable (done todo : List SequencedPacket)

lemma written_take (packet) (taken len : Nat) :
    (mk done (packet :: todo) (taken + len)).written =
      (mk done (packet :: todo) taken).written ++ (trim taken packet).data.take len := by
  simp only [written, trim, append_assoc, take_add]

lemma written_finish (packet) (taken : Nat) :
    (mk (done ++ [packet]) todo 0).written =
      (mk done (packet :: todo) taken).written ++ (trim taken packet).data := by
  simp only [written, trim, append_assoc, take_append_drop, bytesOf_append, bytesOf_singleton]
  cases todo <;> simp

lemma waiting_zero : (mk done todo 0).waiting = todo := by
  cases todo with
  | nil => rfl
  | cons packet todo => rfl

end

end Cursor

/-- The packets have the numbers from zero on. -/
def Numbered (packets : List SequencedPacket) : Prop :=
  ∀ (i : Nat) (packet : SequencedPacket), packets[i]? = some packet → packet.sequenceNumber.val = i

/-- In the order of their numbers. -/
def Ordered (packets : List SequencedPacket) : Prop :=
  packets.Pairwise fun before after => before.sequenceNumber.val < after.sequenceNumber.val

variable {todo : List SequencedPacket} {packet : SequencedPacket}

lemma Numbered.head (numbered : Numbered (done ++ packet :: todo)) :
    packet.sequenceNumber.val = done.length :=
  numbered _ packet (by simp)

lemma Numbered.ordered (numbered : Numbered packets) : Ordered packets := by
  apply pairwise_iff_getElem.mpr
  intro i j iListed jListed before
  rw [numbered i _ (getElem?_eq_getElem iListed), numbered j _ (getElem?_eq_getElem jListed)]
  omega

lemma Ordered.waiting {cursor : Cursor} (ordered : Ordered (cursor.done ++ cursor.todo)) :
    Ordered cursor.waiting := by
  have later : Ordered cursor.todo := (pairwise_append.mp ordered).2.1
  unfold Ordered at later ⊢
  rw [← pairwise_map (f := sequenceNumber) (R := fun a b => a.val < b.val)] at later ⊢
  rwa [Cursor.map_number_waiting]

lemma Ordered.nodup_numbers (ordered : Ordered packets) : (packets.map sequenceNumber).Nodup := by
  apply pairwise_map.mpr
  refine Pairwise.imp (fun before same => ?_) ordered
  rw [same] at before
  exact lt_irrefl _ before

/-! ### Where a writer is -/

/-- The writer is at this place of the stream, and `outstanding` packets have not been sent to it yet. -/
structure Tracks (packets outstanding : List SequencedPacket) (writer : StreamWriter) (cursor : Cursor) :
    Prop where
  whole : cursor.done ++ cursor.todo = packets
  written : writer.written = cursor.written
  held : (writer.sequenceBuffer.buffer ++ (writer.rxToWrite ++ outstanding)).Perm cursor.waiting
  sound : writer.sequenceBuffer.Sound
  next : cursor.todo ≠ [] → writer.sequenceBuffer.nextExpectedSequenceNumber.val = cursor.done.length
  told : writer.shuttingDown = true ↔ 0 < writer.shutdowns
  closing : writer.shuttingDown = true →
    cursor.taken = 0 ∧ ∃ done last, cursor.done = done ++ [last] ∧ last.lastData = true

/-- No packet of the buffer is the next one to write. -/
def Idle (writer : StreamWriter) : Prop :=
  ∀ packet ∈ writer.sequenceBuffer.buffer,
    packet.sequenceNumber ≠ writer.sequenceBuffer.nextExpectedSequenceNumber

variable {packets outstanding unsent : List SequencedPacket} {writer : StreamWriter} {cursor : Cursor}
  {p : Profile}

lemma tracks_new (arrive : outstanding.Perm packets) :
    Tracks packets outstanding .new ⟨[], packets, 0⟩ := by
  constructor
  · rfl
  · cases packets <;> rfl
  · rw [Cursor.waiting_zero]
    exact arrive
  · exact sound_new
  · exact fun _ => rfl
  · simp [StreamWriter.new]
  · intro closing
    cases closing

namespace Tracks

variable {packet : SequencedPacket} {todo : List SequencedPacket}
  (tracks : Tracks packets outstanding writer cursor)
include tracks

lemma mem_waiting (held : packet ∈ writer.sequenceBuffer.buffer) : packet ∈ cursor.waiting :=
  tracks.held.mem_iff.mp (mem_append_left _ held)

/-- The packets that wait behind the first one to write. -/
lemma held_erase (isFirst : cursor.todo = packet :: todo)
    (isHeld : trim cursor.taken packet ∈ writer.sequenceBuffer.buffer) :
    (writer.sequenceBuffer.buffer.erase (trim cursor.taken packet) ++ (writer.rxToWrite ++ outstanding)).Perm
      todo := by
  have held := tracks.held
  unfold Cursor.waiting at held
  rw [isFirst] at held
  have out := (perm_cons_erase isHeld).append_right (writer.rxToWrite ++ outstanding)
  exact (out.symm.trans held).cons_inv

variable (numbered : Numbered packets)
include numbered

lemma ordered : Ordered cursor.waiting := by
  rw [← tracks.whole] at numbered
  exact numbered.ordered.waiting

section

variable (isFirst : cursor.todo = packet :: todo)
include isFirst

/-- The first packet to write has the number that the buffer expects. -/
lemma isNext : packet.sequenceNumber = writer.sequenceBuffer.nextExpectedSequenceNumber := by
  have expected := tracks.next (by simp [isFirst])
  rw [← tracks.whole, isFirst] at numbered
  exact Word.ext (numbered.head.trans expected.symm)

/-- Any other packet that waits has a higher number than the first one to write. -/
lemma first_of_mem (listed : other ∈ cursor.waiting) :
    other = trim cursor.taken packet ∨ packet.sequenceNumber.val < other.sequenceNumber.val := by
  have ordered := tracks.ordered numbered
  unfold Cursor.waiting at listed ordered
  rw [isFirst] at listed ordered
  rcases mem_cons.mp listed with first | later
  · exact .inl first
  · exact .inr ((pairwise_cons.mp ordered).1 other later)

variable (isHeld : trim cursor.taken packet ∈ writer.sequenceBuffer.buffer)
include isHeld

/-- The socket takes some bytes of the first packet, and the rest goes back to the buffer. -/
lemma took (isOpen : writer.shuttingDown = false) (len : Nat) :
    Tracks packets outstanding
      { writer with
        written := writer.written ++ (trim cursor.taken packet).data.take len
        sequenceBuffer := ⟨trim (cursor.taken + len) packet ::
            writer.sequenceBuffer.buffer.erase (trim cursor.taken packet), packet.sequenceNumber,
          writer.sequenceBuffer.seenSequenceNumbers.erase packet.sequenceNumber ++ [packet.sequenceNumber]⟩ }
      ⟨cursor.done, packet :: todo, cursor.taken + len⟩ := by
  have next := tracks.isNext numbered isFirst
  -- only the bytes taken of the first packet change
  constructor
  · rw [← isFirst]
    exact tracks.whole
  · rw [Cursor.written_take, tracks.written, ← isFirst]
  · exact (tracks.held_erase isFirst isHeld).cons _
  · exact (tracks.sound.erase isHeld packet.sequenceNumber).cons (trim (cursor.taken + len) packet) _
  · intro _
    rw [next]
    exact tracks.next (by simp [isFirst])
  · exact tracks.told
  · intro closing
    rw [isOpen] at closing
    cases closing

/-- The socket takes nothing. -/
lemma kept (isOpen : writer.shuttingDown = false) :
    Tracks packets outstanding { writer with
        sequenceBuffer := ⟨trim cursor.taken packet ::
            writer.sequenceBuffer.buffer.erase (trim cursor.taken packet), packet.sequenceNumber,
          writer.sequenceBuffer.seenSequenceNumbers.erase packet.sequenceNumber ++ [packet.sequenceNumber]⟩ }
      ⟨cursor.done, packet :: todo, cursor.taken⟩ := by
  have same := tracks.took numbered isFirst isHeld isOpen 0
  rwa [take_zero, append_nil] at same

/-- The socket takes all that is left of the first packet.  If that is a last packet, the socket is told to
shut down. -/
lemma finished (added : packet.sequenceNumber.add p ⟨1, by decide⟩ = .ok number)
    (told : shuttingDown = true ↔ 0 < shutdowns) (last : shuttingDown = true → packet.lastData = true) :
    Tracks packets outstanding
      { writer with
        written := writer.written ++ (trim cursor.taken packet).data
        sequenceBuffer := ⟨writer.sequenceBuffer.buffer.erase (trim cursor.taken packet), number,
          writer.sequenceBuffer.seenSequenceNumbers.erase packet.sequenceNumber⟩
        shuttingDown, shutdowns }
      ⟨cursor.done ++ [packet], todo, 0⟩ := by
  have whole : cursor.done ++ [packet] ++ todo = packets := by
    rw [append_assoc, singleton_append, ← isFirst]
    exact tracks.whole
  constructor
  · exact whole
  · rw [Cursor.written_finish _ _ _ cursor.taken, tracks.written, ← isFirst]
  · rw [Cursor.waiting_zero]
    exact tracks.held_erase isFirst isHeld
  · exact tracks.sound.erase isHeld number
  · intro more
    -- another packet has the next number, so that number exists and the sum has not wrapped
    cases todo with
    | nil => exact absurd rfl more
    | cons second todo =>
      rw [← whole] at numbered
      have after := numbered.head
      rw [append_assoc] at numbered
      have here := numbered.head
      have bounds := U64.bounds second.sequenceNumber
      rw [length_append, length_singleton] at after
      have fits : u64.Holds (packet.sequenceNumber.val + 1) := (u64_holds _).mpr (by omega)
      cases added.symm.trans (arith_ok p fits)
      simp only [length_append, length_singleton, here]
      rfl
  · exact told
  · intro closing
    exact ⟨rfl, cursor.done, packet, rfl, last closing⟩

end

/-- Either the buffer gives out nothing, or it gives out what is left of the first packet to write. -/
lemma poll_cases (p) :
    (Idle writer ∧ writer.sequenceBuffer.poll p = .ok (none, writer.sequenceBuffer)) ∨
      ∃ packet todo, cursor.todo = packet :: todo ∧ trim cursor.taken packet ∈ writer.sequenceBuffer.buffer ∧
        writer.sequenceBuffer.poll p = packet.sequenceNumber.add p ⟨1, by decide⟩ >>= fun number =>
          .ok (some (trim cursor.taken packet),
            ⟨writer.sequenceBuffer.buffer.erase (trim cursor.taken packet), number,
              writer.sequenceBuffer.seenSequenceNumbers.erase packet.sequenceNumber⟩) := by
  by_cases idle : Idle writer
  · exact .inl ⟨idle, poll_eq_none idle⟩
  · right
    unfold Idle at idle
    push Not at idle
    obtain ⟨held, isHeld, expected⟩ := idle
    cases todo : cursor.todo with
    | nil =>
      have listed := tracks.mem_waiting isHeld
      simp [Cursor.waiting, todo] at listed
    | cons packet packets =>
      have next := tracks.isNext numbered todo
      -- all other packets that wait have higher numbers than the one that is expected
      have first : held = trim cursor.taken packet := by
        rcases tracks.first_of_mem numbered todo (tracks.mem_waiting isHeld) with first | later
        · exact first
        · rw [expected, next] at later
          omega
      subst first
      refine ⟨packet, packets, rfl, isHeld, ?_⟩
      apply poll_eq_some isHeld expected
      intro other isOther
      rcases tracks.first_of_mem numbered todo (tracks.mem_waiting isOther) with rfl | later
      · exact ⟨le_rfl, fun _ => rfl⟩
      · refine ⟨later.le, fun same => ?_⟩
        rw [same] at later
        exact absurd later (lt_irrefl _)

end Tracks

/-! ### The loop -/

def WriteOutcome.Nonfatal : WriteOutcome → Prop
  | .error kind => indicatesDeadStream kind = false
  | .notReady => True
  | .ready _ => True

/-- The socket takes everything that it is offered. -/
def WriteOutcome.Willing (packets : List SequencedPacket) (outcome : WriteOutcome) : Prop :=
  ∃ atMost, outcome = .ready atMost ∧ ∀ packet ∈ packets, packet.data.length ≤ atMost

/-- The number after the last packet's exists, or it does not matter because the released build wraps. -/
def Countable (p : Profile) (packets : List SequencedPacket) : Prop :=
  p = .release ∨ packets.length < 2 ^ 64

/-- Where the loop leaves the writer.  With a `willing` socket it goes on as long as it can. -/
structure AfterWriting (packets outstanding channel : List SequencedPacket) (closed : Bool) (willing : Prop)
    (after : WriteBufferStatus × StreamWriter) : Prop where
  tracked : ∃ cursor, Tracks packets outstanding after.2 cursor
  channel : after.2.rxToWrite = channel
  closed : after.2.rxClosed = closed
  empty : after.1 = .bufferEmpty → after.2.shuttingDown = true ∨ Idle after.2
  far : willing → after.2.shuttingDown = true ∨ Idle after.2

variable {willing : Prop} {channel : List SequencedPacket} {outcomes : List WriteOutcome}

lemma AfterWriting.imp {closed} {wanted : Prop} {after}
    (written : AfterWriting packets outstanding channel closed willing after) (wants : wanted → willing) :
    AfterWriting packets outstanding channel closed wanted after :=
  { written with far := fun isWanted => written.far (wants isWanted) }

namespace Tracks

variable (tracks : Tracks packets outstanding writer cursor)
include tracks

/-- Nothing more is expected of a writer that shuts down. -/
lemma stopped (isClosing : writer.shuttingDown = true) (status) :
    AfterWriting packets outstanding writer.rxToWrite writer.rxClosed willing (status, writer) :=
  ⟨⟨cursor, tracks⟩, rfl, rfl, fun _ => .inl isClosing, fun _ => .inl isClosing⟩

lemma rests (idle : Idle writer) :
    AfterWriting packets outstanding writer.rxToWrite writer.rxClosed willing (.bufferEmpty, writer) :=
  ⟨⟨cursor, tracks⟩, rfl, rfl, fun _ => .inr idle, fun _ => .inr idle⟩

/-- A willing socket takes all that is left of a packet. -/
lemma min_length_of_willing (isFirst : cursor.todo = packet :: todo)
    (willing : (WriteOutcome.ready atMost).Willing packets) :
    min atMost (trim cursor.taken packet).data.length = (trim cursor.taken packet).data.length := by
  obtain ⟨_, same, enough⟩ := willing
  cases same
  have short := enough packet (by rw [← tracks.whole, isFirst]; simp)
  simp only [trim, length_drop]
  omega

variable (numbered : Numbered packets)
include numbered

lemma add_settles (isFirst : cursor.todo = packet :: todo) :
    Settles (Countable p packets) (packet.sequenceNumber.add p ⟨1, by decide⟩) fun number =>
      packet.sequenceNumber.add p ⟨1, by decide⟩ = .ok number := by
  constructor
  · exact fun number added => added
  · rintro (release | few)
    · obtain ⟨number, added, -⟩ := returns_arith release u64 (packet.sequenceNumber.val + 1)
      exact ⟨number, added⟩
    · have whole := tracks.whole
      rw [isFirst] at whole
      have length := congrArg length whole
      rw [length_append, length_cons] at length
      rw [← whole] at numbered
      have here := numbered.head
      exact ⟨_, arith_ok p ((u64_holds _).mpr (by simp only; omega))⟩

/-- One turn of the loop, whatever the socket then does with the packet. -/
lemma turn {ρ : Type} {Post : ρ → Prop} {rest}
    (nothing : Idle writer → Settles (Countable p packets) (rest (none, writer.sequenceBuffer)) Post)
    (something : ∀ packet todo number, cursor.todo = packet :: todo →
      trim cursor.taken packet ∈ writer.sequenceBuffer.buffer →
      packet.sequenceNumber.add p ⟨1, by decide⟩ = .ok number →
      Settles (Countable p packets) (rest (some (trim cursor.taken packet),
        ⟨writer.sequenceBuffer.buffer.erase (trim cursor.taken packet), number,
          writer.sequenceBuffer.seenSequenceNumbers.erase packet.sequenceNumber⟩)) Post) :
    Settles (Countable p packets) (writer.sequenceBuffer.poll p >>= rest) Post := by
  rcases tracks.poll_cases numbered p with ⟨idle, polled⟩ | ⟨packet, todo, isFirst, isHeld, polled⟩
  · rw [polled]
    exact nothing idle
  · rw [polled, bind_assoc]
    apply (tracks.add_settles numbered isFirst).bind
    intro number added
    exact something packet todo number isFirst isHeld added

end Tracks

section

variable (tracks : Tracks packets outstanding writer cursor) (numbered : Numbered packets)
include tracks numbered

lemma writeFromBufferToStream_settles (nonfatal : ∀ outcome ∈ outcomes, outcome.Nonfatal)
    (closing : Except Unit Async) (isOpen : writer.shuttingDown = false) :
    Settles (Countable p packets) (writeFromBufferToStream p closing outcomes writer)
      (AfterWriting packets outstanding writer.rxToWrite writer.rxClosed
        ((∀ outcome ∈ outcomes, outcome.Willing packets) ∧ cursor.todo.length ≤ outcomes.length)) := by
  unfold writeFromBufferToStream
  -- each turn uses up one outcome of the socket
  induction outcomes generalizing writer cursor with
  | nil =>
    apply tracks.turn numbered
    · intro idle
      exact .ok (tracks.rests idle)
    · intro packet todo number isFirst isHeld added
      dsimp only
      rw [repush_of_poll (by exact added)]
      refine .ok ⟨⟨_, tracks.kept numbered isFirst isHeld isOpen⟩, rfl, rfl, nofun, fun willing => ?_⟩
      simp [isFirst] at willing
  | cons outcome outcomes ih =>
    rw [forall_mem_cons] at nonfatal
    apply tracks.turn numbered
    · intro idle
      exact .ok (tracks.rests idle)
    · intro packet todo number isFirst isHeld added
      cases outcome with
      | error kind =>
        have alive : indicatesDeadStream kind = false := nonfatal.1
        dsimp only
        rw [alive, repush_of_poll (by exact added), ok_bind]
        have same := tracks.kept numbered isFirst isHeld isOpen
        refine (ih same nonfatal.2 isOpen).mono fun after written => written.imp ?_
        rintro ⟨willing, -⟩
        obtain ⟨_, fails, -⟩ := (forall_mem_cons.mp willing).1
        cases fails
      | notReady =>
        dsimp only
        rw [repush_of_poll (by exact added)]
        refine .ok ⟨⟨_, tracks.kept numbered isFirst isHeld isOpen⟩, rfl, rfl, nofun, ?_⟩
        rintro ⟨willing, -⟩
        obtain ⟨_, waits, -⟩ := (forall_mem_cons.mp willing).1
        cases waits
      | ready atMost =>
        dsimp only
        split
        next part =>
          -- the rest goes back under the same number, and a willing socket leaves no rest
          rw [repush_of_poll (by exact added), trim_trim]
          have taken := tracks.took numbered isFirst isHeld isOpen
            (min atMost (trim cursor.taken packet).data.length)
          refine (ih taken nonfatal.2 isOpen).mono fun after written => written.imp ?_
          rintro ⟨willing, -⟩
          exact absurd (tracks.min_length_of_willing isFirst (forall_mem_cons.mp willing).1) part
        next all =>
          rw [not_not.mp all, take_length]
          split
          next last =>
            -- whatever the shutdown returns, the writer stops here
            have told : true = true ↔ 0 < writer.shutdowns + 1 := by simp
            have ended := tracks.finished numbered isFirst isHeld added told fun _ => last
            rcases closing with _ | _ | _
            · exact .ok (ended.stopped rfl .streamInError)
            · exact .ok (ended.stopped rfl .bufferNotEmpty)
            · exact .ok (ended.stopped rfl .bufferEmpty)
          next more =>
            have passed := tracks.finished numbered isFirst isHeld added tracks.told (by simp [isOpen])
            refine (ih passed nonfatal.2 isOpen).mono fun after written => written.imp ?_
            rintro ⟨willing, enough⟩
            rw [isFirst] at enough
            exact ⟨(forall_mem_cons.mp willing).2, Nat.le_of_succ_le_succ enough⟩

/-! ### A poll -/

/-- A packet that comes for the first time gets into the buffer. -/
lemma Tracks.read_one (isFirst : writer.rxToWrite = packet :: channel) :
    Tracks packets outstanding
      { writer with sequenceBuffer := writer.sequenceBuffer.push packet, rxToWrite := channel } cursor := by
  have held := tracks.held
  rw [isFirst] at held
  have listed : packet ∈ cursor.waiting := held.mem_iff.mp (by simp)
  have expected : writer.sequenceBuffer.nextExpectedSequenceNumber.val ≤ packet.sequenceNumber.val := by
    cases todo : cursor.todo with
    | nil => simp [Cursor.waiting, todo] at listed
    | cons first todo' =>
      rw [← tracks.isNext numbered todo]
      rcases tracks.first_of_mem numbered todo listed with rfl | later
      · exact le_rfl
      · exact later.le
  -- packets have different numbers wherever they wait
  have new : packet.sequenceNumber ∉ writer.sequenceBuffer.buffer.map sequenceNumber := by
    have distinct := (tracks.ordered numbered).nodup_numbers
    rw [← (held.map sequenceNumber).nodup_iff, map_append, nodup_append] at distinct
    intro seen
    exact distinct.2.2 _ seen _ (by simp) rfl
  rw [push_eq tracks.sound expected new]
  refine { tracks with held := ?_, sound := ?_ }
  · exact perm_middle.symm.trans held
  · exact tracks.sound.cons packet _

lemma Tracks.read : Tracks packets outstanding writer.readDataFromChannel cursor := by
  unfold StreamWriter.readDataFromChannel
  induction channel : writer.rxToWrite generalizing writer with
  | nil =>
    rw [foldl_nil, ← channel]
    exact tracks
  | cons packet channel' ih => exact ih (tracks.read_one numbered channel) rfl

end

/-- When everything has come and nothing can be written, everything has been written. -/
lemma Tracks.all_written (tracks : Tracks packets [] writer cursor) (numbered : Numbered packets)
    (empty : writer.rxToWrite = []) (idle : Idle writer) : writer.written = bytesOf packets := by
  have held := tracks.held
  rw [empty, append_nil, append_nil] at held
  cases todo : cursor.todo with
  | nil =>
    have whole := cursor.written_append_waiting
    rw [tracks.whole, ← tracks.written] at whole
    simpa [Cursor.waiting, todo, bytesOf] using whole
  | cons packet todo' =>
    -- the first packet to write can only be in the buffer, so the writer is not idle
    have isHeld : trim cursor.taken packet ∈ writer.sequenceBuffer.buffer :=
      held.mem_iff.mpr (by simp [Cursor.waiting, todo])
    have other := idle (trim cursor.taken packet) isHeld
    exact absurd (tracks.isNext numbered todo) other

/-- Where a poll leaves the writer. -/
structure AfterPolling (packets outstanding : List SequencedPacket) (isClosed : Bool) (willing : Prop)
    (after : Except Unit Async × StreamWriter) : Prop where
  tracked : ∃ cursor, Tracks packets outstanding after.2 cursor
  closed : after.2.rxClosed = isClosed
  ready : after.1 = .ok .ready → 0 < after.2.shutdowns ∨
    (isClosed = true ∧ after.2.rxToWrite = [] ∧ Idle after.2)
  far : willing → 0 < after.2.shutdowns ∨ (after.2.rxToWrite = [] ∧ Idle after.2)

lemma poll_settles (numbered : Numbered packets) (nonfatal : ∀ outcome ∈ outcomes, outcome.Nonfatal)
    (closing : Except Unit Async) (tracks : Tracks packets outstanding writer cursor) :
    Settles (Countable p packets) (poll p closing outcomes writer)
      (AfterPolling packets outstanding writer.rxClosed
        ((∀ outcome ∈ outcomes, outcome.Willing packets) ∧ packets.length ≤ outcomes.length)) := by
  unfold StreamWriterSorted.poll
  split
  next isClosing =>
    have again : Tracks packets outstanding (writer.shutdown closing).2 cursor :=
      { tracks with told := by simp [StreamWriter.shutdown, isClosing] }
    have told : 0 < (writer.shutdown closing).2.shutdowns := Nat.succ_pos _
    exact .ok ⟨⟨cursor, again⟩, rfl, fun _ => .inl told, fun _ => .inl told⟩
  next isOpen =>
    have write := writeFromBufferToStream_settles (p := p) (tracks.read numbered) numbered nonfatal closing
      (Bool.eq_false_of_not_eq_true isOpen)
    refine write.bind fun ⟨status, after⟩ written => .ok ?_
    obtain ⟨cursor', tracks'⟩ := written.tracked
    have channel : after.rxToWrite = [] := written.channel
    have told : after.shuttingDown = true → 0 < after.shutdowns := tracks'.told.mp
    have short : cursor.todo.length ≤ packets.length := by
      rw [← tracks.whole, length_append]
      omega
    constructor
    · exact written.tracked
    · exact written.closed
    · intro isReady
      cases isClosed : writer.rxClosed with
      | false => cases status <;> simp [isClosed] at isReady
      | true =>
        have empty : status = .bufferEmpty := by cases status <;> simp [isClosed] at isReady ⊢
        exact (written.empty empty).imp told fun idle => ⟨rfl, channel, idle⟩
    · rintro ⟨willing, enough⟩
      exact (written.far ⟨willing, short.trans enough⟩).imp told fun idle => ⟨channel, idle⟩

/-! ### Whole runs -/

/-- The packets that are sent before the channel is closed. -/
def arrivals : List WriterEvent → List SequencedPacket
  | [] => []
  | .send packet :: events => packet :: arrivals events
  | .close :: _ => []
  | .poll _ _ :: events => arrivals events

def WriterEvent.Nonfatal : WriterEvent → Prop
  | .send _ => True
  | .close => True
  | .poll outcomes _ => ∀ outcome ∈ outcomes, outcome.Nonfatal

/-- The packets that have not been sent to the writer yet, some of which will be. -/
def awaited (events : List WriterEvent) (unsent : List SequencedPacket) (task : Task) :
    List SequencedPacket :=
  (if task.writer.rxClosed then [] else arrivals events) ++ unsent

/-- What holds of a writer at work. -/
structure Delivering (packets outstanding : List SequencedPacket) (task : Task) : Prop where
  tracked : ∃ cursor, Tracks packets outstanding task.writer cursor
  ended : task.result = some (.ok ()) → 0 < task.writer.shutdowns ∨
    (task.writer.rxClosed = true ∧ task.writer.rxToWrite = [] ∧ Idle task.writer)

variable {task : Task} {kind : WriterKind} {events : List WriterEvent} {event : WriterEvent}

lemma delivering_send (delivering : Delivering packets (packet :: outstanding) task)
    (isOpen : task.writer.rxClosed = false) :
    Delivering packets outstanding
      { task with writer := { task.writer with rxToWrite := task.writer.rxToWrite ++ [packet] } } := by
  obtain ⟨⟨cursor, tracks⟩, ended⟩ := delivering
  have moved : (task.writer.rxToWrite ++ [packet] ++ outstanding).Perm
      (task.writer.rxToWrite ++ packet :: outstanding) := by
    rw [append_assoc, singleton_append]
  constructor
  · exact ⟨cursor, { tracks with held := (moved.append_left _).trans tracks.held }⟩
  · intro finished
    rcases ended finished with told | ⟨isClosed, -, -⟩
    · exact .inl told
    · rw [isOpen] at isClosed
      cases isClosed

lemma step_settles (numbered : Numbered packets) (nonfatal : event.Nonfatal)
    (delivering : Delivering packets (awaited (event :: events) unsent task) task) :
    Settles (Countable p packets) (task.step kind p event) fun next =>
      Delivering packets (awaited events unsent next) next := by
  cases event with
  | send packet =>
    simp only [Task.step]
    split
    next isClosed =>
      exact .ok (by simpa only [awaited, isClosed, if_true] using delivering)
    next isOpen =>
      simp only [awaited, isOpen, arrivals] at delivering
      have sent := delivering_send delivering (Bool.eq_false_of_not_eq_true isOpen)
      exact .ok (by simpa [awaited, isOpen] using sent)
  | close =>
    -- nothing is sent any more, and what was to be sent afterwards counts as unsent
    have none : awaited (.close :: events) unsent task = unsent := by simp [awaited, arrivals]
    rw [none] at delivering
    obtain ⟨⟨cursor, tracks⟩, ended⟩ := delivering
    refine .ok ⟨⟨cursor, { tracks with }⟩, fun finished => ?_⟩
    exact (ended finished).imp_right fun ⟨_, empty, idle⟩ => ⟨rfl, empty, idle⟩
  | poll outcomes closing =>
    simp only [Task.step]
    split
    · exact .ok delivering
    · obtain ⟨cursor, tracks⟩ := delivering.tracked
      rw [kind.poll_eq]
      refine (poll_settles numbered nonfatal closing tracks).bind fun ⟨result, after⟩ polled => .ok ?_
      have same : awaited (.poll outcomes closing :: events) unsent task =
          (if after.rxClosed then [] else arrivals events) ++ unsent := by
        simp only [awaited, arrivals, ← polled.closed]
      rw [same] at polled
      constructor
      · exact polled.tracked
      · intro finished
        have isReady : result = .ok .ready := by
          rcases result with _ | _ | _ <;> simp at finished ⊢
        refine (polled.ready isReady).imp_right fun ⟨isClosed, empty, idle⟩ => ⟨?_, empty, idle⟩
        exact polled.closed.trans isClosed

lemma run_settles (numbered : Numbered packets) (nonfatal : ∀ event ∈ events, event.Nonfatal)
    (delivering : Delivering packets (awaited events unsent task) task) :
    Settles (Countable p packets) (run (Task.step kind p) task events) (Delivering packets unsent) := by
  induction events generalizing task with
  | nil =>
    have none : awaited [] unsent task = unsent := by simp [awaited, arrivals]
    rw [none] at delivering
    exact .ok delivering
  | cons event events ih =>
    rw [forall_mem_cons] at nonfatal
    exact (step_settles numbered nonfatal.1 delivering).bind fun next kept => ih nonfatal.2 kept

/-- The bytes that a writer has written are the first ones of the stream, and the packets that wait are the
rest of it. -/
structure InOrder (kind : WriterKind) (p : Profile) (packets unsent : List SequencedPacket) (task : Task) :
    Prop where
  /-- Nothing is written out of order or twice, and nothing is lost. -/
  whole : ∃ waiting : List SequencedPacket,
    waiting.Perm (task.writer.sequenceBuffer.buffer ++ (task.writer.rxToWrite ++ unsent)) ∧ Ordered waiting ∧
      task.writer.written ++ bytesOf waiting = bytesOf packets
  /-- The socket is told to shut down when a last packet and all packets before it have been written. -/
  shutDown : 0 < task.writer.shutdowns → ∃ done last todo, packets = done ++ last :: todo ∧
    last.lastData = true ∧ task.writer.written = bytesOf (done ++ [last])
  /-- A writer that ends because its channel is closed has written everything that was sent. -/
  ended : task.result = some (.ok ()) → unsent = [] →
    0 < task.writer.shutdowns ∨ task.writer.written = bytesOf packets
  /-- When everything has been sent, a poll in which the socket takes all it is offered writes everything. -/
  flushed : task.result = none → unsent = [] → ∀ (outcomes : List WriteOutcome) (closing : Except Unit Async),
    (∀ outcome ∈ outcomes, outcome.Willing packets) → packets.length ≤ outcomes.length →
    ∀ next, task.step kind p (.poll outcomes closing) = .ok next →
      0 < next.writer.shutdowns ∨ next.writer.written = bytesOf packets

lemma WriteOutcome.Willing.nonfatal {outcome : WriteOutcome} (willing : outcome.Willing packets) :
    outcome.Nonfatal := by
  obtain ⟨_, rfl, -⟩ := willing
  exact trivial

lemma Tracks.written_of_shutdowns (tracks : Tracks packets outstanding writer cursor)
    (told : 0 < writer.shutdowns) : ∃ done last todo, packets = done ++ last :: todo ∧
      last.lastData = true ∧ writer.written = bytesOf (done ++ [last]) := by
  obtain ⟨none, done, last, isDone, isLast⟩ := tracks.closing (tracks.told.mpr told)
  refine ⟨done, last, cursor.todo, ?_, isLast, ?_⟩
  · rw [← tracks.whole, isDone, append_assoc, singleton_append]
  · rw [tracks.written, Cursor.written, isDone, none]
    cases cursor.todo <;> simp

lemma Delivering.inOrder (delivering : Delivering packets unsent task) (numbered : Numbered packets) :
    InOrder kind p packets unsent task := by
  obtain ⟨⟨cursor, tracks⟩, ended⟩ := delivering
  constructor
  · refine ⟨cursor.waiting, tracks.held.symm, tracks.ordered numbered, ?_⟩
    rw [tracks.written, cursor.written_append_waiting, tracks.whole]
  · exact tracks.written_of_shutdowns
  · rintro finished rfl
    exact (ended finished).imp_right fun ⟨_, empty, idle⟩ => tracks.all_written numbered empty idle
  · rintro isRunning rfl outcomes closing willing enough next stepped
    simp only [Task.step, isRunning, Option.isSome_none, Bool.false_eq_true, if_false, kind.poll_eq] at stepped
    obtain ⟨⟨result, after⟩, polled, returned⟩ := ok_of_bind stepped
    cases returned
    have nonfatal : ∀ outcome ∈ outcomes, outcome.Nonfatal := fun outcome listed =>
      (willing outcome listed).nonfatal
    have kept := (poll_settles numbered nonfatal closing tracks).meets _ polled
    obtain ⟨cursor', tracks'⟩ := kept.tracked
    exact (kept.far ⟨willing, enough⟩).imp_right fun ⟨empty, idle⟩ =>
      tracks'.all_written numbered empty idle

/-- Packets are sent to a writer in any order, between polls in which the socket does anything but break down.
At every moment the bytes that are written are the first ones of the stream and nothing is lost, and the
socket is shut down only when a last packet and everything before it has been written.  A moment in the
middle of a poll is one after a poll with fewer outcomes. -/
theorem bytes_written_in_order (kind : WriterKind) (p : Profile) {packets unsent : List SequencedPacket}
    {events : List WriterEvent} (numbered : Numbered packets) (arrive : (arrivals events ++ unsent).Perm packets)
    (nonfatal : ∀ event ∈ events, event.Nonfatal) :
    Settles (Countable p packets) (run (Task.step kind p) Task.new events) (InOrder kind p packets unsent) := by
  have start : Delivering packets (awaited events unsent .new) .new := ⟨⟨_, tracks_new arrive⟩, nofun⟩
  exact (run_settles numbered nonfatal start).mono fun task delivering => delivering.inOrder numbered

/-! ### A sample stream -/

/-- Three packets, the second of which has no data. -/
def threePackets : List SequencedPacket :=
  [⟨[1, 2, 3], ⟨0, u64_zero⟩, false⟩, ⟨[], ⟨1, u64_one⟩, false⟩, ⟨[4, 5], ⟨2, u64_two⟩, true⟩]

lemma numbered_threePackets : Numbered threePackets := by
  intro i packet listed
  rcases i with _ | _ | _ | i
  · cases listed
    rfl
  · cases listed
    rfl
  · cases listed
    rfl
  · simp [threePackets] at listed

/-- The last packet comes first, and the socket takes the first one in two parts. -/
def shuffledSends : List WriterEvent :=
  [.send ⟨[4, 5], ⟨2, u64_two⟩, true⟩, .poll [] (.ok .ready), .send ⟨[1, 2, 3], ⟨0, u64_zero⟩, false⟩,
    .poll [.ready 2, .error .other, .notReady] (.ok .ready), .send ⟨[], ⟨1, u64_one⟩, false⟩,
    .poll [.ready 9, .ready 9, .ready 9] (.ok .notReady), .poll [] (.ok .ready)]

lemma nonfatal_shuffledSends : ∀ event ∈ shuffledSends, event.Nonfatal := by
  simp [shuffledSends, WriterEvent.Nonfatal, WriteOutcome.Nonfatal, indicatesDeadStream, deadStreamErrors]

theorem shuffled_sends_written_in_order :
    (Numbered threePackets ∧ (arrivals shuffledSends ++ []).Perm threePackets ∧
      ∀ event ∈ shuffledSends, event.Nonfatal) ∧
    Settles (Countable .debug threePackets) (run (Task.step .sorted .debug) .new shuffledSends)
      (InOrder .sorted .debug threePackets []) := ⟨⟨numbered_threePackets, by decide, nonfatal_shuffledSends⟩,
    bytes_written_in_order .sorted .debug numbered_threePackets (by decide) nonfatal_shuffledSends⟩

example : (run (Task.step .proxyClient .debug) .new shuffledSends).map
    (fun task => (task.writer.written, task.writer.shutdowns)) = .ok ([1, 2, 3, 4, 5], 2) := by
  rfl

end PulseMesh.Streams
