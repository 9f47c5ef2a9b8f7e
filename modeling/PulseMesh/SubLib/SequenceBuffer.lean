import PulseMesh.SubLib.Messages

/-!
# The sequence buffer

Packets of a stream are numbered, but they can come in any order.  The buffer gives them out one by one,
each when all packets before it have been given out.  A packet can be given back, with fewer data,
and is then the next one again.
-/

namespace PulseMesh.SubLib

open Machine List

structure SequenceBuffer where
  buffer : List SequencedPacket
  nextExpectedSequenceNumber : U64
  seenSequenceNumbers : List U64

namespace SequenceBuffer

def new : SequenceBuffer := ⟨[], ⟨0, u64_zero⟩, []⟩

/-- The packet with the lowest number, as the heap is ordered. -/
def peek : List SequencedPacket → Option SequencedPacket
  | [] => none
  | packet :: packets =>
    match peek packets with
    | none => some packet
    | some other =>
      if other.sequenceNumber.val < packet.sequenceNumber.val then some other else some packet

/-- A packet that has come before is dropped. -/
def push (sequenceBuffer : SequenceBuffer) (packet : SequencedPacket) : SequenceBuffer :=
  if sequenceBuffer.nextExpectedSequenceNumber.val ≤ packet.sequenceNumber.val ∧
      packet.sequenceNumber ∉ sequenceBuffer.seenSequenceNumbers then
    { sequenceBuffer with
      seenSequenceNumbers := sequenceBuffer.seenSequenceNumbers ++ [packet.sequenceNumber]
      buffer := packet :: sequenceBuffer.buffer }
  else
    sequenceBuffer

section

variable (p : Profile)

def poll (sequenceBuffer : SequenceBuffer) : Except Panic (Option SequencedPacket × SequenceBuffer) :=
  match peek sequenceBuffer.buffer with
  | none => .ok (none, sequenceBuffer)
  | some packet =>
    if packet.sequenceNumber = sequenceBuffer.nextExpectedSequenceNumber then do
      let nextExpectedSequenceNumber ← sequenceBuffer.nextExpectedSequenceNumber.add p ⟨1, u64_one⟩
      return (some packet, {
        buffer := sequenceBuffer.buffer.erase packet
        nextExpectedSequenceNumber
        -- the first place that it is found at
        seenSequenceNumbers := sequenceBuffer.seenSequenceNumbers.erase packet.sequenceNumber })
    else
      -- the buffer waits for the next packet
      .ok (none, sequenceBuffer)

def repush (sequenceBuffer : SequenceBuffer) (packet : SequencedPacket) : Except Panic SequenceBuffer := do
  let previous ← sequenceBuffer.nextExpectedSequenceNumber.sub p ⟨1, u64_one⟩
  if packet.sequenceNumber ≠ previous then
    .error (.raised "improper use of repush")
  else
    return {
      nextExpectedSequenceNumber := packet.sequenceNumber
      seenSequenceNumbers := sequenceBuffer.seenSequenceNumbers ++ [packet.sequenceNumber]
      buffer := packet :: sequenceBuffer.buffer }

end

/-! ### What the operations do -/

variable {sequenceBuffer : SequenceBuffer}

/-- The buffer has seen the packets that it holds, and no others that are still to come. -/
def Sound (sequenceBuffer : SequenceBuffer) : Prop :=
  sequenceBuffer.seenSequenceNumbers.Perm (sequenceBuffer.buffer.map SequencedPacket.sequenceNumber)

lemma sound_new : new.Sound := .refl _

lemma peek_mem (first : peek packets = some packet) : packet ∈ packets := by
  induction packets generalizing packet with
  | nil => cases first
  | cons head packets ih =>
    unfold peek at first
    split at first
    · cases first
      exact .head _
    next other isFirst =>
      split at first
      · cases first
        exact .tail _ (ih isFirst)
      · cases first
        exact .head _

lemma peek_eq_none : peek packets = none ↔ packets = [] := by
  cases packets with
  | nil => simp [peek]
  | cons head packets =>
    unfold peek
    split
    · simp
    · split <;> simp

/-- No packet comes before the first one. -/
lemma peek_le (first : peek packets = some packet) (listed : other ∈ packets) :
    packet.sequenceNumber.val ≤ other.sequenceNumber.val := by
  induction packets generalizing packet other with
  | nil => cases listed
  | cons head packets ih =>
    unfold peek at first
    split at first
    next empty =>
      cases first
      rw [peek_eq_none.mp empty, mem_singleton] at listed
      rw [listed]
    next least isFirst =>
      split at first
      next before =>
        cases first
        rcases mem_cons.mp listed with rfl | later
        · omega
        · exact ih isFirst later
      next notBefore =>
        cases first
        rcases mem_cons.mp listed with rfl | later
        · omega
        · have := ih isFirst later
          omega

section

variable (sound : sequenceBuffer.Sound)
include sound

lemma push_eq (expected : sequenceBuffer.nextExpectedSequenceNumber.val ≤ packet.sequenceNumber.val)
    (new : packet.sequenceNumber ∉ sequenceBuffer.buffer.map SequencedPacket.sequenceNumber) :
    sequenceBuffer.push packet = { sequenceBuffer with
      seenSequenceNumbers := sequenceBuffer.seenSequenceNumbers ++ [packet.sequenceNumber]
      buffer := packet :: sequenceBuffer.buffer } := by
  unfold push
  rw [if_pos ⟨expected, fun seen => new (sound.mem_iff.mp seen)⟩]

lemma Sound.cons (packet number) :
    Sound ⟨packet :: sequenceBuffer.buffer, number,
      sequenceBuffer.seenSequenceNumbers ++ [packet.sequenceNumber]⟩ :=
  perm_append_comm.trans (List.Perm.cons packet.sequenceNumber sound)

lemma Sound.erase (held : packet ∈ sequenceBuffer.buffer) (number) :
    Sound ⟨sequenceBuffer.buffer.erase packet, number,
      sequenceBuffer.seenSequenceNumbers.erase packet.sequenceNumber⟩ := by
  have split := (perm_cons_erase held).map SequencedPacket.sequenceNumber
  have erased := (sound.trans split).erase packet.sequenceNumber
  rwa [map_cons, erase_cons_head] at erased

end

lemma poll_eq_none (absent : ∀ held ∈ sequenceBuffer.buffer,
      held.sequenceNumber ≠ sequenceBuffer.nextExpectedSequenceNumber) :
    sequenceBuffer.poll p = .ok (none, sequenceBuffer) := by
  unfold poll
  split
  · rfl
  next held first => rw [if_neg (absent held (peek_mem first))]

/-- The next packet is given out if it is there. -/
lemma poll_eq_some (held : packet ∈ sequenceBuffer.buffer)
    (isNext : packet.sequenceNumber = sequenceBuffer.nextExpectedSequenceNumber)
    (first : ∀ other ∈ sequenceBuffer.buffer, packet.sequenceNumber.val ≤ other.sequenceNumber.val ∧
        (other.sequenceNumber = packet.sequenceNumber → other = packet)) :
    sequenceBuffer.poll p = packet.sequenceNumber.add p ⟨1, by decide⟩ >>= fun number =>
      .ok (some packet, ⟨sequenceBuffer.buffer.erase packet, number,
        sequenceBuffer.seenSequenceNumbers.erase packet.sequenceNumber⟩) := by
  unfold poll
  split
  next empty =>
    rw [peek_eq_none.mp empty] at held
    cases held
  next least isFirst =>
    obtain ⟨low, unique⟩ := first least (peek_mem isFirst)
    have same : least.sequenceNumber = packet.sequenceNumber := by
      -- each of the two comes before the other
      have high := peek_le isFirst held
      exact Word.ext (by omega)
    rw [unique same, if_pos isNext, isNext]
    rfl

/-- A packet that was given out can be given back, also at the end of the numbers where they wrap. -/
lemma repush_of_poll (added : packet.sequenceNumber.add p ⟨1, by decide⟩ = .ok number) (buffer seen) :
    repush p ⟨buffer, number, seen⟩ packet =
      .ok ⟨packet :: buffer, packet.sequenceNumber, seen ++ [packet.sequenceNumber]⟩ := by
  unfold repush
  rw [Word.sub_of_add added, ok_bind, if_neg (not_not.mpr rfl)]
  rfl

end SequenceBuffer

/-! ### The codec of packets -/

namespace SequencedPacketVisitor

/-- Byte by byte from the last one of the buffer. -/
def u64To (remaining : Nat) : Nat → Bytes → Bytes
  | 0, buf => buf
  | count + 1, buf => u64To (remaining >>> 8) count (UInt8.ofNat (remaining &&& 0xFF) :: buf)

/-- The shift loses what leaves the 64 bits, and the sum cannot overflow. -/
def u64From (bytes : Bytes) : Except String U64 :=
  if bytes.length ≠ 8 then .error s!"can't make a u64 from {bytes.length} bytes"
  else
    let result := bytes.foldl (fun result byte => (result <<< 8) % 2 ^ 64 + byte.toNat) 0
    .ok ⟨(result % 2 ^ 64 : Nat), by rw [u64_holds]; omega⟩

def serialize (packet : SequencedPacket) : Bytes :=
  (if packet.lastData then 1 else 0) :: u64To packet.sequenceNumber.val.toNat 8 [] ++ packet.data

/-- The string is indexed without regard to its length. -/
def visitBytes (v : Bytes) : Except Panic (Except String SequencedPacket) :=
  match v with
  | [] => .error (.raised "index out of bounds: the len is 0 but the index is 0")
  | flag :: rest =>
    if 1 < flag then .ok (.error s!"can't deserialize a bool from {flag}")
    else if rest.length < 8 then
      .error (.raised s!"range end index 9 out of range for slice of length {v.length}")
    else
      .ok ((u64From (rest.take 8)).map fun sequenceNumber => ⟨rest.drop 8, sequenceNumber, flag == 1⟩)

lemma u64From_u64To (number) : u64From (u64To number.val.toNat 8 []) = .ok number := by
  have bounds := U64.bounds number
  have low (n : Nat) : n &&& 0xFF = n % 256 := Nat.and_two_pow_sub_one_eq_mod n 8
  simp only [u64To, u64From, Nat.shiftRight_eq_div_pow, Nat.shiftLeft_eq, low, foldl, length,
    UInt8.toNat_ofNat']
  refine congrArg Except.ok (Word.ext ?_)
  dsimp only
  omega

/-- **The codec**: packets come back as they were, and a string is deserialized or refused if it is long
enough or starts with something else than a flag. -/
theorem packets_come_back (packet : SequencedPacket) (bytes : Bytes) :
    visitBytes (serialize packet) = .ok (.ok packet) ∧
      ((∃ result, visitBytes bytes = .ok result) ↔
        9 ≤ bytes.length ∨ ∃ flag ∈ bytes.head?, 1 < flag) := by
  constructor
  · have long : (u64To packet.sequenceNumber.val.toNat 8 []).length = 8 := rfl
    have back := u64From_u64To packet.sequenceNumber
    rw [serialize]
    generalize u64To packet.sequenceNumber.val.toNat 8 [] = number at long back
    have isLast : ((if packet.lastData then 1 else 0 : UInt8) == 1) = packet.lastData := by
      cases packet.lastData <;> rfl
    have isFlag : ¬1 < (if packet.lastData then 1 else 0 : UInt8) := by split <;> decide
    have enough : ¬(number ++ packet.data).length < 8 := by simp [long]
    rw [cons_append, visitBytes, if_neg isFlag, if_neg enough, take_left' long, drop_left' long, back,
      isLast]
    rfl
  · cases bytes with
    | nil => simp [visitBytes]
    | cons flag rest =>
      by_cases other : 1 < flag
      · simp [visitBytes, other]
      · by_cases short : rest.length < 8
        · simp [visitBytes, other, short]
        · simp [visitBytes, other, short]
          omega

theorem short_strings_panic :
    visitBytes [] = .error (.raised "index out of bounds: the len is 0 but the index is 0") ∧
      visitBytes [0, 7] = .error (.raised "range end index 9 out of range for slice of length 2") := ⟨rfl, rfl⟩

end SequencedPacketVisitor

end PulseMesh.SubLib
