import PulseMesh.Lib.Framers
import PulseMesh.ProxyServer.ProtocolPacks

/-!
# Framing TLS

The framer looks for the start of a record and throws away what is in front of it.  As long as no start has
been found it keeps the last four bytes, since they may be the first bytes of a header.  If there are less
than four bytes it keeps none of them.
-/

namespace PulseMesh.Framing

open Machine SubLib ProxyServer Framers List Option

structure FramedChunk where
  chunk : Bytes
  lastChunk : Bool

structure TlsFramer where
  dataSoFar : Bytes

namespace TlsFramer

def preserveHeaderLen : Nat := 4

def isValidContentType (candidate : UInt8) : Bool := 0x14 ≤ candidate && candidate ≤ 0x17

def isValidProtocolVersion (byte1 byte2 : UInt8) : Bool := byte1 == 0x03 && (byte2 == 0x01 || byte2 == 0x03)

def convertToUsize (hiByte loByte : UInt8) : Nat := (hiByte.toNat <<< 8) ||| loByte.toNat

/-- The error is the place to try again from; there is no use in it if it is zero. -/
def searchForFrameOffset (data : Bytes) : Except Nat Nat :=
  match indexOf data [0x03] with
  | none => .error 0
  | some 0 => .error 1
  | some (offset + 1) =>
    match data.drop offset with
    | contentType :: byte1 :: byte2 :: _ :: _ :: _ =>
      if isValidContentType contentType && isValidProtocolVersion byte1 byte2 then .ok offset
      else .error (offset + 1)
    | _ => .error 0

/-- Every new try has less data in front of it. -/
def findFrameOffset : Nat → Bytes → Option Nat
  | 0, _ => none
  | tries + 1, data =>
    match searchForFrameOffset data with
    | .ok offset => some offset
    | .error 0 => none
    | .error nextOffset => (findFrameOffset tries (data.drop nextOffset)).map (nextOffset + ·)

def new : TlsFramer := ⟨[]⟩

def addData (framer : TlsFramer) (data : Bytes) : TlsFramer := ⟨framer.dataSoFar ++ data⟩

def takeFrame (framer : TlsFramer) : Except Panic (Option FramedChunk × TlsFramer) :=
  let dataSoFarLen := framer.dataSoFar.length
  match findFrameOffset (dataSoFarLen + 1) framer.dataSoFar with
  | none =>
    let splitPoint := if dataSoFarLen < preserveHeaderLen then dataSoFarLen else dataSoFarLen - preserveHeaderLen
    .ok (none, ⟨framer.dataSoFar.drop splitPoint⟩)
  | some offset =>
    let fromOffset := framer.dataSoFar.drop offset
    match fromOffset[3]?, fromOffset[4]? with
    | some hiByte, some loByte =>
      let length := convertToUsize hiByte loByte
      if 5 + length ≤ fromOffset.length then
        .ok (some ⟨fromOffset.take (5 + length), false⟩, ⟨fromOffset.drop (5 + length)⟩)
      else
        .ok (none, ⟨fromOffset⟩)
    | _, _ => .error (.raised "index out of bounds")

end TlsFramer

/-! ### Records -/

/-- A record of one of the two versions. -/
structure TlsRecord where
  contentType : UInt8
  minorVersion : UInt8
  payload : Bytes
  typeValid : TlsFramer.isValidContentType contentType = true
  versionValid : TlsFramer.isValidProtocolVersion 0x03 minorVersion = true
  short : payload.length < 2 ^ 16

namespace TlsRecord

variable (record : TlsRecord)

def header : Bytes :=
  [record.contentType, 0x03, record.minorVersion, UInt8.ofNat (record.payload.length / 256),
    UInt8.ofNat (record.payload.length % 256)]

def encode : Bytes := record.header ++ record.payload

def frame : FramedChunk := ⟨record.encode, false⟩

lemma length_encode : record.encode.length = 5 + record.payload.length := by
  simp [encode, header]
  omega

lemma convertToUsize_length :
    TlsFramer.convertToUsize (UInt8.ofNat (record.payload.length / 256))
      (UInt8.ofNat (record.payload.length % 256)) = record.payload.length := by
  have short := record.short
  generalize record.payload.length = length at short
  have high : length / 256 < 256 := by omega
  have low : length % 256 < 2 ^ 8 := by omega
  rw [TlsFramer.convertToUsize, UInt8.toNat_ofNat_of_lt' high, UInt8.toNat_ofNat_of_lt' low,
    Nat.shiftLeft_eq, Nat.mul_comm, ← Nat.two_pow_add_eq_or_of_lt low]
  omega

end TlsRecord

def bytesOf (records : List TlsRecord) : Bytes := records.flatMap TlsRecord.encode

lemma bytesOf_cons (record records) :
    bytesOf (record :: records) = record.encode ++ bytesOf records := flatMap_cons ..

lemma bytesOf_append (done todo) : bytesOf (done ++ todo) = bytesOf done ++ bytesOf todo := flatMap_append ..

open TlsRecord

lemma flatMap_frame (records) :
    (records.map frame).flatMap FramedChunk.chunk = bytesOf records := flatMap_map ..

/-- The place is one to three bytes behind the start of a record. -/
def InHeader : List TlsRecord → Nat → Prop
  | [], _ => False
  | record :: records, place =>
    1 ≤ place ∧ place ≤ 3 ∨ record.encode.length ≤ place ∧ InHeader records (place - record.encode.length)

instance decidableInHeader : (records : List TlsRecord) → (place : Nat) → Decidable (InHeader records place)
  | [], _ => .isFalse id
  | record :: records, place =>
    have := decidableInHeader records (place - record.encode.length)
    inferInstanceAs (Decidable (_ ∨ _))

lemma inHeader_append (done todo : List TlsRecord) (place : Nat) :
    InHeader (done ++ todo) ((bytesOf done).length + place) ↔ InHeader todo place := by
  induction done with
  | nil => simp [bytesOf]
  | cons record done ih =>
    have size := record.length_encode
    have rest : record.encode.length + (bytesOf done).length + place - record.encode.length =
        (bytesOf done).length + place := by omega
    rw [cons_append, InHeader, bytesOf_cons, length_append, rest, ih]
    constructor
    · rintro (⟨-, early⟩ | ⟨-, within⟩)
      · omega
      · exact within
    · exact fun within => .inr ⟨by omega, within⟩

namespace TlsFramer

variable {records : List TlsRecord} {chunks : List Bytes}

/-! ### Taking a frame -/

lemma searchForFrameOffset_eq_ok (found : searchForFrameOffset data = .ok offset) :
    offset + 4 < data.length := by
  unfold searchForFrameOffset at found
  split at found
  · cases found
  · cases found
  · split at found
    next long =>
      split at found <;> cases found
      have length := congrArg length long
      simp only [length_drop, length_cons] at length
      omega
    · cases found

lemma findFrameOffset_eq_some (found : findFrameOffset tries data = some offset) :
    offset + 4 < data.length := by
  induction tries generalizing data offset with
  | zero => cases found
  | succ tries ih =>
    unfold findFrameOffset at found
    split at found
    next searched =>
      cases found
      exact searchForFrameOffset_eq_ok searched
    · cases found
    next nextOffset _ =>
      obtain ⟨later, isLater, rfl⟩ := map_eq_some_iff.mp found
      have inside := ih isLater
      rw [length_drop] at inside
      omega

/-- Nothing is added to the data. -/
lemma takeFrame_size (framer : TlsFramer) :
    ∃ found kept, framer.takeFrame = .ok (found, kept) ∧
      found.elim 0 (·.chunk.length) + kept.dataSoFar.length ≤ framer.dataSoFar.length := by
  cases isOffset : findFrameOffset (framer.dataSoFar.length + 1) framer.dataSoFar with
  | none =>
    simp only [takeFrame, isOffset]
    exact ⟨none, _, rfl, by simp⟩
  | some offset =>
    have inside := findFrameOffset_eq_some isOffset
    have third : 3 < (framer.dataSoFar.drop offset).length := by rw [length_drop]; omega
    have fourth : 4 < (framer.dataSoFar.drop offset).length := by rw [length_drop]; omega
    simp only [takeFrame, isOffset, getElem?_eq_getElem third, getElem?_eq_getElem fourth]
    split
    · refine ⟨_, _, rfl, ?_⟩
      simp only [elim_some, length_take, length_drop]
      omega
    · exact ⟨none, _, rfl, by simp⟩

lemma takeFrame_short (short : data.length ≤ 4) :
    takeFrame ⟨data⟩ = .ok (none, ⟨if data.length < 4 then [] else data⟩) := by
  have nothing : findFrameOffset (data.length + 1) data = none := by
    refine eq_none_iff_forall_ne_some.mpr fun offset isOffset => ?_
    have inside := findFrameOffset_eq_some isOffset
    omega
  by_cases lost : data.length < 4
  · simp [takeFrame, nothing, preserveHeaderLen, lost]
  · have four : data.length = 4 := by omega
    rw [four] at nothing
    simp [takeFrame, preserveHeaderLen, four, nothing]

lemma findFrameOffset_header (record : TlsRecord) (rest) (tries : Nat) :
    findFrameOffset (tries + 1) (record.header ++ rest) = some 0 := by
  have notThree : ¬ (0x03 : UInt8) = record.contentType := by
    intro same
    have valid := record.typeValid
    rw [← same] at valid
    exact absurd valid (by decide)
  have found : indexOf (record.header ++ rest) [0x03] = some 1 := by
    simp [header, indexOf, notThree]
  have searched : searchForFrameOffset (record.header ++ rest) = .ok 0 := by
    rw [searchForFrameOffset, found]
    simp [header, record.typeValid, record.versionValid]
  rw [findFrameOffset, searched]

/-- Behind a whole header the framer waits for the payload. -/
lemma takeFrame_header (record : TlsRecord) (more : Bytes) :
    takeFrame ⟨record.header ++ more⟩ = .ok (if record.payload.length ≤ more.length then
      (some ⟨record.header ++ more.take record.payload.length, false⟩, ⟨more.drop record.payload.length⟩)
    else (none, ⟨record.header ++ more⟩)) := by
  have size : record.header.length = 5 := rfl
  have hiByte : (record.header ++ more)[3]? = some (UInt8.ofNat (record.payload.length / 256)) := rfl
  have loByte : (record.header ++ more)[4]? = some (UInt8.ofNat (record.payload.length % 256)) := rfl
  simp only [takeFrame, findFrameOffset_header, drop_zero, hiByte, loByte, record.convertToUsize_length,
    length_append, size, Nat.add_le_add_iff_left]
  split
  · rw [take_append, drop_append, take_of_length_le (by omega), drop_of_length_le (by omega),
      size, Nat.add_sub_cancel_left, nil_append]
  · rfl

/-! ### A stream of records -/

/-- All records that the data has are taken, and a header of which there are less than four bytes is lost. -/
lemma drains_stream {tail} (stream : data ++ tail = bytesOf records) :
    ∃ done todo part, records = done ++ todo ∧ data = bytesOf done ++ part ∧
      (∀ record ∈ todo.head?, part.length < record.encode.length) ∧ (todo = [] → part = []) ∧
      Drains takeFrame ⟨data⟩ (done.map frame) ⟨if part.length < 4 then [] else part⟩ := by
  induction records generalizing data with
  | nil =>
    obtain ⟨rfl, -⟩ := append_eq_nil_iff.mp stream
    exact ⟨[], [], [], rfl, rfl, by simp, fun _ => rfl, .none (takeFrame_short (by decide))⟩
  | cons record records ih =>
    have size := record.length_encode
    rw [bytesOf_cons] at stream
    by_cases whole : record.encode.length ≤ data.length
    · obtain ⟨rest, rfl⟩ : ∃ rest, data = record.encode ++ rest := by
        obtain ⟨rest, isRest⟩ := prefix_of_prefix_length_le ⟨_, rfl⟩ ⟨tail, stream⟩ whole
        exact ⟨rest, isRest.symm⟩
      rw [append_assoc, append_cancel_left_eq] at stream
      obtain ⟨done, todo, part, rfl, rfl, short, none, drains⟩ := ih stream
      refine ⟨record :: done, todo, part, rfl, by rw [bytesOf_cons, append_assoc], short, none, .frame ?_ drains⟩
      rw [encode, append_assoc, takeFrame_header]
      simp [frame, encode]
    · refine ⟨[], record :: records, data, rfl, rfl, ?_, by simp, .none ?_⟩
      · simpa using whole
      · obtain short | long : data.length ≤ 4 ∨ 5 ≤ data.length := by omega
        · exact takeFrame_short short
        · obtain ⟨more, rfl⟩ : ∃ more, data = record.header ++ more := by
            rw [encode, append_assoc] at stream
            obtain ⟨more, isMore⟩ := prefix_of_prefix_length_le ⟨_, rfl⟩ ⟨tail, stream⟩ long
            exact ⟨more, isMore.symm⟩
          rw [length_append] at whole
          have header : record.header.length = 5 := rfl
          rw [takeFrame_header, if_neg (by omega), if_neg (by rw [length_append]; omega)]

/-! ### What a stream is framed to -/

/-- No more bytes come out than were put in. -/
lemma size_of_feeds (feeds : Feeds addData takeFrame framer chunks frames kept) :
    (frames.flatMap FramedChunk.chunk).length ≤ framer.dataSoFar.length + chunks.flatten.length := by
  have ofDrains : ∀ {framer kept : TlsFramer} {frames : List FramedChunk}, Drains takeFrame framer frames kept →
      (frames.flatMap FramedChunk.chunk).length + kept.dataSoFar.length ≤ framer.dataSoFar.length := by
    intro framer kept frames drains
    induction drains with
    | none nothing =>
      obtain ⟨found, kept, taken, size⟩ := takeFrame_size _
      cases nothing.symm.trans taken
      simpa using size
    | frame isFrame _ ih =>
      obtain ⟨found, kept, taken, size⟩ := takeFrame_size _
      cases isFrame.symm.trans taken
      simp only [flatMap_cons, length_append, elim_some] at size ⊢
      omega
  induction feeds with
  | nil => exact Nat.zero_le _
  | chunk drains _ ih =>
    have drained := ofDrains drains
    simp only [addData, flatMap_append, flatten_cons, length_append] at drained ⊢
    omega

/-- The chunks are cut at places that the framer can go on from. -/
def CutsBetween (records : List TlsRecord) (place : Nat) : List Bytes → Prop
  | [] => True
  | chunk :: chunks => ¬ InHeader records (place + chunk.length) ∧ CutsBetween records (place + chunk.length) chunks

instance decidableCutsBetween (records : List TlsRecord) :
    (place : Nat) → (chunks : List Bytes) → Decidable (CutsBetween records place chunks)
  | _, [] => .isTrue trivial
  | place, chunk :: chunks =>
    have := decidableCutsBetween records (place + chunk.length) chunks
    inferInstanceAs (Decidable (_ ∧ _))

lemma cutsBetween_append (done todo) (place : Nat) (chunks) :
    CutsBetween (done ++ todo) ((bytesOf done).length + place) chunks ↔ CutsBetween todo place chunks := by
  induction chunks generalizing place with
  | nil => exact Iff.rfl
  | cons chunk chunks ih =>
    rw [CutsBetween, CutsBetween, Nat.add_assoc, inHeader_append, ih]

/-- In the first record the lost places are those behind less than four bytes. -/
lemma inHeader_iff (inFirst : ∀ record ∈ records.head?, place < record.encode.length)
    (none : records = [] → place = 0) : InHeader records place ↔ 1 ≤ place ∧ place ≤ 3 := by
  cases records with
  | nil =>
    have zero := none rfl
    exact iff_of_false id (by omega)
  | cons record records =>
    have first := inFirst record rfl
    rw [InHeader]
    omega

lemma feeds_iff {held} (stream : held ++ chunks.flatten = bytesOf records)
    (inFirst : ∀ record ∈ records.head?, held.length < record.encode.length) :
    (∃ framer, Feeds addData takeFrame ⟨held⟩ chunks (records.map frame) framer) ↔
      CutsBetween records held.length chunks := by
  induction chunks generalizing held records with
  | nil =>
    refine iff_of_true ?_ trivial
    cases records with
    | nil => exact ⟨_, .nil⟩
    | cons record records =>
      have first := inFirst record rfl
      have size := congrArg length stream
      simp only [flatten_nil, append_nil, bytesOf_cons, length_append] at size
      omega
  | cons chunk chunks ih =>
    rw [flatten_cons, ← append_assoc] at stream
    obtain ⟨done, todo, part, rfl, data, inTodo, none, drains⟩ := drains_stream stream
    rw [data, bytesOf_append, append_assoc, append_cancel_left_eq] at stream
    have place : held.length + chunk.length = (bytesOf done).length + part.length := by
      rw [← length_append, data, length_append]
    -- the frames of this chunk are those of the records that are done
    have feeds_iff_later : (∃ framer, Feeds addData takeFrame ⟨held⟩ (chunk :: chunks)
        ((done ++ todo).map frame) framer) ↔ ∃ framer, Feeds addData takeFrame
          ⟨if part.length < 4 then [] else part⟩ chunks (todo.map frame) framer := by
      rw [map_append]
      constructor
      · rintro ⟨framer, feeds⟩
        generalize all : done.map frame ++ todo.map frame = frames at feeds
        cases feeds with
        | chunk drains' later =>
          obtain ⟨rfl, rfl⟩ := drains.unique drains'
          rw [append_cancel_left_eq] at all
          exact ⟨framer, all ▸ later⟩
      · rintro ⟨framer, later⟩
        exact ⟨framer, .chunk drains later⟩
    rw [feeds_iff_later, CutsBetween, place, inHeader_append, cutsBetween_append,
      inHeader_iff inTodo fun isNone => by rw [none isNone, length_nil]]
    by_cases lost : 1 ≤ part.length ∧ part.length ≤ 3
    · refine iff_of_false ?_ fun between => between.1 lost
      rintro ⟨framer, later⟩
      rw [if_pos (by omega)] at later
      have fed := size_of_feeds later
      rw [flatMap_frame, ← stream, length_append, length_nil] at fed
      omega
    · have kept : (if part.length < 4 then [] else part) = part := by
        split
        · exact (eq_nil_of_length_eq_zero (by omega)).symm
        · rfl
      rw [kept, ih stream inTodo, and_iff_right lost]

/-- **No record is lost** exactly if no chunk ends one to three bytes behind the start of a record. -/
theorem tls_framing_lossless_iff (records : List TlsRecord) (chunks : List Bytes)
    (stream : chunks.flatten = bytesOf records) :
    (∃ framer, Feeds addData takeFrame new chunks (records.map TlsRecord.frame) framer) ↔
      CutsBetween records 0 chunks := feeds_iff stream fun record _ => by rw [length_nil, record.length_encode]; omega

def sampleRecord : TlsRecord := ⟨0x16, 0x03, [1, 2], rfl, rfl, by decide⟩

theorem sample_records_framed :
    ∃ framer, Feeds addData takeFrame new [[0x16, 3, 3, 0], [2, 1], [2, 0x16, 3, 3, 0, 2, 1, 2]]
      [sampleRecord.frame, sampleRecord.frame] framer := (tls_framing_lossless_iff [sampleRecord, sampleRecord] _ (by decide)).mpr (by decide)

/-- Of a record that is cut behind its third byte nothing is left. -/
theorem cut_header_is_lost :
    Feeds addData takeFrame new [[0x16, 3, 3], [0, 2, 1, 2]] [] ⟨[0, 2, 1, 2]⟩ ∧
      ¬ ∃ framer, Feeds addData takeFrame new [[0x16, 3, 3], [0, 2, 1, 2]] [sampleRecord.frame] framer := by
  have feeds : Feeds addData takeFrame new [[0x16, 3, 3], [0, 2, 1, 2]] [] ⟨[0, 2, 1, 2]⟩ :=
    .chunk (.none rfl) (.chunk (.none rfl) .nil)
  refine ⟨feeds, ?_⟩
  rintro ⟨framer, framed⟩
  cases (feeds.unique framed).1

end TlsFramer

end PulseMesh.Framing
