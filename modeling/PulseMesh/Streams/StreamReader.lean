import PulseMesh.Framing.TlsFramer
import PulseMesh.ProxyClientPool.Pool
import PulseMesh.Streams.StreamHandlerPool

/-!
# Reading streams

What comes in on a connection goes through a discriminator: a framer finds the frames in it, and the first
masquerader that can unmask a frame does so.  The reader takes chunks until it gets none, but it gets none
for a frame that nobody can unmask as well.
-/

namespace PulseMesh.Streams

open Machine SubLib Accountant ProxyServer Framers Framing List Option HttpProtocolPack
open ProxyClientPool (Sequencer)

/-! ### Discriminators -/

structure UnmaskedChunk where
  chunk : Bytes
  lastChunk : Bool
  sequenced : Bool

/-- Whatever the error is, the next masquerader is tried. -/
abbrev Masquerader := Bytes → Except String UnmaskedChunk

structure Discriminator (σ : Type) where
  framer : σ
  masqueraders : List Masquerader

namespace Discriminator

variable {σ : Type} (takeFrame : σ → Except Panic (Option FramedChunk × σ)) (discriminator : Discriminator σ)

def tryUnmask (frame : FramedChunk) : Option UnmaskedChunk :=
  discriminator.masqueraders.findSome? fun masquerader => (masquerader frame.chunk).toOption

def takeChunk : Except Panic (Option UnmaskedChunk × Discriminator σ) := do
  let (frameOpt, framer) ← takeFrame discriminator.framer
  return (frameOpt.bind discriminator.tryUnmask, { discriminator with framer })

variable {takeFrame discriminator}

/-- **Bad frames**: of the frames that are there, the loop delivers those in front of the first bad one.  So it
delivers all that can be unmasked just if none of them stands behind a bad one. -/
theorem delivers_iff {frames : List FramedChunk} {framer : σ}
    (contained : Drains takeFrame discriminator.framer frames framer) :
    ∃ chunks after, Drains (takeChunk takeFrame) discriminator chunks after ∧
      (chunks = frames.filterMap discriminator.tryUnmask ↔ frames.Pairwise fun frame later =>
        (discriminator.tryUnmask later).isSome → (discriminator.tryUnmask frame).isSome) := by
  obtain ⟨start, masqueraders⟩ := discriminator
  dsimp only at contained
  induction contained with
  | none nothing => exact ⟨[], _, .none (by simp [takeChunk, nothing]; rfl), by simp⟩
  | @frame s mid t frame frames taken rest ih =>
    obtain ⟨chunks, after, drains, delivered⟩ := ih
    have unmasks : takeChunk takeFrame ⟨s, masqueraders⟩ =
        .ok (tryUnmask ⟨s, masqueraders⟩ frame, ⟨mid, masqueraders⟩) := by
      simp [takeChunk, taken]
    have same (framer : σ) : tryUnmask ⟨framer, masqueraders⟩ = tryUnmask ⟨s, masqueraders⟩ := rfl
    rw [same] at delivered
    cases unmasked : tryUnmask ⟨s, masqueraders⟩ frame with
    | none =>
      rw [unmasked] at unmasks
      refine ⟨[], _, .none unmasks, ?_⟩
      rw [filterMap_cons_none unmasked, eq_comm, filterMap_eq_nil_iff, pairwise_cons]
      simp only [unmasked, isSome_none, Bool.false_eq_true, imp_false, not_isSome_iff_eq_none]
      refine ⟨fun bad => ⟨bad, pairwise_of_forall_mem_list ?_⟩, And.left⟩
      intro frame _ later isLater
      simp [bad later isLater]
    | some chunk =>
      rw [unmasked] at unmasks
      refine ⟨chunk :: chunks, after, .frame unmasks drains, ?_⟩
      simp [unmasked, delivered]

/-- A framer that is given the frames one by one. -/
def nextFrame (frames : List FramedChunk) : Except Panic (Option FramedChunk × List FramedChunk) :=
  .ok (frames.head?, frames.tail)

/-- Two frames, of which the first one cannot be unmasked. -/
def fussy : Discriminator (List FramedChunk) :=
  ⟨[⟨[0], true⟩, ⟨[1], true⟩], [fun frame => if frame = [0] then .error "bad" else .ok ⟨frame, true, false⟩]⟩

theorem fussy_delivers_iff : ∃ chunks after, Drains (takeChunk nextFrame) fussy chunks after ∧
    (chunks = fussy.framer.filterMap fussy.tryUnmask ↔ fussy.framer.Pairwise fun frame later =>
      (fussy.tryUnmask later).isSome → (fussy.tryUnmask frame).isSome) := delivers_iff (.frame rfl (.frame rfl (.none rfl)))

theorem good_frame_is_hidden : ∃ after, Drains (takeChunk nextFrame) fussy [] after ∧
    fussy.framer.filterMap fussy.tryUnmask = [⟨[1], true, false⟩] := ⟨_, .none rfl, rfl⟩

end Discriminator

/-! ### The reader -/

structure StreamReader (σ : Type) where
  peerAddr : SocketAddr
  receptionPort : Option UInt16
  discriminators : List (Discriminator σ)
  isClandestine : Bool
  sequencer : Sequencer

/-- What a read gives.  The buffer is new in every poll and is used again for each of its reads, so that it depends
on the reads before and on where the polls end what is left over behind the data. -/
inductive ReadResult where
  | ready (now : SystemTime) (data leftover : Bytes)
  | failed (kind : ErrorKind)

def ReadResult.isEnd : ReadResult → Bool
  | ready _ data _ => data.isEmpty
  | failed kind => indicatesDeadStream kind

inductive ReaderMessage where
  | inbound (ibcd : InboundClientData)
  | remove (msg : RemoveStreamMsg)

namespace StreamReader

variable {σ : Type} (p : Profile)

/-- A CONNECT has the number zero, which keeps it from being masked. -/
def numberOf (isConnect : Bool) (sequencer : Sequencer) (chunk : UnmaskedChunk) :
    Except Panic (Option U64 × Sequencer) :=
  if chunk.sequenced && !isConnect then do
    let (number, sequencer) ← sequencer.nextSequenceNumber p
    return (some number, sequencer)
  else .ok (if isConnect then some ⟨0, u64_zero⟩ else none, sequencer)

def transmit (reader : StreamReader σ) (now : SystemTime) (isConnect : Bool) :
    List UnmaskedChunk → Sequencer → Except Panic (List ReaderMessage × Sequencer)
  | [], sequencer => .ok ([], sequencer)
  | chunk :: chunks, sequencer => do
    let (number, sequencer) ← numberOf p isConnect sequencer chunk
    let (messages, sequencer) ← transmit reader now isConnect chunks sequencer
    return (.inbound ⟨now, reader.peerAddr, reader.receptionPort, false, number, chunk.chunk⟩ :: messages, sequencer)

def shutdown (reader : StreamReader σ) : Except Panic RemoveStreamMsg :=
  if reader.isClandestine then .ok ⟨reader.peerAddr, .clandestine⟩
  else
    match reader.receptionPort with
    | none => .error (.raised "Non-clandestine StreamReader should always have a reception_port")
    | some receptionPort => do
      let (sequenceNumber, _) ← reader.sequencer.nextSequenceNumber p
      return ⟨reader.peerAddr, .nonClandestine ⟨receptionPort, sequenceNumber⟩⟩

variable (addData : σ → Bytes → σ) (takeFrame : σ → Except Panic (Option FramedChunk × σ))

/-- The messages that the reads of a connection lead to.  The method is looked for in the whole buffer. -/
def Reads (reader : StreamReader σ) : List ReadResult → List ReaderMessage → Prop
  | [], messages => messages = []
  | result :: results, messages =>
    if result.isEnd then results = [] ∧ ∃ msg, reader.shutdown p = .ok msg ∧ messages = [.remove msg]
    else
      match result with
      | .failed _ => Reads reader results messages
      | .ready now data leftover =>
        let isConnect := isConnect (data ++ leftover)
        let index := if 1 < reader.discriminators.length && isConnect then 1 else 0
        ∃ discriminator ∈ reader.discriminators[index]?, ∃ chunks after,
          Drains (Discriminator.takeChunk takeFrame)
            { discriminator with framer := addData discriminator.framer data } chunks after ∧
          ∃ sent sequencer, transmit p reader now isConnect chunks reader.sequencer = .ok (sent, sequencer) ∧
          ∃ later, messages = sent ++ later ∧
            Reads { reader with discriminators := reader.discriminators.set index after, sequencer } results later

/-- The same result with any two buffers, unless it is the beginning of a CONNECT. -/
inductive SameRead : ReadResult → ReadResult → Prop where
  | failed {kind} : SameRead (.failed kind) (.failed kind)
  | ready {now data leftover leftover'} (told : data <+: utf8Bytes "CONNECT" → data = []) :
      SameRead (.ready now data leftover) (.ready now data leftover')

variable {p addData takeFrame}

lemma isConnect_append (told : ¬data <+: utf8Bytes "CONNECT") (leftover) :
    isConnect (data ++ leftover) = isConnect data := by
  -- what was read is longer than the method or differs from it
  have differs : ¬data.take 8 <+: utf8Bytes "CONNECT" := by
    intro begins
    have short : (data.take 8).length ≤ 7 := begins.length_le
    rw [length_take] at short
    rw [take_of_length_le (by omega)] at begins
    exact told begins
  unfold isConnect
  rw [take_append, takeWhile_append]
  split
  next whole =>
    have all : (data.take 8).takeWhile (· != 32) = data.take 8 :=
      IsPrefix.eq_of_length ( takeWhile_prefix _) whole
    have never {rest : Bytes} : (data.take 8 ++ rest == utf8Bytes "CONNECT") = false :=
      beq_eq_false_iff_ne.mpr fun same => differs ⟨rest, same⟩
    rw [all, never, ← append_nil (data.take 8), never]
  · rfl

/-- **Stale bytes**: as long as every read tells the method, the messages do not depend on what is left over in the
buffer. -/
theorem stale_bytes_do_not_matter {reader : StreamReader σ} {results results' messages messages'}
    (same : Forall₂ SameRead results results') (reads : Reads p addData takeFrame reader results messages)
    (reads' : Reads p addData takeFrame reader results' messages') : messages = messages' := by
  induction same generalizing reader messages messages' with
  | nil => exact reads.trans reads'.symm
  | @cons result result' _ _ same _ ih =>
    have ends : result'.isEnd = result.isEnd := by cases same <;> rfl
    rw [Reads.eq_def] at reads reads'
    dsimp only at reads reads'
    rw [ends] at reads'
    split at reads
    next ended =>
      rw [if_pos ended] at reads'
      obtain ⟨-, msg, shuts, rfl⟩ := reads
      obtain ⟨-, msg', shuts', rfl⟩ := reads'
      cases shuts.symm.trans shuts'
      rfl
    next more =>
      rw [if_neg more] at reads'
      cases same with
      | failed => exact ih reads reads'
      | @ready now data _ _ told =>
        have filled : ¬data <+: utf8Bytes "CONNECT" := fun begins => by
          simp [ReadResult.isEnd, told begins] at more
        simp only [isConnect_append filled] at reads reads'
        obtain ⟨discriminator, chosen, chunks, after, drains, sent, sequencer, transmits, later, rfl, rest⟩ := reads
        obtain ⟨_, chosen', _, _, drains', _, _, transmits', later', rfl, rest'⟩ := reads'
        cases mem_unique chosen chosen'
        obtain ⟨rfl, rfl⟩ := drains.unique drains'
        cases transmits.symm.trans transmits'
        rw [ih rest rest']

/-- A browser, whose reads are frames. -/
def browserReader : StreamReader (List FramedChunk) :=
  ⟨⟨.v4 0x01020304, 5⟩, some 80, [⟨[], [fun frame => .ok ⟨frame, true, true⟩]⟩], false, .new⟩

def browserMessage (data : Bytes) (number : U64) : ReaderMessage :=
  .inbound ⟨⟨0⟩, browserReader.peerAddr, some 80, false, some number, data⟩

/-- The data come behind a request. -/
def BrowserReads (data leftover : Bytes) (messages : List ReaderMessage) : Prop :=
  Reads .debug (fun frames data => frames ++ [⟨data, true⟩]) Discriminator.nextFrame browserReader
    [.ready ⟨0⟩ (utf8Bytes "GET /CT ") [], .ready ⟨0⟩ data leftover] messages

lemma browserReads_number (filled : data.isEmpty = false) :
    BrowserReads data leftover [browserMessage (utf8Bytes "GET /CT ") ⟨0, by decide⟩, browserMessage data
      (if isConnect (data ++ leftover) then ⟨0, by decide⟩ else ⟨1, by decide⟩)] := by
  refine ⟨_, rfl, _, _, .frame rfl (.none rfl), _, _, rfl, [_], rfl, ?_⟩
  rw [Reads, ReadResult.isEnd, filled]
  cases isConnect (data ++ leftover) with
  | true => exact ⟨_, rfl, _, _, .frame rfl (.none rfl), _, _, rfl, _, rfl, rfl⟩
  | false => exact ⟨_, rfl, _, _, .frame rfl (.none rfl), _, _, rfl, _, rfl, rfl⟩

theorem leftover_of_put_does_not_matter : ∃ messages messages',
    BrowserReads (utf8Bytes "PUT") (utf8Bytes " /CT ") messages ∧ BrowserReads (utf8Bytes "PUT") [] messages' ∧
      messages = messages' := by
  have reads {leftover} : BrowserReads (utf8Bytes "PUT") leftover _ := browserReads_number (by decide)
  exact ⟨_, _, reads, reads, stale_bytes_do_not_matter
    (.cons (.ready (by decide)) (.cons (.ready (by decide)) .nil)) reads reads⟩

/-- The end of the request completes the method, and the data get the number of a CONNECT. -/
theorem stale_bytes_make_connect : ∃ messages messages',
    BrowserReads (utf8Bytes "CONNE") (utf8Bytes "CT ") messages ∧ BrowserReads (utf8Bytes "CONNE") [] messages' ∧
      messages ≠ messages' := by
  refine ⟨_, _, browserReads_number (by decide), browserReads_number (by decide), ?_⟩
  have completed : isConnect (utf8Bytes "CONNE" ++ utf8Bytes "CT ") = true := by decide
  have cut : isConnect (utf8Bytes "CONNE") = false := by decide
  simp [completed, cut, browserMessage]

end StreamReader

end PulseMesh.Streams
