import PulseMesh.Lib.Runs
import PulseMesh.SubLib.SequenceBuffer

/-!
# Stream writers

A stream writer takes packets from a channel and writes their data to a socket, in the order of the packets'
numbers.  There are two: `StreamWriterSorted` writes to clients, and the proxy client's `StreamWriter` writes
to servers.  Both are futures, which are polled until they have a result.  A socket can take all data that it
is offered, or a part, or nothing.
-/

namespace PulseMesh.Streams

open Machine SubLib

/-! ### The socket and the channel -/

/-- Kinds of IO error.  Those that no stream survives are named, and all others are one kind here. -/
inductive ErrorKind where
  | brokenPipe
  | connectionAborted
  | connectionReset
  | connectionRefused
  | timedOut
  | other
deriving DecidableEq, Repr

def deadStreamErrors : List ErrorKind :=
  [.brokenPipe, .connectionAborted, .connectionReset, .connectionRefused, .timedOut]

def indicatesDeadStream (kind : ErrorKind) : Bool := deadStreamErrors.contains kind

inductive Async where
  | notReady
  | ready
deriving Repr

/-- What the socket does when it is offered data.  It takes no more than it is offered. -/
inductive WriteOutcome where
  | error (kind : ErrorKind)
  | notReady
  | ready (atMost : Nat)
deriving Repr

/-- A writer with the socket's and the channel's ends: the bytes that the socket has taken, the number of
times that it was told to shut down, and the packets that are still in the channel. -/
structure StreamWriter where
  written : Bytes
  shutdowns : Nat
  rxToWrite : List SequencedPacket
  rxClosed : Bool
  sequenceBuffer : SequenceBuffer
  shuttingDown : Bool

namespace StreamWriter

def new : StreamWriter := ⟨[], 0, [], false, .new, false⟩

/-- The socket shuts down, is still at it, or fails. -/
def shutdown (writer : StreamWriter) (outcome : Except Unit Async) : Except Unit Async × StreamWriter :=
  (outcome, { writer with shutdowns := writer.shutdowns + 1 })

def readDataFromChannel (writer : StreamWriter) : StreamWriter :=
  { writer with
    sequenceBuffer := writer.rxToWrite.foldl SequenceBuffer.push writer.sequenceBuffer
    rxToWrite := [] }

/-- The writers' common loop, with the values that they return from it.  When there are no more `outcomes` the
socket is not ready. -/
def writeFromBuffer {ρ : Type} (failed notDone done : ρ) (p : Profile) (closing : Except Unit Async) :
    List WriteOutcome → StreamWriter → Except Panic (ρ × StreamWriter)
  | [], writer => do
    let (packetOpt, sequenceBuffer) ← writer.sequenceBuffer.poll p
    match packetOpt with
    | none => return (done, { writer with sequenceBuffer })
    | some packet =>
      let sequenceBuffer ← sequenceBuffer.repush p packet
      return (notDone, { writer with sequenceBuffer })
  | outcome :: outcomes, writer => do
    let (packetOpt, sequenceBuffer) ← writer.sequenceBuffer.poll p
    match packetOpt with
    | none => return (done, { writer with sequenceBuffer })
    | some packet =>
      match outcome with
      | .error kind =>
        if indicatesDeadStream kind then
          return (failed, { writer with sequenceBuffer })
        else
          let sequenceBuffer ← sequenceBuffer.repush p packet
          writeFromBuffer failed notDone done p closing outcomes { writer with sequenceBuffer }
      | .notReady =>
        let sequenceBuffer ← sequenceBuffer.repush p packet
        return (notDone, { writer with sequenceBuffer })
      | .ready atMost =>
        let len := min atMost packet.data.length
        let written := writer.written ++ packet.data.take len
        if len ≠ packet.data.length then
          -- the rest is tried again
          let sequenceBuffer ← sequenceBuffer.repush p { packet with data := packet.data.drop len }
          writeFromBuffer failed notDone done p closing outcomes { writer with written, sequenceBuffer }
        else if packet.lastData then
          let writer := { writer with written, sequenceBuffer, shuttingDown := true }
          return (match writer.shutdown closing with
            | (.ok .notReady, writer) => (notDone, writer)
            | (.ok .ready, writer) => (done, writer)
            | (.error _, writer) => (failed, writer))
        else
          writeFromBuffer failed notDone done p closing outcomes { writer with written, sequenceBuffer }

/-- The values that a loop returns can be chosen afterwards. -/
lemma writeFromBuffer_map {ρ ρ' : Type} (f : ρ → ρ') (failed notDone done : ρ) (p)
    (closing : Except Unit Async) (outcomes writer) :
    writeFromBuffer (f failed) (f notDone) (f done) p closing outcomes writer =
      (writeFromBuffer failed notDone done p closing outcomes writer).map (Prod.map f id) := by
  induction outcomes generalizing writer with
  | nil =>
    unfold writeFromBuffer
    rcases writer.sequenceBuffer.poll p with _ | ⟨_ | packet, sequenceBuffer⟩
    · rfl
    · rfl
    · simp only [ok_bind]
      cases sequenceBuffer.repush p packet <;> rfl
  | cons outcome outcomes ih =>
    unfold writeFromBuffer
    rcases writer.sequenceBuffer.poll p with _ | ⟨_ | packet, sequenceBuffer⟩
    · rfl
    · rfl
    · simp only [ok_bind]
      cases outcome with
      | error kind =>
        by_cases dead : indicatesDeadStream kind
        · simp only [dead]
          rfl
        · simp only [dead]
          cases sequenceBuffer.repush p packet with
          | error => rfl
          | ok sequenceBuffer => exact ih _
      | notReady => cases sequenceBuffer.repush p packet <;> rfl
      | ready atMost =>
        dsimp only
        split
        · cases sequenceBuffer.repush p { packet with data := packet.data.drop (min atMost packet.data.length) } with
          | error => rfl
          | ok sequenceBuffer => exact ih _
        · split
          · rcases closing with _ | _ | _ <;> rfl
          · exact ih _

end StreamWriter

/-! ### The two writers -/

inductive ReadChannelStatus where
  | stillOpen
  | closed
deriving Repr

inductive WriteBufferStatus where
  | streamInError
  | bufferNotEmpty
  | bufferEmpty
deriving Repr

namespace StreamWriterSorted

def readDataFromChannel (writer : StreamWriter) : ReadChannelStatus × StreamWriter :=
  (if writer.rxClosed then .closed else .stillOpen, writer.readDataFromChannel)

def writeFromBufferToStream (p : Profile) (closing : Except Unit Async) (outcomes : List WriteOutcome)
    (writer : StreamWriter) : Except Panic (WriteBufferStatus × StreamWriter) :=
  writer.writeFromBuffer .streamInError .bufferNotEmpty .bufferEmpty p closing outcomes

def poll (p : Profile) (closing : Except Unit Async) (outcomes : List WriteOutcome) (writer : StreamWriter) :
    Except Panic (Except Unit Async × StreamWriter) :=
  if writer.shuttingDown then
    return writer.shutdown closing
  else do
    let (readResult, writer) := readDataFromChannel writer
    let (writeResult, writer) ← writeFromBufferToStream p closing outcomes writer
    return (match readResult, writeResult with
      | _, .streamInError => .error ()
      | .stillOpen, _ => .ok .notReady
      | .closed, .bufferNotEmpty => .ok .notReady
      | .closed, .bufferEmpty => .ok .ready, writer)

end StreamWriterSorted

namespace ProxyClient.StreamWriter

def readDataFromChannel (writer : StreamWriter) : Except Unit Async × StreamWriter :=
  (.ok (if writer.rxClosed then .ready else .notReady), writer.readDataFromChannel)

def writeFromBufferToStream (p : Profile) (closing : Except Unit Async) (outcomes : List WriteOutcome)
    (writer : StreamWriter) : Except Panic (Except Unit Async × StreamWriter) :=
  writer.writeFromBuffer (.error ()) (.ok .notReady) (.ok .ready) p closing outcomes

def poll (p : Profile) (closing : Except Unit Async) (outcomes : List WriteOutcome) (writer : StreamWriter) :
    Except Panic (Except Unit Async × StreamWriter) :=
  if writer.shuttingDown then
    return writer.shutdown closing
  else do
    let (readResult, writer) := readDataFromChannel writer
    let (writeResult, writer) ← writeFromBufferToStream p closing outcomes writer
    return (match readResult, writeResult with
      | _, .error _ => .error ()
      | .ok .notReady, _ => .ok .notReady
      | _, _ => writeResult, writer)

/-- What the sorted writer's loop says, in the proxy client's terms. -/
def ofStatus : WriteBufferStatus → Except Unit Async
  | .streamInError => .error ()
  | .bufferNotEmpty => .ok .notReady
  | .bufferEmpty => .ok .ready

lemma poll_eq (p) (closing : Except Unit Async) (outcomes writer) :
    poll p closing outcomes writer = StreamWriterSorted.poll p closing outcomes writer := by
  unfold poll StreamWriterSorted.poll
  split
  · rfl
  · have mapped := StreamWriter.writeFromBuffer_map ofStatus .streamInError .bufferNotEmpty .bufferEmpty p
      closing outcomes writer.readDataFromChannel
    simp only [readDataFromChannel, writeFromBufferToStream, StreamWriterSorted.readDataFromChannel,
      StreamWriterSorted.writeFromBufferToStream]
    simp only [ofStatus] at mapped
    rw [mapped]
    rcases StreamWriter.writeFromBuffer _ _ _ p closing outcomes writer.readDataFromChannel
      with _ | ⟨_ | _ | _, after⟩
    · rfl
    all_goals cases writer.rxClosed <;> rfl

end ProxyClient.StreamWriter

/-! ### A writer at work -/

inductive WriterKind where
  | sorted
  | proxyClient
deriving Repr

def WriterKind.poll : WriterKind → Profile → Except Unit Async → List WriteOutcome → StreamWriter →
    Except Panic (Except Unit Async × StreamWriter)
  | .sorted => StreamWriterSorted.poll
  | .proxyClient => ProxyClient.StreamWriter.poll

lemma WriterKind.poll_eq (kind : WriterKind) : kind.poll = StreamWriterSorted.poll := by
  cases kind with
  | sorted => rfl
  | proxyClient =>
    funext p closing outcomes writer
    exact ProxyClient.StreamWriter.poll_eq p closing outcomes writer

/-- A writer that the runtime polls until it has a result. -/
structure Task where
  writer : StreamWriter
  result : Option (Except Unit Unit)

def Task.new : Task := ⟨.new, none⟩

/-- What happens to a writer.  In a poll the socket is told what to do with each offer, and with a shutdown. -/
inductive WriterEvent where
  | send (packet : SequencedPacket)
  | close
  | poll (outcomes : List WriteOutcome) (closing : Except Unit Async)

def Task.step (kind : WriterKind) (p : Profile) (task : Task) : WriterEvent → Except Panic Task
  | .send packet =>
    -- a channel that is closed has no more senders
    if task.writer.rxClosed then
      return task
    else
      return { task with writer := { task.writer with rxToWrite := task.writer.rxToWrite ++ [packet] } }
  | .close => return { task with writer := { task.writer with rxClosed := true } }
  | .poll outcomes closing =>
    -- a future with a result is not polled again
    if task.result.isSome then
      return task
    else do
      let (result, writer) ← kind.poll p closing outcomes task.writer
      return ⟨writer, match result with
        | .ok .notReady => none
        | .ok .ready => some (.ok ())
        | .error _ => some (.error ())⟩

end PulseMesh.Streams
