import PulseMesh.ProxyClientPool.Pool

/-!
# What the pool can do

Every event is a sequence of moves, and a move changes little.  What every move keeps is kept by every
event and by every run.
-/

namespace PulseMesh.ProxyClientPool

open Machine Runs SubLib Accountant ProxyClient
open Relation (ReflTransGen)

/-- The messages that a failed request sends. -/
inductive FailureMail : Mail → Prop where
  | terminating (streamKey : StreamKey) (source : SocketAddr) :
      FailureMail (terminatingPackage streamKey ⟨0, by decide⟩ source)
  | dnsResolveFailed (msg : DnsResolveFailure) : FailureMail (.dnsResolveFailed msg)

/-- What neither the writers, the readers nor the mailbox see. -/
def withBooks (world : World) (futures : List SpawnedFuture)
    (reports : List ReportExitServiceProvidedMessage) (endedWriters : List Nat) : World :=
  { world with futures, reports, endedWriters }

/-- A stream goes from the establisher to the adder. -/
def handOver (world : World) (write : Write) (senders : StreamSenders) : World :=
  { world with
    streamAdder := world.streamAdder ++ [(write.payload.streamKey, senders)]
    establishing := none }

/-- A move that does not take a message out of the stream killer. -/
inductive Quiet (p : Profile) (world : World) : World → Prop where
  | books (futures reports endedWriters) : Quiet p world (withBooks world futures reports endedWriters)
  | removeWriter (streamKey : StreamKey) : Quiet p world (removeWriter world streamKey)
  | fail {mail : Mail} (fails : FailureMail mail) : Quiet p world (post world .failure mail)
  | add {stream : StreamKey × StreamSenders} {streams : List (StreamKey × StreamSenders)}
      (waiting : world.streamAdder = stream :: streams) :
      Quiet p world (addNewStream { world with streamAdder := streams } stream)
  | spawn (write : Write) (peerAddr : SocketAddr) (idle : world.establishing = none) :
      Quiet p world (spawnStreamReader world write peerAddr)
  | handOver {write : Write} {senders : StreamSenders} (busy : world.establishing = some ⟨write, senders⟩) :
      Quiet p world (handOver world write senders)
  | turn {stream : Nat} {reader : StreamReader} (known : world.readers[stream]? = some reader)
      (running : reader.phase ≠ .ended) (phase : Phase) :
      Quiet p world (setReader world stream { reader with phase })
  | send {stream : Nat} {reader : StreamReader} (known : world.readers[stream]? = some reader)
      (reading : reader.phase = .reading) {data : Bytes} {next : World}
      (sent : sendInboundServerData p world stream reader data = .ok next) : Quiet p world next
  | die {stream : Nat} {reader : StreamReader} (known : world.readers[stream]? = some reader)
      (reading : reader.phase = .reading) {next : World}
      (died : shutdown p world stream reader = .ok next) : Quiet p world next

inductive Move (p : Profile) (world : World) : World → Prop where
  | quiet {next : World} (quiet : Quiet p world next) : Move p world next
  | kill {kill : Kill} {kills : List Kill} (waiting : world.streamKiller = kill :: kills) :
      Move p world (cleanUpDeadStream { world with streamKiller := kills } kill)

variable {p : Profile} {config : ProxyClientConfig} {world next : World}

/-! ### Housekeeping -/

lemma cleanUpDeadStreams_moves (waiting : world.streamKiller = kills) :
    ReflTransGen (Move p) world (cleanUpDeadStreams world kills) := by
  induction kills generalizing world with
  | nil =>
    have unchanged : cleanUpDeadStreams world [] = world := by
      rw [cleanUpDeadStreams, ← waiting]
    rw [unchanged]
  | cons kill kills ih =>
    apply ReflTransGen.head (Move.kill waiting)
    apply ih
    unfold cleanUpDeadStream removeWriter
    dsimp only
    split <;> rfl

lemma addNewStreams_quiet (waiting : world.streamAdder = streams) :
    ReflTransGen (Quiet p) world (addNewStreams world streams) := by
  induction streams generalizing world with
  | nil =>
    have unchanged : addNewStreams world [] = world := by
      rw [addNewStreams, ← waiting]
    rw [unchanged]
  | cons stream streams ih => exact ReflTransGen.head (Quiet.add waiting) (ih rfl)

/-- Once the dead streams are cleaned up, the rest is quiet. -/
lemma doHousekeeping_quiet :
    ReflTransGen (Quiet p) (cleanUpDeadStreams world world.streamKiller) (doHousekeeping world) :=
  addNewStreams_quiet rfl

/-! ### The actor's thread -/

lemma cleanUpBadStream_quiet (streamKey source) :
    ReflTransGen (Quiet p) world (cleanUpBadStream world streamKey source) :=
  .tail (.single (Quiet.removeWriter streamKey)) (Quiet.fail (.terminating streamKey source))

lemma processPackage_quiet (payload payingWalletOpt) :
    ReflTransGen (Quiet p) (cleanUpDeadStreams world world.streamKiller)
      (processPackage world payload payingWalletOpt) := by
  unfold processPackage
  dsimp only
  split
  · exact doHousekeeping_quiet.tail (Quiet.books _ _ _)
  · split
    · exact doHousekeeping_quiet
    · exact doHousekeeping_quiet.tail (Quiet.books _ _ _)

lemma tend_quiet (write) : ReflTransGen (Quiet p) world (tend config now world write) := by
  unfold tend
  split
  · exact .tail (.single (Quiet.books _ _ _)) (Quiet.removeWriter _)
  · exact .single (Quiet.books _ _ _)

lemma writeAndTend_quiet (write) (queued : Bool) (source) :
    ReflTransGen (Quiet p) world (writeAndTend config now world write queued source) := by
  unfold writeAndTend
  split
  · exact tend_quiet write
  · exact cleanUpBadStream_quiet _ _

lemma failToEstablish_quiet (write) :
    ReflTransGen (Quiet p) world (failToEstablish config world write) := by
  unfold failToEstablish
  split
  · exact .trans (.single (Quiet.fail (.dnsResolveFailed _))) (cleanUpBadStream_quiet _ _)
  · exact cleanUpBadStream_quiet _ _

lemma makeStreamWithKey_quiet (idle : world.establishing = none) (write connected) :
    ReflTransGen (Quiet p) world (makeStreamWithKey config world write connected) := by
  unfold makeStreamWithKey
  split
  · exact .single (Quiet.spawn _ _ idle)
  · exact failToEstablish_quiet write

lemma poll_quiet (idle : world.establishing = none) (index : Nat) (connected) :
    ReflTransGen (Quiet p) world (poll config now world index connected) := by
  have erases : Quiet p world { world with futures := world.futures.eraseIdx index } := Quiet.books _ _ _
  unfold poll
  split
  · exact .head erases (writeAndTend_quiet _ _ _)
  · apply ReflTransGen.head erases
    apply makeStreamWithKey_quiet
    exact idle
  · rfl

lemma endEstablishing_quiet : ReflTransGen (Quiet p) world (endEstablishing config now world) := by
  unfold endEstablishing
  split
  next write senders busy => exact .head (Quiet.handOver busy) (writeAndTend_quiet _ _ _)
  next => rfl

/-! ### The readers -/

lemma checkShutdownSignal_quiet (stream : Nat) :
    ReflTransGen (Quiet p) world (checkShutdownSignal world stream) := by
  unfold checkShutdownSignal
  split
  next reader known =>
    split
    next looking => exact .single (Quiet.turn known (by simp [looking]) _)
    next => rfl
  next => rfl

lemma pollRead_quiet (known : world.readers[stream]? = some reader) (reading : reader.phase = .reading)
    (stepped : pollRead p world stream reader result = .ok next) : Quiet p world next := by
  have turns : Quiet p world (setReader world stream { reader with phase := .looking }) :=
    Quiet.turn known (by simp [reading]) _
  cases result with
  | notReady =>
    cases stepped
    exact turns
  | ready data =>
    rw [pollRead] at stepped
    split at stepped
    · exact Quiet.die known reading stepped
    · exact Quiet.send known reading stepped
  | error kind =>
    rw [pollRead] at stepped
    split at stepped
    · exact Quiet.die known reading stepped
    · cases stepped
      exact turns

lemma read_quiet (stepped : read p world stream result = .ok next) :
    ReflTransGen (Quiet p) world next := by
  unfold read at stepped
  split at stepped
  next reader known =>
    split at stepped
    next reading => exact .single (pollRead_quiet known reading stepped)
    next =>
      cases stepped
      rfl
  next =>
    cases stepped
    rfl

/-! ### Events -/

/-- The dead streams are cleaned up when a package comes, unless the actor's thread is busy. -/
def Housekeeps (world : World) : Event → Prop
  | .package .. => world.establishing = none
  | _ => False

instance decidableHousekeeps : (event : Event) → Decidable (Housekeeps world event)
  | .package .. => inferInstanceAs (Decidable (world.establishing = none))
  | .poll .. | .established _ | .look _ | .read .. | .writerEnds _ => .isFalse id

variable {event : Event} {Inv : World → Prop}

section

variable (stepped : step p config world event = .ok next)
include stepped

lemma step_quiet (not : ¬Housekeeps world event) : ReflTransGen (Quiet p) world next := by
  cases event with
  | package payload payingWalletOpt =>
    cases stepped
    rw [if_pos (Option.isSome_iff_ne_none.mpr not)]
  | poll now index connected =>
    cases stepped
    split
    · rfl
    next idle => exact poll_quiet (by simpa using idle) index connected
  | established now =>
    cases stepped
    exact endEstablishing_quiet
  | look stream =>
    cases stepped
    exact checkShutdownSignal_quiet stream
  | read stream result => exact read_quiet stepped
  | writerEnds stream =>
    cases stepped
    exact .single (Quiet.books _ _ _)

lemma step_housekeeps (housekeeps : Housekeeps world event) :
    ReflTransGen (Quiet p) (cleanUpDeadStreams world world.streamKiller) next := by
  cases event with
  | package payload payingWalletOpt =>
    have idle : world.establishing = none := housekeeps
    cases stepped
    simpa [idle] using processPackage_quiet payload payingWalletOpt
  | poll | established | look | read | writerEnds => cases housekeeps

lemma step_moves : ReflTransGen (Move p) world next := by
  have moves {world next : World} : ReflTransGen (Quiet p) world next → ReflTransGen (Move p) world next :=
    ReflTransGen.mono (fun _ _ => Move.quiet) world next
  by_cases housekeeps : Housekeeps world event
  · exact (cleanUpDeadStreams_moves rfl).trans (moves (step_housekeeps stepped housekeeps))
  · exact moves (step_quiet stepped housekeeps)

end

section

variable (kept : ∀ world next, Inv world → Move p world next → Inv next)
include kept

lemma invariant_of_step (inv : Inv world) (stepped : step p config world event = .ok next) : Inv next := by
  have moves := step_moves stepped
  clear stepped
  induction moves with
  | refl => exact inv
  | tail _ move ih => exact kept _ _ ih move

lemma invariant_of_moves (initially : Inv World.initial)
    (reached : run (step p config) World.initial events = .ok world) : Inv world :=
  invariant_of_steps (fun _ _ _ inv stepped => invariant_of_step kept inv stepped) initially reached

end

end PulseMesh.ProxyClientPool
