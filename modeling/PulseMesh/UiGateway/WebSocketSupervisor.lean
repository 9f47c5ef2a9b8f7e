import PulseMesh.DaemonActor.Daemon
import PulseMesh.SubLib.BidiHashMap

/-!
# Clients of the user interface

The WebSocket supervisor numbers its clients and keeps three maps: from addresses to ids, from ids to
addresses, and from ids to the clients.  A client is entered when it connects, and removed when it says
goodbye or when nothing can be sent to it.  One that violates the protocol or breaks off stays where it is,
and its address may come back.

Clients that cannot be sent to are removed after the lock has been given back: other handlers, and other
messages to the same clients, may come in between.
-/

namespace PulseMesh.UiGateway

open Machine Runs SubLib DaemonActor Function

inductive ErrorKind where
  | brokenPipe
  | connectionReset
  | other

inductive WebSocketError where
  | ioError (kind : ErrorKind)
  | other

inductive SendToClientWebsocketError where
  | sendError (clientId : U64) (error : WebSocketError)
  | flushError (clientId : U64) (error : WebSocketError)

def expectv {α : Type} (subject : String) : Option α → Except Panic α
  | some v => .ok v
  | none => .error (.raised s!"value for '{subject}' badly prepared")

structure WebSocketSupervisorInner (Client : Type) where
  nextClientId : U64
  clientIdBySocketAddr : SocketAddr → Option U64
  socketAddrByClientId : U64 → Option SocketAddr
  clientById : U64 → Option Client

namespace WebSocketSupervisorInner

variable {Client : Type} (inner : WebSocketSupervisorInner Client)

def new : WebSocketSupervisorInner Client := ⟨⟨0, u64_zero⟩, fun _ => none, fun _ => none, fun _ => none⟩

def handleConnection (p : Profile) (socketAddr : SocketAddr) (client : Client) :
    Except Panic (WebSocketSupervisorInner Client) := do
  let clientId := inner.nextClientId
  let nextClientId ← arith p u64 (inner.nextClientId.val + 1)
  pure ⟨nextClientId, update inner.clientIdBySocketAddr socketAddr (some clientId),
    update inner.socketAddrByClientId clientId (some socketAddr),
    update inner.clientById clientId (some client)⟩

/-- The clients to be answered: a message that cannot be read is reported to its sender. -/
def handleTextMessage (libraries : Libraries) (socketAddr : SocketAddr) (message : String) (isDelivered : Bool) :
    Except Panic (List MessageTarget) :=
  match inner.clientIdBySocketAddr socketAddr with
  | none => .ok []
  | some clientId =>
    match newUnmarshal libraries message with
    | .ok _ => if isDelivered then .ok [] else .error (.raised "UiGateway is dead")
    | .error _ => .ok [.clientId clientId]

def closeConnection (clientId : U64) : Except Panic (WebSocketSupervisorInner Client) :=
  match inner.clientById clientId with
  -- whether the client gets the answer makes no difference
  | some _ => .ok { inner with
      socketAddrByClientId := update inner.socketAddrByClientId clientId none
      clientById := update inner.clientById clientId none }
  | none => .error (.raised
      "WebSocketSupervisor got a disconnect from a client that has disappeared from the stable!")

def handleCloseMessage (socketAddr : SocketAddr) : Except Panic (WebSocketSupervisorInner Client) :=
  match inner.clientIdBySocketAddr socketAddr with
  | none => .ok inner
  | some clientId =>
    closeConnection
      { inner with clientIdBySocketAddr := update inner.clientIdBySocketAddr socketAddr none } clientId

def emergencyClientRemoval (clientId : U64) : Except Panic (WebSocketSupervisorInner Client) := do
  let _ ← expectv "client" (inner.clientById clientId)
  let socketAddr ← expectv "socket address" (inner.socketAddrByClientId clientId)
  let _ ← expectv "client id" (inner.clientIdBySocketAddr socketAddr)
  pure { inner with
    clientById := update inner.clientById clientId none
    socketAddrByClientId := update inner.socketAddrByClientId clientId none
    clientIdBySocketAddr := update inner.clientIdBySocketAddr socketAddr none }

def handleFlushError (clientId : U64) : WebSocketError → Except Panic (WebSocketSupervisorInner Client)
  | .ioError .brokenPipe => inner.emergencyClientRemoval clientId
  | .ioError .connectionReset => inner.emergencyClientRemoval clientId
  | _ => .ok inner

def handleSinkErr : SendToClientWebsocketError → Except Panic (WebSocketSupervisorInner Client)
  | .flushError clientId e => inner.handleFlushError clientId e
  | .sendError clientId _ => inner.emergencyClientRemoval clientId

/-- The clients among `ids`, which are the keys of the map in its own order. -/
def filterClients (ids : List U64) (predicate : U64 → Bool) : List (U64 × Client) :=
  (ids.filter predicate).filterMap fun id => (inner.clientById id).map (id, ·)

def sendToClients (send flush : Client → Except WebSocketError Unit) (clients : List (U64 × Client)) :
    List SendToClientWebsocketError :=
  clients.filterMap fun (clientId, client) =>
    match send client with
    | .ok _ =>
      match flush client with
      | .ok _ => none
      | .error e => some (.flushError clientId e)
    | .error e => some (.sendError clientId e)

def sendMsg (target : MessageTarget) (ids : List U64) (send flush : Client → Except WebSocketError Unit) :
    List SendToClientWebsocketError :=
  sendToClients send flush <| inner.filterClients ids fun id =>
    match target with
    | .clientId n => id = n
    | .allExcept n => id ≠ n
    | .allClients => true

end WebSocketSupervisorInner

/-! ### Interleavings -/

/-- What a handler has yet to do without having the lock. -/
inductive Task where
  | sendMsg (target : MessageTarget)
  | handleSinkErrs (errors : List SendToClientWebsocketError)

structure World (Client : Type) where
  inner : WebSocketSupervisorInner Client
  tasks : List Task

/-- Messages and violations come from addresses, orders to send from the Node; some task goes on. -/
inductive Event (Client : Type) where
  | connection (socketAddr : SocketAddr) (client : Client)
  | text (socketAddr : SocketAddr) (message : String) (isDelivered : Bool)
  | close (socketAddr : SocketAddr)
  | otherMessage (socketAddr : SocketAddr)
  | websocketError (socketAddr : SocketAddr)
  | order (target : MessageTarget)
  | proceed (task : Nat) (ids : List U64) (send flush : Client → Except WebSocketError Unit)

variable {Client : Type}

def World.initial : World Client := ⟨.new, []⟩

def Task.proceed (inner : WebSocketSupervisorInner Client) (ids : List U64)
    (send flush : Client → Except WebSocketError Unit) :
    Task → Except Panic (WebSocketSupervisorInner Client × List Task)
  | .sendMsg target => .ok (inner, [.handleSinkErrs (inner.sendMsg target ids send flush)])
  | .handleSinkErrs [] => .ok (inner, [])
  | .handleSinkErrs (e :: errors) => do
    let inner ← inner.handleSinkErr e
    pure (inner, [.handleSinkErrs errors])

def step (p : Profile) (libraries : Libraries) (world : World Client) : Event Client → Except Panic (World Client)
  | .connection socketAddr client => do
    let inner ← world.inner.handleConnection p socketAddr client
    pure { world with inner }
  | .text socketAddr message isDelivered => do
    let targets ← world.inner.handleTextMessage libraries socketAddr message isDelivered
    pure { world with tasks := world.tasks ++ targets.map .sendMsg }
  | .close socketAddr => do
    let inner ← world.inner.handleCloseMessage socketAddr
    pure { world with inner }
  | .otherMessage _ => .ok world
  -- the stream ends, and nobody is told
  | .websocketError _ => .ok world
  | .order target => .ok { world with tasks := world.tasks ++ [.sendMsg target] }
  | .proceed task ids send flush =>
    match world.tasks[task]? with
    | none => .ok world
    | some current => do
      let (inner, rest) ← current.proceed world.inner ids send flush
      pure ⟨inner, world.tasks.eraseIdx task ++ rest⟩

/-! ### The register -/

/-- The client that is dropped on account of an error. -/
def SendToClientWebsocketError.dropped : SendToClientWebsocketError → Option U64
  | .sendError clientId _ => some clientId
  | .flushError clientId (.ioError .brokenPipe) => some clientId
  | .flushError clientId (.ioError .connectionReset) => some clientId
  | .flushError _ _ => none

def Task.dropped : Task → Option U64
  | .handleSinkErrs (e :: _) => e.dropped
  | _ => none

def Event.removes (world : World Client) : Event Client → Option U64
  | .close socketAddr => world.inner.clientIdBySocketAddr socketAddr
  | .proceed task _ _ _ => world.tasks[task]?.bind Task.dropped
  | _ => none

/-- No address comes back before its former client is removed, nobody is dropped twice, the Node takes the
messages, and the ids last. -/
def Orderly (libraries : Libraries) (world : World Client) : Event Client → Prop
  | .connection socketAddr _ =>
    world.inner.clientIdBySocketAddr socketAddr = none ∧ world.inner.nextClientId.val + 1 < 2 ^ 64
  | .text socketAddr message isDelivered =>
    isDelivered ∨ world.inner.clientIdBySocketAddr socketAddr = none ∨
      ∀ body, newUnmarshal libraries message ≠ .ok body
  | .proceed task _ _ _ =>
    ∀ id, world.tasks[task]?.bind Task.dropped = some id → (world.inner.clientById id).isSome
  | _ => True

namespace WebSocketSupervisorInner

/-- The maps are about the same clients and inverse to each other, and no id is given twice. -/
structure Sound (inner : WebSocketSupervisorInner Client) : Prop where
  inverse : BidiHashMap.Consistent ⟨inner.clientIdBySocketAddr, inner.socketAddrByClientId⟩
  same : ∀ id, (inner.socketAddrByClientId id).isSome ↔ (inner.clientById id).isSome
  numbered : ∀ id, (inner.clientById id).isSome → id.val < inner.nextClientId.val

/-- All other clients that there are keep their address and their connection. -/
def Spares (inner next : WebSocketSupervisorInner Client) (removed : Option U64) : Prop :=
  ∀ id, (inner.clientById id).isSome → removed ≠ some id →
    next.clientById id = inner.clientById id ∧ next.socketAddrByClientId id = inner.socketAddrByClientId id

/-- A handler keeps the maps in order exactly under the condition. -/
def Keeps (inner : WebSocketSupervisorInner Client) (condition : Prop) (removed : Option U64)
    (x : Except Panic (WebSocketSupervisorInner Client)) : Prop :=
  condition ∧ Returns x (fun next => next.Sound ∧ inner.Spares next removed) ∨
    ¬ condition ∧ ∀ next, x = .ok next → ¬ next.Sound

namespace Sound

variable {inner : WebSocketSupervisorInner Client} (sound : inner.Sound)
include sound

lemma keeps_ok (meets : condition) (removed) : inner.Keeps condition removed (.ok inner) :=
  .inl ⟨meets, .ok ⟨sound, fun _ _ _ => ⟨rfl, rfl⟩⟩⟩

lemma keeps_removal (known : inner.clientIdBySocketAddr socketAddr = some clientId) (meets : condition) :
    inner.Keeps condition (some clientId) (.ok { inner with
      clientById := update inner.clientById clientId none
      socketAddrByClientId := update inner.socketAddrByClientId clientId none
      clientIdBySocketAddr := update inner.clientIdBySocketAddr socketAddr none }) := by
  refine .inl ⟨meets, .ok ⟨⟨?_, fun id => ?_, fun id isClient => ?_⟩, fun id _ other => ?_⟩⟩
  · simpa only [BidiHashMap.removeA, known] using BidiHashMap.consistent_removeA sound.inverse socketAddr
  · by_cases isRemoved : id = clientId
    · simp [isRemoved]
    · simpa [isRemoved] using sound.same id
  · by_cases isRemoved : id = clientId
    · simp [isRemoved] at isClient
    · exact sound.numbered id (by simpa [isRemoved] using isClient)
  · have isOther : id ≠ clientId := fun isRemoved => other (congrArg some isRemoved.symm)
    simp [isOther]

lemma keeps_handleCloseMessage (socketAddr) :
    inner.Keeps True (inner.clientIdBySocketAddr socketAddr) (inner.handleCloseMessage socketAddr) := by
  unfold handleCloseMessage
  cases known : inner.clientIdBySocketAddr socketAddr with
  | none => exact sound.keeps_ok trivial none
  | some clientId =>
    have hasAddr := (sound.inverse socketAddr clientId).mp known
    obtain ⟨client, isClient⟩ := Option.isSome_iff_exists.mp
      ((sound.same clientId).mp (Option.isSome_of_eq_some hasAddr))
    simp only [closeConnection, isClient]
    exact sound.keeps_removal known trivial

/-- A client that is no longer there cannot be removed. -/
lemma keeps_emergencyClientRemoval (clientId) :
    inner.Keeps (inner.clientById clientId).isSome (some clientId) (inner.emergencyClientRemoval clientId) := by
  unfold emergencyClientRemoval
  cases isClient : inner.clientById clientId with
  | none => exact .inr ⟨by simp, fun next removed => by cases removed⟩
  | some client =>
    obtain ⟨socketAddr, hasAddr⟩ := Option.isSome_iff_exists.mp
      ((sound.same clientId).mpr (Option.isSome_of_eq_some isClient))
    have known : inner.clientIdBySocketAddr socketAddr = some clientId :=
      (sound.inverse socketAddr clientId).mpr hasAddr
    simp only [hasAddr, known, expectv, ok_bind]
    exact sound.keeps_removal known rfl

lemma keeps_handleSinkErr (e) :
    inner.Keeps (∀ id, e.dropped = some id → (inner.clientById id).isSome) e.dropped (inner.handleSinkErr e) := by
  have drops (clientId : U64) : inner.Keeps (∀ id, some clientId = some id → (inner.clientById id).isSome)
      (some clientId) (inner.emergencyClientRemoval clientId) := by
    simpa using sound.keeps_emergencyClientRemoval clientId
  match e with
  | .sendError clientId _ => exact drops clientId
  | .flushError clientId (.ioError .brokenPipe) => exact drops clientId
  | .flushError clientId (.ioError .connectionReset) => exact drops clientId
  | .flushError clientId (.ioError .other) => exact sound.keeps_ok (fun _ none_eq => by cases none_eq) none
  | .flushError clientId .other => exact sound.keeps_ok (fun _ none_eq => by cases none_eq) none

lemma keeps_handleConnection (p socketAddr client) :
    inner.Keeps (inner.clientIdBySocketAddr socketAddr = none ∧ inner.nextClientId.val + 1 < 2 ^ 64) none
      (inner.handleConnection p socketAddr client) := by
  have isNew : ¬ (inner.clientById inner.nextClientId).isSome := fun isClient =>
    lt_irrefl _ (sound.numbered _ isClient)
  by_cases orderly : inner.clientIdBySocketAddr socketAddr = none ∧ inner.nextClientId.val + 1 < 2 ^ 64
  · refine .inl ⟨orderly, ?_⟩
    obtain ⟨unused, lasts⟩ := orderly
    have notNegative := (U64.bounds inner.nextClientId).1
    rw [handleConnection, arith_ok p ((u64_holds _).mpr ⟨by omega, lasts⟩)]
    refine .ok ⟨⟨?_, fun id => ?_, fun id isClient => ?_⟩, fun id isClient _ => ?_⟩
    · refine BidiHashMap.consistent_insert sound.inverse unused ?_
      exact Option.not_isSome_iff_eq_none.mp fun hasAddr => isNew ((sound.same _).mp hasAddr)
    · by_cases added : id = inner.nextClientId
      · simp [added]
      · simpa [added] using sound.same id
    · by_cases added : id = inner.nextClientId
      · exact added ▸ Int.lt_succ _
      · have before := sound.numbered id (by simpa [added] using isClient)
        exact lt_trans before (Int.lt_succ _)
    · have isOther : id ≠ inner.nextClientId := fun added => isNew (added ▸ isClient)
      simp [isOther]
  · refine .inr ⟨orderly, fun next entered soundNext => orderly ?_⟩
    obtain ⟨nextClientId, -, ⟨⟩⟩ := ok_of_bind entered
    -- the new id is smaller than the next one, which is a machine integer
    have smaller := soundNext.numbered inner.nextClientId (by simp)
    have lasts := (U64.bounds nextClientId).2
    refine ⟨Option.eq_none_iff_forall_ne_some.mpr fun former known => ?_, by simp only at smaller; omega⟩
    -- the former client of the address still has it
    have hasAddr := (sound.inverse socketAddr former).mp known
    have other : former ≠ inner.nextClientId := fun same =>
      isNew ((sound.same _).mp (same ▸ Option.isSome_of_eq_some hasAddr))
    have twice := (soundNext.inverse socketAddr former).mpr (by simpa [other] using hasAddr)
    simp only [update_self, Option.some.injEq] at twice
    exact other twice.symm

end Sound

end WebSocketSupervisorInner

variable (p : Profile) (libraries : Libraries) {world : World Client}

lemma step_keeps (sound : world.inner.Sound) (event : Event Client) :
    world.inner.Keeps (Orderly libraries world event) (event.removes world)
      ((step p libraries world event).map World.inner) := by
  have proceeds (x : Except Panic (WebSocketSupervisorInner Client)) (tasks : List Task) :
      (x >>= fun inner => (pure ⟨inner, tasks⟩ : Except Panic (World Client))).map World.inner = x := by
    cases x <;> rfl
  cases event with
  | otherMessage | websocketError | order => exact sound.keeps_ok trivial none
  | connection socketAddr client =>
    rw [step, proceeds]
    exact sound.keeps_handleConnection p socketAddr client
  | close socketAddr =>
    rw [step, proceeds]
    exact sound.keeps_handleCloseMessage socketAddr
  | text socketAddr message isDelivered =>
    simp only [step, WebSocketSupervisorInner.handleTextMessage, Orderly]
    cases world.inner.clientIdBySocketAddr socketAddr with
    | none => exact sound.keeps_ok (.inr (.inl rfl)) none
    | some clientId =>
      cases newUnmarshal libraries message with
      | error e => exact sound.keeps_ok (.inr (.inr fun _ => by simp)) none
      | ok body =>
        cases isDelivered with
        | true => exact sound.keeps_ok (.inl rfl) none
        | false => exact .inr ⟨by simp, fun _ stopped => by cases stopped⟩
  | proceed task ids send flush =>
    simp only [step, Orderly, Event.removes]
    match world.tasks[task]? with
    | none => exact sound.keeps_ok (by simp [Task.dropped]) none
    | some (.sendMsg target) => exact sound.keeps_ok (by simp [Task.dropped]) none
    | some (.handleSinkErrs []) => exact sound.keeps_ok (by simp [Task.dropped]) none
    | some (.handleSinkErrs (e :: errors)) =>
      have handles := proceeds (world.inner.handleSinkErr e) (world.tasks.eraseIdx task ++ [.handleSinkErrs errors])
      simp only [Task.proceed, bind_assoc, pure_bind, handles]
      exact sound.keeps_handleSinkErr e

/-- **The register of clients** is kept in order without a panic exactly if no address comes back too early,
nobody is dropped twice, the Node takes its messages and the ids last; then nobody is removed with another. -/
theorem registry_kept_iff (events : List (Event Client)) :
    ((∀ before after, events = before ++ after →
        ∃ world, run (step p libraries) World.initial before = .ok world ∧ world.inner.Sound) ↔
      Along (step p libraries) (Orderly libraries) World.initial events) ∧
    ∀ before event after world next, events = before ++ event :: after →
      Along (step p libraries) (Orderly libraries) World.initial events →
      run (step p libraries) World.initial before = .ok world → step p libraries world event = .ok next →
      world.inner.Spares next.inner (event.removes world) := by
  have initial : (World.initial : World Client).inner.Sound := ⟨fun _ _ => by simp [World.initial,
    WebSocketSupervisorInner.new], fun _ => Iff.rfl, fun _ isClient => by cases isClient⟩
  have ok_iff : ∀ (world : World Client) event, world.inner.Sound →
      ((∃ next, step p libraries world event = .ok next ∧ next.inner.Sound) ↔ Orderly libraries world event) := by
    intro world event sound
    obtain ⟨orderly, returns⟩ | ⟨refused, unsound⟩ := step_keeps p libraries sound event
    · cases stepped : step p libraries world event with
      | error panic =>
        rw [stepped] at returns
        obtain ⟨_, ⟨⟩, -⟩ := returns
      | ok next => exact iff_of_true ⟨next, rfl, (returns.post (by rw [stepped]; rfl)).1⟩ orderly
    · refine iff_of_false ?_ refused
      rintro ⟨next, stepped, sound⟩
      exact unsound next.inner (by rw [stepped]; rfl) sound
  refine ⟨always_ok_iff_along ok_iff initial, ?_⟩
  rintro before event after world next rfl along reached stepped
  obtain ⟨_, reached', sound⟩ := (always_ok_iff_along ok_iff initial).mpr along before _ rfl
  cases reached.symm.trans reached'
  obtain ⟨-, returns⟩ | ⟨refused, -⟩ := step_keeps p libraries sound event
  · exact (returns.post (by rw [stepped]; rfl)).2
  · exact absurd (along_append along reached).1 refused

def sampleAddr : SocketAddr := ⟨.v4 0x7f000001, 5000⟩

/-- The client says goodbye before its address comes back. -/
theorem closed_address_comes_back : ∃ world, run (step .debug sampleLibraries) (World.initial : World Unit)
    [.connection sampleAddr (), .close sampleAddr, .connection sampleAddr ()] = .ok world ∧ world.inner.Sound := by
  refine (registry_kept_iff .debug sampleLibraries _).1.mpr ?_ _ [] rfl
  refine ⟨⟨rfl, by decide⟩, ?_⟩
  rintro _ ⟨⟩
  refine ⟨trivial, ?_⟩
  rintro _ ⟨⟩
  refine ⟨⟨rfl, by decide⟩, ?_⟩
  rintro _ ⟨⟩
  trivial

/-- It violates the protocol instead.  When neither it nor its successor can be sent to, the second removal
finds that the first one has taken the address. -/
theorem alias_stops_removal :
    run (step .release sampleLibraries) (World.initial : World Unit) ([.connection sampleAddr (),
      .websocketError sampleAddr, .connection sampleAddr (), .order .allClients] ++
      List.replicate 3 (.proceed 0 [⟨0, by decide⟩, ⟨1, by decide⟩] (fun _ => .error .other) fun _ => .ok ())) =
    .error (.raised "value for 'client id' badly prepared") := rfl

end PulseMesh.UiGateway
