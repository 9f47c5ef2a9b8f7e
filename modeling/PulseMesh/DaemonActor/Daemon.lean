import PulseMesh.Accountant.PaymentThresholds
import PulseMesh.Lib.Returns
import PulseMesh.Lib.Runs
import PulseMesh.ProxyServer.ProtocolPacks

/-!
# The Daemon

The Daemon keeps the setup of the Node, starts it and sends the messages of user interfaces on to it.  It
finds out whether the Node is running from the process id that it has recorded.  Whatever is sent on is
expected to have a payload.
-/

namespace PulseMesh.DaemonActor

open Machine Runs Accountant Option

/-! ### Messages of user interfaces -/

inductive Value where
  | null
  | bool (b : Bool)
  | number (text : String) (asU64 : Option U64)
  | string (s : String)
  | array (items : List Value)
  | object (fields : List (String × Value))

structure UiSetupRequestValue where
  name : String
  value : Option String

inductive UiSetupResponseValueStatus where
  | default
  | configured
  | set
  | blank
  | required
deriving DecidableEq

structure UiSetupResponseValue where
  name : String
  value : String
  status : UiSetupResponseValueStatus

abbrev SetupCluster := List (String × UiSetupResponseValue)

/-- JSON, the messages that are read from it, and the setup reporter. -/
structure Libraries where
  fromStr : String → Except String Value
  display : Value → String
  debug : Value → String
  setupRequest : String → Except String (List UiSetupRequestValue)
  startOrder : String → Except String Unit
  getModifiedSetup : SetupCluster → List UiSetupRequestValue → Except (SetupCluster × ConfiguratorError) SetupCluster

inductive MessagePath where
  | fireAndForget
  | conversation (contextId : U64)

def MessagePath.contextIdOpt : MessagePath → Option U64
  | .fireAndForget => none
  | .conversation contextId => some contextId

structure MessageBody where
  opcode : String
  path : MessagePath
  payload : Except (U64 × String) String

inductive TrafficConversionError where
  | jsonSyntaxError (s : String)
  | notJsonObjectError (s : String)
  | missingFieldError (field : String)
  | fieldTypeError (field wanted got : String)

inductive UnmarshalError where
  | critical (e : TrafficConversionError)
  | nonCritical (opcode : String) (contextIdOpt : Option U64) (e : TrafficConversionError)

section

variable (libraries : Libraries) (map : List (String × Value))

def getString (name : String) : Except TrafficConversionError String :=
  match map.lookup name with
  | some (.string s) => .ok s
  | some x => .error (.fieldTypeError name "string" (libraries.display x))
  | none => .error (.missingFieldError name)

def getU64 (name : String) : Except TrafficConversionError U64 :=
  match map.lookup name with
  | some (.number _ (some n)) => .ok n
  | some x => .error (.fieldTypeError name "u64" (libraries.display x))
  | none => .error (.missingFieldError name)

def getPath : Except UnmarshalError MessagePath :=
  match getU64 libraries map "contextId" with
  | .ok contextId => .ok (.conversation contextId)
  | .error (.missingFieldError _) => .ok .fireAndForget
  | .error e => .error (.critical e)

def getPayload (convert : TrafficConversionError → UnmarshalError) :
    Except UnmarshalError (Except (U64 × String) String) :=
  match map.lookup "payload" with
  | some (.object payloadMap) => .ok (.ok (libraries.display (.object payloadMap)))
  | some otherValue => .error (convert (.fieldTypeError "payload" "object" (libraries.debug otherValue)))
  | none =>
    match map.lookup "error" with
    | some (.object errorMap) => do
      let code ← (getU64 libraries errorMap "code").mapError convert
      let message ← (getString libraries errorMap "message").mapError convert
      pure (.error (code, message))
    | some otherValue => .error (convert (.fieldTypeError "error" "object" (libraries.display otherValue)))
    | none => .error (convert (.missingFieldError "payload, error"))

variable {map}

def newUnmarshal (json : String) : Except UnmarshalError MessageBody :=
  match libraries.fromStr json with
  | .ok (.object map) => do
    let opcode ← (getString libraries map "opcode").mapError .critical
    let path ← getPath libraries map
    let payload ← getPayload libraries map (.nonCritical opcode path.contextIdOpt)
    pure ⟨opcode, path, payload⟩
  | .ok e => .error (.critical (.notJsonObjectError (libraries.display e)))
  | .error e => .error (.critical (.jsonSyntaxError e))

end

/-- A message that is answered, with its context; nothing if the body is no such message. -/
def fmb {T : Type} (opcode : String) (read : String → Except String T) (body : MessageBody) : Option (T × U64) :=
  if body.opcode = opcode then
    match body.payload, body.path with
    | .ok json, .conversation contextId => (read json).toOption.map fun item => (item, contextId)
    | _, _ => none
  else none

/-! ### Crashes -/

structure CrashNotification where
  processId : UInt32
  exitCode : Option Int32
  stderr : Option String

inductive CrashReason where
  | childWaitFailure (errMsg : String)
  | noInformation
  | unrecognized (stderr : String)

namespace CrashNotification

def childWaitFailure : List Char := "Child wait failure: ".toList

def trimStartMatches (text : List Char) : Nat → List Char
  | 0 => text
  | tries + 1 =>
    if childWaitFailure.isPrefixOf text then trimStartMatches (text.drop childWaitFailure.length) tries else text

def recognizers : List (CrashNotification → Option CrashReason) := [
  fun msg =>
    match msg.exitCode, msg.stderr with
    | none, some stderr =>
      if childWaitFailure.isPrefixOf stderr.toList then
        some (.childWaitFailure (String.ofList (trimStartMatches stderr.toList stderr.length)))
      else none
    | _, _ => none,
  fun msg =>
    if msg.exitCode.isNone && (msg.stderr.getD "").toList.all ProxyServer.HttpProtocolPack.isSpace then
      some .noInformation
    else none,
  fun msg => some (.unrecognized (msg.stderr.getD ""))]

def analyze (msg : CrashNotification) : Except Panic CrashReason :=
  match recognizers.foldl (fun sofar recognizer => sofar.or (recognizer msg)) none with
  | some reason => .ok reason
  | none => .error (.raised "RECOGNIZERS isn't exhaustive")

lemma analyze_returns (msg : CrashNotification) : ∃ reason, msg.analyze = .ok reason := by
  have some_ : (recognizers.foldl (fun sofar recognizer => sofar.or (recognizer msg)) none).isSome := by
    simp [recognizers]
  obtain ⟨reason, isReason⟩ := isSome_iff_exists.mp some_
  exact ⟨reason, by simp only [analyze, isReason]⟩

end CrashNotification

/-! ### The actor -/

structure LaunchSuccess where
  newProcessId : UInt32
  redirectUiPort : UInt16

inductive MessageTarget where
  | clientId (clientId : U64)
  | allExcept (clientId : U64)
  | allClients

inductive UiMessage where
  | setupResponse (contextId : U64) (running : Bool) (values : SetupCluster) (errors : ConfiguratorError)
  | setupBroadcast (running : Bool) (values : SetupCluster) (errors : ConfiguratorError)
  | startResponse (contextId : U64) (success : LaunchSuccess)
  | redirect (port : UInt16) (opcode : String) (contextId : Option U64) (payload : String)
  | undelivered (opcode : String)
  | crashed (processId : UInt32) (crashReason : CrashReason)
  | error (opcode : String) (contextId : U64) (code : Nat) (message : String)

def uiNodeCommunicationPrefix : Nat := 0x8000000000000000

def nodeLaunchError : Nat := uiNodeCommunicationPrefix + 1

def nodeNotRunningError : Nat := uiNodeCommunicationPrefix + 2

def nodeAlreadyRunningError : Nat := uiNodeCommunicationPrefix + 3

structure Daemon where
  params : SetupCluster
  nodeProcessId : Option UInt32
  nodeUiPort : Option UInt16

abbrev Launch := List (String × String) → Except String (Option LaunchSuccess)

abbrev Handled := Daemon × List (MessageTarget × UiMessage)

namespace Daemon

variable (daemon : Daemon) (isRunning : UInt32 → Bool) (clientId contextId : U64)

def portIfNodeIsRunning : Except Panic (Option UInt16 × Daemon) :=
  match daemon.nodeProcessId with
  | none => .ok (none, daemon)
  | some processId =>
    if isRunning processId then
      match daemon.nodeUiPort with
      | some port => .ok (some port, daemon)
      | none => .error (.raised "Internal error: node_process_id is set but node_ui_port is not")
    else
      .ok (none, { daemon with nodeProcessId := none, nodeUiPort := none })

def censorables : List (String × Nat) := [("db-password", 16), ("consuming-private-key", 64)]

def censoredParams : SetupCluster :=
  daemon.params.map fun (name, uisrv) =>
    match censorables.lookup name with
    | some length => (name, { uisrv with value := String.ofList (List.replicate length '*') })
    | none => (name, uisrv)

def compareSetupClusters (left right : SetupCluster) : Bool :=
  (left.all fun (k, vLeft) => decide ((right.lookup k).map (·.value) = some vLeft.value)) &&
    right.all fun (k, _) => (left.lookup k).isSome

def changeSetupAndNotify (newSetup : SetupCluster) (errors : ConfiguratorError) : Handled :=
  if compareSetupClusters daemon.params newSetup then
    (daemon, [(.clientId clientId, .setupResponse contextId false daemon.censoredParams errors)])
  else
    let changed := { daemon with params := newSetup }
    (changed, (.clientId clientId, .setupResponse contextId false changed.censoredParams errors) ::
      if daemon.params.isEmpty then []
      else [(.allExcept clientId, .setupBroadcast false changed.censoredParams errors)])

def handleSetup (libraries : Libraries) (incomingSetup : List UiSetupRequestValue) : Except Panic Handled := do
  let (portOpt, daemon) ← daemon.portIfNodeIsRunning isRunning
  match portOpt with
  | some _ => pure (daemon, [(.clientId clientId, .setupResponse contextId true daemon.censoredParams ⟨[]⟩)])
  | none =>
    match libraries.getModifiedSetup daemon.params incomingSetup with
    | .ok setup => pure (daemon.changeSetupAndNotify clientId contextId setup ⟨[]⟩)
    | .error (lameCluster, errors) => pure (daemon.changeSetupAndNotify clientId contextId lameCluster errors)

def launchParams : List (String × String) :=
  (daemon.params.filter fun (_, v) => v.status = .set || v.status = .configured).map fun (k, v) => (k, v.value)

def handleStartOrder (launch : Launch) : Except Panic Handled := do
  let (portOpt, daemon) ← daemon.portIfNodeIsRunning isRunning
  match portOpt with
  | some _ => pure (daemon, [(.clientId clientId,
      .error "start" contextId nodeAlreadyRunningError "Could not launch Node: already running")])
  | none =>
    match launch daemon.launchParams with
    | .ok (some success) =>
      pure ({ daemon with nodeProcessId := some success.newProcessId, nodeUiPort := some success.redirectUiPort },
        [(.clientId clientId, .startResponse contextId success)])
    | .ok none => pure (daemon, [])
    | .error s => pure (daemon, [(.clientId clientId,
        .error "start" contextId nodeLaunchError s!"Could not launch Node: {s}")])

def notRunning (opcode : String) : MessagePath → UiMessage
  | .conversation contextId =>
    .error opcode contextId nodeNotRunningError s!"Cannot handle {opcode} request: Node is not running"
  | .fireAndForget => .undelivered opcode

def handleUnexpectedMessage (body : MessageBody) : Except Panic Handled := do
  let (portOpt, daemon) ← daemon.portIfNodeIsRunning isRunning
  match portOpt, body.payload with
  | some port, .ok json =>
    pure (daemon, [(.clientId clientId, .redirect port body.opcode body.path.contextIdOpt json)])
  | some _, .error _ => .error (.raised "not implemented")
  | none, _ => pure (daemon, [(.clientId clientId, notRunning body.opcode body.path)])

def handleNodeFromUiMessage (libraries : Libraries) (launch : Launch) (body : MessageBody) : Except Panic Handled :=
  match fmb "setup" libraries.setupRequest body with
  | some (values, contextId) => daemon.handleSetup isRunning clientId contextId libraries values
  | none =>
    match fmb "start" libraries.startOrder body with
    | some (_, contextId) => daemon.handleStartOrder isRunning clientId contextId launch
    | none => daemon.handleUnexpectedMessage isRunning clientId body

def handleCrashNotification (msg : CrashNotification) : Except Panic Handled :=
  if daemon.nodeUiPort.isSome || daemon.nodeProcessId.isSome then do
    let crashReason ← msg.analyze
    pure ({ daemon with nodeProcessId := none, nodeUiPort := none },
      [(.allClients, .crashed msg.processId crashReason)])
  else
    .ok (daemon, [])

end Daemon

/-! ### Runs -/

structure World where
  daemon : Daemon
  isRunning : UInt32 → Bool

def World.initial : World := ⟨⟨[], none, none⟩, fun _ => false⟩

/-- A text of a client, with what the launcher would do; a crash notification; processes start and end. -/
inductive Event where
  | text (clientId : U64) (json : String) (launch : Launch)
  | crash (msg : CrashNotification)
  | processes (isRunning : UInt32 → Bool)

def step (libraries : Libraries) (world : World) : Event → Except Panic World
  | .text clientId json launch =>
    match newUnmarshal libraries json with
    | .error _ => .ok world
    | .ok body => do
      let (daemon, _) ← world.daemon.handleNodeFromUiMessage world.isRunning clientId libraries launch body
      pure { world with daemon }
  | .crash msg => do
    let (daemon, _) ← world.daemon.handleCrashNotification msg
    pure { world with daemon }
  | .processes isRunning => .ok { world with isRunning }

/-- The Node that is recorded is running. -/
def Daemon.NodeRuns (daemon : Daemon) (isRunning : UInt32 → Bool) : Prop :=
  ∃ processId, daemon.nodeProcessId = some processId ∧ isRunning processId

/-- An error is to be sent on. -/
def Daemon.Stuck (daemon : Daemon) (isRunning : UInt32 → Bool) (body : MessageBody) : Prop :=
  daemon.NodeRuns isRunning ∧ ∃ e, body.payload = .error e

/-- A client sends no error while the Node is running. -/
def Redirectable (libraries : Libraries) (world : World) : Event → Prop
  | .text _ json _ => ∀ body, newUnmarshal libraries json = .ok body → ¬ world.daemon.Stuck world.isRunning body
  | _ => True

/-- Process id and port are recorded together. -/
def Daemon.Recorded (daemon : Daemon) : Prop := daemon.nodeProcessId.isSome ↔ daemon.nodeUiPort.isSome

section

variable (libraries : Libraries) {daemon : Daemon} (isRunning : UInt32 → Bool) (clientId contextId : U64)

/-- A message that the Daemon reads itself is no error. -/
lemma not_stuck_of_fmb {T : Type} {opcode : String} {read : String → Except String T} {body result}
    (isMessage : fmb opcode read body = some result) : ¬ daemon.Stuck isRunning body := by
  rintro ⟨-, e, isError⟩
  simp [fmb, isError] at isMessage

namespace Daemon.Recorded

variable (recorded : daemon.Recorded)
include recorded

lemma port :
    ∃ portOpt after, daemon.portIfNodeIsRunning isRunning = .ok (portOpt, after) ∧ after.Recorded ∧
      (portOpt.isSome ↔ daemon.NodeRuns isRunning) := by
  unfold Daemon.portIfNodeIsRunning Daemon.NodeRuns
  cases isId : daemon.nodeProcessId with
  | none => exact ⟨none, daemon, rfl, recorded, by simp⟩
  | some processId =>
    have isSome : daemon.nodeUiPort.isSome := recorded.mp (isSome_of_eq_some isId)
    obtain ⟨port, isPort⟩ := isSome_iff_exists.mp isSome
    cases runs : isRunning processId with
    | true => exact ⟨some port, daemon, by simp [runs, isPort], recorded, by simp [runs]⟩
    | false =>
      refine ⟨none, { daemon with nodeProcessId := none, nodeUiPort := none }, by simp [runs], Iff.rfl, ?_⟩
      simp [runs]

lemma changeSetupAndNotify (newSetup errors) :
    (daemon.changeSetupAndNotify clientId contextId newSetup errors).1.Recorded := by
  unfold Daemon.changeSetupAndNotify
  split <;> exact recorded

lemma handleSetup (incomingSetup) :
    Returns (daemon.handleSetup isRunning clientId contextId libraries incomingSetup) (·.1.Recorded) := by
  obtain ⟨portOpt, after, ports, recorded, -⟩ := recorded.port isRunning
  simp only [Daemon.handleSetup, ports, ok_bind]
  cases portOpt with
  | some port => exact .ok recorded
  | none =>
    cases libraries.getModifiedSetup after.params incomingSetup with
    | ok | error => exact .ok (recorded.changeSetupAndNotify ..)

lemma handleStartOrder (launch) :
    Returns (daemon.handleStartOrder isRunning clientId contextId launch) (·.1.Recorded) := by
  obtain ⟨portOpt, after, ports, recorded, -⟩ := recorded.port isRunning
  simp only [Daemon.handleStartOrder, ports, ok_bind]
  cases portOpt with
  | some port => exact .ok recorded
  | none =>
    match launch after.launchParams with
    | .ok (some success) => exact .ok Iff.rfl
    | .ok none => exact .ok recorded
    | .error s => exact .ok recorded

lemma handleUnexpectedMessage (body) :
    daemon.Stuck isRunning body ∧
        daemon.handleUnexpectedMessage isRunning clientId body = .error (.raised "not implemented") ∨
      ¬ daemon.Stuck isRunning body ∧
        Returns (daemon.handleUnexpectedMessage isRunning clientId body) (·.1.Recorded) := by
  obtain ⟨portOpt, after, ports, recorded, runs⟩ := recorded.port isRunning
  simp only [Daemon.handleUnexpectedMessage, Daemon.Stuck, ports, ok_bind, ← runs]
  cases portOpt with
  | none => exact .inr ⟨by simp, .ok recorded⟩
  | some port =>
    cases body.payload with
    | ok json => exact .inr ⟨by simp, .ok recorded⟩
    | error e => exact .inl ⟨⟨rfl, e, rfl⟩, rfl⟩

/-- Only an error that is to be sent on stops the Daemon. -/
lemma handleNodeFromUiMessage (launch body) :
    daemon.Stuck isRunning body ∧ daemon.handleNodeFromUiMessage isRunning clientId libraries launch body =
        .error (.raised "not implemented") ∨
      ¬ daemon.Stuck isRunning body ∧
        Returns (daemon.handleNodeFromUiMessage isRunning clientId libraries launch body) (·.1.Recorded) := by
  unfold Daemon.handleNodeFromUiMessage
  split
  next values contextId isSetup =>
    exact .inr ⟨not_stuck_of_fmb isRunning isSetup, recorded.handleSetup libraries isRunning clientId contextId values⟩
  next =>
    split
    next contextId isStart =>
      exact .inr ⟨not_stuck_of_fmb isRunning isStart, recorded.handleStartOrder isRunning clientId contextId launch⟩
    next => exact recorded.handleUnexpectedMessage isRunning clientId body

lemma handleCrashNotification (msg) : Returns (daemon.handleCrashNotification msg) (·.1.Recorded) := by
  unfold Daemon.handleCrashNotification
  split
  · obtain ⟨reason, analyzed⟩ := msg.analyze_returns
    rw [analyzed]
    exact .ok Iff.rfl
  · exact .ok recorded

end Daemon.Recorded

lemma step_cases (world event) (recorded : world.daemon.Recorded) :
    ¬ Redirectable libraries world event ∧ step libraries world event = .error (.raised "not implemented") ∨
      Redirectable libraries world event ∧ Returns (step libraries world event) (·.daemon.Recorded) := by
  have proceeds {x : Except Panic Handled} (returns : Returns x (·.1.Recorded)) :
      Returns (do let (daemon, _) ← x; pure { world with daemon }) (·.daemon.Recorded) :=
    returns.bind fun _ recorded => .ok recorded
  cases event with
  | processes isRunning => exact .inr ⟨trivial, .ok recorded⟩
  | crash msg => exact .inr ⟨trivial, proceeds (recorded.handleCrashNotification msg)⟩
  | text clientId json launch =>
    simp only [step, Redirectable]
    cases newUnmarshal libraries json with
    | error e => exact .inr ⟨by simp, .ok recorded⟩
    | ok body =>
      obtain ⟨stuck, stopped⟩ | ⟨redirects, returns⟩ :=
        recorded.handleNodeFromUiMessage libraries world.isRunning clientId launch body
      · exact .inl ⟨fun redirectable => redirectable body rfl stuck, by simp only [stopped]; rfl⟩
      · refine .inr ⟨?_, proceeds returns⟩
        rintro _ ⟨⟩
        exact redirects

end

def startText : String := "\x7b\"opcode\": \"start\", \"contextId\": 1, \"payload\": \x7b\x7d\x7d"

def errorText : String := "\x7b\"opcode\": \"start\", \"error\": \x7b\"code\": 1, \"message\": \"no\"\x7d\x7d"

/-- Libraries that know these two texts. -/
def sampleLibraries : Libraries where
  fromStr json :=
    if json = startText then .ok (.object
      [("opcode", .string "start"), ("contextId", .number "1" (some ⟨1, u64_one⟩)), ("payload", .object [])])
    else if json = errorText then .ok (.object [("opcode", .string "start"),
      ("error", .object [("code", .number "1" (some ⟨1, u64_one⟩)), ("message", .string "no")])])
    else .error "expected value"
  display _ := "\x7b\x7d"
  debug _ := "Object \x7b\x7d"
  setupRequest _ := .error "missing field"
  startOrder _ := .ok ()
  getModifiedSetup existing _ := .ok existing

/-- The Node is started; then a client sends an error. -/
def startAndError (isRunning : UInt32 → Bool) : List Event :=
  [.text ⟨1, u64_one⟩ startText fun _ => .ok (some ⟨4711, 5333⟩), .processes isRunning,
    .text ⟨1, u64_one⟩ errorText fun _ => .ok none]

end PulseMesh.DaemonActor
