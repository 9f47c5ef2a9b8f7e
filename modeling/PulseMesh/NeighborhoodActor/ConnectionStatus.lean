import PulseMesh.Gossip.Handlers

/-!
# The status of the connections

For every neighbor that the user has configured, the neighborhood keeps track of how far the connection
to it has come: the TCP connection first, then the gossip of an established neighborship.  A Pass moves
the connection on to another Node and back to its first stage.  A stage must not be skipped; an event
that comes out of turn stops the actor.
-/

namespace PulseMesh.NeighborhoodActor

open Machine SubLib Gossip

inductive ConnectionStageErrors where
  | tcpConnectionFailed
  | noGossipResponseReceived
  | passLoopFound
deriving DecidableEq

inductive ConnectionStage where
  | stageZero
  | tcpConnectionEstablished
  | neighborshipEstablished
  | failed (error : ConnectionStageErrors)
deriving DecidableEq

namespace ConnectionStage

/-- A failed connection is at no stage. -/
def number : ConnectionStage → Option Nat
  | .stageZero => some 0
  | .tcpConnectionEstablished => some 1
  | .neighborshipEstablished => some 2
  | .failed _ => none

def debug : ConnectionStage → String
  | .stageZero => "StageZero"
  | .tcpConnectionEstablished => "TcpConnectionEstablished"
  | .neighborshipEstablished => "NeighborshipEstablished"
  | .failed .tcpConnectionFailed => "Failed(TcpConnectionFailed)"
  | .failed .noGossipResponseReceived => "Failed(NoGossipResponseReceived)"
  | .failed .passLoopFound => "Failed(PassLoopFound)"

end ConnectionStage

structure ConnectionProgress where
  initialNodeDescriptor : NodeDescriptor
  currentPeerAddr : IpAddr
  connectionStage : ConnectionStage
deriving DecidableEq

def chainDebug : Chain → String
  | .pulseMainnet => "PulseMainnet"
  | .ethMainnet => "EthMainnet"
  | .ethRopsten => "EthRopsten"
  | .polyMainnet => "PolyMainnet"
  | .polyAmoy => "PolyAmoy"
  | .baseMainnet => "BaseMainnet"
  | .baseSepolia => "BaseSepolia"
  | .dev => "Dev"

namespace ConnectionProgress

def new (nodeDescriptor : NodeDescriptor) : Except Panic ConnectionProgress :=
  match nodeDescriptor.nodeAddrOpt with
  | none =>
    .error (.raised ("Unable to receive node addr for the descriptor NodeDescriptor \x7b " ++
      s!"blockchain: {chainDebug nodeDescriptor.blockchain}, encryption_public_key: " ++
      s!"{nodeDescriptor.encryptionPublicKey.debug}, node_addr_opt: None \x7d"))
  | some nodeAddr => .ok ⟨nodeDescriptor, nodeAddr.ipAddr, .stageZero⟩

def updateStage (progress : ConnectionProgress) (connectionStage : ConnectionStage) :
    Except Panic ConnectionProgress :=
  match progress.connectionStage.number, connectionStage.number with
  | some currentStageNum, some newStageNum =>
    if newStageNum ≠ currentStageNum + 1 then
      .error (.raised ("Can't update the stage from " ++
        s!"{progress.connectionStage.debug} to {connectionStage.debug}"))
    else
      .ok { progress with connectionStage }
  | _, _ => .ok { progress with connectionStage }

def handlePassGossip (env : Environment) (progress : ConnectionProgress) (newPassTarget : IpAddr) :
    Except Panic ConnectionProgress :=
  let moved : ConnectionProgress :=
    { progress with connectionStage := .stageZero, currentPeerAddr := newPassTarget }
  match progress.connectionStage with
  | .stageZero => .ok moved
  | .tcpConnectionEstablished => .ok moved
  | other =>
    .error (.raised ("Pass gossip received from Node with IP Address " ++
      s!"{env.displayIp progress.currentPeerAddr} to a Node with IP Address " ++
      s!"{env.displayIp newPassTarget}. Can't update the stage from {other.debug} to StageZero"))

end ConnectionProgress

inductive OverallConnectionStage where
  | notConnected
  | connectedToNeighbor
  | routeFound
deriving DecidableEq

structure OverallConnectionStatus where
  stage : OverallConnectionStage
  progress : List ConnectionProgress

namespace OverallConnectionStatus

def new (initialNodeDescriptors : List NodeDescriptor) : Except Panic OverallConnectionStatus := do
  let progress ← initialNodeDescriptors.mapM ConnectionProgress.new
  return ⟨.notConnected, progress⟩

variable (status : OverallConnectionStatus)

def initialNodeDescriptors : List NodeDescriptor :=
  status.progress.map ConnectionProgress.initialNodeDescriptor

def getPeerAddrs : List IpAddr :=
  status.progress.map ConnectionProgress.currentPeerAddr

/-- The position of the first connection to the peer. -/
def getConnectionProgressByIp (peerAddr : IpAddr) : Option Nat :=
  status.progress.findIdx? fun progress => decide (progress.currentPeerAddr = peerAddr)

def getConnectionProgressByDesc (descriptor : NodeDescriptor) : Option Nat :=
  status.progress.findIdx? fun progress => decide (progress.initialNodeDescriptor = descriptor)

def updateConnectionStage (env : Environment) (progress : ConnectionProgress) :
    ConnectionProgressEvent → Except Panic ConnectionProgress
  | .tcpConnectionSuccessful => progress.updateStage .tcpConnectionEstablished
  | .tcpConnectionFailed => progress.updateStage (.failed .tcpConnectionFailed)
  | .introductionGossipReceived _ => progress.updateStage .neighborshipEstablished
  | .standardGossipReceived => progress.updateStage .neighborshipEstablished
  | .passGossipReceived newPassTarget => progress.handlePassGossip env newPassTarget
  | .passLoopFound => progress.updateStage (.failed .passLoopFound)
  | .noGossipResponseReceived => progress.updateStage (.failed .noGossipResponseReceived)

/-- A Pass to a peer that another connection leads to already is not followed. -/
def getConnectionProgressToModify (message : ConnectionProgressMessage) : Option Nat :=
  match message.event with
  | .passGossipReceived passTarget =>
    if passTarget ∈ status.getPeerAddrs then none else status.getConnectionProgressByIp message.peerAddr
  | _ => status.getConnectionProgressByIp message.peerAddr

/-- The connection at a position takes the event. -/
def advance (env : Environment) (status : OverallConnectionStatus) (position : Nat)
    (event : ConnectionProgressEvent) : Except Panic OverallConnectionStatus :=
  match status.progress[position]? with
  | none => .ok status
  | some progress => do
    let progress ← updateConnectionStage env progress event
    return { status with progress := status.progress.set position progress }

def isEmpty : Bool := status.progress.isEmpty

def remove (position : Nat) : OverallConnectionStatus :=
  { status with progress := status.progress.eraseIdx position }

def canMakeRoutes : Bool := decide (status.stage = .routeFound)

end OverallConnectionStatus

/-! ### The events that are in turn -/

/-- A failed connection can come to any stage again, except by a Pass. -/
def ConnectionStage.Permits (stage : ConnectionStage) : ConnectionProgressEvent → Prop
  | .tcpConnectionSuccessful => stage = .stageZero ∨ stage.number = none
  | .introductionGossipReceived _ => stage = .tcpConnectionEstablished ∨ stage.number = none
  | .standardGossipReceived => stage = .tcpConnectionEstablished ∨ stage.number = none
  | .passGossipReceived _ => stage = .stageZero ∨ stage = .tcpConnectionEstablished
  | _ => True

open ConnectionProgress

lemma updateConnectionStage_ok_iff (env progress event) :
    (∃ next, OverallConnectionStatus.updateConnectionStage env progress event = .ok next) ↔
      progress.connectionStage.Permits event := by
  obtain ⟨descriptor, peerAddr, stage⟩ := progress
  -- only the pairs of a stage and an event matter
  cases stage <;> cases event <;>
    simp [OverallConnectionStatus.updateConnectionStage, updateStage,
      handlePassGossip, ConnectionStage.number, ConnectionStage.Permits]

/-- A Pass leads to another peer. -/
def ConnectionProgress.peerAfter (progress : ConnectionProgress) : ConnectionProgressEvent → IpAddr
  | .passGossipReceived newPassTarget => newPassTarget
  | _ => progress.currentPeerAddr

lemma currentPeerAddr_updateConnectionStage {env progress next event}
    (updated : OverallConnectionStatus.updateConnectionStage env progress event = .ok next) :
    next.currentPeerAddr = progress.peerAfter event := by
  obtain ⟨descriptor, peerAddr, stage⟩ := progress
  cases stage <;> cases event <;>
    simp [OverallConnectionStatus.updateConnectionStage, updateStage,
      handlePassGossip, ConnectionStage.number] at updated <;>
    simp [← updated, peerAfter]

end PulseMesh.NeighborhoodActor
