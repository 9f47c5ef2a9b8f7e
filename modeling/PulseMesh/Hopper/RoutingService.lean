import PulseMesh.Accountant.Basic
import PulseMesh.SubLib.Messages

/-!
# The routing service

What the Hopper does with data that comes in from another Node: it takes the package out, looks at
the top hop and forwards the package, hands its payload to a component of this Node, or lets it come
in again.  The result is the list of messages sent, in their order; the actors that receive them are
running, and log lines are left out.
-/

namespace PulseMesh.Hopper

open Machine SubLib Accountant List

structure InboundClientData where
  timestamp : SystemTime
  clientAddr : SocketAddr
  receptionPort : Option UInt16
  lastData : Bool
  isClandestine : Bool
  sequenceNumber : Option U64
  data : Bytes
deriving DecidableEq

structure ReportRoutingServiceProvidedMessage where
  timestamp : SystemTime
  payingWallet : Address
  payloadSize : U64
  serviceRate : U64
  byteRate : U64
deriving DecidableEq

inductive Outgoing where
  | accountant (msg : ReportRoutingServiceProvidedMessage)
  | dispatcher (msg : TransmitDataMsg)
  | hopper (msg : InboundClientData)
  | proxyClient (package : ExpiredCoresPackage ClientRequestPayload)
  | proxyServer (package : ExpiredCoresPackage ClientResponsePayload)
  | dnsFailure (package : ExpiredCoresPackage DnsResolveFailure)
  | neighborhood (package : ExpiredCoresPackage SubLib.Gossip)
  | gossipFailure (package : ExpiredCoresPackage SubLib.GossipFailure)
deriving DecidableEq

/-- The signatures of wallets: the key a proof was made with, and whether it fits a digest. -/
structure WalletSignatures where
  Key : Type
  recover : Signature → Bytes → Option Key
  verify : Key → Signature → Bytes → Option Bool
  address : Key → Address

/-- The codecs, migrations and wallet signatures the service runs with, and the banned wallets. -/
structure Environment where
  hopCodec : Codec LiveHop
  packageCodec : Codec LiveCoresPackage
  messageCodec : Codec MessageType
  migrations : Migrations
  keccak256 : Bytes → Bytes
  signatures : WalletSignatures
  banned : Address → Bool

structure RoutingService where
  main : CryptDE
  aliasCryptde : CryptDE
  contractAddress : Address
  proxyClientRunning : Bool
  perRoutingService : U64
  perRoutingByte : U64
  isDecentralized : Bool

section

variable (env : Environment) (service : RoutingService)

/-- What a payer of this Node has to sign: its public key and the contract of its chain. -/
def RoutingService.digest : Bytes :=
  createDigest env.keccak256 service.main.publicKey.data (addressBytes service.contractAddress)

def ownsSecretKey (payer : Payer) (digest : Bytes) : Bool :=
  match env.signatures.recover payer.proof digest with
  | some payerPublicKey =>
    match env.signatures.verify payerPublicKey payer.proof digest with
    -- the key is recovered from the proof, so its address has to be compared too
    | some result => result && decide (env.signatures.address payerPublicKey = payer.wallet)
    | none => false
  | none => false

def isDelinquent (payer : Payer) : Bool := env.banned payer.wallet

def payerOwnsSecretKey (hop : LiveHop) (digest : Bytes) : Bool :=
  match hop.payer with
  | some payer => ownsSecretKey env payer digest
  | none => false

def toTransmitDataMsg (random : Random) (livePackage : LiveCoresPackage) (lastData : Bool) :
    Except CryptdecError TransmitDataMsg :=
  match livePackage.intoNextLive env.hopCodec service.main random with
  | .error e =>
    .error (.otherError s!"Couldn't get next hop and outgoing LCP from incoming LCP: {e.debug}")
  | .ok (nextHop, nextLivePackage) =>
    match encodex env.packageCodec service.main nextHop.publicKey nextLivePackage with
    | .error e => .error (.otherError s!"Couldn't serialize or encrypt outgoing LCP: {e.debug}")
    | .ok nextLivePackageEnc => .ok ⟨.key nextHop.publicKey, lastData, none, nextLivePackageEnc.data⟩

def routeDataExternally (now : SystemTime) (random : Random) (livePackage : LiveCoresPackage)
    (payerOpt : Option Payer) (lastData : Bool) : List Outgoing :=
  match payerOpt with
  | none => []
  | some payer =>
    if !ownsSecretKey env payer (service.digest env) then
      []
    else if isDelinquent env payer then
      []
    else
      -- the bill goes out before it is known whether the package can be built
      let bill := Outgoing.accountant ⟨now, payer.wallet, usize livePackage.payload.data.length,
        service.perRoutingService, service.perRoutingByte⟩
      match toTransmitDataMsg env service random livePackage lastData with
      | .ok transmitMsg => [bill, .dispatcher transmitMsg]
      | .error _ => [bill]

def routeDataAroundAgain (random : Random) (livePackage : LiveCoresPackage)
    (ibcdButData : InboundClientData) : Except Panic (List Outgoing) :=
  match livePackage.intoNextLive env.hopCodec service.main random with
  | .error _ => .ok []
  | .ok (_, nextLcp) =>
    -- encrypted for this Node, as if it had come in from outside
    match encodex env.packageCodec service.main service.main.publicKey nextLcp with
    | .error e => .error (.raised s!"Encryption of LiveCoresPackage failed: {e.debug}")
    | .ok payload => .ok [.hopper { ibcdButData with data := payload.data }]

def extractExpiredPackage (immediateNeighborAddr : SocketAddr) (livePackage : LiveCoresPackage)
    (component : Component) : Option (ExpiredCoresPackage MessageType) :=
  -- responses are encrypted for the alias, under which the exit knows this Node
  let payloadCryptde := match component with
    | .proxyServer => service.aliasCryptde
    | _ => service.main
  (livePackage.toExpired env.hopCodec env.messageCodec immediateNeighborAddr service.main
    payloadCryptde).toOption

/-- The package with another payload. -/
def withPayload {α β : Type} (package : ExpiredCoresPackage α) (payload : β) : ExpiredCoresPackage β :=
  ⟨package.immediateNeighbor, package.payingWallet, package.remainingRoute, payload,
    package.payloadLen⟩

/-- A payload that cannot be migrated is not delivered. -/
def deliver {α β : Type} (send : ExpiredCoresPackage β → Outgoing) (package : ExpiredCoresPackage α)
    (migrated : Except String β) : List Outgoing :=
  match migrated with
  | .ok payload => [send (withPayload package payload)]
  | .error _ => []

def routeExpiredPackage (component : Component) (expiredPackage : ExpiredCoresPackage MessageType)
    (payerOwnsSecretKey : Bool) : List Outgoing :=
  match component, expiredPackage.payload with
  | .proxyClient, .clientRequest data =>
    -- only here the proof matters: the ProxyClient works for money
    if !service.isDecentralized || payerOwnsSecretKey then
      if service.proxyClientRunning then
        deliver .proxyClient expiredPackage (env.migrations.clientRequest data)
      else
        []
    else
      []
  | .proxyServer, .clientResponse data =>
    deliver .proxyServer expiredPackage (env.migrations.clientResponse data)
  | .proxyServer, .dnsResolveFailed data =>
    deliver .dnsFailure expiredPackage (env.migrations.dnsResolveFailed data)
  | .neighborhood, .gossip data =>
    deliver .neighborhood expiredPackage (env.migrations.gossip data)
  | .neighborhood, .gossipFailure data =>
    deliver .gossipFailure expiredPackage (env.migrations.gossipFailure data)
  | _, _ => []

def routeDataToPeripheralComponent (component : Component) (immediateNeighborAddr : SocketAddr)
    (livePackage : LiveCoresPackage) (payerOwnsSecretKey : Bool) : List Outgoing :=
  match extractExpiredPackage env service immediateNeighborAddr livePackage component with
  | none => []
  | some expiredPackage => routeExpiredPackage env service component expiredPackage payerOwnsSecretKey

def routeDataInternally (random : Random) (nextHop : LiveHop) (immediateNeighborAddr : SocketAddr)
    (livePackage : LiveCoresPackage) (ibcdButData : InboundClientData) : Except Panic (List Outgoing) :=
  -- a ban is not looked at for a package that goes around again
  if nextHop.component = .hopper then
    routeDataAroundAgain env service random livePackage ibcdButData
  else if nextHop.payer.any (isDelinquent env) then
    .ok []
  else
    .ok (routeDataToPeripheralComponent env service nextHop.component immediateNeighborAddr livePackage
      (payerOwnsSecretKey env nextHop (service.digest env)))

def RoutingService.isDestinedForHere (nextHop : LiveHop) : Bool :=
  decide (nextHop.publicKey = service.main.publicKey)

def routeData (now : SystemTime) (random : Random) (senderAddr : SocketAddr) (nextHop : LiveHop)
    (livePackage : LiveCoresPackage) (lastData : Bool) (ibcdButData : InboundClientData) :
    Except Panic (List Outgoing) :=
  -- a hop for the hopper of another Node is the only one that leaves this Node
  if nextHop.component = .hopper ∧ service.isDestinedForHere nextHop = false then
    .ok (routeDataExternally env service now random livePackage nextHop.payer lastData)
  else
    routeDataInternally env service random nextHop senderAddr livePackage ibcdButData

def route (now : SystemTime) (random : Random) (ibcd : InboundClientData) :
    Except Panic (List Outgoing) :=
  match decodex env.packageCodec service.main ⟨ibcd.data⟩ with
  | .error _ => .ok []
  | .ok livePackage =>
    match livePackage.route.nextHop env.hopCodec service.main with
    | .error _ => .ok []
    | .ok nextHop =>
      routeData env service now random ibcd.clientAddr nextHop livePackage ibcd.lastData
        { ibcd with data := [] }

end

/-! ### No free service -/

section

variable {env : Environment} {service : RoutingService}

variable (env service) in
/-- The payer has proved to own the wallet, which is not banned. -/
structure Pays (payer : Payer) : Prop where
  owns : ownsSecretKey env payer (service.digest env) = true
  notDelinquent : isDelinquent env payer = false

/-- The messages that make another Node or the ProxyClient work on the package. -/
def Outgoing.isService : Outgoing → Bool
  | .dispatcher _ => true
  | .proxyClient _ => true
  | _ => false

variable {random : Random} {livePackage : LiveCoresPackage} {payerOpt : Option Payer}
variable {now : SystemTime}

lemma routeDataExternally_pays
    (sends : routeDataExternally env service now random livePackage payerOpt lastData ≠ []) :
    ∃ payer, payerOpt = some payer ∧ Pays env service payer := by
  unfold routeDataExternally at sends
  split at sends
  · exact absurd rfl sends
  · next payer =>
    split at sends
    · exact absurd rfl sends
    · next owns =>
      split at sends
      · exact absurd rfl sends
      · next notDelinquent => exact ⟨payer, rfl, by simpa using owns, by simpa using notDelinquent⟩

variable {msg : Outgoing}

lemma not_isService_of_deliver {α β : Type} {send : ExpiredCoresPackage β → Outgoing}
    {package : ExpiredCoresPackage α} {migrated} (inert : ∀ package, (send package).isService = false)
    (delivered : msg ∈ deliver send package migrated) : msg.isService = false := by
  unfold deliver at delivered
  split at delivered
  · rw [mem_singleton.mp delivered]
    exact inert _
  · cases delivered

section

variable (decentralized : service.isDecentralized = true) (isService : msg.isService = true)
include decentralized isService

/-- Only a payload for the ProxyClient is a service, and that one needs the proof. -/
lemma routeExpiredPackage_owns {component : Component}
    {expiredPackage : ExpiredCoresPackage MessageType} {owns}
    (sent : msg ∈ routeExpiredPackage env service component expiredPackage owns) : owns = true := by
  unfold routeExpiredPackage at sent
  split at sent
  · cases owns with
    | true => rfl
    | false => simp [decentralized] at sent
  -- no other recipient does anything for the sender
  all_goals first
    | cases sent
    | rw [not_isService_of_deliver (fun _ => rfl) sent] at isService
      cases isService

lemma routeDataInternally_pays
    (routed : routeDataInternally env service random nextHop immediateNeighborAddr livePackage
      ibcdButData = .ok sent) (isSent : msg ∈ sent) :
    ∃ payer, nextHop.payer = some payer ∧ Pays env service payer := by
  unfold routeDataInternally at routed
  split at routed
  · -- the package comes in again; nobody else gets it
    unfold routeDataAroundAgain at routed
    split at routed
    · cases routed
      cases isSent
    · split at routed
      · cases routed
      · cases routed
        rw [mem_singleton.mp isSent] at isService
        cases isService
  · split at routed
    · cases routed
      cases isSent
    · next notDelinquent =>
      cases routed
      unfold routeDataToPeripheralComponent at isSent
      split at isSent
      · cases isSent
      · have owns := routeExpiredPackage_owns decentralized isService isSent
        unfold payerOwnsSecretKey at owns
        cases isPayer : nextHop.payer with
        | none => simp [isPayer] at owns
        | some payer =>
          simp only [isPayer] at owns notDelinquent
          exact ⟨payer, rfl, owns, by simpa using notDelinquent⟩

end

/-- A decentralized Node forwards a package or serves its payload only if the top hop carries a payer
whose proof fits this Node's key and chain and whose wallet is not banned. -/
theorem served_only_if_paid {now : SystemTime} {random : Random} {ibcd : InboundClientData}
    {sent : List Outgoing} (decentralized : service.isDecentralized = true)
    (routed : route env service now random ibcd = .ok sent)
    (serves : sent.any Outgoing.isService = true) :
    ∃ livePackage nextHop payer,
      decodex env.packageCodec service.main ⟨ibcd.data⟩ = .ok livePackage ∧
      livePackage.route.nextHop env.hopCodec service.main = .ok nextHop ∧
      nextHop.payer = some payer ∧ Pays env service payer := by
  obtain ⟨msg, isSent, isService⟩ := any_eq_true.mp serves
  unfold route at routed
  split at routed
  · cases routed
    cases isSent
  · next livePackage decoded =>
    split at routed
    · cases routed
      cases isSent
    · next nextHop top =>
      unfold routeData at routed
      -- forwarded, or served here
      split at routed
      · cases routed
        obtain ⟨payer, isPayer, pays⟩ := routeDataExternally_pays (ne_nil_of_mem isSent)
        exact ⟨livePackage, nextHop, payer, decoded, top, isPayer, pays⟩
      · obtain ⟨payer, isPayer, pays⟩ :=
          routeDataInternally_pays decentralized isService routed isSent
        exact ⟨livePackage, nextHop, payer, decoded, top, isPayer, pays⟩

/-! ### Billing and forwarding -/

def bills (sent : List Outgoing) : List ReportRoutingServiceProvidedMessage :=
  sent.filterMap fun
    | .accountant msg => some msg
    | _ => none

def forwards (sent : List Outgoing) : List TransmitDataMsg :=
  sent.filterMap fun
    | .dispatcher msg => some msg
    | _ => none

variable (env service) in
/-- The message holds the payload, encrypted for the Node it goes to. -/
def Carries (msg : TransmitDataMsg) (payload : CryptData) : Prop :=
  ∃ nextKey route nextLivePackageEnc, msg.endpoint = .key nextKey ∧
    encodex env.packageCodec service.main nextKey (.new route payload) = .ok nextLivePackageEnc ∧
    msg.data = nextLivePackageEnc.data

variable (env service) in
/-- One bill over the size of the payload where the payload is forwarded, and none where not. -/
def BilledIffForwarded (payload : CryptData) (sent : List Outgoing) : Prop :=
  (forwards sent = [] ∧ bills sent = []) ∨
    ∃ msg bill, forwards sent = [msg] ∧ Carries env service msg payload ∧
      bills sent = [bill] ∧ bill.payloadSize = usize payload.data.length

lemma toTransmitDataMsg_carries {msg}
    (made : toTransmitDataMsg env service random livePackage lastData = .ok msg) :
    Carries env service msg livePackage.payload := by
  unfold toTransmitDataMsg at made
  split at made
  · cases made
  · next nextHop nextLivePackage next =>
    split at made
    · cases made
    · next nextLivePackageEnc encoded =>
      cases made
      unfold LiveCoresPackage.intoNextLive at next
      split at next
      · cases next
      · cases next
        exact ⟨_, _, nextLivePackageEnc, rfl, encoded, rfl⟩

lemma routeDataExternally_agrees_iff :
    BilledIffForwarded env service livePackage.payload
        (routeDataExternally env service now random livePackage payerOpt lastData) ↔
      ∀ payer, payerOpt = some payer → Pays env service payer →
        (toTransmitDataMsg env service random livePackage lastData).isOk = true := by
  unfold routeDataExternally
  split
  · exact iff_of_true (.inl ⟨rfl, rfl⟩) (by simp)
  · next payer =>
    split
    · next noProof =>
      refine iff_of_true (.inl ⟨rfl, rfl⟩) ?_
      rintro _ ⟨⟩ pays
      simp [pays.owns] at noProof
    · next owns =>
      split
      · next delinquent =>
        refine iff_of_true (.inl ⟨rfl, rfl⟩) ?_
        rintro _ ⟨⟩ pays
        simp [pays.notDelinquent] at delinquent
      · next notDelinquent =>
        -- a paying hop is billed whether or not the package can be built
        have pays : Pays env service payer := ⟨by simpa using owns, by simpa using notDelinquent⟩
        cases made : toTransmitDataMsg env service random livePackage lastData with
        | ok msg =>
          refine iff_of_true (.inr ⟨msg, _, rfl, toTransmitDataMsg_carries made, rfl, rfl⟩) ?_
          exact fun _ _ _ => rfl
        | error e =>
          refine iff_of_false ?_ fun always => Bool.false_ne_true (always payer rfl pays)
          rintro (⟨_, none⟩ | ⟨_, _, one, _⟩)
          · cases none
          · cases one

/-- For a package that another Node is to have, billing agrees with forwarding iff the package for
that Node can be built whenever the top hop pays. -/
theorem billed_iff_forwarded_iff {now : SystemTime} {random : Random} {ibcd : InboundClientData}
    {livePackage : LiveCoresPackage} {nextHop : LiveHop}
    (decoded : decodex env.packageCodec service.main ⟨ibcd.data⟩ = .ok livePackage)
    (top : livePackage.route.nextHop env.hopCodec service.main = .ok nextHop)
    (elsewhere : nextHop.component = .hopper ∧ service.isDestinedForHere nextHop = false) :
    ∃ sent, route env service now random ibcd = .ok sent ∧
      (BilledIffForwarded env service livePackage.payload sent ↔
        ∀ payer, nextHop.payer = some payer → Pays env service payer →
          (toTransmitDataMsg env service random livePackage ibcd.lastData).isOk = true) := by
  refine ⟨routeDataExternally env service now random livePackage nextHop.payer ibcd.lastData, ?_,
    routeDataExternally_agrees_iff⟩
  -- the package goes through the two decoders to the external branch
  simp only [route, decoded, top, routeData, if_pos elsewhere]

end

section

/-- Keys are bytes, and whoever signs for a digest is the wallet with the sum of its bytes. -/
def sampleSignatures : WalletSignatures where
  Key := Nat
  recover proof _ := some proof.v.toNat
  verify key proof digest := some (decide (proof.r = BitVec.ofNat 256 digest.sum.toNat ∧ key = proof.v.toNat))
  address key := BitVec.ofNat 160 key

/-- Refuses an empty key, as every CryptDE of a Node does. -/
def sampleCryptde : CryptDE :=
  { labelled ⟨[1]⟩ with
    encode := fun key plain =>
      if key.data = [] then .error .emptyKey else (labelled ⟨[1]⟩).encode key plain }

def sampleService : RoutingService where
  main := sampleCryptde
  aliasCryptde := sampleCryptde
  contractAddress := 0
  proxyClientRunning := true
  perRoutingService := ⟨9, u64_nine⟩
  perRoutingByte := ⟨3, u64_three⟩
  isDecentralized := true

/-- A hop to the given Node, paid for at the sample Node. -/
def paidHop (nextKey : PublicKey) : LiveHop := ⟨nextKey, some ⟨5, ⟨5, 1, 0⟩⟩, .hopper⟩

/-- The package with one hop for the sample Node and two bytes of payload. -/
def incomingPackage : LiveCoresPackage := .new ⟨[⟨[1]⟩]⟩ ⟨[8, 8]⟩

/-- The same package after the hop was taken off. -/
def outgoingPackage : LiveCoresPackage := .new ⟨[⟨[0]⟩]⟩ ⟨[8, 8]⟩

def sampleEnvironment (nextKey : PublicKey) : Environment where
  hopCodec := tableCodec [paidHop nextKey]
  packageCodec := tableCodec [incomingPackage, outgoingPackage]
  messageCodec := tableCodec []
  migrations := ⟨fun _ => .error "", fun _ => .error "", fun _ => .error "", fun _ => .error "",
    fun _ => .error ""⟩
  keccak256 := id
  signatures := sampleSignatures
  banned _ := false

def sampleData : InboundClientData where
  timestamp := ⟨0⟩
  clientAddr := ⟨.v4 0, 80⟩
  receptionPort := none
  lastData := false
  isClandestine := true
  sequenceNumber := none
  data := [1]

theorem sample_package_is_paid :
    route (sampleEnvironment ⟨[2]⟩) sampleService ⟨0⟩ zeros sampleData =
        .ok [.accountant ⟨⟨0⟩, 5, ⟨2, by decide⟩, ⟨9, by decide⟩, ⟨3, by decide⟩⟩,
          .dispatcher ⟨.key ⟨[2]⟩, false, none, [2, 0]⟩] ∧
      ∃ livePackage nextHop payer,
        decodex (sampleEnvironment ⟨[2]⟩).packageCodec sampleService.main ⟨sampleData.data⟩ =
          .ok livePackage ∧
        livePackage.route.nextHop (sampleEnvironment ⟨[2]⟩).hopCodec sampleService.main = .ok nextHop ∧
        nextHop.payer = some payer ∧ Pays (sampleEnvironment ⟨[2]⟩) sampleService payer := by
  refine ⟨?routed, served_only_if_paid rfl ?routed rfl⟩
  decide +kernel

theorem sample_package_is_billed :
    ∃ sent, route (sampleEnvironment ⟨[2]⟩) sampleService ⟨0⟩ zeros sampleData = .ok sent ∧
      (BilledIffForwarded (sampleEnvironment ⟨[2]⟩) sampleService incomingPackage.payload sent ↔
        ∀ payer, (paidHop ⟨[2]⟩).payer = some payer →
          Pays (sampleEnvironment ⟨[2]⟩) sampleService payer →
            (toTransmitDataMsg (sampleEnvironment ⟨[2]⟩) sampleService zeros incomingPackage
              sampleData.lastData).isOk = true) := billed_iff_forwarded_iff (by decide +kernel) (by decide +kernel) (by decide)

/-- A hop that names an empty key is billed and leads nowhere. -/
theorem empty_next_key_is_billed :
    ∃ sent, route (sampleEnvironment emptyKey) sampleService ⟨0⟩ zeros sampleData = .ok sent ∧
      forwards sent = [] ∧ (bills sent).length = 1 ∧
      ¬ BilledIffForwarded (sampleEnvironment emptyKey) sampleService incomingPackage.payload sent := by
  have routed : route (sampleEnvironment emptyKey) sampleService ⟨0⟩ zeros sampleData =
      .ok [.accountant ⟨⟨0⟩, 5, ⟨2, by decide⟩, ⟨9, by decide⟩, ⟨3, by decide⟩⟩] := by decide +kernel
  refine ⟨_, routed, rfl, rfl, ?_⟩
  rintro (⟨_, none⟩ | ⟨_, _, one, _⟩)
  · cases none
  · cases one

end

end PulseMesh.Hopper
