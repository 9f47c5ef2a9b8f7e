import PulseMesh.Accountant.PayableScanners
import PulseMesh.Neighborhood.RouteSearch

/-!
# Reports of consumed services

The proxy server expects services of the Nodes on a route: of one of them that it is the exit, of
the others that they route, of itself nothing.  From the services of the way over it reports what a
request consumes, from those of the way back what a response consumes.  The reports rely on where the
exit stands in the list.
-/

namespace PulseMesh.ProxyServer

open Machine SubLib Neighborhood Accountant List

inductive ExpectedService where
  | routing (publicKey : PublicKey) (earningWallet : Accountant.Wallet) (ratePack : RatePack)
  | exit (publicKey : PublicKey) (earningWallet : Accountant.Wallet) (ratePack : RatePack)
  | nothing
deriving DecidableEq

def ratePackDebug (ratePack : RatePack) : String :=
  s!"RatePack \x7b routing_byte_rate: {ratePack.routingByteRate.val}, " ++
    s!"routing_service_rate: {ratePack.routingServiceRate.val}, " ++
    s!"exit_byte_rate: {ratePack.exitByteRate.val}, " ++
    s!"exit_service_rate: {ratePack.exitServiceRate.val} \x7d"

def ExpectedService.debug : ExpectedService → String
  | .routing key wallet ratePack =>
    s!"Routing({key.debug}, Wallet \x7b kind: Address({wallet.display}) \x7d, " ++ ratePackDebug ratePack ++ ")"
  | .exit key wallet ratePack =>
    s!"Exit({key.debug}, Wallet \x7b kind: Address({wallet.display}) \x7d, " ++ ratePackDebug ratePack ++ ")"
  | .nothing => "Nothing"

def debugServices (services : List ExpectedService) : String :=
  "[" ++ String.intercalate ", " (services.map ExpectedService.debug) ++ "]"

def ExpectedService.isExit : ExpectedService → Bool
  | .exit _ _ _ => true
  | _ => false

variable (expectedServices : List ExpectedService)

def reportOnRoutingServices : List RoutingServiceConsumed :=
  expectedServices.filterMap fun
    | .routing _ earningWallet ratePack =>
      some ⟨earningWallet, ratePack.routingServiceRate, ratePack.routingByteRate⟩
    | _ => none

/-- One step of the search for the exit among the services of a request. -/
def searchExit (acc : Option (Accountant.Wallet × RatePack))
    (currentService : ExpectedService) : Except Panic (Option (Accountant.Wallet × RatePack)) :=
  match acc, currentService with
  | some _, .exit _ _ _ =>
    .error (.raised ("Detected more than one exit service in one-way route: " ++
      debugServices expectedServices))
  | some found, _ => .ok (some found)
  | none, .exit _ earningWallet ratePack => .ok (some (earningWallet, ratePack))
  | none, _ => .ok none

def reportOnExitService (payloadSize : U64) : Except Panic ExitServiceConsumed := do
  match ← expectedServices.foldlM (searchExit expectedServices) none with
  | some (earningWallet, ratePack) =>
    return ⟨earningWallet, payloadSize, ratePack.exitServiceRate, ratePack.exitByteRate⟩
  | none =>
    .error (.raised ("Each route must demand an exit service, but this route has no such demand: " ++
      debugServices expectedServices))

variable {expectedServices}

/-- One step of the search for the exit among the services of a response. -/
def searchReturnExit (exitSize : U64) (acc : Option ExitServiceConsumed) (service : ExpectedService) :
    Except Panic (Option ExitServiceConsumed) :=
  match acc, service with
  | some definite, _ => .ok (some definite)
  | none, .exit _ earningWallet ratePack =>
    .ok (some ⟨earningWallet, exitSize, ratePack.exitServiceRate, ratePack.exitByteRate⟩)
  | none, _ =>
    .error (.raised "internal error: entered unreachable code: Return route has to begin with an exit service if not zero hop")

/-- Nothing is reported about a response of a zero-hop route. -/
def reportResponseServicesConsumed (timestamp : SystemTime) (expectedServices : List ExpectedService)
    (exitSize routingSize : U64) : Except Panic (Option ReportServicesConsumedMessage) := do
  match ← (expectedServices.filter fun service => decide (service ≠ .nothing)).foldlM
      (searchReturnExit exitSize) none with
  | none => return none
  | some exitServiceReport =>
    return some ⟨timestamp, exitServiceReport, routingSize, reportOnRoutingServices expectedServices⟩

/-- What a request over a route consumes. -/
def reportRequestServicesConsumed (timestamp : SystemTime) (expectedServices : List ExpectedService)
    (payloadSize routingSize : U64) : Except Panic ReportServicesConsumedMessage := do
  let exit ← reportOnExitService expectedServices payloadSize
  return ⟨timestamp, exit, routingSize, reportOnRoutingServices expectedServices⟩

/-! ### Well placed exits -/

section

variable {services : List ExpectedService}

lemma searchExit_none (all) (noExit : ∀ service ∈ services, service.isExit = false) :
    services.foldlM (searchExit all) none = .ok none := by
  induction services with
  | nil => rfl
  | cons service services ih =>
    rw [forall_mem_cons] at noExit
    have skipped : searchExit all none service = .ok none := by
      cases service with
      | exit => simp [ExpectedService.isExit] at noExit
      | routing => rfl
      | nothing => rfl
    rw [foldlM_cons, skipped, ok_bind, ih noExit.2]

lemma reportOnExitService_ok (noExit : ∀ service ∈ services, service.isExit = false)
    (publicKey earningWallet ratePack payloadSize) :
    reportOnExitService (services ++ [.exit publicKey earningWallet ratePack]) payloadSize =
      .ok ⟨earningWallet, payloadSize, ratePack.exitServiceRate, ratePack.exitByteRate⟩ := by
  rw [reportOnExitService, foldlM_append, searchExit_none _ noExit]
  rfl

lemma reportResponseServicesConsumed_ok (publicKey earningWallet ratePack timestamp exitSize routingSize) :
    reportResponseServicesConsumed timestamp (.exit publicKey earningWallet ratePack :: services)
        exitSize routingSize =
      .ok (some ⟨timestamp, ⟨earningWallet, exitSize, ratePack.exitServiceRate, ratePack.exitByteRate⟩,
        routingSize, reportOnRoutingServices services⟩) := by
  have found : ∀ services : List ExpectedService, ∀ definite,
      services.foldlM (searchReturnExit exitSize) (some definite) = .ok (some definite) := by
    intro services definite
    induction services with
    | nil => rfl
    | cons service services ih => exact ih
  rw [reportResponseServicesConsumed, filter_cons_of_pos (by simp), foldlM_cons]
  simp only [searchReturnExit, ok_bind, found]
  rfl

end

end PulseMesh.ProxyServer
