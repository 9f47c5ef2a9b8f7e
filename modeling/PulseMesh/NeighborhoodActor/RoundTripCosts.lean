import PulseMesh.Neighborhood.RouteCosts
import PulseMesh.NeighborhoodActor.RouteTotality

/-!
# The costs of a round trip

Rates come from other Nodes, so the costs of a route are products and sums of numbers that anyone may
have chosen.  They are exact for a request as long as all of them should fit, on the way over with the size
of the request and on the way back with the size that is anticipated for the response.  Nothing
ensures that: a rate of `2 ^ 63` counts as a negative charge, and a Node that asks for it is preferred to
all others.
-/

namespace PulseMesh.NeighborhoodActor

open Machine SubLib Gossip ProxyServer
open Neighborhood (RatePack RouteQuery SimplePath ExactCosts FittingCosts NodeLe pathTotal idealUndesirability
  idealInitial idealNode idealCost_le hostPenalty nodeByKey_eq_some exactCosts_iff)

section

variable (env : ActorEnvironment) (state : RouteQueryState) (request : RouteQueryMessage)

def overQuery : RouteQuery :=
  ⟨env.cryptde.publicKey, request.targetKeyOpt, state.minHops.toNat, request.payloadSize, .over,
    request.hostnameOpt⟩

def backQuery (exitKey : PublicKey) (anticipatedResponsePayloadLen : U64) : RouteQuery :=
  ⟨exitKey, some env.cryptde.publicKey, state.minHops.toNat, anticipatedResponsePayloadLen, .back,
    request.hostnameOpt⟩

/-- The way back may start at any Node that the way over can end at. -/
def IsExit (exitKey : PublicKey) : Prop :=
  exitKey ∈ state.neighborhoodDatabase.keys

/-- The costs of the way over, the size of the response and the costs of the way back are exact. -/
structure RoundTripExact : Prop where
  wayOver : ExactCosts env.profile (routeHood state) (overQuery env state request)
  response : Returns (request.payloadSize.mul env.profile responseUndesirabilityFactor) fun size =>
    size.val = request.payloadSize.val * 1000 ∧ ∀ exitKey, IsExit state exitKey →
      ExactCosts env.profile (routeHood state) (backQuery env state request exitKey size)

/-- The costs of a round trip, as the rates say, are within the limits of the machine. -/
structure RoundTripFits : Prop where
  wayOver : FittingCosts (routeHood state) (overQuery env state request)
  size : request.payloadSize.val * 1000 < 2 ^ 64
  wayBack : ∀ size : U64, size.val = request.payloadSize.val * 1000 → ∀ exitKey, IsExit state exitKey →
    FittingCosts (routeHood state) (backQuery env state request exitKey size)

/-- Of two ways, Node by Node, the one over dearer Nodes has no lower sum. -/
def NeverCheaper (query : RouteQuery) : Prop :=
  ∀ path dearer, SimplePath (routeHood state) query path → SimplePath (routeHood state) query dearer →
    List.Forall₂ (NodeLe (routeHood state)) path.tail dearer.tail →
    ∃ total dearerTotal, pathTotal env.profile (routeHood state) query path = .ok total ∧
      pathTotal env.profile (routeHood state) query dearer = .ok dearerTotal ∧
      total.val ≤ dearerTotal.val

end

variable {env : ActorEnvironment} {state : RouteQueryState} {request : RouteQueryMessage}

lemma isSome_routeHood (known : IsExit state key) :
    ((routeHood state).neighborhoodDatabase.nodeByKey key).isSome := by
  obtain ⟨record, found⟩ := Option.isSome_iff_exists.mp (NeighborhoodDatabase.mem_keys.mp known)
  exact Option.isSome_iff_exists.mpr (nodeByKey_routeView found)

lemma neverCheaper_of_exact (exact_ : ExactCosts env.profile (routeHood state) query) :
    NeverCheaper env state query :=
  fun _ _ simple simpleDearer nodes => Neighborhood.pathTotal_mono exact_ simple simpleDearer nodes

/-- Charges, sizes and sums are exact for every route iff they should fit, whatever the profile. -/
theorem roundTrip_costs_exact_iff (env : ActorEnvironment) (state : RouteQueryState)
    (request : RouteQueryMessage) (own : env.cryptde.publicKey ∈ state.neighborhoodDatabase.keys) :
    (RoundTripExact env state request ↔ RoundTripFits env state request) ∧
    (RoundTripFits env state request → NeverCheaper env state (overQuery env state request) ∧
      ∀ size : U64, size.val = request.payloadSize.val * 1000 → ∀ exitKey, IsExit state exitKey →
        NeverCheaper env state (backQuery env state request exitKey size)) := by
  have over_iff : ExactCosts env.profile (routeHood state) (overQuery env state request) ↔
      FittingCosts (routeHood state) (overQuery env state request) :=
    exactCosts_iff (isSome_routeHood own)
  have back_iff (size : U64) {exitKey : PublicKey} (known : IsExit state exitKey) :
      ExactCosts env.profile (routeHood state) (backQuery env state request exitKey size) ↔
        FittingCosts (routeHood state) (backQuery env state request exitKey size) :=
    exactCosts_iff (isSome_routeHood known)
  refine ⟨⟨fun exact_ => ?_, fun fits => ?_⟩, fun fits => ⟨?_, ?_⟩⟩
  · obtain ⟨size, -, isSize, back⟩ := exact_.response
    refine ⟨over_iff.mp exact_.wayOver, by rw [← isSize]; exact (U64.bounds size).2, ?_⟩
    intro size' isSize' exitKey known
    cases Word.ext (isSize'.trans isSize.symm)
    exact (back_iff _ known).mp (back exitKey known)
  · have sizeFits : u64.Holds (request.payloadSize.val * 1000) :=
      (u64_holds _).mpr ⟨Int.mul_nonneg (U64.bounds _).1 (by decide), fits.size⟩
    refine ⟨over_iff.mpr fits.wayOver, ?_⟩
    refine (Neighborhood.returns_exact env.profile sizeFits).mono fun size isSize => ⟨isSize, ?_⟩
    exact fun exitKey known => (back_iff _ known).mpr (fits.wayBack size isSize exitKey known)
  · exact neverCheaper_of_exact (over_iff.mpr fits.wayOver)
  · exact fun size isSize exitKey known =>
      neverCheaper_of_exact ((back_iff _ known).mpr (fits.wayBack size isSize exitKey known))

/-- Nodes that ask for nothing cost nothing. -/
lemma fittingCosts_sample (query) : FittingCosts (routeHood sampleQueryState) query := by
  have free : ∀ record ∈ (routeHood sampleQueryState).neighborhoodDatabase.nodes, ∀ size : Int, ∀ kind,
      idealUndesirability record size kind ≤ 0 := by
    intro record member size kind
    have asks : record.ratePack = NeighborhoodMode.zeroRatePack ∧ record.unreachableHosts = [] ∧
        record.countryUndesirability.val = 0 := by
      revert record
      decide
    obtain ⟨rates, hosts, country⟩ := asks
    have penalty (hostnameOpt : Option String) : hostPenalty record hostnameOpt = 0 := by
      cases hostnameOpt <;> simp [hostPenalty, hosts]
    cases kind <;> simp [idealUndesirability, RatePack.idealRoutingCharge, RatePack.idealExitCharge, rates,
      NeighborhoodMode.zeroRatePack, penalty, country]
  intro path simple
  refine Int.lt_of_le_of_lt (@idealCost_le _ _ _ 0 ?_ ?_ simple) (by simp)
  · unfold idealInitial
    split
    · exact Int.le_refl 0
    · split
      · exact Int.le_refl 0
      next record found => exact free record (nodeByKey_eq_some found).1 _ _
  · intro hopsRemaining key
    unfold idealNode
    split
    · exact Int.le_refl 0
    next record found => exact free record (nodeByKey_eq_some found).1 _ _

theorem sample_costs_exact : RoundTripExact sampleActorEnvironment sampleQueryState sampleRequest := (roundTrip_costs_exact_iff sampleActorEnvironment sampleQueryState sampleRequest (by decide)).1.mpr
    ⟨fittingCosts_sample _, by decide, fun _ _ _ _ => fittingCosts_sample _⟩

/-! ### A rate that should rule a Node out -/

def ratedNode (label : UInt8) (neighbors : List UInt8) (rate : U64) : NodeRecord :=
  let node := sampleNode label neighbors
  { node with inner.ratePack.routingServiceRate := rate }

/-- Two ways of two hops, which differ in the rate of the Node in the middle. -/
def temptingNeighborhood : NeighborhoodDatabase :=
  [ratedNode 2 [1, 4] ⟨2 ^ 63, by decide⟩, ratedNode 3 [1, 4] ⟨1, u64_one⟩, sampleNode 4 [2, 3]].foldl
    NeighborhoodDatabase.addArbitraryNode
    (NeighborhoodDatabase.addArbitraryNode ⟨sampleKey 1, ∅, ∅⟩ (sampleNode 1 [2, 3]))

def temptingState : RouteQueryState :=
  { sampleQueryState with neighborhoodDatabase := temptingNeighborhood }

lemma simplePath_to_dearest : SimplePath (routeHood temptingState)
    (overQuery sampleActorEnvironment temptingState sampleRequest) [sampleKey 1, sampleKey 2] where
  starts := rfl
  simple := by decide
  links := .cons_cons ⟨_, _, rfl, rfl, by decide, by decide, .inl rfl⟩ (.singleton _)

/-- Overflow checks do not help: the rate is cast to a negative number. -/
theorem dearest_relay_is_preferred :
    NodeLe (routeHood temptingState) (sampleKey 3) (sampleKey 2) ∧
    pathTotal .debug (routeHood temptingState) (overQuery sampleActorEnvironment temptingState sampleRequest)
      [sampleKey 1, sampleKey 3] = .ok ⟨1, by decide⟩ ∧
    pathTotal .debug (routeHood temptingState) (overQuery sampleActorEnvironment temptingState sampleRequest)
      [sampleKey 1, sampleKey 2] = .ok ⟨-2 ^ 63, by decide⟩ ∧
    makeRouteSegment sampleActorEnvironment (fun _ => Neighborhood.listedOrder) temptingState (sampleKey 1) none
      2 .proxyClient sampleRequest.payloadSize .over none =
        .ok (.ok ⟨[sampleKey 1, sampleKey 2, sampleKey 4], .proxyClient⟩) ∧
    ¬RoundTripExact sampleActorEnvironment temptingState sampleRequest := by
  refine ⟨⟨_, _, rfl, rfl, ?_, rfl, rfl⟩, rfl, rfl, rfl, ?_⟩
  · constructor <;> decide
  · intro exact_
    obtain ⟨total, computed, nonneg, -⟩ := (exact_.wayOver _ simplePath_to_dearest).total
    cases computed
    exact absurd nonneg (by decide)

end PulseMesh.NeighborhoodActor
