import PulseMesh.Neighborhood.ExitResearch
import PulseMesh.NeighborhoodActor.RecordConsistency
import PulseMesh.NeighborhoodActor.RouteTotality

/-!
# The countries to choose from

The user chooses among the countries of the exits that research has found.  A country on the list can be
asked for: there is a route to an exit there.  The list can miss a country, because research does not go
on behind an exit that it has met before.
-/

namespace PulseMesh.Neighborhood

open Machine SubLib Option

/-- Sums that wrap can always be computed. -/
lemma computes_of_release (release : p = .release)
    (known : (hood.neighborhoodDatabase.nodeByKey query.source).isSome) : Computes p hood query := by
  intro path simple
  have initial : Safe (computeInitialUndesirability p hood query.source query.payloadSize query.direction) := by
    obtain ⟨record, found⟩ := isSome_iff_exists.mp known
    unfold computeInitialUndesirability
    split
    · exact .ok trivial
    · rw [found]
      exact computeUndesirability_returns release _ _ _
  have added (hopsRemaining : Nat) (undesirability : I64) (keys : List PublicKey)
      (keysKnown : ∀ key ∈ keys, (hood.neighborhoodDatabase.nodeByKey key).isSome) :
      Safe (addHops p hood query hopsRemaining undesirability keys) := by
    induction keys generalizing hopsRemaining undesirability with
    | nil => exact .ok trivial
    | cons key keys ih =>
      rw [List.forall_mem_cons] at keysKnown
      obtain ⟨record, found⟩ := isSome_iff_exists.mp keysKnown.1
      have charged : Safe (computeNewUndesirability p record undesirability query.targetOpt
          (hopsRemaining - 1) query.payloadSize query.direction query.hostnameOpt) :=
        (computeUndesirability_returns release _ _ _).andThen fun _ => returns_arith release _ _
      simp only [addHops, found]
      exact charged.andThen fun total => ih _ total keysKnown.2
  have keysKnown : ∀ key ∈ path.tail, (hood.neighborhoodDatabase.nodeByKey key).isSome :=
    fun key visited => isSome_nodeByKey (known_of_linked simple.links key visited)
  obtain ⟨total, computed, -⟩ := initial.andThen fun undesirability =>
    added query.minimumHops undesirability path.tail keysKnown
  exact ⟨total, computed⟩

end PulseMesh.Neighborhood

namespace PulseMesh.NeighborhoodActor

open Machine SubLib Gossip
open Neighborhood (SetOrder RouteQuery Computes Prominent Reported researchQuery restrictTo
  findBestRouteSegment findExitLocations)

variable {env : NodeEnvironment} {order : SetOrder} {state : ActorState}

lemma nodeByKey_routeView_eq (db key) :
    (routeView db).nodeByKey key = (db.nodeByKey key).map (routeRecord key) := by
  cases viewedAt : (routeView db).nodeByKey key with
  | none =>
    cases found : db.nodeByKey key with
    | none => rfl
    | some record =>
      obtain ⟨viewed, viewedAt'⟩ := nodeByKey_routeView found
      cases viewedAt.symm.trans viewedAt'
  | some viewed =>
    obtain ⟨member, isKey⟩ := Neighborhood.nodeByKey_eq_some viewedAt
    obtain ⟨key', -, viewedIs⟩ := List.mem_filterMap.mp member
    obtain ⟨record, found, rfl⟩ := Option.map_eq_some_iff.mp viewedIs
    cases isKey
    rw [show (routeRecord key' record).publicKey = key' from rfl, found, Option.map_some]

/-- Repetitions are all that is left out. -/
lemma mem_destutter {countries : List String} :
    country ∈ countries.destutter (· ≠ ·) ↔ country ∈ countries := by
  have from_ (first : String) (rest : List String) :
      country ∈ rest.destutter' (· ≠ ·) first ↔ country ∈ first :: rest := by
    induction rest generalizing first with
    | nil => rfl
    | cons next rest ih =>
      by_cases same : first = next
      · rw [List.destutter'_cons_neg _ (not_not.mpr same), ih, same]
        simp
      · rw [List.destutter'_cons_pos _ same, List.mem_cons, ih]
        exact List.mem_cons.symm
  cases countries with
  | nil => rfl
  | cons first rest => exact from_ first rest

lemma initDbCountries_returns {exits : List PublicKey}
    (researched : findExitLocations env.profile (routeHood state.toRouteQueryState) order
      state.neighborhoodDatabase.thisNode state.minHops.toNat = .ok exits) :
    Returns (initDbCountries env order state) fun countries => ∀ country,
      country ∈ countries ↔ Reported (routeHood state.toRouteQueryState) exits country := by
  refine .of_eq (bind_eq_ok.mpr ⟨exits, researched, rfl⟩) fun country => ?_
  rw [mem_destutter, List.mem_insertionSort, List.mem_filterMap]
  refine exists_congr fun key => and_congr_right fun _ => ?_
  change _ ↔ ∃ record, (routeView state.neighborhoodDatabase).nodeByKey key = some record ∧ _
  rw [nodeByKey_routeView_eq]
  cases state.neighborhoodDatabase.nodeByKey key <;> simp [routeRecord]

/-! ### A country behind a known exit -/

/-- Two ways of three hops lead to the Node 4: by the Nodes 2 and 3, and by the Nodes 5 and 6.  The only
Node with a country is next to the Node 2, too near for three hops if the path does not come from
the Node 4. -/
def missedNeighborhood : NeighborhoodDatabase :=
  let missed := sampleNode 7 [2]
  [sampleNode 2 [1, 3, 4, 7], sampleNode 3 [2, 4], sampleNode 4 [2, 3, 6], sampleNode 5 [1, 6],
    sampleNode 6 [4, 5], { missed with inner.countryCodeOpt := some "CZ" }].foldl
      NeighborhoodDatabase.addArbitraryNode
      (NeighborhoodDatabase.addArbitraryNode ⟨sampleKey 1, ∅, ∅⟩ (sampleNode 1 [2, 5]))

def researchState (database : NeighborhoodDatabase) (minHops : Hops) : ActorState where
  neighborhoodDatabase := database
  userExitPreferences := ⟨⟨[], .nothing, []⟩, none⟩
  consumingWalletOpt := none
  minHops := minHops
  nextReturnRouteId := 0
  dbPatchSize := 3
  overallConnectionStatus := ⟨.notConnected, []⟩
  previousPassTargets := ∅
  lastDeadNodeCheck := ⟨0, u32_zero⟩
  isStarted := true
  dbPasswordOpt := none
  sent := []
  isStopped := false

end PulseMesh.NeighborhoodActor
