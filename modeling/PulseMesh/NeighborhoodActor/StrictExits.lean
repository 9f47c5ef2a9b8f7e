import PulseMesh.NeighborhoodActor.ExitCountries
import PulseMesh.NeighborhoodActor.ExitLocations

/-!
# Exits in the requested countries only

A request without fallback routing is strict: the exit of every route has to be in one of its countries.
The countries that earlier requests have left behind are accepted as well, so the request holds what it
promises only if nothing is left that it does not name.  Then neither gossip nor new minimum hops change
that, until the next request.
-/

namespace PulseMesh.NeighborhoodActor

open Machine SubLib Gossip Runs
open Neighborhood (SetOrder RouteDirection RouteQuery)

variable {env : NodeEnvironment} {order : SetOrder} {state : ActorState}
  {request : UiSetExitLocationRequest}

def UiSetExitLocationRequest.countries (request : UiSetExitLocationRequest) : List String :=
  request.exitLocations.flatMap ExitLocation.countryCodes

/-- No exit is accepted outside of the countries, and no location that was kept leads out of them. -/
structure Strict (countries : List String) (settings : Settings) : Prop where
  noFallback : settings.fallbackPreference = .exitCountryNoFallback
  exitCountries : settings.exitCountries ⊆ countries
  locations : ∀ exitLocations ∈ settings.locationsOpt,
    exitLocations.flatMap ExitLocation.countryCodes ⊆ countries

/-! ### What requests and changes do to the settings -/

lemma setCountryUndesirability_settings
    (set : setCountryUndesirabilityAndExitCountries env state exitLocations = .ok state') :
    state'.settings = if exitLocations.isEmpty then { state.settings with exitCountries := [] }
      else state.settings := by
  unfold setCountryUndesirabilityAndExitCountries at set
  by_cases empty : exitLocations.isEmpty
  · rw [if_pos empty] at set ⊢
    obtain ⟨db, -, set⟩ := ok_of_bind set
    cases set
    rfl
  · rw [if_neg empty] at set ⊢
    obtain ⟨db, -, set⟩ := ok_of_bind set
    cases set
    rfl

variable {countries : List String}

lemma strict_of_renewExitLocations (strict : Strict countries state.settings)
    (renewed : renewExitLocations env state = .ok state') : Strict countries state'.settings := by
  unfold renewExitLocations at renewed
  split at renewed
  · cases renewed
    exact strict
  next exitLocations kept =>
    obtain ⟨exitCountries, changed, new⟩ := synchronizeLocations_spec state.userExitPreferences exitLocations
    simp only [changed] at renewed
    have accepted : exitCountries ⊆ countries := by
      intro country isAccepted
      rcases new country isAccepted with earlier | later
      · exact strict.exitCountries earlier
      · exact strict.locations exitLocations kept later
    have settings := setCountryUndesirability_settings renewed
    rw [settings]
    split
    · exact ⟨strict.noFallback, List.nil_subset _, strict.locations⟩
    · exact ⟨strict.noFallback, accepted, strict.locations⟩

def ActorEvent.IsRequest : ActorEvent → Prop
  | .exitLocation _ _ => True
  | _ => False

/-- Messages and configuration changes keep to the countries. -/
lemma strict_of_handleEvent (quiet : ¬event.IsRequest) (strict : Strict countries state.settings)
    (handled : handleEvent env state event = .ok state') : Strict countries state'.settings := by
  cases event with
  | delivered delivery =>
    have settings := handle_settings handled
    rw [settings]
    exact { strict with }
  | exitLocation orders request => exact absurd trivial quiet
  | configChange orders change =>
    cases change with
    | updateWallets | updatePassword =>
      cases handled
      exact strict
    | updateMinHops newMinHops =>
      obtain ⟨counted, counts, handled⟩ := ok_of_bind handled
      obtain ⟨renewed, renews, searched⟩ := ok_of_bind handled
      rw [(searchForANewRoute_same searched).2]
      refine strict_of_renewExitLocations ?_ renews
      rw [(withDbCountries_same counts).2]
      split
      · exact { strict with }
      · exact { strict with }

/-! ### A strict request -/

/-- Apart from the countries that are still accepted, nothing is left of earlier requests. -/
lemma strict_of_request (setting : request.showCountries = false) (strict : request.fallbackRouting = false)
    (chosen : request.exitLocations ≠ [])
    (nothingLeft : state.userExitPreferences.exitCountries ⊆ request.countries)
    (handled : handleExitLocationMessage env order state request = .ok (state', response)) :
    Strict request.countries state'.settings := by
  obtain ⟨dbCountries, -, applied⟩ := handleExitLocationMessage_eq_ok env handled
  obtain ⟨exitCountries, changed, new⟩ :=
    synchronizeLocations_spec { state.userExitPreferences with dbCountries } request.exitLocations
  have requested : Strict request.countries (state.withPreferences
      (requestedPreferences { state.userExitPreferences with dbCountries } request)).settings := by
    refine ⟨?_, ?_, ?_⟩
    · refine requestedPreferences_fallbackPreference.trans ?_
      simp [requestedFallbackPreference, strict, chosen]
    · intro country accepted
      change country ∈ (requestedPreferences { state.userExitPreferences with dbCountries } request).exitCountries
        at accepted
      rw [requestedPreferences_toUserExitPreferences, changed] at accepted
      rcases new country accepted with earlier | later
      · exact nothingLeft earlier
      · exact later
    · intro exitLocations kept
      rw [mem_locationsOpt_requestedPreferences setting kept]
      exact List.Subset.refl _
  unfold applyPreferences at applied
  split at applied
  · rw [setCountryUndesirability_settings applied, if_neg (by simpa using chosen)]
    exact requested
  · cases applied
    exact requested

/-! ### The exits of routes -/

/-- What is answered leads to an exit, whose record has the country. -/
def LeadsTo (env : NodeEnvironment) (state : ActorState) (query : RouteQueryMessage)
    (response : RouteQueryResponse) (countries : List String) : Prop :=
  ∃ overLeg back exitKey overMiddle backMiddle record,
    AnswersWith env.toActorEnvironment state.toRouteQueryState query response overLeg back exitKey overMiddle
      backMiddle ∧
    state.neighborhoodDatabase.nodeByKey exitKey = some record ∧
    ∃ country ∈ countries, record.inner.countryCodeOpt = some country

lemma leadsTo_of_strict (strict : Strict countries state.settings) (decentralized : env.mode ≠ .zeroHop)
    (answered : handleRouteQueryMessage env.toActorEnvironment routes state.toRouteQueryState query =
      .ok (some response, routing)) : LeadsTo env state query response countries := by
  obtain ⟨overLeg, back, exitKey, overMiddle, backMiddle, answers, made⟩ :=
    makeRoundTripRoute_eq_ok (handleRouteQueryMessage_eq_ok decentralized answered)
  obtain ⟨pathOpt, found, made⟩ := ok_of_bind made
  cases pathOpt with
  | none => cases made
  | some path =>
    cases made
    have isLast : path.getLast? = some exitKey := by
      rw [show path = _ from answers.overBetween.keys, List.getLast?_concat]
    obtain ⟨-, -, ends⟩ := @Neighborhood.findBestRouteSegment_sound _ _
      ⟨env.cryptde.publicKey, query.targetKeyOpt, state.minHops.toNat, query.payloadSize, .over,
        query.hostnameOpt⟩ _ _ found
    obtain ⟨viewed, viewedAt, country, accepted, code⟩ :=
      (Neighborhood.validateLastNodeCountryCode_of_noFallback strict.noFallback).mp (ends exitKey isLast).country
    change (routeView state.neighborhoodDatabase).nodeByKey exitKey = some viewed at viewedAt
    rw [nodeByKey_routeView_eq] at viewedAt
    obtain ⟨record, recordAt, rfl⟩ := Option.map_eq_some_iff.mp viewedAt
    exact ⟨_, _, _, _, _, record, answers, recordAt, country, strict.exitCountries accepted, code⟩

/-- **Strict requests**: as long as no other request comes, every route ends in a requested country. -/
theorem exit_in_requested_country (env : NodeEnvironment) (decentralized : env.mode ≠ .zeroHop)
    (order : SetOrder) (state requested reached : ActorState) (request : UiSetExitLocationRequest)
    (setting : request.showCountries = false) (strict : request.fallbackRouting = false)
    (chosen : request.exitLocations ≠ [])
    (nothingLeft : state.userExitPreferences.exitCountries ⊆ request.countries)
    (answer : Except (U64 × String) UiSetExitLocationResponse)
    (handled : handleExitLocationMessage env order state request = .ok (requested, answer))
    (events : List ActorEvent) (quiet : ∀ event ∈ events, ¬event.IsRequest)
    (ran : run (handleEvent env) requested events = .ok reached)
    (routes : RouteDirection → SetOrder) (query : RouteQueryMessage) (response : RouteQueryResponse)
    (routing : RouteQueryState)
    (answered : handleRouteQueryMessage env.toActorEnvironment routes reached.toRouteQueryState query =
      .ok (some response, routing)) :
    LeadsTo env reached query response request.countries := by
  refine leadsTo_of_strict ?_ decentralized answered
  have kept : ∀ state event next, Strict request.countries state.settings → ¬event.IsRequest →
      handleEvent env state event = .ok next → Strict request.countries next.settings :=
    fun state event next strict quiet handled => strict_of_handleEvent quiet strict handled
  exact invariant_of_run kept (along_of_forall quiet requested)
    (strict_of_request setting strict chosen nothingLeft handled) ran

/-! ### Two exits, one hop away -/

def countryNode (label : UInt8) (neighbors : List UInt8) (country : String) : NodeRecord :=
  let node := sampleNode label neighbors
  { node with inner.countryCodeOpt := some country }

def twoCountries : NeighborhoodDatabase :=
  [countryNode 2 [1] "CZ", countryNode 3 [1] "DE"].foldl NeighborhoodDatabase.addArbitraryNode
    (NeighborhoodDatabase.addArbitraryNode ⟨sampleKey 1, ∅, ∅⟩ (sampleNode 1 [2, 3]))

def exitEnvironment : NodeEnvironment :=
  { sampleNodeEnvironment [] with
    idCodec := tableCodec [0]
    hopCodec := tableCodec [⟨sampleKey 2, none, .hopper⟩, ⟨sampleKey 3, none, .hopper⟩,
      ⟨sampleKey 1, none, .proxyClient⟩, ⟨emptyKey, none, .proxyServer⟩] }

def strictRequest (country : String) : UiSetExitLocationRequest :=
  ⟨false, [⟨[country], ⟨1, u64_one⟩⟩], false⟩

theorem sample_exit_in_requested_country : ∃ requested answer response routing,
    handleExitLocationMessage exitEnvironment Neighborhood.listedOrder (researchState twoCountries .oneHop)
      (strictRequest "DE") = .ok (requested, answer) ∧
    handleRouteQueryMessage exitEnvironment.toActorEnvironment (fun _ => Neighborhood.listedOrder)
      requested.toRouteQueryState sampleRequest = .ok (some response, routing) ∧
    LeadsTo exitEnvironment requested sampleRequest response ["DE"] := by
  refine ⟨_, _, _, _, rfl, rfl, ?_⟩
  exact exit_in_requested_country exitEnvironment (by decide) Neighborhood.listedOrder
    (researchState twoCountries .oneHop) _ _ (strictRequest "DE") rfl rfl (by decide) (by decide) _ rfl []
    (by simp) rfl (fun _ => Neighborhood.listedOrder) sampleRequest _ _ rfl

/-- The country of the first request is still accepted after the second one, and its exit costs the same. -/
theorem exit_in_country_of_earlier_request : ∃ first firstAnswer requested answer response routing,
    handleExitLocationMessage exitEnvironment Neighborhood.listedOrder (researchState twoCountries .oneHop)
      (strictRequest "CZ") = .ok (first, firstAnswer) ∧
    handleExitLocationMessage exitEnvironment Neighborhood.listedOrder first (strictRequest "DE") =
      .ok (requested, answer) ∧
    handleRouteQueryMessage exitEnvironment.toActorEnvironment (fun _ => Neighborhood.listedOrder)
      requested.toRouteQueryState sampleRequest = .ok (some response, routing) ∧
    (∃ wallet rates, response.overServices.getLast? = some (.exit (sampleKey 2) wallet rates)) ∧
    ∃ record, requested.neighborhoodDatabase.nodeByKey (sampleKey 2) = some record ∧
      record.inner.countryCodeOpt = some "CZ" := by
  refine ⟨_, _, _, _, _, _, rfl, rfl, rfl, ⟨_, _, rfl⟩, _, rfl, rfl⟩

end PulseMesh.NeighborhoodActor
