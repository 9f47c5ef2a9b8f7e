import PulseMesh.NeighborhoodActor.StrictExits

/-!
# What a request for exits chooses

A request for exit locations sets the fallback preference, adds exit countries, keeps the locations and
weighs the Nodes by the priority of their countries.  These are the choices that the route search goes by.
A request without locations takes all of them back, also if it was only meant to show the countries.
-/

namespace PulseMesh.Neighborhood

open Machine SubLib

variable {preferences : UserExitPreferences}
  (noFallback : preferences.fallbackPreference ≠ .exitCountryWithFallback)
  (dbCountries : List String)
include noFallback

/-- The countries of the database are looked at for a fallback only. -/
lemma validateLastNodeCountryCode_forget :
    validateLastNodeCountryCode ⟨database, { preferences with dbCountries }⟩ =
      validateLastNodeCountryCode ⟨database, preferences⟩ := by
  funext key research direction
  simp [validateLastNodeCountryCode, lastNodeIsAlwaysTrue, isFallbackAndLastNodeQualifies, noFallback]

lemma routingEngine_forget (fuel : Nat) :
    routingEngine p ⟨database, { preferences with dbCountries }⟩ order query fuel =
      routingEngine p ⟨database, preferences⟩ order query fuel := by
  induction fuel with
  | zero => rfl
  | succ fuel ih =>
    simp only [routingEngine, ih, validateLastNodeCountryCode_forget noFallback]
    rfl

lemma findBestRouteSegment_forget :
    findBestRouteSegment p ⟨database, { preferences with dbCountries }⟩ order =
      findBestRouteSegment p ⟨database, preferences⟩ order := by
  funext source targetOpt minimumHops payloadSize direction hostnameOpt
  unfold findBestRouteSegment
  rw [routingEngine_forget noFallback]
  rfl

lemma findExitLocations_forget :
    findExitLocations p ⟨database, { preferences with dbCountries }⟩ order =
      findExitLocations p ⟨database, preferences⟩ order := by
  unfold findExitLocations
  rw [routingEngine_forget noFallback]

end PulseMesh.Neighborhood

namespace PulseMesh.NeighborhoodActor

open Machine SubLib Gossip Runs
open Neighborhood (SetOrder RouteDirection Computes researchQuery)

/-! ### Queries that do not look at the countries of the database -/

section

variable {env : ActorEnvironment} {orders : RouteDirection → SetOrder} {state : RouteQueryState}
  {preferences : ExitPreferences}

def RouteQueryState.withPreferences (state : RouteQueryState) (userExitPreferences : ExitPreferences) :
    RouteQueryState :=
  { state with userExitPreferences }

/-- The answers to queries that come one after the other. -/
def answers (env : ActorEnvironment) : RouteQueryState →
    List ((RouteDirection → SetOrder) × RouteQueryMessage) → Except Panic (List (Option RouteQueryResponse))
  | _, [] => .ok []
  | state, (orders, query) :: queries => do
    let (response, state) ← handleRouteQueryMessage env orders state query
    let responses ← answers env state queries
    return response :: responses

/-- The searches go the same way with other preferences. -/
def SearchesAlike (env : ActorEnvironment) (state : RouteQueryState) (preferences : ExitPreferences) : Prop :=
  Neighborhood.findBestRouteSegment env.profile (routeHood (state.withPreferences preferences)) =
    Neighborhood.findBestRouteSegment env.profile (routeHood state)

lemma composeRouteQueryResponse_withPreferences (overLeg back) :
    composeRouteQueryResponse env (state.withPreferences preferences) overLeg back =
      Prod.map id (·.withPreferences preferences) <$> composeRouteQueryResponse env state overLeg back := by
  unfold composeRouteQueryResponse
  by_cases empty : (overLeg.keys.isEmpty || back.keys.isEmpty) = true
  · rw [if_pos empty, if_pos empty]
    rfl
  rw [if_neg empty, if_neg empty]
  by_cases unpaid : (state.consumingWalletOpt.isNone &&
      (decide (2 < overLeg.keys.length) || decide (2 < back.keys.length))) = true
  · rw [if_pos unpaid, if_pos (by exact unpaid)]
    rfl
  rw [if_neg unpaid, if_neg (by exact unpaid)]
  apply bind_eq_map_bind
  rintro (_ | requestServices)
  · rfl
  apply bind_eq_map_bind
  rintro (_ | responseServices)
  · rfl
  apply bind_eq_map_bind
  rintro (_ | route)
  · rfl
  · rfl

lemma makeRoundTripRoute_withPreferences (alike : SearchesAlike env state preferences) (query) :
    makeRoundTripRoute env orders (state.withPreferences preferences) query =
      Prod.map id (·.withPreferences preferences) <$> makeRoundTripRoute env orders state query := by
  have segments : makeRouteSegment env orders (state.withPreferences preferences) =
      makeRouteSegment env orders state := by
    unfold makeRouteSegment
    rw [alike]
  unfold makeRoundTripRoute
  rw [segments]
  apply bind_eq_map_bind
  rintro (_ | overLeg)
  · rfl
  apply bind_eq_map_bind
  intro responseLen
  cases overLeg.keys.getLast? with
  | none => rfl
  | some exitKey =>
    cases query.returnComponentOpt with
    | none => rfl
    | some returnComponent =>
      apply bind_eq_map_bind
      rintro (_ | back)
      · rfl
      · exact composeRouteQueryResponse_withPreferences overLeg back

lemma zeroHopRouteResponse_withPreferences :
    zeroHopRouteResponse env (state.withPreferences preferences) =
      Prod.map id (·.withPreferences preferences) <$> zeroHopRouteResponse env state := by
  apply bind_eq_map_bind
  rintro (_ | route)
  · rfl
  · rfl

lemma handleRouteQueryMessage_withPreferences (alike : SearchesAlike env state preferences) (query) :
    handleRouteQueryMessage env orders (state.withPreferences preferences) query =
      Prod.map id (·.withPreferences preferences) <$> handleRouteQueryMessage env orders state query := by
  unfold handleRouteQueryMessage
  by_cases zeroHop : env.mode = .zeroHop
  · rw [if_pos zeroHop, if_pos zeroHop, zeroHopRouteResponse_withPreferences]
    cases zeroHopRouteResponse env state with
    | error e => rfl
    | ok result => rfl
  · rw [if_neg zeroHop, if_neg zeroHop, makeRoundTripRoute_withPreferences alike]
    cases makeRoundTripRoute env orders state query with
    | error e => rfl
    | ok result =>
      obtain ⟨_ | response, state⟩ := result
      · rfl
      · rfl

/-- Without a fallback, the countries of the database make no difference to any later query. -/
lemma answers_forget
    (noFallback : state.userExitPreferences.fallbackPreference ≠ .exitCountryWithFallback) (dbCountries)
    (queries : List ((RouteDirection → SetOrder) × RouteQueryMessage)) :
    answers env (state.withPreferences { state.userExitPreferences with dbCountries }) queries =
      answers env state queries := by
  induction queries generalizing state with
  | nil => rfl
  | cons first queries ih =>
    obtain ⟨orders, query⟩ := first
    unfold answers
    have alike : SearchesAlike env state { state.userExitPreferences with dbCountries } :=
      funext fun _ => Neighborhood.findBestRouteSegment_forget noFallback dbCountries
    rw [handleRouteQueryMessage_withPreferences alike]
    cases handled : handleRouteQueryMessage env orders state query with
    | error e => rfl
    | ok result =>
      obtain ⟨response, next⟩ := result
      obtain ⟨counter, rfl⟩ := handleRouteQueryMessage_counts handled
      have later := @ih { state with nextReturnRouteId := counter } noFallback
      exact congrArg (· >>= fun rest => .ok (response :: rest)) later

end

/-! ### Databases that differ in the undesirability of the Nodes -/

section

variable {db db' : NeighborhoodDatabase} {key : PublicKey} {record : NodeRecord}

def undesirabilityOf (db : NeighborhoodDatabase) (key : PublicKey) : Option U32 :=
  (db.nodeByKey key).map fun record => record.metadata.countryUndesirability

/-- The same Nodes in the same order, up to their undesirability. -/
structure Reweighed (db db' : NeighborhoodDatabase) : Prop where
  thisNode : db'.thisNode = db.thisNode
  byIpAddr : db'.byIpAddr = db.byIpAddr
  keys : db'.keys = db.keys
  records : ∀ key, (db'.nodeByKey key).map (withCountryUndesirability zeroUndesirability) =
    (db.nodeByKey key).map (withCountryUndesirability zeroUndesirability)

lemma Reweighed.refl (db) : Reweighed db db := ⟨rfl, rfl, rfl, fun _ => rfl⟩

lemma Reweighed.trans (first : Reweighed db db') (second : Reweighed db' db'') : Reweighed db db'' :=
  ⟨second.thisNode.trans first.thisNode, second.byIpAddr.trans first.byIpAddr, second.keys.trans first.keys,
    fun key => (second.records key).trans (first.records key)⟩

lemma Reweighed.symm (reweighed : Reweighed db db') : Reweighed db' db :=
  ⟨reweighed.thisNode.symm, reweighed.byIpAddr.symm, reweighed.keys.symm,
    fun key => (reweighed.records key).symm⟩

/-- The undesirability is all that makes a difference. -/
lemma Reweighed.eq (reweighed : Reweighed db db')
    (same : ∀ key, undesirabilityOf db' key = undesirabilityOf db key) : db' = db := by
  have rows (key : PublicKey) : db'.byPublicKey.lookup key = db.byPublicKey.lookup key := by
    have records := reweighed.records key
    have weights := same key
    simp only [undesirabilityOf, NeighborhoodDatabase.nodeByKey] at records weights
    cases found' : db'.byPublicKey.lookup key with
    | none =>
      rw [found'] at records
      exact (Option.map_eq_none_iff.mp records.symm).symm
    | some record' =>
      rw [found'] at records weights
      obtain ⟨record, found, bare⟩ := Option.map_eq_some_iff.mp records.symm
      rw [found] at weights ⊢
      have parts : withCountryUndesirability record'.metadata.countryUndesirability
          (withCountryUndesirability zeroUndesirability record') = record := by
        rw [← bare]
        exact congrArg (withCountryUndesirability · record) (Option.some.inj weights)
      exact congrArg some parts
  have tables := table_ext reweighed.keys rows
  obtain ⟨thisNode, byPublicKey, byIpAddr⟩ := db
  cases reweighed.thisNode
  cases reweighed.byIpAddr
  cases tables
  rfl

lemma nodeByKey_updateNodes (isUpdated : updateNodes db update = .ok db')
    (found : db'.nodeByKey key = some record') :
    ∃ record, db.nodeByKey key = some record ∧ update record = .ok record' := by
  obtain ⟨table, tableUpdated, done⟩ := ok_of_bind isUpdated
  cases done
  cases old : db.nodeByKey key with
  | none => cases ((lookup_updateRows_eq_none tableUpdated).mpr old).symm.trans found
  | some record =>
    obtain ⟨updated, isRow, found'⟩ := lookup_updateRows tableUpdated old
    cases found'.symm.trans found
    exact ⟨record, rfl, isRow⟩

/-- An update that changes nothing but the undesirability. -/
lemma reweighed_of_updateNodes (weighs : ∀ record record', update record = .ok record' →
      ∃ undesirability, record' = withCountryUndesirability undesirability record)
    (isUpdated : updateNodes db update = .ok db') : Reweighed db db' := by
  obtain ⟨table, tableUpdated, done⟩ := ok_of_bind isUpdated
  cases done
  refine ⟨rfl, rfl, keys_updateRows tableUpdated, fun key => ?_⟩
  change (table.lookup key).map _ = (db.byPublicKey.lookup key).map _
  cases found : db.byPublicKey.lookup key with
  | none => rw [(lookup_updateRows_eq_none tableUpdated).mpr found]
  | some record =>
    obtain ⟨record', isRow, found'⟩ := lookup_updateRows tableUpdated found
    obtain ⟨undesirability, rfl⟩ := weighs record record' isRow
    rw [found']
    rfl

lemma updateNodes_returns
    (updates : ∀ key record, db.nodeByKey key = some record → ∃ record', update record = .ok record') :
    ∃ db', updateNodes db update = .ok db' := by
  obtain ⟨table, isUpdated⟩ := updateRows_ok updates
  exact ⟨_, bind_eq_ok.mpr ⟨table, isUpdated, rfl⟩⟩

end

/-! ### Requests without locations -/

section

variable {env : NodeEnvironment} {order : SetOrder} {state next : ActorState}
  {request : UiSetExitLocationRequest}

/-- What requests for exits have changed for the route search. -/
structure SameChoices (state next : ActorState) : Prop where
  fallbackPreference :
    next.userExitPreferences.fallbackPreference = state.userExitPreferences.fallbackPreference
  exitCountries : next.userExitPreferences.exitCountries = state.userExitPreferences.exitCountries
  locationsOpt : next.userExitPreferences.locationsOpt = state.userExitPreferences.locationsOpt
  undesirability : ∀ key,
    undesirabilityOf next.neighborhoodDatabase key = undesirabilityOf state.neighborhoodDatabase key

/-- No exit is preferred to another. -/
structure Blank (state : ActorState) : Prop where
  fallbackPreference : state.userExitPreferences.fallbackPreference = .nothing
  exitCountries : state.userExitPreferences.exitCountries = []
  undesirability : ∀ key record, state.neighborhoodDatabase.nodeByKey key = some record →
    record.metadata.countryUndesirability = zeroUndesirability

def clearNodes (db : NeighborhoodDatabase) : Except Panic NeighborhoodDatabase :=
  updateNodes db fun record => .ok (withCountryUndesirability zeroUndesirability record)

lemma applyPreferences_cleared (empty : request.exitLocations = [])
    (several : 1 < state.neighborhoodDatabase.keys.length)
    (applied : applyPreferences env (state.withPreferences preferences) request = .ok next) :
    ∃ db, clearNodes state.neighborhoodDatabase = .ok db ∧ next = { state with
        neighborhoodDatabase := db, userExitPreferences := { preferences with exitCountries := [] } } := by
  rw [applyPreferences, if_pos (by exact several)] at applied
  simp only [setCountryUndesirabilityAndExitCountries, empty, List.isEmpty_nil, if_true] at applied
  obtain ⟨db, isCleared, done⟩ := ok_of_bind applied
  cases done
  exact ⟨db, isCleared, rfl⟩

lemma applyPreferences_alone (alone : ¬1 < state.neighborhoodDatabase.keys.length) :
    applyPreferences env (state.withPreferences preferences) request = .ok (state.withPreferences preferences) := by
  rw [applyPreferences, if_neg (by exact alone)]

lemma reweighed_clearNodes (isCleared : clearNodes db = .ok db') : Reweighed db db' := by
  refine reweighed_of_updateNodes (fun record record' updated => ?_) isCleared
  cases updated
  exact ⟨_, rfl⟩

lemma zero_of_clearNodes (isCleared : clearNodes db = .ok db') (found : db'.nodeByKey key = some record) :
    record.metadata.countryUndesirability = zeroUndesirability := by
  obtain ⟨old, -, updated⟩ := nodeByKey_updateNodes isCleared found
  cases updated
  rfl

lemma clearNodes_of_blank (blank : Blank state) :
    clearNodes state.neighborhoodDatabase = .ok state.neighborhoodDatabase := by
  apply bind_eq_ok.mpr
  refine ⟨_, updateRows_eq_self fun key record found => ?_, rfl⟩
  rw [← blank.undesirability key record found]
  rfl

section

variable (shows : request.showCountries = true) (asks : request.exitLocations = [])
include shows asks

/-- Only the fallback preference and the countries of the database come from the request itself. -/
lemma requestedPreferences_show (preferences) :
    requestedPreferences preferences request = { preferences with fallbackPreference := .nothing } := by
  simp [requestedPreferences, shows, asks, synchronizeLocations, requestedFallbackPreference]

/-- All that a user can have chosen is taken back when the countries are shown. -/
def NothingChosen (state : ActorState) : Prop :=
  state.userExitPreferences.fallbackPreference = .nothing ∧
    (1 < state.neighborhoodDatabase.keys.length → Blank state)

variable {answer : Except (U64 × String) UiSetExitLocationResponse}
  (handled : handleExitLocationMessage env order state request = .ok (next, answer))
include handled

lemma show_eq_of_nothingChosen (nothing : NothingChosen state) :
    ∃ dbCountries, next = state.withPreferences { state.userExitPreferences with dbCountries } := by
  obtain ⟨dbCountries, -, applied⟩ := handleExitLocationMessage_eq_ok env handled
  refine ⟨dbCountries, ?_⟩
  rw [requestedPreferences_show shows asks, ← nothing.1] at applied
  by_cases several : 1 < state.neighborhoodDatabase.keys.length
  · have blank := nothing.2 several
    obtain ⟨db, isCleared, rfl⟩ := applyPreferences_cleared asks several applied
    cases (clearNodes_of_blank blank).symm.trans isCleared
    rw [ActorState.withPreferences, ← blank.exitCountries]
  · rw [applyPreferences_alone several] at applied
    exact (Except.ok.inj applied).symm

lemma sameChoices_show_iff : SameChoices state next ↔ NothingChosen state := by
  constructor
  · intro same
    obtain ⟨dbCountries, -, applied⟩ := handleExitLocationMessage_eq_ok env handled
    rw [requestedPreferences_show shows asks] at applied
    by_cases several : 1 < state.neighborhoodDatabase.keys.length
    · obtain ⟨db, isCleared, rfl⟩ := applyPreferences_cleared asks several applied
      refine ⟨same.fallbackPreference.symm, fun _ => ⟨same.fallbackPreference.symm, same.exitCountries.symm, ?_⟩⟩
      intro key record found
      have weight := same.undesirability key
      simp only [undesirabilityOf, found, Option.map_some] at weight
      obtain ⟨record', found', sameWeight⟩ := Option.map_eq_some_iff.mp weight
      rw [← sameWeight]
      exact zero_of_clearNodes isCleared found'
    · rw [applyPreferences_alone several] at applied
      cases applied
      exact ⟨same.fallbackPreference.symm, fun several' => absurd several' several⟩
  · intro nothing
    obtain ⟨dbCountries, rfl⟩ := show_eq_of_nothingChosen shows asks handled nothing
    exact ⟨rfl, rfl, rfl, fun _ => rfl⟩

end

/-! ### Requests that are answered -/

/-- The sums along the paths to the exits can be computed, as they always can in a release build. -/
def Researchable (env : NodeEnvironment) (state : ActorState) : Prop :=
  Computes env.profile (routeHood state.toRouteQueryState)
    (researchQuery state.neighborhoodDatabase.thisNode state.minHops.toNat)

lemma initDbCountries_ok
    (known : (state.neighborhoodDatabase.nodeByKey state.neighborhoodDatabase.thisNode).isSome)
    (research : Researchable env state) :
    ∃ dbCountries, initDbCountries env order state = .ok dbCountries := by
  obtain ⟨record, found⟩ := Option.isSome_iff_exists.mp known
  obtain ⟨viewed, viewedAt⟩ := nodeByKey_routeView found
  obtain ⟨dbCountries, counted, -⟩ :=
    initDbCountries_returns (Neighborhood.findExitLocations_eq research viewedAt)
  exact ⟨dbCountries, counted⟩

lemma handleExitLocationMessage_ok (counts : initDbCountries env order state = .ok dbCountries)
    (applied : applyPreferences env (state.withPreferences
      (requestedPreferences { state.userExitPreferences with dbCountries } request)) request = .ok next) :
    ∃ answer, handleExitLocationMessage env order state request = .ok (next, answer) := by
  have handled := (handleExitLocationMessage_eq env counts).trans applied
  cases acts : handleExitLocationMessage env order state request with
  | error e =>
    rw [acts] at handled
    cases handled
  | ok result =>
    rw [acts] at handled
    cases handled
    exact ⟨result.2, rfl⟩

lemma clearNodes_ok (db) : ∃ db', clearNodes db = .ok db' := updateNodes_returns fun _ _ _ => ⟨_, rfl⟩

lemma applyPreferences_ok_of_empty (empty : request.exitLocations = []) (preferences) :
    ∃ next, applyPreferences env (state.withPreferences preferences) request = .ok next := by
  by_cases several : 1 < state.neighborhoodDatabase.keys.length
  · obtain ⟨db, isCleared⟩ := clearNodes_ok state.neighborhoodDatabase
    rw [applyPreferences, if_pos (by exact several)]
    simp only [setCountryUndesirabilityAndExitCountries, empty, List.isEmpty_nil, if_true]
    exact ⟨_, bind_eq_ok.mpr ⟨db, isCleared, rfl⟩⟩
  · exact ⟨_, applyPreferences_alone several⟩

end

/-- **Asking for countries** changes nothing for the routes if and only if no exit was preferred. -/
theorem show_countries_keeps_choices_iff (env : NodeEnvironment) (order : SetOrder) (state : ActorState)
    (request : UiSetExitLocationRequest) (shows : request.showCountries = true)
    (asks : request.exitLocations = []) :
    ((state.neighborhoodDatabase.nodeByKey state.neighborhoodDatabase.thisNode).isSome →
      Researchable env state → ∃ result, handleExitLocationMessage env order state request = .ok result) ∧
    ∀ next answer, handleExitLocationMessage env order state request = .ok (next, answer) →
      (SameChoices state next ↔ NothingChosen state) ∧
      (NothingChosen state → ∀ queries, answers env.toActorEnvironment next.toRouteQueryState queries =
        answers env.toActorEnvironment state.toRouteQueryState queries) := by
  constructor
  · intro known research
    obtain ⟨dbCountries, counts⟩ := @initDbCountries_ok env order state known research
    obtain ⟨next, applied⟩ := applyPreferences_ok_of_empty asks
      (requestedPreferences { state.userExitPreferences with dbCountries } request)
    obtain ⟨answer, handled⟩ := handleExitLocationMessage_ok counts applied
    exact ⟨_, handled⟩
  · intro next answer handled
    refine ⟨sameChoices_show_iff shows asks handled, fun nothing queries => ?_⟩
    obtain ⟨dbCountries, rfl⟩ := show_eq_of_nothingChosen shows asks handled nothing
    refine answers_forget ?_ dbCountries queries
    rw [nothing.1]
    decide

def showRequest : UiSetExitLocationRequest := ⟨false, [], true⟩

lemma blank_twoCountries (minHops) : Blank (researchState twoCountries minHops) := by
  refine ⟨rfl, rfl, fun key record found => ?_⟩
  have listed := AList.mem_lookup_iff.mp found
  have weights : ∀ entry ∈ twoCountries.byPublicKey.entries,
      entry.2.metadata.countryUndesirability = zeroUndesirability := by decide
  exact weights ⟨key, record⟩ listed

theorem show_keeps_blank_choices : ∃ next answer,
    handleExitLocationMessage exitEnvironment Neighborhood.listedOrder (researchState twoCountries .oneHop)
      showRequest = .ok (next, answer) ∧ SameChoices (researchState twoCountries .oneHop) next := by
  refine ⟨_, _, rfl, ?_⟩
  have kept := (show_countries_keeps_choices_iff exitEnvironment Neighborhood.listedOrder
    (researchState twoCountries .oneHop) showRequest rfl rfl).2 _ _ rfl
  exact kept.1.mpr ⟨rfl, fun _ => blank_twoCountries .oneHop⟩

/-- The user has restricted the exits to one country, asks what countries there are, and gets routes to
any country from then on. -/
theorem show_lifts_restriction : ∃ chosen chosenAnswer shown shownAnswer before after,
    handleExitLocationMessage exitEnvironment Neighborhood.listedOrder (researchState twoCountries .oneHop)
      (strictRequest "DE") = .ok (chosen, chosenAnswer) ∧
    handleExitLocationMessage exitEnvironment Neighborhood.listedOrder chosen showRequest =
      .ok (shown, shownAnswer) ∧
    chosen.userExitPreferences.fallbackPreference = .exitCountryNoFallback ∧
    shown.userExitPreferences.fallbackPreference = .nothing ∧
    answers exitEnvironment.toActorEnvironment chosen.toRouteQueryState
      [(fun _ => Neighborhood.listedOrder, sampleRequest)] = .ok [some before] ∧
    (∃ wallet rates, before.overServices.getLast? = some (.exit (sampleKey 3) wallet rates)) ∧
    answers exitEnvironment.toActorEnvironment shown.toRouteQueryState
      [(fun _ => Neighborhood.listedOrder, sampleRequest)] = .ok [some after] ∧
    ∃ wallet rates, after.overServices.getLast? = some (.exit (sampleKey 2) wallet rates) := by
  refine ⟨_, _, _, _, _, _, rfl, rfl, rfl, rfl, rfl, ⟨_, _, rfl⟩, rfl, _, _, rfl⟩

end PulseMesh.NeighborhoodActor
