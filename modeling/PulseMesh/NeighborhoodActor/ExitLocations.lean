import PulseMesh.NeighborhoodActor.Actor

/-!
# Exit locations and configuration changes

The user interface can restrict the exits to some countries, ordered by priority, and ask which countries
there are.  One handler serves both.  The countries that the route search accepts are kept apart from the
locations of the request and are brought in line with the database one code at a time; codes of earlier
requests are not removed.

A change of the minimum hops brings the countries in line again and looks for a route.  What is only
logged is left out.
-/

namespace PulseMesh.NeighborhoodActor

open Machine SubLib Gossip
open Neighborhood (SetOrder FallbackPreference)

structure UiSetExitLocationRequest where
  fallbackRouting : Bool
  exitLocations : List ExitLocation
  showCountries : Bool

structure UiSetExitLocationResponse where
  fallbackRouting : Bool
  exitCountrySelection : List ExitLocation
  exitCountries : Option (List String)
  missingCountries : List String

/-- The prefix of the errors between the user interface and the Node is the highest bit. -/
def exitCountryMissingCountriesError : U64 := ⟨2 ^ 63 + 8, by decide⟩

def zeroUndesirability : U32 := ⟨0, u32_zero⟩

/-! ### Exit countries -/

variable (preferences : ExitPreferences)

def codeInDbCountriesOrFallbackActive (code : String) : Bool :=
  decide (code ∈ preferences.dbCountries) ||
    decide (preferences.fallbackPreference = .exitCountryWithFallback)

def fallbackActiveAndCodeMissingInDbCountries (code : String) : Bool :=
  decide (preferences.fallbackPreference = .exitCountryWithFallback) &&
    !decide (code ∈ preferences.dbCountries)

/-- The countries that are accepted after one code, and the code if it is missing. -/
def synchronizeExitCountry (code : String) : List String × List String :=
  let exitCountries := preferences.exitCountries
  if codeInDbCountriesOrFallbackActive preferences code then
    (if code ∈ exitCountries then exitCountries else exitCountries ++ [code],
      if fallbackActiveAndCodeMissingInDbCountries preferences code then [code] else [])
  else
    (exitCountries.erase code, [code])

variable {preferences}

def synchronizeExitCountriesAndReturnMissing :
    ExitPreferences → List String → ExitPreferences × List String
  | preferences, [] => (preferences, [])
  | preferences, code :: codes =>
    let (exitCountries, missing) := synchronizeExitCountry preferences code
    let (preferences, others) := synchronizeExitCountriesAndReturnMissing { preferences with exitCountries } codes
    (preferences, missing ++ others)

/-- Location by location; the preference for a fallback is still the one of the last request. -/
def synchronizeLocations : ExitPreferences → List ExitLocation → ExitPreferences × List String
  | preferences, [] => (preferences, [])
  | preferences, exitLocation :: exitLocations =>
    let (preferences, missing) :=
      synchronizeExitCountriesAndReturnMissing preferences exitLocation.countryCodes
    let (preferences, others) := synchronizeLocations preferences exitLocations
    (preferences, missing ++ others)

section

lemma mem_synchronizeExitCountry (accepted : country ∈ (synchronizeExitCountry preferences code).1) :
    country ∈ preferences.exitCountries ∨ country = code := by
  unfold synchronizeExitCountry at accepted
  split at accepted
  · dsimp only at accepted
    split at accepted
    · exact .inl accepted
    · simpa using accepted
  · exact .inl (List.mem_of_mem_erase accepted)

/-- Nothing but the exit countries is changed, and only countries of the request are new. -/
lemma synchronizeExitCountries_spec (preferences codes) :
    ∃ exitCountries, (synchronizeExitCountriesAndReturnMissing preferences codes).1 =
        { preferences with exitCountries } ∧
      ∀ country ∈ exitCountries, country ∈ preferences.exitCountries ∨ country ∈ codes := by
  induction codes generalizing preferences with
  | nil => exact ⟨_, rfl, fun country accepted => .inl accepted⟩
  | cons code codes ih =>
    obtain ⟨exitCountries, changed, new⟩ :=
      ih { preferences with exitCountries := (synchronizeExitCountry preferences code).1 }
    refine ⟨exitCountries, changed, fun country accepted => ?_⟩
    rcases new country accepted with earlier | later
    · exact (mem_synchronizeExitCountry earlier).imp_right (by rintro rfl; exact .head _)
    · exact .inr (.tail _ later)

lemma synchronizeLocations_spec (preferences exitLocations) :
    ∃ exitCountries, (synchronizeLocations preferences exitLocations).1 = { preferences with exitCountries } ∧
      ∀ country ∈ exitCountries,
        country ∈ preferences.exitCountries ∨ country ∈ exitLocations.flatMap ExitLocation.countryCodes := by
  induction exitLocations generalizing preferences with
  | nil => exact ⟨_, rfl, fun country accepted => .inl accepted⟩
  | cons exitLocation exitLocations ih =>
    obtain ⟨middle, changedFirst, newFirst⟩ :=
      synchronizeExitCountries_spec preferences exitLocation.countryCodes
    obtain ⟨exitCountries, changed, new⟩ := ih { preferences with exitCountries := middle }
    refine ⟨exitCountries, ?_, fun country accepted => ?_⟩
    · simp only [synchronizeLocations, changedFirst]
      exact changed
    · rw [List.flatMap_cons, List.mem_append]
      rcases new country accepted with earlier | later
      · exact (newFirst country earlier).imp_right .inl
      · exact .inr (.inr later)

end

def requestedFallbackPreference (request : UiSetExitLocationRequest) : FallbackPreference :=
  if request.exitLocations.isEmpty then
    .nothing
  else if request.fallbackRouting then
    .exitCountryWithFallback
  else
    .exitCountryNoFallback

variable (preferences : ExitPreferences)

/-- A strict request for countries that are all missing is not kept. -/
def setExitLocationsOpt (exitLocationsByPriority : List ExitLocation) : ExitPreferences :=
  if preferences.exitCountries.isEmpty &&
      decide (preferences.fallbackPreference = .exitCountryNoFallback) then
    { preferences with locationsOpt := none }
  else
    { preferences with locationsOpt := some exitLocationsByPriority }

/-! ### The answer -/

def isFallbackRoutingActive : Bool :=
  match preferences.fallbackPreference with
  | .nothing => true
  | .exitCountryWithFallback => true
  | .exitCountryNoFallback => false

def errorMessageIndicates (missingCountries : List String) : Bool :=
  let desiredCountries := (preferences.locationsOpt.getD []).flatMap ExitLocation.countryCodes
  if desiredCountries.isEmpty && missingCountries.isEmpty then
    false
  else
    decide (missingCountries.insertionSort (· ≤ ·) = desiredCountries.insertionSort (· ≤ ·))

def createExitLocationResponse (missingCountries : List String)
    (showCountriesFlag : Bool) : Except (U64 × String) UiSetExitLocationResponse :=
  if errorMessageIndicates preferences missingCountries then
    .error (exitCountryMissingCountriesError, ", ".intercalate missingCountries)
  else
    .ok {
      fallbackRouting := isFallbackRoutingActive preferences
      exitCountrySelection := preferences.locationsOpt.getD []
      exitCountries := if showCountriesFlag then some preferences.dbCountries else none
      -- sorted in place by the comparison
      missingCountries := missingCountries.insertionSort (· ≤ ·) }

variable {preferences}

/-! ### The handlers -/

/-- All records of the database, each in its place. -/
def updateNodes (db : NeighborhoodDatabase) (update : NodeRecord → Except Panic NodeRecord) :
    Except Panic NeighborhoodDatabase := do
  let byPublicKey ← updateRows update db.byPublicKey
  return { db with byPublicKey }

def withCountryUndesirability (undesirability : U32) (record : NodeRecord) : NodeRecord :=
  { record with metadata := { record.metadata with countryUndesirability := undesirability } }

section

variable (env : NodeEnvironment) {order : SetOrder}

def setCountryUndesirabilityAndExitCountries (state : ActorState)
    (exitLocationsByPriority : List ExitLocation) : Except Panic ActorState := do
  let preferences := state.userExitPreferences
  if exitLocationsByPriority.isEmpty then
    let neighborhoodDatabase ← updateNodes state.neighborhoodDatabase fun record =>
      .ok (withCountryUndesirability zeroUndesirability record)
    return { state with
      neighborhoodDatabase
      userExitPreferences := { preferences with exitCountries := [] } }
  else
    let neighborhoodDatabase ← updateNodes state.neighborhoodDatabase
      (preferences.assignNodesCountryUndesirability env.profile)
    return { state with neighborhoodDatabase }

def extractExitLocationsFromMessage (order : SetOrder) (state : ActorState)
    (request : UiSetExitLocationRequest) : Except Panic (ActorState × List String) := do
  let state ← withDbCountries env order state
  let (userExitPreferences, missingCountries) :=
    synchronizeLocations state.userExitPreferences request.exitLocations
  return ({ state with userExitPreferences }, missingCountries)

def handleExitLocationMessage (order : SetOrder) (state : ActorState) (request : UiSetExitLocationRequest) :
    Except Panic (ActorState × Except (U64 × String) UiSetExitLocationResponse) := do
  let (state, missingCountries) ← extractExitLocationsFromMessage env order state request
  let preferences :=
    { state.userExitPreferences with fallbackPreference := requestedFallbackPreference request }
  let preferences :=
    if request.showCountries then preferences else setExitLocationsOpt preferences request.exitLocations
  let state := { state with userExitPreferences := preferences }
  -- without other Nodes there is nothing to prefer
  let state ←
    if 1 < state.neighborhoodDatabase.keys.length then
      setCountryUndesirabilityAndExitCountries env state request.exitLocations
    else
      pure state
  return (state, createExitLocationResponse state.userExitPreferences missingCountries request.showCountries)

/-! #### A request in two steps -/

def ActorState.withPreferences (state : ActorState) (userExitPreferences : ExitPreferences) : ActorState :=
  { state with userExitPreferences }

/-- The preferences that a request leads to, with the countries of the database up to date. -/
def requestedPreferences (preferences : ExitPreferences) (request : UiSetExitLocationRequest) :
    ExitPreferences :=
  let preferences := { (synchronizeLocations preferences request.exitLocations).1 with
    fallbackPreference := requestedFallbackPreference request }
  if request.showCountries then preferences else setExitLocationsOpt preferences request.exitLocations

/-- The Nodes are gone through when there are any. -/
def applyPreferences (state : ActorState) (request : UiSetExitLocationRequest) : Except Panic ActorState :=
  if 1 < state.neighborhoodDatabase.keys.length then
    setCountryUndesirabilityAndExitCountries env state request.exitLocations
  else
    .ok state

/-- A request comes down to new preferences, which the Nodes are then weighed by. -/
lemma handleExitLocationMessage_eq (counts : initDbCountries env order state = .ok dbCountries) :
    Prod.fst <$> handleExitLocationMessage env order state request =
      applyPreferences env (state.withPreferences
        (requestedPreferences { state.userExitPreferences with dbCountries } request)) request := by
  have answered {σ ρ : Type} (acts : Except Panic σ) (answer : σ → ρ) :
      Prod.fst <$> (acts >>= fun state => .ok (state, answer state)) = acts := by
    cases acts <;> rfl
  unfold handleExitLocationMessage extractExitLocationsFromMessage withDbCountries applyPreferences
  rw [counts]
  by_cases many : 1 < state.neighborhoodDatabase.keys.length
  · change Prod.fst <$> (if 1 < state.neighborhoodDatabase.keys.length then _ else _) =
      if 1 < state.neighborhoodDatabase.keys.length then _ else _
    rw [if_pos many, if_pos many]
    exact answered _ _
  · change Prod.fst <$> (if 1 < state.neighborhoodDatabase.keys.length then _ else _) =
      if 1 < state.neighborhoodDatabase.keys.length then _ else _
    rw [if_neg many, if_neg many]
    rfl

lemma handleExitLocationMessage_eq_ok {state next request response}
    (handled : handleExitLocationMessage env order state request = .ok (next, response)) :
    ∃ dbCountries, initDbCountries env order state = .ok dbCountries ∧
      applyPreferences env (state.withPreferences
        (requestedPreferences { state.userExitPreferences with dbCountries } request)) request = .ok next := by
  obtain ⟨extracted, extracts, -⟩ := ok_of_bind (id handled)
  obtain ⟨counted, counts, -⟩ := ok_of_bind extracts
  obtain ⟨dbCountries, counts, -⟩ := ok_of_bind counts
  refine ⟨dbCountries, counts, ?_⟩
  rw [← handleExitLocationMessage_eq env counts, handled]
  rfl

section

lemma requestedPreferences_toUserExitPreferences :
    (requestedPreferences preferences request).toUserExitPreferences =
      { (synchronizeLocations preferences request.exitLocations).1.toUserExitPreferences with
        fallbackPreference := requestedFallbackPreference request } := by
  unfold requestedPreferences
  dsimp only
  split
  · rfl
  · unfold setExitLocationsOpt
    split <;> rfl

lemma requestedPreferences_fallbackPreference :
    (requestedPreferences preferences request).fallbackPreference = requestedFallbackPreference request := by
  rw [requestedPreferences_toUserExitPreferences]

/-- A request that is not for show replaces the locations or drops them. -/
lemma mem_locationsOpt_requestedPreferences (setting : request.showCountries = false)
    (kept : exitLocations ∈ (requestedPreferences preferences request).locationsOpt) :
    exitLocations = request.exitLocations := by
  unfold requestedPreferences setExitLocationsOpt at kept
  rw [setting] at kept
  dsimp only at kept
  split at kept
  · next bad => cases bad
  · split at kept
    · cases kept
    · exact (Option.mem_some_iff.mp kept).symm

end

/-! ### Configuration changes -/

/-- The earning wallet of a pair is not used here. -/
inductive ConfigChange where
  | updateMinHops (newMinHops : Hops)
  | updatePassword (newPassword : String)
  | updateWallets (consumingWallet : Wallet)

variable (state : ActorState)

def setMinHopsAndPatchSize (newMinHops : Hops) : ActorState :=
  { state with minHops := newMinHops, dbPatchSize := calculateDbPatchSize newMinHops }

/-- The locations of the last request, if they were kept, with the countries that are there now. -/
def renewExitLocations : Except Panic ActorState :=
  match state.userExitPreferences.locationsOpt with
  | none => .ok state
  | some exitLocationsByPriority =>
    let (userExitPreferences, _) := synchronizeLocations state.userExitPreferences exitLocationsByPriority
    setCountryUndesirabilityAndExitCountries env { state with userExitPreferences } exitLocationsByPriority

def handleConfigChangeMsg (orders : Orders) (state : ActorState) : ConfigChange → Except Panic ActorState
  | .updateWallets consumingWallet => .ok { state with consumingWalletOpt := some consumingWallet }
  | .updateMinHops newMinHops => do
    let state := setMinHopsAndPatchSize state newMinHops
    let status := state.overallConnectionStatus
    let state :=
      if status.canMakeRoutes then
        { state with overallConnectionStatus := { status with stage := .connectedToNeighbor } }
      else
        state
    let state ← withDbCountries env orders.exits state
    let state ← renewExitLocations env state
    searchForANewRoute env orders state
  | .updatePassword newPassword => .ok { state with dbPasswordOpt := some newPassword }

/-! ### One event after the other -/

inductive ActorEvent where
  | delivered (delivery : Delivery)
  | exitLocation (orders : Orders) (request : UiSetExitLocationRequest)
  | configChange (orders : Orders) (change : ConfigChange)

def handleEvent : ActorEvent → Except Panic ActorState
  | .delivered delivery => handle env state delivery
  | .exitLocation orders request => do
    let (state, _) ← handleExitLocationMessage env orders.exits state request
    return state
  | .configChange orders change => handleConfigChangeMsg env orders state change

end

end PulseMesh.NeighborhoodActor
