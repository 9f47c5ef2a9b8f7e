import PulseMesh.SubLib.Cryptde

/-!
# The route search

The neighborhood database is a directed graph of Node records; a link counts when both ends list
each other.  The routing engine extends a path Node by Node, handing the least undesirability found
so far from branch to branch.  The same engine, in research mode, collects the Nodes that could be
exits.  Log lines are left out.
-/

namespace PulseMesh.Neighborhood

open Machine SubLib

structure RatePack where
  routingByteRate : U64
  routingServiceRate : U64
  exitByteRate : U64
  exitServiceRate : U64
deriving DecidableEq

structure NodeRecord where
  publicKey : PublicKey
  ratePack : RatePack
  neighbors : List PublicKey
  neighbors_nodup : neighbors.Nodup
  routesData : Bool
  countryCodeOpt : Option String
  unreachableHosts : List String
  countryUndesirability : U32

structure NeighborhoodDatabase where
  nodes : List NodeRecord
  keys_nodup : (nodes.map NodeRecord.publicKey).Nodup

inductive FallbackPreference where
  | nothing
  | exitCountryWithFallback
  | exitCountryNoFallback
deriving DecidableEq

structure UserExitPreferences where
  exitCountries : List String
  fallbackPreference : FallbackPreference
  dbCountries : List String

/-- What the actor's route search reads. -/
structure NeighborhoodState where
  neighborhoodDatabase : NeighborhoodDatabase
  userExitPreferences : UserExitPreferences

inductive RouteDirection where
  | over
  | back
deriving DecidableEq

inductive UndesirabilityType where
  | relay
  | exitRequest (hostnameOpt : Option String)
  | exitAndRouteResponse

structure ComputedRouteSegment where
  nodes : List PublicKey
  undesirability : I64

/-- Hash sets come in any order, a new one every time; the path so far tells the times apart. -/
structure SetOrder where
  arrange : List PublicKey → List PublicKey → List PublicKey
  perm : ∀ path keys, (arrange path keys).Perm keys

def listedOrder : SetOrder := ⟨fun _ keys => keys, fun _ _ => .refl _⟩

/-! ### Charges -/

section

variable (p : Profile)

def RatePack.routingCharge (ratePack : RatePack) (payloadSize : U64) : Except Panic U64 := do
  let byteCharge ← ratePack.routingByteRate.mul p payloadSize
  ratePack.routingServiceRate.add p byteCharge

def RatePack.exitCharge (ratePack : RatePack) (payloadSize : U64) : Except Panic U64 := do
  let byteCharge ← ratePack.exitByteRate.mul p payloadSize
  ratePack.exitServiceRate.add p byteCharge

def unreachableHostPenalty : I64 := ⟨100000000, by decide⟩

def computeUndesirability (nodeRecord : NodeRecord) (payloadSize : U64) :
    UndesirabilityType → Except Panic I64
  | .relay => do
    let routing ← nodeRecord.ratePack.routingCharge p payloadSize
    return routing.cast i64
  | .exitRequest none => do
    let exit ← nodeRecord.ratePack.exitCharge p payloadSize
    (exit.cast i64).add p (nodeRecord.countryUndesirability.cast i64)
  | .exitRequest (some hostname) => do
    let exit ← nodeRecord.ratePack.exitCharge p payloadSize
    -- the country counts on top of the penalty
    let penalty := if hostname ∈ nodeRecord.unreachableHosts then unreachableHostPenalty else ⟨0, i64_zero⟩
    let penalized ← (exit.cast i64).add p penalty
    penalized.add p (nodeRecord.countryUndesirability.cast i64)
  | .exitAndRouteResponse => do
    let exit ← nodeRecord.ratePack.exitCharge p payloadSize
    let routing ← nodeRecord.ratePack.routingCharge p payloadSize
    (exit.cast i64).add p (routing.cast i64)

/-- Every Node from the last of the minimum hops on is charged as an exit when there is no target. -/
def newUndesirabilityType (direction : RouteDirection) (targetOpt : Option PublicKey)
    (hopsRemaining : Nat) (hostnameOpt : Option String) : UndesirabilityType :=
  match direction, targetOpt with
  | .over, none => if hopsRemaining = 0 then .exitRequest hostnameOpt else .relay
  | .over, some _ => .relay
  | .back, _ => .relay

def computeNewUndesirability (nodeRecord : NodeRecord) (undesirability : I64)
    (targetOpt : Option PublicKey) (hopsRemaining : Nat) (payloadSize : U64)
    (direction : RouteDirection) (hostnameOpt : Option String) : Except Panic I64 := do
  let nodeUndesirability ← computeUndesirability p nodeRecord payloadSize
    (newUndesirabilityType direction targetOpt hopsRemaining hostnameOpt)
  undesirability.add p nodeUndesirability

end

/-! ### The database -/

namespace NeighborhoodDatabase

def nodeByKey (db : NeighborhoodDatabase) (key : PublicKey) : Option NodeRecord :=
  db.nodes.find? fun record => decide (record.publicKey = key)

def hasHalfNeighbor (db : NeighborhoodDatabase) (source target : PublicKey) : Bool :=
  match db.nodeByKey source with
  | some record => decide (target ∈ record.neighbors)
  | none => false

end NeighborhoodDatabase

def NodeRecord.fullNeighborKeys (db : NeighborhoodDatabase) (record : NodeRecord) : List PublicKey :=
  record.neighbors.filter fun key =>
    match db.nodeByKey key with
    | some neighbor => decide (record.publicKey ∈ neighbor.neighbors)
    | none => false

/-- The keys were found in the database a moment ago, so that none of them has disappeared. -/
def NodeRecord.fullNeighbors (db : NeighborhoodDatabase) (arrange : List PublicKey → List PublicKey)
    (record : NodeRecord) : List NodeRecord :=
  (arrange (record.fullNeighborKeys db)).filterMap db.nodeByKey

/-! ### What qualifies a route -/

section

variable (hood : NeighborhoodState)

def routeLengthQualifies (hopsRemaining : Nat) : Bool := hopsRemaining == 0

def lastKeyQualifies (lastNode : NodeRecord) (targetOpt : Option PublicKey) : Bool :=
  match targetOpt with
  | some target => decide (lastNode.publicKey = target)
  | none => true

def validateLastNodeNotTooCloseToFirstNode (pathLen : Nat) (firstNodeKey candidateNodeKey : PublicKey) :
    Bool :=
  if pathLen ≤ 2 then
    true
  else
    !hood.neighborhoodDatabase.hasHalfNeighbor candidateNodeKey firstNodeKey

def validateCountryCodeWhenFallbackRouting (lastNode : PublicKey) : Bool :=
  -- "ZZ" stands for a country that is not known
  let lastCc := match hood.neighborhoodDatabase.nodeByKey lastNode with
    | some record => record.countryCodeOpt.getD "ZZ"
    | none => "ZZ"
  let countries := hood.userExitPreferences.exitCountries
  decide (lastCc ∈ countries) || countries.isEmpty ||
    !countries.any fun country =>
      decide (country ∈ hood.userExitPreferences.dbCountries) && decide (country ≠ lastCc)

variable (lastNodeKey : PublicKey)

def isFallbackAndLastNodeQualifies : Bool :=
  decide (hood.userExitPreferences.fallbackPreference = .exitCountryWithFallback) &&
    validateCountryCodeWhenFallbackRouting hood lastNodeKey

def lastNodeIsAlwaysTrue (researchNeighborhood : Bool) (direction : RouteDirection) : Bool :=
  decide (hood.userExitPreferences.fallbackPreference = .nothing) ||
    isFallbackAndLastNodeQualifies hood lastNodeKey || researchNeighborhood ||
    decide (direction = .back)

def validateLastNodeCountryCode (researchNeighborhood : Bool) (direction : RouteDirection) : Bool :=
  -- only the way over is particular about countries
  if lastNodeIsAlwaysTrue hood lastNodeKey researchNeighborhood direction then
    true
  else
    match hood.neighborhoodDatabase.nodeByKey lastNodeKey with
    | some record =>
      match record.countryCodeOpt with
      | some countryCode => decide (countryCode ∈ hood.userExitPreferences.exitCountries)
      | none => false
    | none => false

def isOrigNodeOnBackLeg (node : NodeRecord) (targetOpt : Option PublicKey)
    (direction : RouteDirection) : Bool :=
  match direction, targetOpt with
  | .over, _ => false
  | .back, none => false
  | .back, some target => decide (node.publicKey = target)

end

/-! ### The engine -/

/-- What stays the same during a search. -/
structure SearchQuery where
  targetOpt : Option PublicKey
  payloadSize : U64
  direction : RouteDirection
  hostnameOpt : Option String
  researchNeighborhood : Bool

/-- What the branches of a search share. -/
structure SearchState where
  minimumUndesirability : I64
  researchExits : List PublicKey

abbrev SearchResult := Except Panic (List ComputedRouteSegment × SearchState)

/-- The branches one after the other, each with the state its predecessors have left. -/
def flatMapNeighbors (visit : NodeRecord → SearchState → SearchResult) :
    List NodeRecord → SearchState → SearchResult
  | [], state => .ok ([], state)
  | record :: records, state => do
    let (segments, state) ← visit record state
    let (others, state) ← flatMapNeighbors visit records state
    return (segments ++ others, state)

section

variable (p : Profile) (hood : NeighborhoodState) (order : SetOrder) (query : SearchQuery)

/-- The Nodes a path can be extended with. -/
def nextNodes (path : List PublicKey) (previousNode : NodeRecord) : List NodeRecord :=
  ((previousNode.fullNeighbors hood.neighborhoodDatabase (order.arrange path)).filter
    fun record => decide (record.publicKey ∉ path)).filter
      fun record => record.routesData ||
        isOrigNodeOnBackLeg record query.targetOpt query.direction

def routingGuts (routingEngine : List PublicKey → I64 → Nat → SearchState → SearchResult)
    (path : List PublicKey) (undesirability : I64) (hopsRemaining : Nat) (previousNode : NodeRecord) :
    SearchState → SearchResult :=
  flatMapNeighbors
    (fun record state => do
      -- a subtraction that stays at zero in the source as well
      let newHopsRemaining := hopsRemaining - 1
      let newUndesirability ← computeNewUndesirability p record undesirability query.targetOpt
        newHopsRemaining query.payloadSize query.direction query.hostnameOpt
      routingEngine (path ++ [record.publicKey]) newUndesirability newHopsRemaining state)
    (nextNodes hood order query path previousNode)

/-- The three qualifications of a path that ends at `lastNode`. -/
def isDone (path : List PublicKey) (hopsRemaining : Nat) (firstNodeKey : PublicKey)
    (lastNode : NodeRecord) : Bool :=
  routeLengthQualifies hopsRemaining && lastKeyQualifies lastNode query.targetOpt &&
    validateLastNodeNotTooCloseToFirstNode hood path.length firstNodeKey lastNode.publicKey

/-- A search without target and exit countries goes no further than the minimum hops. -/
def isPastMinimum (hopsRemaining : Nat) : Bool :=
  decide (hopsRemaining = 0) && query.targetOpt.isNone && !query.researchNeighborhood &&
    (decide (hood.userExitPreferences.fallbackPreference = .nothing) ||
      hood.userExitPreferences.exitCountries.isEmpty)

/-- The fuel bounds the length of the path, which never visits a Node twice. -/
def routingEngine : Nat → List PublicKey → I64 → Nat → SearchState → SearchResult
  | 0, _, _, _, _ => .error (.raised "Out of fuel")
  | fuel + 1, path, undesirability, hopsRemaining, state =>
    -- as good as the best so far is still good enough
    if decide (undesirability.val > state.minimumUndesirability.val) && !query.researchNeighborhood then
      .ok ([], state)
    else
      match path.head?, path.getLast? with
      | some firstNodeKey, some lastKey =>
        match hood.neighborhoodDatabase.nodeByKey lastKey with
        | none => .error (.raised "Last Node magically disappeared")
        | some previousNode =>
          let continue_ := routingGuts p hood order query (routingEngine fuel) path undesirability
            hopsRemaining previousNode
          if isDone hood query path hopsRemaining firstNodeKey previousNode then
            -- a path that qualifies ends here, however much further it could go
            if !query.researchNeighborhood && validateLastNodeCountryCode hood previousNode.publicKey
                query.researchNeighborhood query.direction then
              let minimumUndesirability :=
                if undesirability.val < state.minimumUndesirability.val then undesirability
                else state.minimumUndesirability
              .ok ([⟨path, undesirability⟩], { state with minimumUndesirability })
            else if query.researchNeighborhood && decide (lastKey ∈ state.researchExits) then
              .ok ([], state)
            else if query.researchNeighborhood then
              continue_ { state with researchExits := state.researchExits ++ [lastKey] }
            else
              continue_ state
          else if isPastMinimum hood query hopsRemaining then
            .ok ([], state)
          else
            continue_ state
      | _, _ => .error (.raised "Empty prefix")

end

section

variable (p : Profile) (hood : NeighborhoodState) (order : SetOrder)

def computeInitialUndesirability (publicKey : PublicKey) (payloadSize : U64)
    (direction : RouteDirection) : Except Panic I64 :=
  match direction with
  | .over => .ok ⟨0, i64_zero⟩
  | .back =>
    match hood.neighborhoodDatabase.nodeByKey publicKey with
    | none => .error (.raised "Exit node disappeared")
    | some record => computeUndesirability p record payloadSize .exitAndRouteResponse

def i64Max : I64 := ⟨2 ^ 63 - 1, by decide⟩

def payloadZeroSize : U64 := ⟨0, u64_zero⟩

def findBestRouteSegment (source : PublicKey) (targetOpt : Option PublicKey) (minimumHops : Nat)
    (payloadSize : U64) (direction : RouteDirection) (hostnameOpt : Option String) :
    Except Panic (Option (List PublicKey)) := do
  let initialUndesirability ← computeInitialUndesirability p hood source payloadSize direction
  let (segments, state) ← routingEngine p hood order
    ⟨targetOpt, payloadSize, direction, hostnameOpt, false⟩
    hood.neighborhoodDatabase.nodes.length [source] initialUndesirability minimumHops ⟨i64Max, []⟩
  -- the first of the best ones in the order of the search
  return (segments.find? fun segment =>
    decide (segment.undesirability.val ≤ state.minimumUndesirability.val)).map
      ComputedRouteSegment.nodes

def findExitLocations (source : PublicKey) (minimumHops : Nat) : Except Panic (List PublicKey) := do
  let (_, state) ← routingEngine p hood order ⟨none, payloadZeroSize, .over, none, true⟩
    hood.neighborhoodDatabase.nodes.length [source] ⟨0, i64_zero⟩ minimumHops ⟨i64Max, []⟩
  return state.researchExits

end

end PulseMesh.Neighborhood
