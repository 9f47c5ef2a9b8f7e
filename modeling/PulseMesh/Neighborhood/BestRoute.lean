import PulseMesh.Neighborhood.QualifyingPaths

/-!
# The best route
-/

namespace PulseMesh.Neighborhood

open Machine SubLib BoundedSearch List

/-! ### The engine does the bounded search -/

section

variable {p : Profile} {hood : NeighborhoodState} {order : SetOrder} {query : RouteQuery}

/-- The engine has found the same paths, with their undesirabilities, and left the same bound. -/
def Simulates (p : Profile) (hood : NeighborhoodState) (query : RouteQuery) (engine : SearchResult)
    (searched : List (List PublicKey) × Int) : Prop :=
  ∃ segments state, engine = .ok (segments, state) ∧
    segments.map ComputedRouteSegment.nodes = searched.1 ∧
    (∀ segment ∈ segments,
      segment.undesirability.val = pathUndesirability p hood query segment.nodes) ∧
    state.minimumUndesirability.val = searched.2

lemma simulates_nothing (state) :
    Simulates p hood query (.ok ([], state)) ([], state.minimumUndesirability.val) :=
  ⟨[], state, rfl, rfl, by simp, rfl⟩

variable {path : List PublicKey}

lemma flatMapNeighbors_simulates
    (visits : ∀ record ∈ records, ∀ state, Simulates p hood query (visit record state)
      (searchPath (path ++ [record.publicKey]) state.minimumUndesirability.val)) (state) :
    Simulates p hood query (flatMapNeighbors visit records state)
      (visitAll searchPath (records.map fun record => path ++ [record.publicKey])
        state.minimumUndesirability.val) := by
  induction records generalizing state with
  | nil => exact simulates_nothing state
  | cons record records ih =>
    rw [forall_mem_cons] at visits
    obtain ⟨segments, middle, visited, nodes, costs, bound⟩ := visits.1 state
    obtain ⟨others, final, visitedOthers, otherNodes, otherCosts, finalBound⟩ := ih visits.2 middle
    rw [bound] at otherNodes finalBound
    refine ⟨segments ++ others, final, ?_, ?_, ?_, finalBound⟩
    · simp [flatMapNeighbors, visited, visitedOthers]
    · rw [map_append, nodes, otherNodes]
      rfl
    · exact forall_mem_append.mpr ⟨costs, otherCosts⟩

/-- One hop more: the sum is computed and does not overflow. -/
lemma computeNewUndesirability_ok (computable : Computable p hood query) (nonempty : path ≠ [])
    (found : hood.neighborhoodDatabase.nodeByKey record.publicKey = some record)
    (extended : SimplePath hood query (path ++ [record.publicKey]))
    (costs : undesirability.val = pathUndesirability p hood query path) :
    ∃ total, computeNewUndesirability p record undesirability query.targetOpt
        (query.minimumHops - hops path - 1) query.payloadSize query.direction query.hostnameOpt = .ok total ∧
      total.val = pathUndesirability p hood query (path ++ [record.publicKey]) := by
  obtain ⟨added, computed, addedNonneg⟩ := computable.nodes record (nodeByKey_eq_some found).1
    (query.minimumHops - hops path - 1)
  have addedIs : nodeUndesirability p hood query (query.minimumHops - hops path - 1)
      record.publicKey = added.val := by
    simp only [nodeUndesirability, found, computed]
  have sum := computable.sums _ extended
  have nonneg := pathUndesirability_nonneg computable path
  rw [pathUndesirability_snoc nonempty, ← costs] at sum
  have fits : i64.Holds (undesirability.val + added.val) := (i64_holds _).mpr (by omega)
  refine ⟨⟨undesirability.val + added.val, fits⟩, ?_, ?_⟩
  · rw [computeNewUndesirability, computed]
    exact arith_ok p fits
  · rw [pathUndesirability_snoc nonempty, addedIs, ← costs]

/-- The engine outside of research, in the words of the tree of paths. -/
lemma routingEngine_eq (simple : SimplePath hood query path) (last : lastNodeOf hood path = some lastNode)
    (state) :
    routingEngine p hood order query.toSearchQuery (fuel + 1) path undesirability
        (query.minimumHops - hops path) state =
      if state.minimumUndesirability.val < undesirability.val then
        .ok ([], state)
      else if pathIsLeaf hood query path then
        .ok ([⟨path, undesirability⟩], { state with
          minimumUndesirability :=
            if undesirability.val < state.minimumUndesirability.val then undesirability
            else state.minimumUndesirability })
      else if !pathIsDone hood query path lastNode &&
          isPastMinimum hood query.toSearchQuery (query.minimumHops - hops path) then
        .ok ([], state)
      else
        routingGuts p hood order query.toSearchQuery
          (routingEngine p hood order query.toSearchQuery fuel) path undesirability
          (query.minimumHops - hops path) lastNode state := by
  obtain ⟨lastIs, found⟩ := lastNodeOf_eq_some.mp last
  have research : query.toSearchQuery.researchNeighborhood = false := rfl
  have direction : query.toSearchQuery.direction = query.direction := rfl
  have done : isDone hood query.toSearchQuery path (query.minimumHops - hops path) query.source lastNode
      = pathIsDone hood query path lastNode := rfl
  simp only [routingEngine, simple.starts, lastIs, found, research, direction, done, pathIsLeaf, last,
    Bool.not_false, Bool.and_true, Bool.true_and, Bool.false_and, decide_eq_true_iff, gt_iff_lt]
  cases pathIsDone hood query path lastNode <;>
    cases validateLastNodeCountryCode hood lastNode.publicKey false query.direction <;> simp

/-! #### What is found, even if charges overflow -/

variable {state : SearchState} {segments : List ComputedRouteSegment}

lemma forall_flatMapNeighbors {Sound : ComputedRouteSegment → Prop}
    (visits : ∀ record ∈ records, ∀ state segments state', visit record state = .ok (segments, state') →
      ∀ segment ∈ segments, Sound segment)
    (visited : flatMapNeighbors visit records state = .ok (segments, state')) :
    ∀ segment ∈ segments, Sound segment := by
  induction records generalizing state segments state' with
  | nil =>
    cases visited
    simp
  | cons record records ih =>
    rw [forall_mem_cons] at visits
    obtain ⟨⟨first, middle⟩, visitedFirst, visited⟩ := ok_of_bind visited
    obtain ⟨⟨others, final⟩, visitedOthers, visited⟩ := ok_of_bind visited
    cases visited
    exact forall_mem_append.mpr ⟨visits.1 _ _ _ visitedFirst, ih visits.2 visitedOthers⟩

/-- Every path that the engine finds is a leaf of the tree of paths. -/
lemma routingEngine_sound (known : hood.neighborhoodDatabase.nodeByKey query.source = some source)
    (simple : SimplePath hood query path)
    (found : routingEngine p hood order query.toSearchQuery fuel path undesirability
      (query.minimumHops - hops path) state = .ok (segments, state')) :
    ∀ segment ∈ segments, SimplePath hood query segment.nodes ∧ pathIsLeaf hood query segment.nodes = true := by
  induction fuel generalizing path undesirability state segments state' with
  | zero => cases found
  | succ fuel ih =>
    obtain ⟨lastNode, last⟩ := exists_lastNode known simple
    obtain ⟨lastIs, lastFound⟩ := lastNodeOf_eq_some.mp last
    rw [routingEngine_eq simple last] at found
    split at found
    · cases found
      simp
    split at found
    next isLeaf =>
      cases found
      intro segment isFound
      rw [mem_singleton.mp isFound]
      exact ⟨simple, isLeaf⟩
    split at found
    · cases found
      simp
    · refine forall_flatMapNeighbors ?_ found
      intro record isNext state segments state' visited
      obtain ⟨nextFound, linked, fresh⟩ := (mem_nextNodes lastFound).mp isNext
      have extended := (simplePath_snoc lastIs).mpr ⟨simple, linked, fresh⟩
      obtain ⟨total, -, visited⟩ := ok_of_bind visited
      rw [Nat.sub_sub, ← hops_snoc simple.ne_nil record.publicKey] at visited
      exact ih extended visited

lemma routingEngine_simulates (order) (computable : Computable p hood query)
    (known : hood.neighborhoodDatabase.nodeByKey query.source = some source)
    (simple : SimplePath hood query path)
    (costs : undesirability.val = pathUndesirability p hood query path)
    (enough : (unvisited hood path).length < fuel) (state) :
    Simulates p hood query
      (routingEngine p hood order query.toSearchQuery fuel path undesirability
        (query.minimumHops - hops path) state)
      (search (pathTree p hood order query) fuel path state.minimumUndesirability.val) := by
  induction fuel generalizing path undesirability state with
  | zero => exact absurd enough (Nat.not_lt_zero _)
  | succ fuel ih =>
    obtain ⟨lastNode, last⟩ := exists_lastNode known simple
    obtain ⟨lastIs, found⟩ := lastNodeOf_eq_some.mp last
    have cost : (pathTree p hood order query).cost path = undesirability.val := costs.symm
    have leaf : (pathTree p hood order query).isLeaf path = pathIsLeaf hood query path := rfl
    have children : (pathTree p hood order query).children path = pathChildren hood order query path := rfl
    rw [routingEngine_eq simple last, search, cost, leaf, children]
    split
    · exact simulates_nothing state
    split
    · refine ⟨_, _, rfl, rfl, ?_, ?_⟩
      · intro segment isFound
        rw [mem_singleton.mp isFound]
        exact costs
      · dsimp only
        split <;> omega
    simp only [pathChildren, last]
    split
    · exact simulates_nothing state
    · refine flatMapNeighbors_simulates ?_ state
      intro record isNext state
      obtain ⟨nextFound, linked, fresh⟩ := (mem_nextNodes found).mp isNext
      have extended := (simplePath_snoc lastIs).mpr ⟨simple, linked, fresh⟩
      obtain ⟨total, computed, totalCosts⟩ :=
        computeNewUndesirability_ok computable simple.ne_nil nextFound extended costs
      have visited := unvisited_snoc_lt nextFound fresh
      have step := ih extended totalCosts (by omega) state
      rw [hops_snoc simple.ne_nil, ← Nat.sub_sub] at step
      simpa only [RouteQuery.toSearchQuery, computed, ok_bind] using step

/-- The first segment within the last bound is the cheapest path of the search. -/
lemma find_of_simulates (nodes : segments.map ComputedRouteSegment.nodes = searched.1)
    (costs : ∀ segment ∈ segments, segment.undesirability.val = pathUndesirability p hood query segment.nodes)
    (bound : state.minimumUndesirability.val = searched.2) :
    (segments.find? fun segment =>
      decide (segment.undesirability.val ≤ state.minimumUndesirability.val)).map
        ComputedRouteSegment.nodes = cheapest (pathTree p hood order query) searched := by
  rw [cheapest, ← nodes, find?_map, ← bound]
  congr 1
  refine find?_congr ?_
  intro segment isFound
  rw [costs segment isFound]
  rfl

lemma unvisited_source_lt {source} (known : hood.neighborhoodDatabase.nodeByKey source = some record) :
    (unvisited hood [source]).length < hood.neighborhoodDatabase.nodes.length := by
  obtain ⟨member, isSource⟩ := nodeByKey_eq_some known
  exact length_filter_lt_length_iff_exists.mpr ⟨record, member, by simp [isSource]⟩

/-- The answer is that of the bounded search over all paths. -/
lemma findBestRouteSegment_eq (computable : Computable p hood query)
    (known : hood.neighborhoodDatabase.nodeByKey query.source = some source) :
    findBestRouteSegment p hood order query.source query.targetOpt query.minimumHops
        query.payloadSize query.direction query.hostnameOpt =
      .ok (cheapest (pathTree p hood order query) (search (pathTree p hood order query)
        hood.neighborhoodDatabase.nodes.length [query.source] i64Max.val)) := by
  obtain ⟨initial, computed, _⟩ := computable.initial
  have costs : initial.val = pathUndesirability p hood query [query.source] := by
    simp [pathUndesirability, initialUndesirability, computed]
  obtain ⟨segments, state, searched, nodes, segmentCosts, bound⟩ :=
    routingEngine_simulates order computable known simplePath_source costs
      (unvisited_source_lt known) ⟨i64Max, []⟩
  rw [findBestRouteSegment, computed]
  change (routingEngine p hood order query.toSearchQuery _ _ _ (query.minimumHops - 0) _ >>= _) = _
  rw [show query.minimumHops - 0 = query.minimumHops - hops [query.source] from rfl, searched,
    ← find_of_simulates nodes segmentCosts bound]
  rfl

end

/-! ### The result -/

section

variable {p : Profile} {hood : NeighborhoodState} {query : RouteQuery} {path : List PublicKey}

/-- A route that is found is a simple path that is long enough and ends where it should. -/
lemma findBestRouteSegment_sound
    (found : findBestRouteSegment p hood order query.source query.targetOpt query.minimumHops
      query.payloadSize query.direction query.hostnameOpt = .ok (some path)) :
    SimplePath hood query path ∧ query.minimumHops ≤ hops path ∧
      ∀ last ∈ path.getLast?, EndQualifies hood query path last := by
  obtain ⟨initial, -, found⟩ := ok_of_bind found
  obtain ⟨⟨segments, state⟩, searched, found⟩ := ok_of_bind found
  obtain ⟨segment, isFirst, rfl⟩ := Option.map_eq_some_iff.mp (Except.ok.inj found)
  have isFound := mem_of_find?_eq_some isFirst
  -- the engine stops at once if it does not know where to start from
  obtain ⟨source, known⟩ : ∃ source, hood.neighborhoodDatabase.nodeByKey query.source = some source := by
    cases known : hood.neighborhoodDatabase.nodeByKey query.source with
    | some source => exact ⟨source, rfl⟩
    | none =>
      cases fuel : hood.neighborhoodDatabase.nodes.length with
      | zero =>
        rw [fuel] at searched
        cases searched
      | succ fuel' =>
        rw [fuel] at searched
        simp only [routingEngine, head?_cons, getLast?_singleton, known] at searched
        split at searched
        · cases searched
          cases isFound
        · cases searched
  obtain ⟨simple, isLeaf⟩ := routingEngine_sound known simplePath_source searched segment isFound
  obtain ⟨lastNode, last⟩ := exists_lastNode known simple
  obtain ⟨lastIs, lastFound⟩ := lastNodeOf_eq_some.mp last
  obtain ⟨long, ends⟩ := (isLeaf_iff last).mp isLeaf
  refine ⟨simple, long, ?_⟩
  intro key isLast
  cases lastIs.symm.trans isLast
  exact (nodeByKey_eq_some lastFound).2 ▸ ends

lemma known_of_linked (links : path.IsChain (Linked hood query)) :
    ∀ key ∈ path.tail, key ∈ hood.neighborhoodDatabase.nodes.map NodeRecord.publicKey := by
  induction path with
  | nil => simp
  | cons first rest ih =>
    cases rest with
    | nil => simp
    | cons next rest =>
      rw [isChain_cons_cons] at links
      obtain ⟨⟨_, record, _, found, _⟩, links⟩ := links
      obtain ⟨member, isNext⟩ := nodeByKey_eq_some found
      intro key visited
      rcases mem_cons.mp visited with rfl | later
      · exact mem_map.mpr ⟨record, member, isNext⟩
      · exact ih links key later

/-- A simple path has no more hops than there are Nodes. -/
lemma length_tail_le (simple : SimplePath hood query path) :
    path.tail.length ≤ hood.neighborhoodDatabase.nodes.length := by
  have distinct := simple.simple.sublist (tail_sublist path)
  have fewer := (subperm_of_subset distinct (known_of_linked simple.links)).length_le
  rwa [length_map] at fewer

/-- Small charges do not overflow. -/
lemma computable_of_le (bound : Int)
    (initial : ∃ undesirability, computeInitialUndesirability p hood query.source query.payloadSize
      query.direction = .ok undesirability ∧ 0 ≤ undesirability.val ∧ undesirability.val ≤ bound)
    (nodes : ∀ record ∈ hood.neighborhoodDatabase.nodes, ∀ hopsRemaining, ∃ undesirability,
      computeUndesirability p record query.payloadSize (newUndesirabilityType query.direction
        query.targetOpt hopsRemaining query.hostnameOpt) = .ok undesirability ∧
      0 ≤ undesirability.val ∧ undesirability.val ≤ bound)
    (small : bound + hood.neighborhoodDatabase.nodes.length * bound < 2 ^ 63) :
    Computable p hood query := by
  obtain ⟨start, startComputed, startNonneg, startBounded⟩ := initial
  have boundNonneg : 0 ≤ bound := Int.le_trans startNonneg startBounded
  refine ⟨⟨start, startComputed, startNonneg⟩, ?_, ?_⟩
  · intro record member hopsRemaining
    obtain ⟨undesirability, computed, nonneg, _⟩ := nodes record member hopsRemaining
    exact ⟨undesirability, computed, nonneg⟩
  · intro path simple
    have each : ∀ added ∈ (path.tail.zipIdx 1).map fun visit =>
        nodeUndesirability p hood query (query.minimumHops - visit.2) visit.1, added ≤ bound := by
      intro added member
      obtain ⟨⟨key, index⟩, _, rfl⟩ := mem_map.mp member
      simp only [nodeUndesirability]
      split
      · exact boundNonneg
      · next record found =>
        obtain ⟨undesirability, computed, _, bounded⟩ :=
          nodes record (nodeByKey_eq_some found).1 (query.minimumHops - index)
        simpa only [computed] using bounded
    have total := sum_le_card_nsmul _ bound each
    rw [length_map, length_zipIdx, nsmul_eq_mul] at total
    have fewer : (path.tail.length : Int) * bound ≤ hood.neighborhoodDatabase.nodes.length * bound :=
      Int.mul_le_mul_of_nonneg_right (Int.ofNat_le.mpr (length_tail_le simple)) boundNonneg
    have started : initialUndesirability p hood query = start.val := by
      simp only [initialUndesirability, startComputed]
    rw [pathUndesirability]
    omega

section

variable (computable : Computable p hood query) {source : NodeRecord}
  (known : hood.neighborhoodDatabase.nodeByKey query.source = some source)
include computable known

lemma exists_leaf_le (order) (qualifies : Qualifies hood query other) :
    ∃ leaf, Reaches (pathTree p hood order query) [query.source] leaf ∧
      pathUndesirability p hood query leaf ≤ pathUndesirability p hood query other := by
  obtain ⟨rest, rfl⟩ := head?_eq_some_iff.mp qualifies.starts
  exact reaches_of_qualifies computable known (by simp) qualifies

lemma best_of_found {order}
    (found : findBestRouteSegment p hood order query.source query.targetOpt query.minimumHops
      query.payloadSize query.direction query.hostnameOpt = .ok (some path)) :
    Qualifies hood query path ∧ ∀ other, Qualifies hood query other →
      pathUndesirability p hood query path ≤ pathUndesirability p hood query other := by
  have exact_ := search_exact (pathTree_rises order computable) pathTree_falls
    (unvisited_source_lt known) i64Max.val
  rw [findBestRouteSegment_eq computable known] at found
  obtain ⟨reaches, least⟩ := cheapest_spec exact_ (Except.ok.inj found)
  refine ⟨qualifies_of_reaches reaches simplePath_source fun _ _ _ _ => Nat.zero_le _, fun other qualifies => ?_⟩
  obtain ⟨leaf, leafReaches, cheaper⟩ := exists_leaf_le computable known order qualifies
  exact Int.le_trans (least leaf leafReaches) cheaper

end

/-- The search finds a route iff there is a qualifying one, and what it finds is a qualifying route
of the least undesirability, in whatever order the neighbors come. -/
theorem findBestRouteSegment_optimal (order : SetOrder) (computable : Computable p hood query)
    (known : (hood.neighborhoodDatabase.nodeByKey query.source).isSome) :
    ∃ result, findBestRouteSegment p hood order query.source query.targetOpt query.minimumHops
        query.payloadSize query.direction query.hostnameOpt = .ok result ∧
      (result = none ↔ ∀ path, ¬ Qualifies hood query path) ∧
      ∀ path ∈ result, Qualifies hood query path ∧
        ∀ other, Qualifies hood query other →
          pathUndesirability p hood query path ≤ pathUndesirability p hood query other := by
  obtain ⟨source, known⟩ := Option.isSome_iff_exists.mp known
  have exact_ := search_exact (pathTree_rises order computable) pathTree_falls
    (unvisited_source_lt known) i64Max.val
  have searched := @findBestRouteSegment_eq p hood order query source computable known
  refine ⟨_, searched, ⟨?_, ?_⟩, ?_⟩
  · intro nothing path qualifies
    obtain ⟨leaf, reaches, _⟩ := exists_leaf_le computable known order qualifies
    have leaves := qualifies_of_reaches reaches simplePath_source fun _ _ _ _ => Nat.zero_le _
    have found := cheapest_isSome exact_ reaches (Int.le_of_lt_add_one (computable.sums leaf leaves.toSimplePath))
    simp [nothing] at found
  · intro none_qualifies
    by_contra something
    obtain ⟨leaf, found⟩ := Option.ne_none_iff_exists'.mp something
    rw [found] at searched
    exact none_qualifies leaf (best_of_found computable known searched).1
  · intro path found
    rw [found] at searched
    exact best_of_found computable known searched

/-! ### What an exit is to cost -/

/-- What a route costs if the Nodes in between are only passed: their relay charges, and the undesirability
of the last one as an exit. -/
def exitRouteCost (p : Profile) (hood : NeighborhoodState) (query : RouteQuery) (path : List PublicKey) : Int :=
  (path.tail.dropLast.map (nodeUndesirability p hood query 1)).sum +
    (path.tail.getLast?.map (nodeUndesirability p hood query 0)).getD 0

section

variable (targetless : query.targetOpt = none) (isOver : query.direction = .over)
include targetless isOver

lemma pathUndesirability_eq_exitRouteCost (exactly : hops path = query.minimumHops) :
    pathUndesirability p hood query path = exitRouteCost p hood query path := by
  have initial : initialUndesirability p hood query = 0 := by
    simp [initialUndesirability, computeInitialUndesirability, isOver]
  rw [hops, ← length_tail] at exactly
  rw [pathUndesirability, exitRouteCost, initial, Int.zero_add]
  rcases eq_nil_or_concat path.tail with nil | ⟨middle, last, tail⟩
  · simp [nil]
  · rw [tail, concat_eq_append, length_append, length_singleton] at exactly
    have passed : (middle.zipIdx 1).map (fun visit => nodeUndesirability p hood query
        (query.minimumHops - visit.2) visit.1) = middle.map (nodeUndesirability p hood query 1) := by
      conv_rhs => rw [← zipIdx_map_fst 1 middle, map_map]
      refine map_congr_left ?_
      rintro ⟨key, index⟩ visited
      have inside := (mem_zipIdx visited).2.1
      have more : query.minimumHops - index ≠ 0 := by omega
      simp [nodeUndesirability, newUndesirabilityType, targetless, isOver, more]
    have full : query.minimumHops - (1 + middle.length) = 0 := by omega
    rw [tail, concat_eq_append, zipIdx_append, map_append, passed]
    simp [full]

end

end

def sampleRecord (key : UInt8) (byteRate serviceRate : U64) (neighbors : List UInt8) : NodeRecord where
  publicKey := ⟨[key]⟩
  ratePack := ⟨byteRate, serviceRate, byteRate, serviceRate⟩
  neighbors := (neighbors.map fun key => ⟨[key]⟩).dedup
  neighbors_nodup := List.nodup_dedup _
  routesData := true
  countryCodeOpt := none
  unreachableHosts := []
  countryUndesirability := ⟨0, u32_zero⟩

/-- Two relays, the first of them cheaper, between an originator and a remote Node, whose list of
neighbors is given. -/
def sampleHood (remoteNeighbors : List UInt8) : NeighborhoodState where
  neighborhoodDatabase := {
    nodes := [
      sampleRecord 1 ⟨2, u64_two⟩ ⟨1, u64_one⟩ [2, 3],
      sampleRecord 2 ⟨2, u64_two⟩ ⟨5, by decide⟩ [1, 3, 4],
      sampleRecord 3 ⟨3, u64_three⟩ ⟨5, by decide⟩ [1, 2, 4],
      sampleRecord 4 ⟨1, u64_one⟩ ⟨7, by decide⟩ remoteNeighbors]
    keys_nodup := by simp [sampleRecord] }
  userExitPreferences := ⟨[], .nothing, []⟩

def sampleQuery (targetOpt : Option PublicKey) : RouteQuery :=
  ⟨⟨[1]⟩, targetOpt, 2, ⟨1000, u64_thousand⟩, .over, none⟩

lemma sampleHood_computable (remoteNeighbors targetOpt) :
    Computable .debug (sampleHood remoteNeighbors) (sampleQuery targetOpt) := by
  refine computable_of_le 10000 ⟨⟨0, by decide⟩, rfl, by decide, by decide⟩ ?_ (by simp [sampleHood])
  intro record member hopsRemaining
  simp only [sampleHood, mem_cons, not_mem_nil, or_false] at member
  rcases member with rfl | rfl | rfl | rfl
  · exact ⟨⟨2001, by decide⟩, by cases targetOpt <;> cases hopsRemaining <;> rfl, by decide, by decide⟩
  · exact ⟨⟨2005, by decide⟩, by cases targetOpt <;> cases hopsRemaining <;> rfl, by decide, by decide⟩
  · exact ⟨⟨3005, by decide⟩, by cases targetOpt <;> cases hopsRemaining <;> rfl, by decide, by decide⟩
  · exact ⟨⟨1007, by decide⟩, by cases targetOpt <;> cases hopsRemaining <;> rfl, by decide, by decide⟩

/-- The detour over the cheaper relay is taken. -/
theorem sample_route_is_best :
    findBestRouteSegment .debug (sampleHood [2, 3]) listedOrder ⟨[1]⟩ none 2 ⟨1000, by decide⟩ .over none
        = .ok (some [⟨[1]⟩, ⟨[2]⟩, ⟨[4]⟩]) ∧
      ∀ other, Qualifies (sampleHood [2, 3]) (sampleQuery none) other →
        pathUndesirability .debug (sampleHood [2, 3]) (sampleQuery none) [⟨[1]⟩, ⟨[2]⟩, ⟨[4]⟩] ≤
          pathUndesirability .debug (sampleHood [2, 3]) (sampleQuery none) other := by
  obtain ⟨result, found, _, best⟩ := findBestRouteSegment_optimal listedOrder
    (sampleHood_computable [2, 3] none) (by decide)
  have evaluated : findBestRouteSegment .debug (sampleHood [2, 3]) listedOrder ⟨[1]⟩ none 2
      ⟨1000, by decide⟩ .over none = .ok (some [⟨[1]⟩, ⟨[2]⟩, ⟨[4]⟩]) := by decide +kernel
  cases evaluated.symm.trans found
  exact ⟨evaluated, (best _ rfl).2⟩

/-- A target that lists the originator as its neighbor is not found, though a path of three Nodes
leads to it over full-neighbor links. -/
theorem target_close_to_source_is_not_found :
    findBestRouteSegment .debug (sampleHood [1, 2, 3]) listedOrder ⟨[1]⟩ (some ⟨[4]⟩) 2
        ⟨1000, by decide⟩ .over none = .ok none ∧
      SimplePath (sampleHood [1, 2, 3]) (sampleQuery (some ⟨[4]⟩)) [⟨[1]⟩, ⟨[2]⟩, ⟨[4]⟩] ∧
      hops [⟨[1]⟩, ⟨[2]⟩, ⟨[4]⟩] = 2 ∧
      Computable .debug (sampleHood [1, 2, 3]) (sampleQuery (some ⟨[4]⟩)) := by
  refine ⟨by decide +kernel, ⟨rfl, by decide, ?_⟩, rfl, sampleHood_computable _ _⟩
  exact .cons_cons ⟨_, _, rfl, rfl, by decide, by decide, .inl rfl⟩
    (.cons_cons ⟨_, _, rfl, rfl, by decide, by decide, .inl rfl⟩ (.singleton _))

/-- The exit is wanted in a country, but need not be there. -/
def preferringHood : NeighborhoodState :=
  { sampleHood [2, 3] with userExitPreferences := ⟨["AU"], .nothing, []⟩ }

/-- The Nodes 2 and 3 are between the originator and the only Node in the country, the Node 2 with the lower
relay charge and the Node 3 with the lower exit charge. -/
def countryHood : NeighborhoodState where
  neighborhoodDatabase := {
    nodes := [
      sampleRecord 1 ⟨1, u64_one⟩ ⟨1, u64_one⟩ [2, 3],
      { sampleRecord 2 ⟨1, u64_one⟩ ⟨1, u64_one⟩ [1, 4] with
        ratePack := ⟨⟨1, u64_one⟩, ⟨1, u64_one⟩, ⟨9, u64_nine⟩, ⟨1, u64_one⟩⟩ },
      sampleRecord 3 ⟨2, u64_two⟩ ⟨1, u64_one⟩ [1, 4],
      { sampleRecord 4 ⟨1, u64_one⟩ ⟨1, u64_one⟩ [2, 3] with countryCodeOpt := some "AU" }]
    keys_nodup := by simp [sampleRecord] }
  userExitPreferences := ⟨["AU"], .exitCountryNoFallback, []⟩

end PulseMesh.Neighborhood
