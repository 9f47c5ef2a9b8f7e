import PulseMesh.Neighborhood.RouteCosts

/-!
# Routes that are found whatever they cost

The search gives up paths that cost more than the best route so far.  As nothing costs more than the
first bound, it does so only when it has found a route already, even if charges have overflowed and the
costs mean nothing.  So there is an answer whenever there is a path that qualifies.
-/

namespace PulseMesh.Neighborhood

open Machine SubLib List

variable {path : List PublicKey}

/-- The bound is the old one or the cost of a route that was found. -/
def Attained (state : SearchState) (result : List ComputedRouteSegment × SearchState) : Prop :=
  result.2.minimumUndesirability = state.minimumUndesirability ∨
    ∃ segment ∈ result.1, segment.undesirability = result.2.minimumUndesirability

/-- Without a bound, something is found if there is anything to find. -/
structure Finds (Exists : Prop) (state : SearchState) (result : List ComputedRouteSegment × SearchState) :
    Prop where
  attained : Attained state result
  nonempty : state.minimumUndesirability = i64Max → Exists → result.1 ≠ []

lemma flatMapNeighbors_finds {visit : NodeRecord → SearchState → SearchResult} {Exists : NodeRecord → Prop}
    (visits : ∀ record ∈ records, ∀ state, Returns (visit record state) (Finds (Exists record) state))
    (state) :
    Returns (flatMapNeighbors visit records state) (Finds (∃ record ∈ records, Exists record) state) := by
  induction records generalizing state with
  | nil => exact .ok ⟨.inl rfl, by simp⟩
  | cons record records ih =>
    rw [forall_mem_cons] at visits
    refine (visits.1 state).bind fun first findsFirst => ?_
    refine (ih visits.2 first.2).bind fun others findsOthers => .ok ⟨?_, ?_⟩
    · rcases findsOthers.attained with kept | ⟨segment, isFound, cost⟩
      · rcases findsFirst.attained with keptFirst | ⟨segment, isFound, cost⟩
        · exact .inl (kept.trans keptFirst)
        · exact .inr ⟨segment, mem_append_left _ isFound, cost.trans kept.symm⟩
      · exact .inr ⟨segment, mem_append_right _ isFound, cost⟩
    · intro unbounded exists_ nothing
      obtain ⟨noneFirst, noneOther⟩ := append_eq_nil_iff.mp nothing
      -- a branch in which nothing was found leaves no bound
      have stillUnbounded : first.2.minimumUndesirability = i64Max := by
        rcases findsFirst.attained with kept | ⟨segment, isFound, -⟩
        · exact kept.trans unbounded
        · rw [noneFirst] at isFound
          cases isFound
      obtain ⟨other, isNext, found⟩ := exists_
      rcases mem_cons.mp isNext with rfl | later
      · exact findsFirst.nonempty unbounded found noneFirst
      · exact findsOthers.nonempty stillUnbounded ⟨other, later, found⟩ noneOther

lemma next_total (computes : Computes p hood query) (total : pathTotal p hood query path = .ok undesirability)
    (nextFound : hood.neighborhoodDatabase.nodeByKey record.publicKey = some record) (nonempty : path ≠ [])
    (extended : SimplePath hood query (path ++ [record.publicKey])) :
    Returns (computeNewUndesirability p record undesirability query.targetOpt
      (query.minimumHops - hops path - 1) query.payloadSize query.direction query.hostnameOpt)
        fun newTotal => pathTotal p hood query (path ++ [record.publicKey]) = .ok newTotal := by
  obtain ⟨newTotal, computed⟩ := computes _ extended
  exact .of_eq ((pathTotal_snoc nonempty total nextFound).symm.trans computed) computed

lemma routingEngine_finds (computes : Computes p hood query)
    (known : hood.neighborhoodDatabase.nodeByKey query.source = some source) {fuel : Nat}
    (simple : SimplePath hood query path) (total : pathTotal p hood query path = .ok undesirability)
    (enough : (unvisited hood path).length < fuel) (state) :
    Returns (routingEngine p hood order query.toSearchQuery fuel path undesirability
      (query.minimumHops - hops path) state) (Finds (∃ rest, Qualifies hood query (path ++ rest)) state) := by
  induction fuel generalizing path undesirability state with
  | zero => exact absurd enough (Nat.not_lt_zero _)
  | succ fuel ih =>
    obtain ⟨lastNode, last⟩ := exists_lastNode known simple
    obtain ⟨isLast, found⟩ := lastNodeOf_eq_some.mp last
    rw [routingEngine_eq simple last]
    split
    next tooDear =>
      refine .ok ⟨.inl rfl, fun unbounded => ?_⟩
      have bounds := I64.bounds undesirability
      rw [unbounded] at tooDear
      simp only [i64Max] at tooDear
      omega
    split
    · refine .ok ⟨?_, by simp⟩
      by_cases cheaper : undesirability.val < state.minimumUndesirability.val
      · exact .inr ⟨_, .head _, by rw [if_pos cheaper]⟩
      · exact .inl (if_neg cheaper)
    next inner =>
    -- a path that qualifies goes on, as this one is not the end of it
    have goesOn (rest : List PublicKey) (qualifies : Qualifies hood query (path ++ rest)) :
        ∃ next after, rest = next :: after := by
      cases rest with
      | nil =>
        rw [append_nil] at qualifies
        exact absurd ((isLeaf_iff last).mpr ⟨qualifies.long, qualifies.ends _ isLast⟩) inner
      | cons next after => exact ⟨next, after, rfl⟩
    split
    next stops =>
      refine .ok ⟨.inl rfl, fun _ => ?_⟩
      rintro ⟨rest, qualifies⟩
      obtain ⟨next, after, rfl⟩ := goesOn rest qualifies
      rw [Bool.and_eq_true, isPastMinimum_iff] at stops
      have exactLength := qualifies.exactLength stops.2.2.1 stops.2.2.2
      have longer := length_pos_iff.mpr simple.ne_nil
      have past := stops.2.1
      simp only [hops, length_append, length_cons] at exactLength past
      omega
    · have visits : Returns (routingGuts p hood order query.toSearchQuery
          (routingEngine p hood order query.toSearchQuery fuel) path undesirability
          (query.minimumHops - hops path) lastNode state)
            (Finds (∃ record ∈ nextNodes hood order query.toSearchQuery path lastNode,
              ∃ after, Qualifies hood query (path ++ [record.publicKey] ++ after)) state) := by
        refine flatMapNeighbors_finds (fun record isNext state => ?_) state
        obtain ⟨nextFound, linked, fresh⟩ := (mem_nextNodes found).mp isNext
        have extended := (simplePath_snoc isLast).mpr ⟨simple, linked, fresh⟩
        have fewer := unvisited_snoc_lt nextFound fresh
        refine (next_total computes total nextFound simple.ne_nil extended).bind fun newTotal isTotal => ?_
        rw [Nat.sub_sub, ← hops_snoc simple.ne_nil record.publicKey]
        exact ih extended isTotal (by omega) state
      refine visits.mono fun result finds => ⟨finds.attained, fun unbounded => ?_⟩
      rintro ⟨rest, qualifies⟩
      obtain ⟨next, after, rfl⟩ := goesOn rest qualifies
      rw [append_cons] at qualifies
      obtain ⟨-, linked, fresh⟩ := (simplePath_snoc isLast).mp (qualifies.toSimplePath.of_append (by simp))
      obtain ⟨_, record, _, nextFound, -⟩ := id linked
      cases (nodeByKey_eq_some nextFound).2
      exact finds.nonempty unbounded
        ⟨record, (mem_nextNodes found).mpr ⟨nextFound, linked, fresh⟩, after, qualifies⟩

/-- Of what was found, the first within the bound is the answer, and the bound rules out nothing that
was not found before. -/
lemma find_isSome (attained : Attained ⟨i64Max, []⟩ (segments, state)) (nonempty : segments ≠ []) :
    (segments.find? fun segment =>
      decide (segment.undesirability.val ≤ state.minimumUndesirability.val)).isSome := by
  rw [find?_isSome]
  rcases attained with unbounded | ⟨segment, isFound, cost⟩
  · obtain ⟨segment, isFound⟩ := exists_mem_of_ne_nil segments nonempty
    have bounds := I64.bounds segment.undesirability
    refine ⟨segment, isFound, ?_⟩
    dsimp only at unbounded
    simp only [unbounded, i64Max, decide_eq_true_iff]
    omega
  · exact ⟨segment, isFound, by simp [cost]⟩

/-- If a path qualifies, then the search finds one, perhaps not the same. -/
lemma findBestRouteSegment_finds (computes : Computes p hood query)
    (known : hood.neighborhoodDatabase.nodeByKey query.source = some source) :
    Returns (findBestRouteSegment p hood order query.source query.targetOpt query.minimumHops
      query.payloadSize query.direction query.hostnameOpt) fun found =>
        (∃ path, Qualifies hood query path) → found.isSome := by
  obtain ⟨total, computed⟩ := computes _ simplePath_source
  obtain ⟨initial, begins, rfl⟩ : ∃ initial, computeInitialUndesirability p hood query.source query.payloadSize
      query.direction = .ok initial ∧ initial = total := by
    obtain ⟨initial, begins, added⟩ := ok_of_bind computed
    exact ⟨initial, begins, Except.ok.inj added⟩
  obtain ⟨⟨segments, state⟩, searched, finds⟩ :
      Returns (routingEngine p hood order query.toSearchQuery hood.neighborhoodDatabase.nodes.length
        [query.source] initial query.minimumHops ⟨i64Max, []⟩)
          (Finds (∃ rest, Qualifies hood query ([query.source] ++ rest)) ⟨i64Max, []⟩) :=
    routingEngine_finds computes known simplePath_source computed (unvisited_source_lt known) _
  refine .of_eq (bind_eq_ok.mpr ⟨initial, begins, bind_eq_ok.mpr ⟨_, searched, rfl⟩⟩) ?_
  rintro ⟨path, qualifies⟩
  have nonempty : segments ≠ [] := by
    refine finds.nonempty rfl ⟨path.tail, ?_⟩
    rwa [singleton_append, cons_head?_tail qualifies.starts]
  rw [Option.isSome_map]
  exact find_isSome finds.attained nonempty

end PulseMesh.Neighborhood
