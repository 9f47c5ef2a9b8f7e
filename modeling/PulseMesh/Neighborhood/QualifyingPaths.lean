import PulseMesh.Lib.BoundedSearch
import PulseMesh.Neighborhood.RouteSearch

/-!
# Qualifying paths

What the route search looks for: the simple paths over full-neighbor links that may end where they
end, and the undesirability accumulated along them.  The engine extends paths Node by Node; the tree
of those extensions is a tree for the bounded search of the library.
-/

namespace PulseMesh.Neighborhood

open Machine SubLib BoundedSearch List

/-! ### What is looked for -/

/-- The arguments of a search that is not for research. -/
structure RouteQuery where
  source : PublicKey
  targetOpt : Option PublicKey
  minimumHops : Nat
  payloadSize : U64
  direction : RouteDirection
  hostnameOpt : Option String

def RouteQuery.toSearchQuery (query : RouteQuery) : SearchQuery :=
  ⟨query.targetOpt, query.payloadSize, query.direction, query.hostnameOpt, false⟩

section

variable (p : Profile) (hood : NeighborhoodState) (query : RouteQuery)

/-- Two Nodes that list each other, the second one fit to be passed through. -/
def Linked (key next : PublicKey) : Prop :=
  ∃ record nextRecord, hood.neighborhoodDatabase.nodeByKey key = some record ∧
    hood.neighborhoodDatabase.nodeByKey next = some nextRecord ∧
    next ∈ record.neighbors ∧ key ∈ nextRecord.neighbors ∧
    (nextRecord.routesData = true ∨
      isOrigNodeOnBackLeg nextRecord query.targetOpt query.direction = true)

structure SimplePath (path : List PublicKey) : Prop where
  starts : path.head? = some query.source
  simple : path.Nodup
  links : path.IsChain (Linked hood query)

def hops (path : List PublicKey) : Nat := path.length - 1

/-- Neither a preference nor a country to prefer. -/
def NoExitPreference : Prop :=
  hood.userExitPreferences.fallbackPreference = .nothing ∨
    hood.userExitPreferences.exitCountries = []

/-- The last Node is the target, far enough from the first one and in a country that is wanted. -/
structure EndQualifies (path : List PublicKey) (last : PublicKey) : Prop where
  target : ∀ target ∈ query.targetOpt, last = target
  notTooClose : validateLastNodeNotTooCloseToFirstNode hood path.length query.source last = true
  country : validateLastNodeCountryCode hood last false query.direction = true

structure Qualifies (path : List PublicKey) : Prop extends SimplePath hood query path where
  long : query.minimumHops ≤ hops path
  ends : ∀ last ∈ path.getLast?, EndQualifies hood query path last
  exactLength : query.targetOpt = none → NoExitPreference hood → hops path = query.minimumHops

/-- What a Node adds to the undesirability of a path when so many hops remain. -/
def nodeUndesirability (hopsRemaining : Nat) (key : PublicKey) : Int :=
  match hood.neighborhoodDatabase.nodeByKey key with
  | none => 0
  | some record =>
    match computeUndesirability p record query.payloadSize (newUndesirabilityType query.direction
        query.targetOpt hopsRemaining query.hostnameOpt) with
    | .ok undesirability => undesirability.val
    | .error _ => 0

def initialUndesirability : Int :=
  match computeInitialUndesirability p hood query.source query.payloadSize query.direction with
  | .ok undesirability => undesirability.val
  | .error _ => 0

/-- The undesirability accumulated along a path. -/
def pathUndesirability (path : List PublicKey) : Int :=
  initialUndesirability p hood query +
    ((path.tail.zipIdx 1).map fun visit =>
      nodeUndesirability p hood query (query.minimumHops - visit.2) visit.1).sum

/-- Charges can be computed and are not negative, and no sum along a simple path overflows. -/
structure Computable : Prop where
  initial : ∃ undesirability, computeInitialUndesirability p hood query.source query.payloadSize
    query.direction = .ok undesirability ∧ 0 ≤ undesirability.val
  nodes : ∀ record ∈ hood.neighborhoodDatabase.nodes, ∀ hopsRemaining, ∃ undesirability,
    computeUndesirability p record query.payloadSize (newUndesirabilityType query.direction
      query.targetOpt hopsRemaining query.hostnameOpt) = .ok undesirability ∧ 0 ≤ undesirability.val
  sums : ∀ path, SimplePath hood query path → pathUndesirability p hood query path < 2 ^ 63

end

/-! ### The tree of paths -/

section

variable (p : Profile) (hood : NeighborhoodState) (order : SetOrder) (query : RouteQuery)
  (path : List PublicKey)

def lastNodeOf : Option NodeRecord :=
  path.getLast?.bind hood.neighborhoodDatabase.nodeByKey

/-- The three qualifications of the engine, at a path. -/
def pathIsDone (lastNode : NodeRecord) : Bool :=
  isDone hood query.toSearchQuery path (query.minimumHops - hops path) query.source lastNode

def pathIsLeaf : Bool :=
  match lastNodeOf hood path with
  | none => false
  | some lastNode => pathIsDone hood query path lastNode &&
      validateLastNodeCountryCode hood lastNode.publicKey false query.direction

def pathChildren : List (List PublicKey) :=
  match lastNodeOf hood path with
  | none => []
  | some lastNode =>
    if !pathIsDone hood query path lastNode &&
        isPastMinimum hood query.toSearchQuery (query.minimumHops - hops path) then
      []
    else
      (nextNodes hood order query.toSearchQuery path lastNode).map fun record =>
        path ++ [record.publicKey]

def pathTree : BoundedSearch.Tree (List PublicKey) where
  children := pathChildren hood order query
  isLeaf := pathIsLeaf hood query
  cost := pathUndesirability p hood query

end

section

variable {db : NeighborhoodDatabase} {record : NodeRecord}

lemma nodeByKey_eq_some (found : db.nodeByKey key = some record) :
    record ∈ db.nodes ∧ record.publicKey = key :=
  ⟨mem_of_find?_eq_some found, by simpa using find?_some found⟩

lemma mem_fullNeighborKeys :
    key ∈ record.fullNeighborKeys db ↔ key ∈ record.neighbors ∧
      ∃ neighbor, db.nodeByKey key = some neighbor ∧ record.publicKey ∈ neighbor.neighbors := by
  rw [NodeRecord.fullNeighborKeys, mem_filter]
  cases found : db.nodeByKey key with
  | none => simp
  | some neighbor => simp

lemma mem_fullNeighbors (perm : ∀ keys, (arrange keys).Perm keys) :
    neighbor ∈ record.fullNeighbors db arrange ↔
      db.nodeByKey neighbor.publicKey = some neighbor ∧ neighbor.publicKey ∈ record.neighbors ∧
        record.publicKey ∈ neighbor.neighbors := by
  rw [NodeRecord.fullNeighbors, mem_filterMap]
  constructor
  · rintro ⟨key, member, found⟩
    obtain ⟨isNeighbor, other, otherFound, listsBack⟩ := mem_fullNeighborKeys.mp ((perm _).mem_iff.mp member)
    cases found.symm.trans otherFound
    rw [(nodeByKey_eq_some found).2]
    exact ⟨found, isNeighbor, listsBack⟩
  · rintro ⟨found, isNeighbor, listsBack⟩
    exact ⟨neighbor.publicKey,
      (perm _).mem_iff.mpr (mem_fullNeighborKeys.mpr ⟨isNeighbor, neighbor, found, listsBack⟩), found⟩

end

section

variable {hood : NeighborhoodState} {query : RouteQuery} {path : List PublicKey}

lemma hops_snoc (nonempty : path ≠ []) (key) : hops (path ++ [key]) = hops path + 1 := by
  have := length_pos_iff.mpr nonempty
  rw [hops, hops, length_append, length_singleton]
  omega

lemma pathUndesirability_snoc (nonempty : path ≠ []) (key) :
    pathUndesirability p hood query (path ++ [key]) = pathUndesirability p hood query path +
      nodeUndesirability p hood query (query.minimumHops - hops path - 1) key := by
  have position : 1 + path.tail.length = hops path + 1 := by
    rw [length_tail, hops, Nat.add_comm]
  rw [pathUndesirability, tail_append_of_ne_nil nonempty, zipIdx_append, map_append,
    sum_append, position, ← Int.add_assoc, Nat.sub_sub]
  simp [pathUndesirability]

lemma nodeUndesirability_nonneg (computable : Computable p hood query) (hopsRemaining : Nat) (key) :
    0 ≤ nodeUndesirability p hood query hopsRemaining key := by
  unfold nodeUndesirability
  split
  · exact Int.le_refl 0
  · next record found =>
    obtain ⟨undesirability, computed, nonneg⟩ :=
      computable.nodes record (nodeByKey_eq_some found).1 hopsRemaining
    simpa only [computed] using nonneg

lemma pathUndesirability_nonneg (computable : Computable p hood query) (path) :
    0 ≤ pathUndesirability p hood query path := by
  obtain ⟨initial, computed, nonneg⟩ := computable.initial
  have initialNonneg : 0 ≤ initialUndesirability p hood query := by
    simpa only [initialUndesirability, computed] using nonneg
  refine Int.add_nonneg initialNonneg (sum_nonneg ?_)
  intro added member
  obtain ⟨_, _, rfl⟩ := mem_map.mp member
  exact nodeUndesirability_nonneg computable _ _

/-! #### Simple paths, one Node at a time -/

lemma simplePath_source : SimplePath hood query [query.source] :=
  ⟨rfl, nodup_singleton _, isChain_singleton _⟩

lemma SimplePath.ne_nil (simple : SimplePath hood query path) : path ≠ [] := by
  rintro rfl
  cases simple.starts

lemma simplePath_snoc {last next} (lastIs : path.getLast? = some last) :
    SimplePath hood query (path ++ [next]) ↔
      SimplePath hood query path ∧ Linked hood query last next ∧ next ∉ path := by
  have nonempty : path ≠ [] := by
    rintro rfl
    cases lastIs
  constructor
  · rintro ⟨starts, simple, links⟩
    rw [head?_append_of_ne_nil _ nonempty] at starts
    rw [isChain_append] at links
    obtain ⟨simplePath, _, fresh⟩ := nodup_append.mp simple
    exact ⟨⟨starts, simplePath, links.1⟩, links.2.2 last lastIs next rfl,
      fun visited => fresh next visited next (mem_singleton.mpr rfl) rfl⟩
  · rintro ⟨⟨starts, simple, links⟩, linked, fresh⟩
    refine ⟨by rw [head?_append_of_ne_nil _ nonempty, starts], ?_, ?_⟩
    · exact nodup_append.mpr ⟨simple, nodup_singleton _, by grind⟩
    · rw [isChain_append]
      exact ⟨links, isChain_singleton _, by grind⟩

lemma mem_nextNodes (found : hood.neighborhoodDatabase.nodeByKey last = some lastNode) :
    record ∈ nextNodes hood order query.toSearchQuery path lastNode ↔
      hood.neighborhoodDatabase.nodeByKey record.publicKey = some record ∧
        Linked hood query last record.publicKey ∧ record.publicKey ∉ path := by
  have lastKey := (nodeByKey_eq_some found).2
  rw [nextNodes, mem_filter, mem_filter, mem_fullNeighbors (order.perm path), lastKey,
    decide_eq_true_iff, Bool.or_eq_true]
  constructor
  · rintro ⟨⟨⟨known, isNeighbor, listsBack⟩, fresh⟩, passes⟩
    exact ⟨known, ⟨lastNode, record, found, known, isNeighbor, listsBack, passes⟩, fresh⟩
  · rintro ⟨known, ⟨node, nextRecord, nodeFound, nextFound, isNeighbor, listsBack, passes⟩, fresh⟩
    cases found.symm.trans nodeFound
    cases known.symm.trans nextFound
    exact ⟨⟨⟨known, isNeighbor, listsBack⟩, fresh⟩, passes⟩

lemma lastNodeOf_eq_some :
    lastNodeOf hood path = some lastNode ↔ path.getLast? = some lastNode.publicKey ∧
      hood.neighborhoodDatabase.nodeByKey lastNode.publicKey = some lastNode := by
  rw [lastNodeOf, Option.bind_eq_some_iff]
  constructor
  · rintro ⟨key, lastIs, found⟩
    rw [(nodeByKey_eq_some found).2]
    exact ⟨lastIs, found⟩
  · rintro ⟨lastIs, found⟩
    exact ⟨_, lastIs, found⟩

/-- The path ends here, or is extended by a linked Node. -/
lemma mem_pathChildren (last : lastNodeOf hood path = some lastNode) :
    child ∈ pathChildren hood order query path ↔
      (pathIsDone hood query path lastNode = true ∨
        isPastMinimum hood query.toSearchQuery (query.minimumHops - hops path) = false) ∧
      ∃ next, Linked hood query lastNode.publicKey next ∧ next ∉ path ∧ child = path ++ [next] := by
  obtain ⟨_, found⟩ := lastNodeOf_eq_some.mp last
  simp only [pathChildren, last]
  split
  · next stops => grind
  · rw [mem_map]
    constructor
    · rintro ⟨record, member, rfl⟩
      obtain ⟨_, linked, fresh⟩ := (mem_nextNodes found).mp member
      exact ⟨by grind, record.publicKey, linked, fresh, rfl⟩
    · rintro ⟨_, next, linked, fresh, rfl⟩
      obtain ⟨_, record, _, nextFound, _⟩ := id linked
      have nextKey := (nodeByKey_eq_some nextFound).2
      subst nextKey
      exact ⟨record, (mem_nextNodes found).mpr ⟨nextFound, linked, fresh⟩, rfl⟩

/-! #### The tree of paths is fit for a bounded search -/

lemma exists_snoc_of_child (isChild : child ∈ pathChildren hood order query path) :
    path ≠ [] ∧ ∃ last next, path.getLast? = some last ∧ Linked hood query last next ∧ next ∉ path ∧
      child = path ++ [next] := by
  cases last : lastNodeOf hood path with
  | none => simp [pathChildren, last] at isChild
  | some lastNode =>
    obtain ⟨_, next, linked, fresh, extended⟩ := (mem_pathChildren last).mp isChild
    obtain ⟨lastIs, _⟩ := lastNodeOf_eq_some.mp last
    exact ⟨getLast?_isSome.mp (by simp [lastIs]), _, next, lastIs, linked, fresh, extended⟩

lemma pathTree_rises (order) (computable : Computable p hood query) (path) :
    ∀ child ∈ (pathTree p hood order query).children path,
      (pathTree p hood order query).cost path ≤ (pathTree p hood order query).cost child := by
  intro child isChild
  obtain ⟨nonempty, _, next, _, _, _, rfl⟩ := exists_snoc_of_child isChild
  have added := nodeUndesirability_nonneg computable (query.minimumHops - hops path - 1) next
  simp only [pathTree, pathUndesirability_snoc nonempty]
  omega

/-- The Nodes a path has not visited. -/
def unvisited (hood : NeighborhoodState) (path : List PublicKey) : List NodeRecord :=
  hood.neighborhoodDatabase.nodes.filter fun record => decide (record.publicKey ∉ path)

lemma unvisited_snoc_lt {next record} (found : hood.neighborhoodDatabase.nodeByKey next = some record)
    (fresh : next ∉ path) : (unvisited hood (path ++ [next])).length < (unvisited hood path).length := by
  obtain ⟨member, isNext⟩ := nodeByKey_eq_some found
  have narrowed : unvisited hood (path ++ [next]) =
      (unvisited hood path).filter fun record => decide (record.publicKey ≠ next) := by
    rw [unvisited, unvisited, filter_filter]
    congr 1
    simp [and_comm]
  rw [narrowed, length_filter_lt_length_iff_exists]
  exact ⟨record, mem_filter.mpr ⟨member, by simpa [isNext] using fresh⟩, by simp [isNext]⟩

lemma pathTree_falls (path) :
    ∀ child ∈ (pathTree p hood order query).children path,
      (unvisited hood child).length < (unvisited hood path).length := by
  intro child isChild
  obtain ⟨_, last, next, _, ⟨_, record, _, found, _⟩, fresh, rfl⟩ := exists_snoc_of_child isChild
  exact unvisited_snoc_lt found fresh

/-! #### The leaves are the qualifying paths that cannot be cut short -/

lemma isDone_iff :
    pathIsDone hood query path lastNode = true ↔ query.minimumHops ≤ hops path ∧
      (∀ target ∈ query.targetOpt, lastNode.publicKey = target) ∧
      validateLastNodeNotTooCloseToFirstNode hood path.length query.source lastNode.publicKey = true := by
  have targetIs : lastKeyQualifies lastNode query.targetOpt = true ↔
      ∀ target ∈ query.targetOpt, lastNode.publicKey = target := by
    cases query.targetOpt <;> simp [lastKeyQualifies]
  rw [← targetIs, pathIsDone, isDone, Bool.and_eq_true, Bool.and_eq_true, routeLengthQualifies,
    beq_iff_eq, Nat.sub_eq_zero_iff_le, and_assoc]
  rfl

lemma isLeaf_iff (last : lastNodeOf hood path = some lastNode) :
    pathIsLeaf hood query path = true ↔
      query.minimumHops ≤ hops path ∧ EndQualifies hood query path lastNode.publicKey := by
  simp only [pathIsLeaf, last]
  rw [Bool.and_eq_true, isDone_iff]
  constructor
  · rintro ⟨⟨long, target, notTooClose⟩, country⟩
    exact ⟨long, target, notTooClose, country⟩
  · rintro ⟨long, target, notTooClose, country⟩
    exact ⟨⟨long, target, notTooClose⟩, country⟩

lemma isPastMinimum_iff :
    isPastMinimum hood query.toSearchQuery (query.minimumHops - hops path) = true ↔
      query.minimumHops ≤ hops path ∧ query.targetOpt = none ∧ NoExitPreference hood := by
  simp [isPastMinimum, RouteQuery.toSearchQuery, NoExitPreference, Nat.sub_eq_zero_iff_le, and_assoc]

/-- With no country wanted the country rule looks at none: it refuses every Node on the way over if
there is nothing to fall back to, and no Node otherwise. -/
lemma country_of_exitCountries_empty (empty : hood.userExitPreferences.exitCountries = []) (key direction) :
    validateLastNodeCountryCode hood key false direction =
      (decide (hood.userExitPreferences.fallbackPreference ≠ .exitCountryNoFallback) ||
        decide (direction = .back)) := by
  have unlisted : validateLastNodeCountryCode hood key false direction =
      lastNodeIsAlwaysTrue hood key false direction := by
    unfold validateLastNodeCountryCode
    grind
  rw [unlisted]
  cases preference : hood.userExitPreferences.fallbackPreference <;>
    simp [lastNodeIsAlwaysTrue, isFallbackAndLastNodeQualifies,
      validateCountryCodeWhenFallbackRouting, preference, empty]

lemma country_of_noExitPreference (preference : NoExitPreference hood) (key other direction) :
    validateLastNodeCountryCode hood key false direction =
      validateLastNodeCountryCode hood other false direction := by
  rcases preference with nothing | empty
  · simp [validateLastNodeCountryCode, lastNodeIsAlwaysTrue, nothing]
  · rw [country_of_exitCountries_empty empty key, country_of_exitCountries_empty empty other]

/-- Where the length is prescribed, a path is not longer, unless no Node may be the last. -/
def WithinMinimum (hood : NeighborhoodState) (query : RouteQuery) (path : List PublicKey) : Prop :=
  query.targetOpt = none → NoExitPreference hood →
    ∀ key, validateLastNodeCountryCode hood key false query.direction = true →
      hops path ≤ query.minimumHops

lemma withinMinimum_child (last : lastNodeOf hood path = some lastNode) (inner : pathIsLeaf hood query path = false)
    (isChild : child ∈ pathChildren hood order query path) : WithinMinimum hood query child := by
  intro noTarget preference key country
  obtain ⟨nonempty, _, next, _, _, _, rfl⟩ := exists_snoc_of_child isChild
  obtain ⟨goesOn, _⟩ := (mem_pathChildren last).mp isChild
  rw [hops_snoc nonempty]
  by_contra tooLong
  have past : isPastMinimum hood query.toSearchQuery (query.minimumHops - hops path) = true :=
    isPastMinimum_iff.mpr ⟨by omega, noTarget, preference⟩
  -- so the path was done, and only the country could have refused it
  have done : pathIsDone hood query path lastNode = true := by simpa [past] using goesOn
  rw [country_of_noExitPreference preference key lastNode.publicKey] at country
  simp [pathIsLeaf, last, done, country] at inner

lemma qualifies_of_reaches (reaches : Reaches (pathTree p hood order query) path leaf)
    (simple : SimplePath hood query path) (within : WithinMinimum hood query path) :
    Qualifies hood query leaf := by
  induction reaches with
  | @leaf path isLeaf =>
    simp only [pathTree] at isLeaf
    cases last : lastNodeOf hood path with
    | none => simp [pathIsLeaf, last] at isLeaf
    | some lastNode =>
      obtain ⟨long, ends⟩ := (isLeaf_iff last).mp isLeaf
      obtain ⟨lastIs, _⟩ := lastNodeOf_eq_some.mp last
      refine ⟨simple, long, ?_, fun noTarget preference => ?_⟩
      · intro key isLast
        cases lastIs.symm.trans isLast
        exact ends
      · exact Nat.le_antisymm (within noTarget preference _ ends.country) long
  | @step path child leaf inner isChild _ ih =>
    simp only [pathTree] at inner isChild
    cases last : lastNodeOf hood path with
    | none => simp [pathChildren, last] at isChild
    | some lastNode =>
      refine ih ?_ (withinMinimum_child last inner isChild)
      obtain ⟨_, _, next, lastIs, linked, fresh, rfl⟩ := exists_snoc_of_child isChild
      exact (simplePath_snoc lastIs).mpr ⟨simple, linked, fresh⟩

lemma SimplePath.of_append (nonempty : path ≠ []) (simple : SimplePath hood query (path ++ rest)) :
    SimplePath hood query path :=
  ⟨by rw [← simple.starts, head?_append_of_ne_nil _ nonempty],
    (nodup_append.mp simple.simple).1, (isChain_append.mp simple.links).1⟩

lemma exists_lastNode (known : hood.neighborhoodDatabase.nodeByKey query.source = some source)
    (simple : SimplePath hood query path) : ∃ lastNode, lastNodeOf hood path = some lastNode := by
  rcases eq_nil_or_concat path with rfl | ⟨path, next, rfl⟩
  · exact absurd rfl simple.ne_nil
  · rw [concat_eq_append] at simple ⊢
    rw [lastNodeOf, getLast?_concat]
    cases lastIs : path.getLast? with
    | none =>
      rw [getLast?_eq_none_iff] at lastIs
      subst lastIs
      cases simple.starts
      exact ⟨source, known⟩
    | some last =>
      obtain ⟨_, ⟨_, record, _, found, _⟩, _⟩ := (simplePath_snoc lastIs).mp simple
      exact ⟨record, found⟩

lemma pathUndesirability_le_append (computable : Computable p hood query) (nonempty : path ≠ []) (rest) :
    pathUndesirability p hood query path ≤ pathUndesirability p hood query (path ++ rest) := by
  induction rest generalizing path with
  | nil => simp
  | cons next rest ih =>
    have added := nodeUndesirability_nonneg computable (query.minimumHops - hops path - 1) next
    have nextNonempty : path ++ [next] ≠ [] := by simp
    have later := ih nextNonempty
    rw [pathUndesirability_snoc nonempty, append_assoc, singleton_append] at later
    omega

/-- Every qualifying path costs at least as much as a leaf it begins with. -/
lemma reaches_of_qualifies (computable : Computable p hood query)
    (known : hood.neighborhoodDatabase.nodeByKey query.source = some source) (nonempty : path ≠ [])
    (qualifies : Qualifies hood query (path ++ rest)) :
    ∃ leaf, Reaches (pathTree p hood order query) path leaf ∧
      pathUndesirability p hood query leaf ≤ pathUndesirability p hood query (path ++ rest) := by
  have simple := qualifies.toSimplePath.of_append nonempty
  obtain ⟨lastNode, last⟩ := exists_lastNode known simple
  obtain ⟨lastIs, _⟩ := lastNodeOf_eq_some.mp last
  induction rest generalizing path lastNode with
  | nil =>
    rw [append_nil] at qualifies
    have ends := qualifies.ends lastNode.publicKey lastIs
    exact ⟨path, .leaf ((isLeaf_iff last).mpr ⟨qualifies.long, ends⟩), by simp⟩
  | cons next rest ih =>
    cases isLeaf : pathIsLeaf hood query path with
    | true => exact ⟨path, .leaf isLeaf, pathUndesirability_le_append computable nonempty _⟩
    | false =>
      rw [append_cons] at qualifies ⊢
      have extended : SimplePath hood query (path ++ [next]) := qualifies.toSimplePath.of_append (by simp)
      obtain ⟨_, linked, fresh⟩ := (simplePath_snoc lastIs).mp extended
      -- a path of the prescribed length has no proper part as long
      have goesOn : isPastMinimum hood query.toSearchQuery (query.minimumHops - hops path) = false := by
        by_contra past
        rw [Bool.not_eq_false, isPastMinimum_iff] at past
        have exactLength := qualifies.exactLength past.2.1 past.2.2
        have shorter := length_pos_iff.mpr nonempty
        simp only [hops, length_append, length_singleton] at exactLength past
        omega
      have isChild : path ++ [next] ∈ pathChildren hood order query path :=
        (mem_pathChildren last).mpr ⟨.inr goesOn, next, linked, fresh, rfl⟩
      obtain ⟨nextNode, nextLast⟩ := exists_lastNode known extended
      obtain ⟨leaf, reaches, cheaper⟩ := ih (by simp) qualifies extended nextNode nextLast
        (lastNodeOf_eq_some.mp nextLast).1 (lastNodeOf_eq_some.mp nextLast).2
      exact ⟨leaf, .step isLeaf isChild reaches, cheaper⟩

end

end PulseMesh.Neighborhood
