import PulseMesh.Lib.MarkedSearch
import PulseMesh.Neighborhood.RouteExistence

/-!
# Research for exits

Before a user chooses among countries, the engine researches which Nodes can be exits.  It runs over the
same paths as the search for a route, without costs, and marks the exits on the way.  What it reports can
be reached; it reports everything if one hop is enough, or if it is the first exit on some path.
-/

namespace PulseMesh.Neighborhood

open Machine SubLib MarkedSearch List Option

/-- The search that the research stands for: over, to no target and without a payload. -/
def researchQuery (source : PublicKey) (minimumHops : Nat) : RouteQuery :=
  ⟨source, none, minimumHops, payloadZeroSize, .over, none⟩

section

variable (hood : NeighborhoodState) (order : SetOrder) (query : RouteQuery)

/-- A path long enough to end where it does, whatever the country. -/
structure ExitPath (path : List PublicKey) : Prop extends SimplePath hood query path where
  long : query.minimumHops ≤ hops path
  notTooClose : ∀ last ∈ path.getLast?,
    validateLastNodeNotTooCloseToFirstNode hood path.length query.source last = true

/-- No Node on the way is an exit already. -/
structure FirstExit (path : List PublicKey) : Prop extends ExitPath hood query path where
  first : ∀ before after, path = before ++ after → after ≠ [] → ¬ExitPath hood query before

def exitWalk : Walk PublicKey where
  next path :=
    match lastNodeOf hood path with
    | none => []
    | some lastNode =>
      (nextNodes hood order query.toSearchQuery path lastNode).map NodeRecord.publicKey
  isEnd path :=
    match lastNodeOf hood path with
    | none => false
    | some lastNode => pathIsDone hood query path lastNode

end

variable {p : Profile} {hood : NeighborhoodState} {order : SetOrder} {query : RouteQuery}

/-! ### The walk over simple paths -/

variable {path : List PublicKey}

lemma mem_next_exitWalk {last next} (isLast : path.getLast? = some last) :
    next ∈ (exitWalk hood order query).next path ↔ Linked hood query last next ∧ next ∉ path := by
  have lastNodeIs : lastNodeOf hood path = hood.neighborhoodDatabase.nodeByKey last := by
    rw [lastNodeOf, isLast, bind_some]
  simp only [exitWalk, lastNodeIs]
  constructor
  · intro isNext
    split at isNext
    · cases isNext
    next lastNode found =>
      obtain ⟨record, member, rfl⟩ := mem_map.mp isNext
      exact ((mem_nextNodes found).mp member).2
  · rintro ⟨linked, fresh⟩
    obtain ⟨lastNode, record, found, nextFound, -⟩ := id linked
    cases (nodeByKey_eq_some nextFound).2
    rw [found]
    exact mem_map.mpr ⟨record, (mem_nextNodes found).mpr ⟨nextFound, linked, fresh⟩, rfl⟩

lemma simplePath_append_iff (nonempty : path ≠ []) :
    SimplePath hood query (path ++ rest) ↔
      SimplePath hood query path ∧ Follows (exitWalk hood order query) path rest := by
  induction rest generalizing path with
  | nil => simp [Follows]
  | cons next rest ih =>
    obtain ⟨last, isLast⟩ := isSome_iff_exists.mp (getLast?_isSome.mpr nonempty)
    rw [append_cons, ih (by simp), simplePath_snoc isLast, Follows, mem_next_exitWalk isLast]
    tauto

variable {source : NodeRecord}

lemma isEnd_exitWalk (known : hood.neighborhoodDatabase.nodeByKey query.source = some source)
    (targetless : query.targetOpt = none) (simple : SimplePath hood query path) :
    (exitWalk hood order query).isEnd path = true ↔ ExitPath hood query path := by
  obtain ⟨lastNode, last⟩ := exists_lastNode known simple
  obtain ⟨isLast, -⟩ := lastNodeOf_eq_some.mp last
  simp only [exitWalk, last]
  rw [isDone_iff, targetless]
  constructor
  · rintro ⟨long, -, away⟩
    refine ⟨simple, long, ?_⟩
    intro key isKey
    cases isLast.symm.trans isKey
    exact away
  · rintro ⟨-, long, away⟩
    exact ⟨long, nofun, away _ isLast⟩

lemma length_le_of_known (known : hood.neighborhoodDatabase.nodeByKey query.source = some source)
    (simple : SimplePath hood query path) : path.length ≤ hood.neighborhoodDatabase.nodes.length := by
  have listed : path ⊆ hood.neighborhoodDatabase.nodes.map NodeRecord.publicKey := by
    intro key onPath
    cases path with
    | nil => cases onPath
    | cons first rest =>
      rcases mem_cons.mp onPath with rfl | later
      · cases simple.starts
        obtain ⟨member, isSource⟩ := nodeByKey_eq_some known
        exact mem_map.mpr ⟨source, member, isSource⟩
      · exact known_of_linked simple.links key later
  simpa using (subperm_of_subset simple.simple listed).length_le

lemma unvisited_next_lt (path) : ∀ next ∈ (exitWalk hood order query).next path,
    (unvisited hood (path ++ [next])).length < (unvisited hood path).length := by
  intro next isNext
  cases isLast : path.getLast? with
  | none =>
    have stuck : (exitWalk hood order query).next path = [] := by simp [exitWalk, lastNodeOf, isLast]
    rw [stuck] at isNext
    cases isNext
  | some last =>
    obtain ⟨⟨_, record, _, found, -⟩, fresh⟩ := (mem_next_exitWalk isLast).mp isNext
    exact unvisited_snoc_lt found fresh

/-- A Node of the database that does not list the source. -/
def IsRemote (hood : NeighborhoodState) (source key : PublicKey) : Prop :=
  (hood.neighborhoodDatabase.nodeByKey key).isSome ∧
    hood.neighborhoodDatabase.hasHalfNeighbor key source = false

lemma isEnd_of_isRemote (targetless : query.targetOpt = none) (path last)
    (long : query.minimumHops + 1 ≤ path.length) (isLast : path.getLast? = some last)
    (remote : IsRemote hood query.source last) : (exitWalk hood order query).isEnd path = true := by
  obtain ⟨record, found⟩ := isSome_iff_exists.mp remote.1
  have lastNodeIs : lastNodeOf hood path = some record := by rw [lastNodeOf, isLast, bind_some, found]
  simp only [exitWalk, lastNodeIs]
  rw [isDone_iff, (nodeByKey_eq_some found).2, targetless]
  refine ⟨Nat.le_sub_one_of_lt long, by simp, ?_⟩
  simp [validateLastNodeNotTooCloseToFirstNode, remote.2]

/-! ### The engine in research -/

lemma flatMapNeighbors_marks {visit mark records}
    (visits : ∀ record ∈ records, ∀ state, Returns (visit record state) fun result =>
      result.2.researchExits = mark record.publicKey state.researchExits) (state) :
    Returns (flatMapNeighbors visit records state) fun result =>
      result.2.researchExits = visitAll mark (records.map NodeRecord.publicKey) state.researchExits := by
  induction records generalizing state with
  | nil => exact .ok rfl
  | cons record records ih =>
    rw [forall_mem_cons] at visits
    refine (visits.1 state).bind fun visited marked => ?_
    refine (ih visits.2 visited.2).bind fun others markedOthers => .ok ?_
    rw [markedOthers, marked]
    rfl

def RouteQuery.toResearch (query : RouteQuery) : SearchQuery :=
  { query.toSearchQuery with researchNeighborhood := true }

/-- Costs are summed up in research as well, but the exits do not depend on them. -/
lemma routingEngine_research (computes : Computes p hood query)
    (known : hood.neighborhoodDatabase.nodeByKey query.source = some source) {fuel undesirability}
    (simple : SimplePath hood query path) (total : pathTotal p hood query path = .ok undesirability)
    (enough : (unvisited hood path).length < fuel) (state) :
    Returns (routingEngine p hood order query.toResearch fuel path undesirability
      (query.minimumHops - hops path) state) fun result =>
        result.2.researchExits = mark (exitWalk hood order query) fuel path state.researchExits := by
  induction fuel generalizing path undesirability state with
  | zero => exact absurd enough (Nat.not_lt_zero _)
  | succ fuel ih =>
    obtain ⟨lastNode, last⟩ := exists_lastNode known simple
    obtain ⟨isLast, found⟩ := lastNodeOf_eq_some.mp last
    have goesOn (state : SearchState) : Returns (routingGuts p hood order query.toResearch
        (routingEngine p hood order query.toResearch fuel) path undesirability
        (query.minimumHops - hops path) lastNode state) fun result =>
          result.2.researchExits = visitAll (fun next => mark (exitWalk hood order query) fuel (path ++ [next]))
            ((exitWalk hood order query).next path) state.researchExits := by
      have nextIs : (exitWalk hood order query).next path =
          (nextNodes hood order query.toSearchQuery path lastNode).map NodeRecord.publicKey := by
        simp only [exitWalk, last]
      rw [nextIs]
      refine flatMapNeighbors_marks (fun record isNext state => ?_) state
      obtain ⟨nextFound, linked, fresh⟩ := (mem_nextNodes found).mp isNext
      have extended := (simplePath_snoc isLast).mpr ⟨simple, linked, fresh⟩
      have fewer := unvisited_snoc_lt nextFound fresh
      refine (next_total computes total nextFound simple.ne_nil extended).bind fun newTotal isTotal => ?_
      rw [Nat.sub_sub, ← hops_snoc simple.ne_nil record.publicKey]
      exact ih extended isTotal (by omega) state
    have isEnd : (exitWalk hood order query).isEnd path = pathIsDone hood query path lastNode := by
      simp only [exitWalk, last]
    have done : isDone hood query.toResearch path (query.minimumHops - hops path) query.source lastNode =
      pathIsDone hood query path lastNode := rfl
    have research : query.toResearch.researchNeighborhood = true := rfl
    have unbounded : isPastMinimum hood query.toResearch (query.minimumHops - hops path) = false := by
      simp [isPastMinimum, research]
    simp only [routingEngine, simple.starts, isLast, found, done, research, unbounded, mark, isEnd,
      Bool.not_true, Bool.and_false, Bool.false_and, Bool.true_and, if_true, decide_eq_true_iff,
      Bool.false_eq_true, if_false]
    cases pathIsDone hood query path lastNode with
    | false => exact goesOn state
    | true =>
      by_cases old : lastNode.publicKey ∈ state.researchExits
      · simp only [if_true, old]
        exact .ok rfl
      · simp only [if_true, old, if_false]
        exact goesOn _

/-- The exits are the marks of the search over all simple paths. -/
lemma findExitLocations_eq {source minimumHops}
    (computes : Computes p hood (researchQuery source minimumHops)) {record}
    (known : hood.neighborhoodDatabase.nodeByKey source = some record) :
    findExitLocations p hood order source minimumHops =
      .ok (mark (exitWalk hood order (researchQuery source minimumHops))
        hood.neighborhoodDatabase.nodes.length [source] []) := by
  let query := researchQuery source minimumHops
  have searched : Returns (routingEngine p hood order query.toResearch hood.neighborhoodDatabase.nodes.length
      [source] ⟨0, by decide⟩ minimumHops ⟨i64Max, []⟩) fun result => result.2.researchExits =
        mark (exitWalk hood order query) hood.neighborhoodDatabase.nodes.length [source] [] :=
    routingEngine_research computes known simplePath_source rfl (unvisited_source_lt known) _
  obtain ⟨result, found, marks⟩ := searched
  exact (congrArg (· >>= fun result => pure result.2.researchExits) found).trans (congrArg Except.ok marks)

/-! ### What is reported -/

section

variable {source : PublicKey} {record : NodeRecord} {minimumHops : Nat}
  {exits path : List PublicKey} (computes : Computes p hood (researchQuery source minimumHops))
  (known : hood.neighborhoodDatabase.nodeByKey source = some record)
  (researched : findExitLocations p hood order source minimumHops = .ok exits)
include computes known researched

lemma exists_exitPath_of_mem (isExit : last ∈ exits) : ∃ path,
    ExitPath hood (researchQuery source minimumHops) path ∧ path.getLast? = some last := by
  rw [findExitLocations_eq computes known] at researched
  cases researched
  rcases exists_path_of_mem_mark isExit with old | ⟨rest, follows, isEnd, isLast⟩
  · cases old
  · have simple := (simplePath_append_iff (by simp)).mpr ⟨simplePath_source, follows⟩
    exact ⟨_, (isEnd_exitWalk known rfl simple).mp isEnd, isLast⟩

/-- No path before the first exit is given up. -/
lemma mem_of_firstExit (firstExit : FirstExit hood (researchQuery source minimumHops) path)
    (isLast : path.getLast? = some last) : last ∈ exits := by
  rw [findExitLocations_eq computes known] at researched
  cases researched
  have simple := firstExit.toSimplePath
  have short := length_le_of_known known simple
  cases path with
  | nil => cases isLast
  | cons first rest =>
    cases simple.starts
    refine mem_mark_of_first ((simplePath_append_iff (by simp)).mp simple).2 ?_ ?_ isLast (by simp) short []
    · intro before after split goesOn
      have path : [source] ++ rest = [source] ++ before ++ after := by rw [split, append_assoc]
      have begins : SimplePath hood (researchQuery source minimumHops) ([source] ++ before) :=
        SimplePath.of_append (by simp) (by rw [← path]; exact simple)
      exact Bool.eq_false_iff.mpr fun isEnd =>
        firstExit.first _ after path goesOn ((isEnd_exitWalk known rfl begins).mp isEnd)
    · exact (isEnd_exitWalk known rfl simple).mpr firstExit.toExitPath

/-- If one hop is enough, every Node on the way is an exit or next to the root. -/
lemma mem_of_one_hop (one : minimumHops = 1) (exitPath : ExitPath hood (researchQuery source minimumHops) path)
    (isLast : path.getLast? = some last) : last ∈ exits := by
  subst one
  have away := exitPath.notTooClose last isLast
  have long := exitPath.long
  unfold validateLastNodeNotTooCloseToFirstNode at away
  split at away
  next short =>
    -- a path of one hop has no exit before its end
    refine mem_of_firstExit computes known researched ⟨exitPath, ?_⟩ isLast
    intro before after path goesOn before_
    have shorter := before_.long
    have longer := length_pos_iff.mpr goesOn
    have sum := congrArg length path
    rw [length_append] at sum
    simp only [hops, researchQuery] at shorter
    omega
  next =>
    rw [findExitLocations_eq computes known] at researched
    cases researched
    obtain ⟨lastNode, lastFound⟩ := exists_lastNode known exitPath.toSimplePath
    rw [lastNodeOf, isLast, bind_some] at lastFound
    have remote : IsRemote hood source last := by
      rw [IsRemote, lastFound]
      exact ⟨rfl, by simpa [researchQuery] using away⟩
    cases path with
    | nil => cases isLast
    | cons first rest =>
      cases exitPath.starts
      have follows : Follows (exitWalk hood order (researchQuery source 1)) [source] rest :=
        ((simplePath_append_iff (cons_ne_nil _ [])).mp exitPath.toSimplePath).2
      have restLast : rest.getLast? = some last := by
        cases rest with
        | nil => cases long
        | cons => exact isLast
      have endIs (path : List PublicKey) (last : PublicKey) (long : 2 ≤ path.length)
          (isLast : path.getLast? = some last) (remote : IsRemote hood source last) :
          (exitWalk hood order (researchQuery source 1)).isEnd path = true :=
        isEnd_of_isRemote rfl path last long isLast remote
      exact mem_mark_of_open (fun path last next => mem_next_exitWalk) (fun path => (unvisited hood path).length)
        endIs unvisited_next_lt (unvisited_source_lt known) follows restLast remote

end

/-! ### Countries -/

section

variable (hood : NeighborhoodState)

/-- The same neighborhood, for a user who accepts exits in one country only. -/
def restrictTo (country : String) : NeighborhoodState :=
  { hood with
    userExitPreferences := { hood.userExitPreferences with
      exitCountries := [country], fallbackPreference := .exitCountryNoFallback } }

def EndsIn (country : String) (path : List PublicKey) : Prop :=
  ∃ record, lastNodeOf hood path = some record ∧ record.countryCodeOpt = some country

def Reported (exits : List PublicKey) (country : String) : Prop :=
  ∃ key ∈ exits, ∃ record, hood.neighborhoodDatabase.nodeByKey key = some record ∧
    record.countryCodeOpt = some country

/-- If there are exits in the country, then one of them is the first exit on some path. -/
def Prominent (query : RouteQuery) (country : String) : Prop :=
  (∃ path, ExitPath hood query path ∧ EndsIn hood country path) →
    ∃ path, FirstExit hood query path ∧ EndsIn hood country path

variable {hood} {source : PublicKey} {minimumHops : Nat} {path : List PublicKey}

/-- Without fallback, an exit has to be in one of the countries. -/
lemma validateLastNodeCountryCode_of_noFallback
    (noFallback : hood.userExitPreferences.fallbackPreference = .exitCountryNoFallback) :
    validateLastNodeCountryCode hood key false .over = true ↔
      ∃ record, hood.neighborhoodDatabase.nodeByKey key = some record ∧
        ∃ country ∈ hood.userExitPreferences.exitCountries, record.countryCodeOpt = some country := by
  have strict : lastNodeIsAlwaysTrue hood key false .over = false := by
    simp [lastNodeIsAlwaysTrue, isFallbackAndLastNodeQualifies, noFallback]
  simp only [validateLastNodeCountryCode, strict, Bool.false_eq_true, if_false]
  cases hood.neighborhoodDatabase.nodeByKey key with
  | none => simp
  | some record => cases code : record.countryCodeOpt <;> simp [code]

lemma validateLastNodeCountryCode_restrictTo :
    validateLastNodeCountryCode (restrictTo hood country) key false .over = true ↔
      ∃ record, hood.neighborhoodDatabase.nodeByKey key = some record ∧
        record.countryCodeOpt = some country := by
  rw [validateLastNodeCountryCode_of_noFallback rfl]
  simp [restrictTo]

/-- The restricted search looks for the exit paths that end in the country. -/
lemma qualifies_restrictTo_iff (known : (hood.neighborhoodDatabase.nodeByKey source).isSome) :
    Qualifies (restrictTo hood country) ⟨source, none, minimumHops, payloadSize, .over, hostnameOpt⟩ path ↔
      ExitPath hood (researchQuery source minimumHops) path ∧ EndsIn hood country path := by
  constructor
  · intro qualifies
    have simple : SimplePath hood (researchQuery source minimumHops) path :=
      { qualifies with }
    obtain ⟨record, sourceFound⟩ := isSome_iff_exists.mp known
    obtain ⟨lastNode, last⟩ := exists_lastNode sourceFound simple
    obtain ⟨isLast, found⟩ := lastNodeOf_eq_some.mp last
    refine ⟨⟨simple, qualifies.long, fun key isKey => (qualifies.ends key isKey).notTooClose⟩, ?_⟩
    obtain ⟨record, foundAgain, code⟩ :=
      validateLastNodeCountryCode_restrictTo.mp (qualifies.ends _ isLast).country
    cases found.symm.trans foundAgain
    exact ⟨lastNode, last, code⟩
  · rintro ⟨exitPath, record, last, code⟩
    obtain ⟨isLast, found⟩ := lastNodeOf_eq_some.mp last
    refine ⟨{ exitPath with }, exitPath.long, ?_, ?_⟩
    · intro key isKey
      cases isLast.symm.trans isKey
      exact ⟨nofun, exitPath.notTooClose _ isLast,
        validateLastNodeCountryCode_restrictTo.mpr ⟨record, found, code⟩⟩
    · -- the length is prescribed only if no country is
      rintro - (nothing | empty)
      · cases nothing
      · cases empty

lemma addHops_restrictTo (query) (hopsRemaining : Nat) (undesirability keys) :
    addHops p (restrictTo hood country) query hopsRemaining undesirability keys =
      addHops p hood query hopsRemaining undesirability keys := by
  induction keys generalizing hopsRemaining undesirability with
  | nil => rfl
  | cons key keys ih =>
    simp only [addHops, ih]
    rfl

lemma computes_restrictTo (computes : Computes p hood
    ⟨source, none, minimumHops, payloadSize, .over, hostnameOpt⟩) : Computes p (restrictTo hood country)
      ⟨source, none, minimumHops, payloadSize, .over, hostnameOpt⟩ := by
  intro path simple
  obtain ⟨total, computed⟩ := computes path { simple with }
  refine ⟨total, Eq.trans ?_ computed⟩
  simp only [pathTotal, addHops_restrictTo]
  rfl

lemma exists_exitPath_of_found (known : (hood.neighborhoodDatabase.nodeByKey source).isSome)
    (found : findBestRouteSegment p (restrictTo hood country) order source none minimumHops payloadSize .over
      hostnameOpt = .ok (some path)) :
    ExitPath hood (researchQuery source minimumHops) path ∧ EndsIn hood country path := by
  obtain ⟨simple, long, ends⟩ := @findBestRouteSegment_sound p (restrictTo hood country)
    ⟨source, none, minimumHops, payloadSize, .over, hostnameOpt⟩ path order found
  refine (qualifies_restrictTo_iff known).mp ⟨simple, long, ends, ?_⟩
  rintro - (nothing | empty)
  · cases nothing
  · cases empty

section

variable {record : NodeRecord} {exits : List PublicKey}
  (research : Computes p hood (researchQuery source minimumHops))
  (known : hood.neighborhoodDatabase.nodeByKey source = some record)
  (researched : findExitLocations p hood order source minimumHops = .ok exits)
include research known researched

lemma exists_exitPath_of_reported (reported : Reported hood exits country) :
    ∃ path, ExitPath hood (researchQuery source minimumHops) path ∧ EndsIn hood country path := by
  obtain ⟨key, isExit, record, found, code⟩ := reported
  obtain ⟨path, exitPath, isLast⟩ := exists_exitPath_of_mem research known researched isExit
  exact ⟨path, exitPath, record, by rw [lastNodeOf, isLast, bind_some, found], code⟩

lemma reported_of_exitPath
    (complete : minimumHops = 1 ∨ Prominent hood (researchQuery source minimumHops) country)
    (exitPath : ExitPath hood (researchQuery source minimumHops) path) (endsIn : EndsIn hood country path) :
    Reported hood exits country := by
  rcases complete with one | prominent
  · obtain ⟨record, last, code⟩ := endsIn
    obtain ⟨isLast, found⟩ := lastNodeOf_eq_some.mp last
    exact ⟨_, mem_of_one_hop research known researched one exitPath isLast, record, found, code⟩
  · obtain ⟨path, firstExit, record, last, code⟩ := prominent ⟨path, exitPath, endsIn⟩
    obtain ⟨isLast, found⟩ := lastNodeOf_eq_some.mp last
    exact ⟨_, mem_of_firstExit research known researched firstExit isLast, record, found, code⟩

/-- A country in which an exit was reported can be asked for, and with one hop or a first exit there,
what can be asked for was reported. -/
lemma reported_iff_found
    (search : Computes p hood ⟨source, none, minimumHops, payloadSize, .over, hostnameOpt⟩) :
    Returns (findBestRouteSegment p (restrictTo hood country) order' source none minimumHops payloadSize .over
      hostnameOpt) fun found => (Reported hood exits country → found.isSome) ∧
        (minimumHops = 1 ∨ Prominent hood (researchQuery source minimumHops) country →
          (Reported hood exits country ↔ found.isSome)) := by
  have isKnown := isSome_iff_exists.mpr ⟨record, known⟩
  have answers : Returns (findBestRouteSegment p (restrictTo hood country) order' source none minimumHops
      payloadSize .over hostnameOpt) fun found => (∃ path, Qualifies (restrictTo hood country)
        ⟨source, none, minimumHops, payloadSize, .over, hostnameOpt⟩ path) → found.isSome :=
    findBestRouteSegment_finds (computes_restrictTo search) known
  obtain ⟨found, searched, finds⟩ := answers
  refine ⟨found, searched, ?_⟩
  have finds (reported : Reported hood exits country) : found.isSome := by
    obtain ⟨path, exits⟩ := exists_exitPath_of_reported research known researched reported
    exact finds ⟨path, (qualifies_restrictTo_iff isKnown).mpr exits⟩
  refine ⟨finds, fun complete => ⟨finds, fun isFound => ?_⟩⟩
  obtain ⟨path, rfl⟩ := isSome_iff_exists.mp isFound
  obtain ⟨exitPath, endsIn⟩ := exists_exitPath_of_found isKnown searched
  exact reported_of_exitPath research known researched complete exitPath endsIn

end

end

end PulseMesh.Neighborhood
