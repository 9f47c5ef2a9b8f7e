import PulseMesh.Lib.BoundedCover
import PulseMesh.NeighborhoodActor.StrictExits

/-!
# The patch of the neighborhood

Of what standard gossip tells, a Node keeps the part within reach: the patch.  Its size is to be at least
the minimum hops, so that routes can be found in it.  The constructor and a change of the minimum hops set
both.  The start of the actor sets the minimum hops alone.

The patch is collected by a depth-first search that passes every Node once, with the hops that are left on
the first way there.  A Node near the root can be missed if that way was a long one.
-/

namespace PulseMesh.Gossip

open SubLib BoundedCover List

/-- The Node's own record tells of its neighbors, the gossip of the neighbors of others. -/
def neighborsInGossip (agrs : List AccessibleGossipRecord) (rootNode : NodeRecord) (key : PublicKey) :
    Option (List PublicKey) :=
  if key = rootNode.publicKey then
    some rootNode.inner.neighbors.toList
  else
    (agrs.reverse.find? fun agr => decide (agr.inner.publicKey = key)).map fun agr => agr.inner.neighbors.toList

variable {agrs : List AccessibleGossipRecord} {rootNode : NodeRecord} {dbPatchSize : Nat}
  {path : List PublicKey}

lemma computePatchRecursive_eq_cover (neighborsOf : PublicKey → Option (SortedSet PublicKey))
    (hopsRemaining : Nat) (current patch) :
    computePatchRecursive neighborsOf hopsRemaining current patch =
      cover (fun key => (neighborsOf key).map SortedSet.toList) hopsRemaining current patch := by
  induction hopsRemaining generalizing current patch with
  | zero => rfl
  | succ hopsRemaining ih =>
    cases recorded : neighborsOf current with
    | none => simp [computePatchRecursive, cover, recorded]
    | some neighbors => simp [computePatchRecursive, cover, recorded, ih]

lemma computePatch_eq_cover : computePatch agrs rootNode dbPatchSize =
    cover (neighborsInGossip agrs rootNode) dbPatchSize rootNode.publicKey [] := by
  have told : (fun key => (if key = rootNode.publicKey then some rootNode.inner.neighbors else
      (agrs.reverse.find? fun agr => decide (agr.inner.publicKey = key)).map
        fun agr => agr.inner.neighbors).map SortedSet.toList) = neighborsInGossip agrs rootNode := by
    funext key
    unfold neighborsInGossip
    split
    · rfl
    · rw [Option.map_map]
      rfl
  unfold computePatch
  rw [computePatchRecursive_eq_cover, told]

/-- A way from the root to a Node, as far as the Node can know. -/
structure GossipPath (agrs : List AccessibleGossipRecord) (rootNode : NodeRecord) (path : List PublicKey) :
    Prop where
  starts : path.head? = some rootNode.publicKey
  links : path.IsChain (Link (neighborsInGossip agrs rootNode))

/-- A way that uses up the hops leads to the Node, so that the search may not go on from there. -/
def Shadowed (agrs : List AccessibleGossipRecord) (rootNode : NodeRecord) (dbPatchSize : Nat)
    (key : PublicKey) : Prop :=
  ∃ path, GossipPath agrs rootNode path ∧ path.Nodup ∧ path.getLast? = some key ∧
    path.length = dbPatchSize + 1

lemma isSome_neighborsInGossip (listed : agr ∈ agrs) :
    (neighborsInGossip agrs rootNode agr.inner.publicKey).isSome := by
  unfold neighborsInGossip
  split
  · rfl
  · rw [Option.isSome_map, find?_isSome]
    exact ⟨agr, mem_reverse.mpr listed, by simp⟩

/-- All Nodes on the way have a record, the last one by assumption. -/
lemma isSome_of_gossipPath (links : path.IsChain (Link (neighborsInGossip agrs rootNode)))
    (isLast : path.getLast? = some last) (known : (neighborsInGossip agrs rootNode last).isSome) :
    ∀ key ∈ path, (neighborsInGossip agrs rootNode key).isSome := by
  refine links.backwards_induction _ _ ?_ fun nonempty => ?_
  · rintro key other ⟨neighbors, recorded, -⟩ -
    rw [recorded]
    rfl
  · rwa [getLast_of_getLast?_eq_some isLast]

/-- A record is accepted if no Node on some way to it is shadowed. -/
lemma mem_filterAgrsByPatch_of_path (listed : agr ∈ agrs) (leads : GossipPath agrs rootNode path)
    (isLast : path.getLast? = some agr.inner.publicKey)
    (unshadowed : ∀ key ∈ path.dropLast, ¬Shadowed agrs rootNode dbPatchSize key) :
    agr ∈ filterAgrsByPatch agrs (computePatch agrs rootNode dbPatchSize) := by
  rw [computePatch_eq_cover, filterAgrsByPatch, mem_filter]
  refine ⟨listed, decide_eq_true ?_⟩
  refine mem_cover_of_walk leads.starts leads.links
    (isSome_of_gossipPath leads.links isLast (isSome_neighborsInGossip listed)) ?_ _
    (mem_of_mem_getLast? isLast)
  rintro key isBefore ⟨walk, walks, isEnd, length⟩
  exact unshadowed key isBefore ⟨walk, ⟨walks.starts, walks.links⟩, walks.simple, isEnd, length⟩

end PulseMesh.Gossip

namespace PulseMesh.NeighborhoodActor

open Machine SubLib Gossip Runs

/-! ### The size of the patch -/

section

variable {state next : ActorState}

/-- The minimum hops and the size of the patch. -/
def Settings.sizes (settings : Settings) : Hops × Nat := (settings.minHops, settings.dbPatchSize)

def sizesAfter (sizes : Hops × Nat) : ActorEvent → Hops × Nat
  | .delivered delivery => (minHopsAfter sizes.1 delivery.message, sizes.2)
  | .exitLocation _ _ => sizes
  | .configChange _ (.updateMinHops newMinHops) => (newMinHops, calculateDbPatchSize newMinHops)
  | .configChange _ _ => sizes

lemma setCountryUndesirability_sizes
    (set : setCountryUndesirabilityAndExitCountries env state exitLocations = .ok next) :
    next.settings.sizes = state.settings.sizes := by
  rw [setCountryUndesirability_settings set]
  split
  · rfl
  · rfl

lemma renewExitLocations_sizes (renewed : renewExitLocations env state = .ok next) :
    next.settings.sizes = state.settings.sizes := by
  unfold renewExitLocations at renewed
  split at renewed
  · cases renewed
    rfl
  · rw [setCountryUndesirability_sizes renewed]
    rfl

lemma applyPreferences_sizes (applied : applyPreferences env state request = .ok next) :
    next.settings.sizes = state.settings.sizes := by
  unfold applyPreferences at applied
  split at applied
  · exact setCountryUndesirability_sizes applied
  · cases applied
    rfl

lemma handleEvent_sizes (handled : handleEvent env state event = .ok next) :
    next.settings.sizes = sizesAfter state.settings.sizes event := by
  cases event with
  | delivered delivery =>
    rw [handle_settings handled]
    rfl
  | exitLocation orders request =>
    obtain ⟨⟨requested, answer⟩, acts, handled⟩ := ok_of_bind handled
    cases handled
    obtain ⟨dbCountries, -, applied⟩ := handleExitLocationMessage_eq_ok env acts
    rw [applyPreferences_sizes applied]
    rfl
  | configChange orders change =>
    cases change with
    | updateWallets | updatePassword =>
      cases handled
      rfl
    | updateMinHops newMinHops =>
      obtain ⟨counted, counts, handled⟩ := ok_of_bind handled
      obtain ⟨renewed, renews, searched⟩ := ok_of_bind handled
      rw [(searchForANewRoute_same searched).2, renewExitLocations_sizes renews, (withDbCountries_same counts).2]
      split
      · rfl
      · rfl

/-- The patch is as large as the minimum hops, and never smaller than by default. -/
def HasPatchSize (state : ActorState) : Prop :=
  state.dbPatchSize = max defaultMinHops.toNat state.minHops.toNat

lemma calculateDbPatchSize_eq_max (minHops) :
    calculateDbPatchSize minHops = max defaultMinHops.toNat minHops.toNat := by
  unfold calculateDbPatchSize
  split <;> omega

/-- The actor starts with minimum hops that need no other patch. -/
def KeepsPatchSize (state : ActorState) : ActorEvent → Prop
  | .delivered ⟨_, _, .start minHopsInDatabase⟩ =>
    max defaultMinHops.toNat minHopsInDatabase.toNat = max defaultMinHops.toNat state.minHops.toNat
  | _ => True

lemma hasPatchSize_iff (handled : handleEvent env state event = .ok next) (sized : HasPatchSize state) :
    HasPatchSize next ↔ KeepsPatchSize state event := by
  have sizes := handleEvent_sizes handled
  have minHops : next.minHops = (sizesAfter state.settings.sizes event).1 := congrArg Prod.fst sizes
  have dbPatchSize : next.dbPatchSize = (sizesAfter state.settings.sizes event).2 := congrArg Prod.snd sizes
  unfold HasPatchSize at sized ⊢
  rw [minHops, dbPatchSize]
  cases event with
  | delivered delivery =>
    obtain ⟨orders, now, message⟩ := delivery
    cases message with
    | start minHopsInDatabase =>
      change state.dbPatchSize = max _ minHopsInDatabase.toNat ↔ _
      rw [sized]
      exact eq_comm
    | _ => exact iff_of_true sized trivial
  | exitLocation orders request => exact iff_of_true sized trivial
  | configChange orders change =>
    cases change with
    | updateMinHops newMinHops => exact iff_of_true (calculateDbPatchSize_eq_max newMinHops) trivial
    | _ => exact iff_of_true sized trivial

lemma hasPatchSize_new (constructed : ActorState.new env now config = .ok state) : HasPatchSize state := by
  obtain ⟨-, -, -, minHops, dbPatchSize⟩ := new_state constructed
  rw [HasPatchSize, minHops, dbPatchSize]
  exact calculateDbPatchSize_eq_max config.minHops

end

/-- **Patch size**: it follows the minimum hops in every state if and only if the actor never starts with
minimum hops that need another patch.  Whatever the size, what is told of a Node is taken into account if
there is a way to the Node that is never in the shadow of a longer one. -/
theorem patch_size_follows_min_hops_iff (env : NodeEnvironment) (now : U32) (config : BootstrapperConfig)
    (state : ActorState) (constructed : ActorState.new env now config = .ok state) (events : List ActorEvent) :
    ((∀ before after reached, events = before ++ after → run (handleEvent env) state before = .ok reached →
        HasPatchSize reached) ↔
      Along (handleEvent env)
        (fun state event => ∀ next, handleEvent env state event = .ok next → KeepsPatchSize state event)
        state events) ∧
    ∀ reached rootNode agrs path, ∀ agr ∈ agrs, run (handleEvent env) state events = .ok reached →
      reached.neighborhoodDatabase.root = .ok rootNode → GossipPath agrs rootNode path →
      path.getLast? = some agr.inner.publicKey →
      (∀ key ∈ path.dropLast, ¬Shadowed agrs rootNode reached.dbPatchSize key) →
      agr ∈ filterAgrsByPatch agrs
        (computePatch agrs rootNode (neighborhoodMetadata reached).dbPatchSize) := by
  constructor
  · have kept_iff : ∀ state event next, True → HasPatchSize state → handleEvent env state event = .ok next →
        (HasPatchSize next ↔ KeepsPatchSize state event) :=
      fun state event next _ sized handled => hasPatchSize_iff handled sized
    exact always_iff_along (fun _ _ _ _ _ => trivial) kept_iff trivial (hasPatchSize_new constructed)
  · intro reached rootNode agrs path agr listed _ _ leads isLast unshadowed
    exact mem_filterAgrsByPatch_of_path listed leads isLast unshadowed

/-! ### Nodes that are missed -/

def hermitConfig (minHops : Hops) : BootstrapperConfig :=
  ⟨.standard (sampleNodeAddr 1) [] NeighborhoodMode.zeroRatePack, minHops, ⟨1⟩, none, none⟩

def startEvent (minHopsInDatabase : Hops) : ActorEvent := .delivered (sampleDelivery (.start minHopsInDatabase))

theorem start_keeps_patch_size : ∃ state reached,
    ActorState.new debutEnvironment sampleNow (hermitConfig .twoHops) = .ok state ∧
    run (handleEvent debutEnvironment) state [startEvent .oneHop] = .ok reached ∧
    HasPatchSize reached := by
  refine ⟨_, _, rfl, rfl, ?_⟩
  have sized := (patch_size_follows_min_hops_iff debutEnvironment sampleNow (hermitConfig .twoHops) _ rfl
    [startEvent .oneHop]).1.mpr ⟨fun _ _ => rfl, fun _ _ => trivial⟩
  exact sized [startEvent .oneHop] [] _ rfl rfl

/-- The Nodes 2 and 3 are neighbors of the root and of each other; the Nodes 4 and 5 are behind the Node 3. -/
def shadowGossip : List AccessibleGossipRecord :=
  [sampleAgr (sampleInner 2 ⟨0, u32_zero⟩ [1, 3]) none, sampleAgr (sampleInner 3 ⟨0, u32_zero⟩ [1, 2, 4]) none,
    sampleAgr (sampleInner 4 ⟨0, u32_zero⟩ [3, 5]) none, sampleAgr (sampleInner 5 ⟨0, u32_zero⟩ [4]) none]

/-- A start with six hops leaves the patch at three.  And where it is large enough, three hops are used
up on the way by the Node 2, so that the Node 5 is missed, which is three hops away. -/
theorem patch_is_too_small :
    (∃ state reached,
      ActorState.new debutEnvironment sampleNow (hermitConfig .threeHops) = .ok state ∧
      run (handleEvent debutEnvironment) state [startEvent .sixHops] = .ok reached ∧
      reached.minHops = .sixHops ∧ reached.dbPatchSize = 3) ∧
    calculateDbPatchSize .threeHops = 3 ∧
    GossipPath shadowGossip (sampleNode 1 [2, 3]) [sampleKey 1, sampleKey 3, sampleKey 4, sampleKey 5] ∧
    (filterAgrsByPatch shadowGossip (computePatch shadowGossip (sampleNode 1 [2, 3]) 3)).map
      (fun agr => agr.inner.publicKey) = [sampleKey 2, sampleKey 3, sampleKey 4] := by
  refine ⟨⟨_, _, rfl, rfl, rfl, rfl⟩, rfl, ⟨rfl, ?_⟩, by decide⟩
  simp only [List.isChain_cons_cons, List.isChain_singleton, and_true]
  refine ⟨⟨_, rfl, ?_⟩, ⟨_, rfl, ?_⟩, ⟨_, rfl, ?_⟩⟩ <;> decide

/-! ### The patch as a ball around the root -/

section

open BoundedCover

/-- What the database knows of a Node comes before what the gossip tells. -/
def neighborsKnown (db : NeighborhoodDatabase) (agrs : List AccessibleGossipRecord) (rootNode : NodeRecord)
    (key : PublicKey) : Option (List PublicKey) :=
  ((db.nodeByKey key).map fun record => record.inner.neighbors.toList).or (neighborsInGossip agrs rootNode key)

/-- A Node that knows no other one. -/
def hermitDatabase (neighbors : List UInt8) : NeighborhoodDatabase :=
  NeighborhoodDatabase.addArbitraryNode ⟨sampleKey 1, ∅, ∅⟩ (sampleNode 1 neighbors)

end

end PulseMesh.NeighborhoodActor
