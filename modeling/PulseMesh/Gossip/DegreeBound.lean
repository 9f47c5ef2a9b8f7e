import PulseMesh.Gossip.RootNeighbors

/-!
# How many neighbors the Node can get

Before it links a new neighbor, the Node counts the neighbors that have linked it in turn, and stops at
five.  A neighbor that has debuted and has not answered since is not counted, so the bound holds only
for the neighbors that reciprocate.
-/

namespace PulseMesh.Gossip

open Machine SubLib NeighborhoodDatabase Runs List

variable {env : Environment} {db db' : NeighborhoodDatabase} {root : NodeRecord} {key : PublicKey}

def halfNeighborKeys (db : NeighborhoodDatabase) : List PublicKey :=
  ((rootNeighbors db).map SortedSet.toList).getD []

def acceptingHalfNeighbors (db : NeighborhoodDatabase) : List PublicKey :=
  (halfNeighborKeys db).filter (acceptsConnections db)

/-- Between the two databases no half neighbor has begun to accept connections, and if there is a new
half neighbor, then those that accept connections have all linked the Node. -/
def Reciprocated (db db' : NeighborhoodDatabase) : Prop :=
  (∀ key ∈ halfNeighborKeys db, acceptsConnections db' key = true → acceptsConnections db key = true) ∧
    (halfNeighborKeys db' ≠ halfNeighborKeys db → ∀ key ∈ halfNeighborKeys db,
      acceptsConnections db' key = true → db'.hasHalfNeighbor key db.thisNode = true)

instance : Decidable (Reciprocated db db') := inferInstanceAs (Decidable (_ ∧ _))

def Reciprocates (env : Environment) (state : AcceptorState) (received : GossipReceived) : Prop :=
  ∀ next ∈ (gossipStep env state received).toOption, Reciprocated state.database next.database

instance {state : AcceptorState} {received : GossipReceived} :
    Decidable (Reciprocates env state received) :=
  inferInstanceAs (Decidable (∀ next ∈ Except.toOption _, Reciprocated _ _))

/-! ### Counting -/

lemma length_acceptingHalfNeighbors :
    (acceptingHalfNeighbors db).length = (halfNeighborKeys db).countP (acceptsConnections db) :=
  (countP_eq_length_filter ..).symm

lemma halfNeighborKeys_of_rooted (rooted : db.HasRoot root) :
    halfNeighborKeys db = root.inner.neighbors.toList := by
  rw [halfNeighborKeys, rootNeighbors, rooted]
  rfl

/-- The degree counts the full neighbors that accept connections, and more. -/
lemma countP_le_gossipTargetDegree (found : db.nodeByKey key = some record) :
    (db.fullNeighborKeys record).countP (acceptsConnections db) ≤ db.gossipTargetDegree key := by
  have accepts_eq : acceptsConnections db = fun k =>
      ((db.nodeByKey k).map fun neighbor => neighbor.inner.acceptsConnections).getD false := by
    funext k
    rw [acceptsConnections]
    cases db.nodeByKey k <;> rfl
  rw [gossipTargetDegree, found, accepts_eq]
  dsimp only
  rw [← countP_eq_length_filter, countP_filterMap]
  exact Nat.le_add_right _ _

/-- There has been room for a neighbor more if the accepting ones among the old ones are full ones. -/
lemma countP_lt_maxDegree (found : checked.nodeByKey root.publicKey = some root)
    (room : checked.gossipTargetDegree root.publicKey < maxDegree ∨
      (checked.fullNeighborKeys root).length < maxDegree)
    (full : ∀ key ∈ root.inner.neighbors.toList, accepts key = true →
      acceptsConnections checked key = true ∧ checked.hasHalfNeighbor key root.publicKey = true) :
    root.inner.neighbors.toList.countP accepts < maxDegree := by
  have counted : root.inner.neighbors.toList.countP accepts ≤
      (checked.fullNeighborKeys root).countP (acceptsConnections checked) := by
    rw [fullNeighborKeys, countP_filter]
    refine countP_mono_left fun key linked accepting => ?_
    rw [Bool.and_eq_true]
    exact full key linked accepting
  rcases room with degree | length
  · exact (counted.trans (countP_le_gossipTargetDegree found)).trans_lt degree
  · exact (counted.trans countP_le_length).trans_lt length

/-! ### Steps and runs -/

lemma halfNeighborKeys_ne_of_linked (linked : LinkedWithRoom db checked db' root key) :
    halfNeighborKeys db' ≠ halfNeighborKeys db := by
  rw [halfNeighborKeys_of_rooted linked.rooted, halfNeighborKeys, linked.linked]
  intro same
  have longer := (SortedSet.perm_insert linked.new).length_eq
  simp only [Option.map_some, Option.getD_some] at same
  rw [same, length_cons] at longer
  omega

lemma few_of_linked (grounded : Grounded db) (linked : LinkedWithRoom db checked db' root key)
    (reciprocated : Reciprocated db db') : (acceptingHalfNeighbors db').length ≤ maxDegree := by
  have allFull := reciprocated.2 (halfNeighborKeys_ne_of_linked linked)
  have keyed := grounded.keyed _ _ linked.rooted
  have few : root.inner.neighbors.toList.countP (acceptsConnections db') < maxDegree := by
    refine countP_lt_maxDegree (keyed ▸ linked.sameRoot) linked.room fun neighbor isLinked accepting => ?_
    have foreign : neighbor ≠ db.thisNode := by
      rintro rfl
      exact grounded.foreign root linked.rooted isLinked
    -- the new link is not in the record of an old neighbor
    have same := linked.sameOthers neighbor isLinked foreign
    have full := allFull neighbor (halfNeighborKeys_of_rooted linked.rooted ▸ isLinked) accepting
    rw [acceptsConnections, Gossip.NeighborhoodDatabase.hasHalfNeighbor, same, keyed]
    exact ⟨accepting, full⟩
  rw [length_acceptingHalfNeighbors, halfNeighborKeys, linked.linked]
  calc ((some (root.inner.neighbors.insert key)).map SortedSet.toList |>.getD []).countP
        (acceptsConnections db')
      = (key :: root.inner.neighbors.toList).countP (acceptsConnections db') :=
        (SortedSet.perm_insert linked.new).countP_eq _
    _ ≤ root.inner.neighbors.toList.countP (acceptsConnections db') + 1 := by
        rw [countP_cons]
        split <;> omega
    _ ≤ maxDegree := few

/-- **One step**: gossip whose neighbors reciprocate keeps the bound. -/
theorem few_of_outcome (grounded : Grounded db) (outcome : Outcome env agrs db handled)
    (few : (acceptingHalfNeighbors db).length ≤ maxDegree) (reciprocated : Reciprocated db handled.database) :
    (acceptingHalfNeighbors handled.database).length ≤ maxDegree := by
  rcases outcome.room with unchanged | ⟨checked, root, key, linked⟩
  · rw [length_acceptingHalfNeighbors] at few ⊢
    have same : halfNeighborKeys handled.database = halfNeighborKeys db := by
      rw [halfNeighborKeys, unchanged, halfNeighborKeys]
    rw [same]
    exact (countP_mono_left reciprocated.1).trans few
  · exact few_of_linked grounded linked reciprocated

theorem accepting_neighbors_le_maxDegree {state : AcceptorState} {received : List GossipReceived}
    (grounded : Grounded state.database)
    (few : (acceptingHalfNeighbors state.database).length ≤ maxDegree)
    (along : Along (gossipStep env) (Reciprocates env) state received)
    {before after : List GossipReceived} (split : received = before ++ after) {reached : AcceptorState}
    (reaches : run (gossipStep env) state before = .ok reached) :
    (acceptingHalfNeighbors reached.database).length ≤ maxDegree := by
  let Bounded (state : AcceptorState) : Prop :=
    Grounded state.database ∧ (acceptingHalfNeighbors state.database).length ≤ maxDegree
  have kept : ∀ state received next, Bounded state → Reciprocates env state received →
      gossipStep env state received = .ok next → Bounded next := by
    rintro state received next ⟨grounded, few⟩ reciprocates stepped
    have reciprocated := reciprocates next (by rw [stepped]; rfl)
    obtain ⟨acceptance, accepted, stepped⟩ := ok_of_bind stepped
    cases stepped
    have outcome := acceptGossip_outcome accepted
    exact ⟨grounded.changes outcome.changes, few_of_outcome grounded outcome few reciprocated⟩
  subst split
  exact (invariant_of_run kept (along_of_append along) ⟨grounded, few⟩ reaches).2

/-! ### Debuts without an answer -/

/-- A Node that debuts with a neighbor. -/
def debutInner (neighbor label : UInt8) : NodeRecordInner := sampleInner label ⟨0, u32_zero⟩ [neighbor]

def crowdedEnvironment : Environment :=
  sampleEnvironment [sampleInner 1 ⟨0, u32_zero⟩ [], sampleInner 1 ⟨1, u32_one⟩ [2],
    sampleInner 1 ⟨2, by decide⟩ [2, 3], sampleInner 1 ⟨3, by decide⟩ [2, 3, 4],
    sampleInner 1 ⟨4, by decide⟩ [2, 3, 4, 5], sampleInner 1 ⟨5, by decide⟩ [2, 3, 4, 5, 6],
    sampleInner 1 ⟨6, by decide⟩ [2, 3, 4, 5, 6, 7]]

theorem six_debuts_exceed_maxDegree : ∃ db reached,
    NeighborhoodDatabase.new crowdedEnvironment sampleNow sampleMode ⟨1⟩ = .ok db ∧
    run (gossipStep crowdedEnvironment) ⟨db, ∅⟩
      ([2, 3, 4, 5, 6, 7].map fun label => sampleReceived (debutInner 9 label) label) = .ok reached ∧
    maxDegree < (acceptingHalfNeighbors reached.database).length := by
  refine ⟨_, _, rfl, rfl, ?_⟩
  decide

/-- Nodes that have linked this Node when they debut. -/
def reciprocatingDebuts : List GossipReceived :=
  [2, 3].map fun label => sampleReceived (debutInner 1 label) label

theorem two_reciprocating_debuts : ∃ db reached,
    NeighborhoodDatabase.new crowdedEnvironment sampleNow sampleMode ⟨1⟩ = .ok db ∧
    run (gossipStep crowdedEnvironment) ⟨db, ∅⟩ reciprocatingDebuts = .ok reached ∧
    (acceptingHalfNeighbors reached.database).length ≤ maxDegree := by
  refine ⟨_, _, rfl, rfl, ?_⟩
  exact @accepting_neighbors_le_maxDegree crowdedEnvironment ⟨_, ∅⟩ reciprocatingDebuts
    (@grounded_new crowdedEnvironment _ sampleNow sampleMode ⟨1⟩ rfl) (by decide) (by decide)
    reciprocatingDebuts [] rfl _ rfl

end PulseMesh.Gossip
