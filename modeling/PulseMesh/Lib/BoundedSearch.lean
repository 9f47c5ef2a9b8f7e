import PulseMesh.Lib.Machine

/-!
# Bounded search

A depth-first search for the cheapest leaf of a tree.  The cost of the cheapest leaf found so far is
handed on from branch to branch, and a node that costs more is not looked at.  As costs do not fall
on the way down, what is left out is never better than what has been found.

The tree is given by its children function; a leaf ends the search below it.  The search recurses on
fuel, and any measure that falls from parent to child says how much of it is enough.
-/

namespace PulseMesh.BoundedSearch

open List

variable {ν : Type}

structure Tree (ν : Type) where
  children : ν → List ν
  isLeaf : ν → Bool
  cost : ν → Int

/-- Nodes visited one after the other, each with the bound its predecessors have left. -/
def visitAll (visit : ν → Int → List ν × Int) : List ν → Int → List ν × Int
  | [], bound => ([], bound)
  | node :: nodes, bound =>
    let (found, tightened) := visit node bound
    let (more, tightest) := visitAll visit nodes tightened
    (found ++ more, tightest)

def search (tree : Tree ν) : Nat → ν → Int → List ν × Int
  | 0, _, bound => ([], bound)
  | fuel + 1, node, bound =>
    if bound < tree.cost node then
      ([], bound)
    else if tree.isLeaf node then
      ([node], min bound (tree.cost node))
    else
      visitAll (search tree fuel) (tree.children node) bound

/-- The first of the leaves found whose cost is within the last bound. -/
def cheapest (tree : Tree ν) (result : List ν × Int) : Option ν :=
  result.1.find? fun leaf => decide (tree.cost leaf ≤ result.2)

/-- The leaves below a node. -/
inductive Reaches (tree : Tree ν) : ν → ν → Prop
  | leaf {node : ν} (isLeaf : tree.isLeaf node = true) : Reaches tree node node
  | step {node child leaf : ν} (inner : tree.isLeaf node = false) (isChild : child ∈ tree.children node)
      (below : Reaches tree child leaf) : Reaches tree node leaf

/-- What a search over some leaves returns: leaves, among them all within the new bound, and the
bound is the old one or the cost of a leaf found. -/
structure Exact (tree : Tree ν) (leaves : ν → Prop) (bound : Int) (result : List ν × Int) : Prop where
  sound : ∀ leaf ∈ result.1, leaves leaf
  complete : ∀ leaf, leaves leaf → tree.cost leaf ≤ result.2 → leaf ∈ result.1
  lowered : result.2 ≤ bound
  below : ∀ leaf ∈ result.1, result.2 ≤ tree.cost leaf
  attained : result.2 = bound ∨ ∃ leaf ∈ result.1, tree.cost leaf = result.2

variable {tree : Tree ν} {leaf : ν}

/-- Searching branch after branch is searching them all. -/
lemma visitAll_exact {visit nodes}
    (visits : ∀ node ∈ nodes, ∀ bound, Exact tree (Reaches tree node) bound (visit node bound))
    (bound : Int) :
    Exact tree (fun leaf => ∃ node ∈ nodes, Reaches tree node leaf) bound (visitAll visit nodes bound) := by
  induction nodes generalizing bound with
  | nil =>
    refine ⟨?_, ?_, Int.le_refl bound, ?_, .inl rfl⟩ <;> simp [visitAll]
  | cons node nodes ih =>
    rw [forall_mem_cons] at visits
    have first := visits.1 bound
    have rest := ih visits.2 (visit node bound).2
    simp only [visitAll]
    refine ⟨?_, ?_, Int.le_trans rest.lowered first.lowered, ?_, ?_⟩
    · intro leaf found
      rcases mem_append.mp found with early | late
      · exact ⟨node, mem_cons_self, first.sound leaf early⟩
      · obtain ⟨other, member, reaches⟩ := rest.sound leaf late
        exact ⟨other, mem_cons_of_mem _ member, reaches⟩
    · rintro leaf ⟨other, member, reaches⟩ cheap
      rcases mem_cons.mp member with rfl | later
      · -- the bound of the first branch was only lowered since
        exact mem_append_left _ (first.complete leaf reaches (Int.le_trans cheap rest.lowered))
      · exact mem_append_right _ (rest.complete leaf ⟨other, later, reaches⟩ cheap)
    · intro leaf found
      rcases mem_append.mp found with early | late
      · exact Int.le_trans rest.lowered (first.below leaf early)
      · exact rest.below leaf late
    · rcases rest.attained with same | ⟨leaf, found, costs⟩
      · rw [same]
        rcases first.attained with unchanged | ⟨leaf, found, costs⟩
        · exact .inl unchanged
        · exact .inr ⟨leaf, mem_append_left _ found, costs⟩
      · exact .inr ⟨leaf, mem_append_right _ found, costs⟩

section

variable (rises : ∀ node, ∀ child ∈ tree.children node, tree.cost node ≤ tree.cost child)
include rises

lemma cost_le_of_reaches {node} (reaches : Reaches tree node leaf) :
    tree.cost node ≤ tree.cost leaf := by
  induction reaches with
  | leaf => exact Int.le_refl _
  | step _ isChild _ ih => exact Int.le_trans (rises _ _ isChild) ih

/-- With enough fuel the bounded search misses no leaf within the bound. -/
lemma search_exact {measure : ν → Nat}
    (falls : ∀ node, ∀ child ∈ tree.children node, measure child < measure node) {fuel node}
    (enough : measure node < fuel) (bound : Int) :
    Exact tree (Reaches tree node) bound (search tree fuel node bound) := by
  induction fuel generalizing node bound with
  | zero => exact absurd enough (Nat.not_lt_zero _)
  | succ fuel ih =>
    rw [search]
    split
    · next tooExpensive =>
      refine ⟨by simp, ?_, Int.le_refl bound, by simp, .inl rfl⟩
      intro leaf reaches cheap
      have dearer := cost_le_of_reaches rises reaches
      omega
    · split
      · next isLeaf =>
        refine ⟨?_, ?_, Int.min_le_left _ _, ?_, ?_⟩
        · intro leaf found
          rw [mem_singleton.mp found]
          exact .leaf isLeaf
        · intro leaf reaches _
          cases reaches with
          | leaf => exact mem_singleton.mpr rfl
          | step inner => simp [isLeaf] at inner
        · intro leaf found
          rw [mem_singleton.mp found]
          exact Int.min_le_right _ _
        · rcases Int.le_total bound (tree.cost node) with cheaper | dearer
          · exact .inl (Int.min_eq_left cheaper)
          · exact .inr ⟨node, mem_singleton.mpr rfl, (Int.min_eq_right dearer).symm⟩
      · next inner =>
        rw [Bool.not_eq_true] at inner
        have visits : ∀ child ∈ tree.children node, ∀ bound,
            Exact tree (Reaches tree child) bound (search tree fuel child bound) := by
          intro child isChild bound
          have smaller := falls node child isChild
          exact ih (by omega) bound
        have branches := visitAll_exact visits bound
        refine ⟨?_, ?_, branches.lowered, branches.below, branches.attained⟩
        · intro leaf found
          obtain ⟨child, isChild, reaches⟩ := branches.sound leaf found
          exact .step inner isChild reaches
        · intro leaf reaches cheap
          cases reaches with
          | leaf isLeaf => simp [isLeaf] at inner
          | step _ isChild below => exact branches.complete leaf ⟨_, isChild, below⟩ cheap

end

section

variable {leaves : ν → Prop} {bound : Int} {result : List ν × Int}
  (exact_ : Exact tree leaves bound result)
include exact_

/-- What is left out costs more than the cheapest leaf. -/
lemma bound_le_of_exact (isLeaf : leaves leaf) : result.2 ≤ tree.cost leaf := by
  by_cases cheap : tree.cost leaf ≤ result.2
  · exact exact_.below leaf (exact_.complete leaf isLeaf cheap)
  · omega

lemma cheapest_isSome (isLeaf : leaves leaf) (within : tree.cost leaf ≤ bound) :
    (cheapest tree result).isSome := by
  rw [cheapest, find?_isSome]
  rcases exact_.attained with unchanged | ⟨found, member, costs⟩
  · rw [← unchanged] at within
    exact ⟨leaf, exact_.complete leaf isLeaf within, decide_eq_true within⟩
  · exact ⟨found, member, decide_eq_true (Int.le_of_eq costs)⟩

lemma cheapest_spec (found : cheapest tree result = some leaf) :
    leaves leaf ∧ ∀ other, leaves other → tree.cost leaf ≤ tree.cost other := by
  have within : tree.cost leaf ≤ result.2 := by simpa using find?_some found
  refine ⟨exact_.sound leaf (mem_of_find?_eq_some found), fun other isLeaf => ?_⟩
  exact Int.le_trans within (bound_le_of_exact exact_ isLeaf)

end

end PulseMesh.BoundedSearch
