import Mathlib

/-!
# Depth-first search within a number of links

A search that collects the nodes within some links of a source.  It goes on from a node only the first
time it comes by, with the links that are left then.  If the first way there was long, what is behind the
node is out of reach, even if another way is short enough.  So the search covers the nodes on a walk as
long as it cannot have used up its links on the way.
-/

namespace PulseMesh.BoundedCover

open List

variable {α : Type} (next : α → Option (List α))

def Link (node other : α) : Prop := ∃ nodes, next node = some nodes ∧ other ∈ nodes

structure SimpleWalk (source : α) (walk : List α) : Prop where
  starts : walk.head? = some source
  links : walk.IsChain (Link next)
  simple : walk.Nodup

/-- Some way to the node is as long as the search goes. -/
def Exhausted (source : α) (links : Nat) (node : α) : Prop :=
  ∃ walk, SimpleWalk next source walk ∧ walk.getLast? = some node ∧ walk.length = links + 1

/-- The search has gone on from the node, or its links can have been used up there. -/
def Explored (source : α) (links : Nat) (seen : List α) (node : α) : Prop :=
  Exhausted next source links node ∨ ∀ other, Link next node other → (next other).isSome → other ∈ seen

/-- What a visit of a node adds to what was seen before. -/
structure Covers (source : α) (links : Nat) (node : α) (seen result : List α) : Prop where
  grows : seen ⊆ result
  found : (next node).isSome → node ∈ result
  explored : ∀ other ∈ result, other ∉ seen → (next other).isSome → Explored next source links result other

variable {next} {source node : α} {links : Nat} {seen seen' : List α}

lemma Explored.mono (explored : Explored next source links seen node) (grows : seen ⊆ seen') :
    Explored next source links seen' node :=
  explored.imp_right fun goesOn other link known => grows (goesOn other link known)

variable {walk : List α} {other : α}

lemma SimpleWalk.snoc (walks : SimpleWalk next source walk) (isLast : walk.getLast? = some node)
    (link : Link next node other) (fresh : other ∉ walk) :
    SimpleWalk next source (walk ++ [other]) := by
  refine ⟨?_, ?_, ?_⟩
  · rw [head?_append, walks.starts]
    rfl
  · refine IsChain.append walks.links (isChain_singleton _) ?_
    intro last isLast' first isFirst
    cases isLast.symm.trans isLast'
    cases isFirst
    exact link
  · rw [← concat_eq_append]
    exact walks.simple.concat fresh

/-- From a collected node, the search has collected all nodes of a walk, unless it has used up its links
before the last one. -/
lemma mem_of_covers {result} (covers : Covers next source links source [] result)
    (first : ∀ node ∈ walk.head?, node ∈ result) (chain : walk.IsChain (Link next))
    (known : ∀ node ∈ walk, (next node).isSome)
    (unexhausted : ∀ node ∈ walk.dropLast, ¬Exhausted next source links node) :
    ∀ node ∈ walk, node ∈ result := by
  induction walk with
  | nil => simp
  | cons node walk ih =>
    have isSeen : node ∈ result := first node rfl
    rw [forall_mem_cons] at known ⊢
    refine ⟨isSeen, ih ?_ chain.tail known.2 ?_⟩
    · intro other isFirst
      cases walk with
      | nil => cases isFirst
      | cons second walk =>
        cases isFirst
        rw [isChain_cons_cons] at chain
        rcases covers.explored node isSeen not_mem_nil known.1 with exhausted | goesOn
        · exact absurd exhausted (unexhausted node (by simp))
        · exact goesOn other chain.1 (known.2 other (by simp))
    · intro other isEarlier
      cases walk with
      | nil => cases isEarlier
      | cons second walk => exact unexhausted other (mem_cons_of_mem _ isEarlier)

/-! ### The search -/

variable [DecidableEq α]

/-- A node without a record counts as seen only where the search ends. -/
def cover (next : α → Option (List α)) : Nat → α → List α → List α
  | 0, node, seen => seen.insert node
  | links + 1, node, seen =>
    match next node with
    | none => (seen.insert node).erase node
    | some nodes =>
      nodes.foldl (fun seen other => if other ∈ seen then seen else cover next links other seen)
        (seen.insert node)

/-- Nodes visited one after the other, each only if it was not seen before. -/
lemma foldl_covers {visit : α → List α → List α} {nodes : List α}
    (visits : ∀ other ∈ nodes, ∀ before, seen ⊆ before → other ∉ before →
      Covers next source links other before (visit other before)) {before} (grows : seen ⊆ before)
    (explored : ∀ other ∈ before, other ∉ seen → (next other).isSome → Explored next source links before other) :
    let result := nodes.foldl (fun seen other => if other ∈ seen then seen else visit other seen) before
    before ⊆ result ∧ (∀ other ∈ nodes, (next other).isSome → other ∈ result) ∧
      ∀ other ∈ result, other ∉ seen → (next other).isSome → Explored next source links result other := by
  induction nodes generalizing before with
  | nil => exact ⟨Subset.refl _, by simp, explored⟩
  | cons first nodes ih =>
    rw [forall_mem_cons] at visits
    simp only [foldl_cons, forall_mem_cons]
    by_cases old : first ∈ before
    · obtain ⟨kept, found, rest⟩ := ih visits.2 grows explored
      rw [if_pos old]
      exact ⟨kept, ⟨fun _ => kept old, found⟩, rest⟩
    · have visited := visits.1 before grows old
      rw [if_neg old]
      obtain ⟨kept, found, rest⟩ := ih visits.2 (Subset.trans grows visited.grows) (by
        intro other isSeen fresh known
        by_cases earlier : other ∈ before
        · exact (explored other earlier fresh known).mono visited.grows
        · exact visited.explored other isSeen earlier known)
      exact ⟨Subset.trans visited.grows kept, ⟨fun known => kept (visited.found known), found⟩, rest⟩

/-- The search comes to a node by a simple walk, whose nodes have all been seen. -/
lemma cover_covers {remaining : Nat} (walks : SimpleWalk next source walk)
    (isLast : walk.getLast? = some node) (length : walk.length + remaining = links + 1)
    (fresh : node ∉ seen) (behind : ∀ earlier ∈ walk, earlier ≠ node → earlier ∈ seen) :
    Covers next source links node seen (cover next remaining node seen) := by
  induction remaining generalizing node seen walk with
  | zero =>
    refine ⟨fun _ => mem_insert_of_mem, fun _ => mem_insert_self, ?_⟩
    intro other isSeen new known
    rcases mem_insert_iff.mp isSeen with rfl | old
    · exact .inl ⟨walk, walks, isLast, length⟩
    · exact absurd old new
  | succ remaining ih =>
    cases recorded : next node with
    | none =>
      simp only [cover, recorded]
      refine ⟨?_, by simp [recorded], ?_⟩
      · intro earlier isSeen
        have other : earlier ≠ node := by
          rintro rfl
          exact fresh isSeen
        exact (mem_erase_of_ne other).mpr (mem_insert_of_mem isSeen)
      · intro other isSeen new known
        rcases mem_insert_iff.mp (mem_of_mem_erase isSeen) with rfl | old
        · rw [recorded] at known
          cases known
        · exact absurd old new
    | some nodes =>
      simp only [cover, recorded]
      have onWalk : ∀ earlier ∈ walk, earlier ∈ seen.insert node := by
        intro earlier visited
        by_cases same : earlier = node
        · exact mem_insert_iff.mpr (.inl same)
        · exact mem_insert_of_mem (behind earlier visited same)
      have visits : ∀ other ∈ nodes, ∀ before, seen.insert node ⊆ before → other ∉ before →
          Covers next source links other before (cover next remaining other before) := by
        intro other isNext before grows new
        have offWalk : other ∉ walk := fun visited => new (grows (onWalk other visited))
        refine ih (walks.snoc isLast ⟨nodes, recorded, isNext⟩ offWalk) (by simp) (by simp; omega) new ?_
        intro earlier visited isOther
        rcases mem_append.mp visited with visited | last
        · exact grows (onWalk earlier visited)
        · exact absurd (mem_singleton.mp last) isOther
      obtain ⟨grows, found, explored⟩ :=
        foldl_covers visits (Subset.refl _) fun other isSeen new => absurd isSeen new
      refine ⟨fun _ isSeen => grows (mem_insert_of_mem isSeen), fun _ => grows mem_insert_self, ?_⟩
      intro other isSeen new known
      by_cases same : other = node
      · subst same
        refine .inr fun neighbor link isKnown => ?_
        obtain ⟨nodes', recorded', isNext⟩ := link
        cases recorded.symm.trans recorded'
        exact found neighbor isNext isKnown
      · refine explored other isSeen (fun inserted => ?_) known
        rcases mem_insert_iff.mp inserted with isNode | old
        · exact same isNode
        · exact new old

lemma mem_cover_of_walk (starts : walk.head? = some source)
    (chain : walk.IsChain (Link next)) (known : ∀ node ∈ walk, (next node).isSome)
    (unexhausted : ∀ node ∈ walk.dropLast, ¬Exhausted next source links node) :
    ∀ node ∈ walk, node ∈ cover next links source [] := by
  have covers : Covers next source links source [] (cover next links source []) :=
    cover_covers ⟨rfl, isChain_singleton _, nodup_singleton _⟩ rfl (by simp; omega) not_mem_nil (by simp)
  refine mem_of_covers covers ?_ chain known unexhausted
  intro node isFirst
  cases starts.symm.trans isFirst
  exact covers.found (known source (mem_of_mem_head? isFirst))

/-- A walk of at most so many links leads to the node. -/
def Within (next : α → Option (List α)) (source : α) (links : Nat) (node : α) : Prop :=
  ∃ walk : List α, walk.head? = some source ∧ walk.IsChain (Link next) ∧ walk.getLast? = some node ∧
    walk.length ≤ links + 1

omit [DecidableEq α] in
lemma Within.cons {first} (link : Link next node first) (within : Within next first links source) :
    Within next node (links + 1) source := by
  obtain ⟨walk, starts, chain, isLast, short⟩ := within
  cases walk with
  | nil => cases starts
  | cons second walk =>
    cases starts
    exact ⟨node :: first :: walk, rfl, isChain_cons_cons.mpr ⟨link, chain⟩, isLast, by simpa using short⟩

/-- The search adds nothing that is further away than it can go. -/
lemma within_of_mem_cover (covered : other ∈ cover next links node seen) :
    other ∈ seen ∨ Within next node links other := by
  have self {links : Nat} {node : α} {seen : List α} (inserted : other ∈ seen.insert node) :
      other ∈ seen ∨ Within next node links other := by
    rcases mem_insert_iff.mp inserted with rfl | old
    · exact .inr ⟨[other], rfl, isChain_singleton _, rfl, by simp⟩
    · exact .inl old
  induction links generalizing node seen with
  | zero => exact self covered
  | succ links ih =>
    cases recorded : next node with
    | none =>
      simp only [cover, recorded] at covered
      exact self (mem_of_mem_erase covered)
    | some nodes =>
      simp only [cover, recorded] at covered
      refine foldlRecOn (motive := fun result => other ∈ result → other ∈ seen ∨ Within next node _ other)
        nodes _ self (fun result found first isNext covered => ?_) covered
      split at covered
      · exact found covered
      · rcases ih covered with old | within
        · exact found old
        · exact .inr (within.cons ⟨nodes, recorded, isNext⟩)

end PulseMesh.BoundedCover
