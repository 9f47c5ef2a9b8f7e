import Mathlib

/-!
# Depth-first search with marks

A search over the paths of a graph that marks where a path may end.  It does not go on from an end that
it meets for the second time, on whatever path.  All marks are ends, but a node behind a marked one is
missed if the way to it is blocked by the path that came first and open only to a later one.
-/

namespace PulseMesh.MarkedSearch

open List

variable {α : Type}

/-- The nodes that a path can be extended with, and the paths that may end where they are. -/
structure Walk (α : Type) where
  next : List α → List α
  isEnd : List α → Bool

/-- Nodes visited one after the other, each with the marks its predecessors have left. -/
def visitAll (visit : α → List α → List α) : List α → List α → List α
  | [], marks => marks
  | node :: nodes, marks => visitAll visit nodes (visit node marks)

/-- The path can be extended with these nodes, one after the other. -/
def Follows (walk : Walk α) : List α → List α → Prop
  | _, [] => True
  | path, node :: rest => node ∈ walk.next path ∧ Follows walk (path ++ [node]) rest

section

variable {visit : α → List α → List α} {nodes : List α}

lemma subset_visitAll (grows : ∀ node marks, marks ⊆ visit node marks) (nodes marks) :
    marks ⊆ visitAll visit nodes marks := by
  induction nodes generalizing marks with
  | nil => exact Subset.refl _
  | cons node nodes ih => exact Subset.trans (grows node marks) (ih _)

/-- What one visit is sure to mark stays marked. -/
lemma mem_visitAll (grows : ∀ node marks, marks ⊆ visit node marks) (isNext : node ∈ nodes)
    (found : ∀ marks, key ∈ visit node marks) (marks) : key ∈ visitAll visit nodes marks := by
  induction nodes generalizing marks with
  | nil => cases isNext
  | cons first nodes ih =>
    rcases mem_cons.mp isNext with rfl | later
    · exact subset_visitAll grows nodes (visit node marks) (found marks)
    · exact ih later _

/-- A mark is an old one or made by one of the visits. -/
lemma exists_of_mem_visitAll {Found : α → Prop}
    (sound : ∀ node ∈ nodes, ∀ marks, key ∈ visit node marks → key ∈ marks ∨ Found node)
    (isMarked : key ∈ visitAll visit nodes marks) : key ∈ marks ∨ ∃ node ∈ nodes, Found node := by
  induction nodes generalizing marks with
  | nil => exact .inl isMarked
  | cons first nodes ih =>
    rw [forall_mem_cons] at sound
    rcases ih sound.2 isMarked with earlier | ⟨node, isNext, found⟩
    · rcases sound.1 marks earlier with old | found
      · exact .inl old
      · exact .inr ⟨first, .head _, found⟩
    · exact .inr ⟨node, .tail _ isNext, found⟩

end

variable [DecidableEq α]

/-- The marks after the search from a path, which gets longer by less than the fuel. -/
def mark (walk : Walk α) : Nat → List α → List α → List α
  | 0, _, marks => marks
  | fuel + 1, path, marks =>
    let goOn := visitAll (fun node => mark walk fuel (path ++ [node])) (walk.next path)
    match path.getLast? with
    | none => marks
    | some last =>
      if walk.isEnd path then
        if last ∈ marks then marks else goOn (marks ++ [last])
      else
        goOn marks

variable {walk : Walk α} {fuel : Nat} {path rest marks : List α} {last node key : α}

lemma subset_mark (walk : Walk α) (fuel : Nat) (path marks) : marks ⊆ mark walk fuel path marks := by
  induction fuel generalizing path marks with
  | zero => exact Subset.refl _
  | succ fuel ih =>
    have goesOn := subset_visitAll (fun node => ih (path ++ [node])) (walk.next path)
    rw [mark]
    cases path.getLast? with
    | none => exact Subset.refl _
    | some last =>
      dsimp only
      split
      · split
        · exact Subset.refl _
        · exact Subset.trans (subset_append_left _ _) (goesOn _)
      · exact goesOn _

/-- Every mark that is not an old one is the end of a path. -/
lemma exists_path_of_mem_mark (isMarked : key ∈ mark walk fuel path marks) :
    key ∈ marks ∨ ∃ rest, Follows walk path rest ∧ walk.isEnd (path ++ rest) = true ∧
      (path ++ rest).getLast? = some key := by
  induction fuel generalizing path marks with
  | zero => exact .inl isMarked
  | succ fuel ih =>
    have goesOn {marks : List α}
        (isMarked : key ∈ visitAll (fun node => mark walk fuel (path ++ [node])) (walk.next path) marks) :
        key ∈ marks ∨ ∃ rest, Follows walk path rest ∧ walk.isEnd (path ++ rest) = true ∧
          (path ++ rest).getLast? = some key := by
      have sound : ∀ node ∈ walk.next path, ∀ marks, key ∈ mark walk fuel (path ++ [node]) marks →
          key ∈ marks ∨ ∃ rest, Follows walk (path ++ [node]) rest ∧
            walk.isEnd (path ++ [node] ++ rest) = true ∧ (path ++ [node] ++ rest).getLast? = some key :=
        fun node _ marks => ih
      rcases exists_of_mem_visitAll sound isMarked with old | ⟨node, isNext, rest, follows, ends⟩
      · exact .inl old
      · rw [← append_cons] at ends
        exact .inr ⟨node :: rest, ⟨isNext, follows⟩, ends⟩
    rw [mark] at isMarked
    cases isLast : path.getLast? with
    | none =>
      rw [isLast] at isMarked
      exact .inl isMarked
    | some last =>
      rw [isLast] at isMarked
      dsimp only at isMarked
      split at isMarked
      next isEnd =>
        split at isMarked
        · exact .inl isMarked
        · rcases goesOn isMarked with old | found
          · rcases mem_append.mp old with old | new
            · exact .inl old
            · rw [mem_singleton.mp new]
              exact .inr ⟨[], trivial, by rwa [append_nil], by rwa [append_nil]⟩
          · exact .inr found
      · exact goesOn isMarked

/-- Where a path may end, the search leaves a mark. -/
lemma mem_mark_of_isEnd (isEnd : walk.isEnd path = true) (isLast : path.getLast? = some last)
    (enough : 0 < fuel) (marks) : last ∈ mark walk fuel path marks := by
  cases fuel with
  | zero => cases enough
  | succ fuel =>
    have goesOn := subset_visitAll (fun node => subset_mark walk fuel (path ++ [node])) (walk.next path)
    simp only [mark, isLast, isEnd, if_true]
    split
    next old => exact old
    · exact goesOn _ (mem_append_right _ (.head _))

/-- Nothing stops the search before the first end on a path. -/
lemma mem_mark_of_first (follows : Follows walk path rest)
    (first : ∀ before after, rest = before ++ after → after ≠ [] → walk.isEnd (path ++ before) = false)
    (isEnd : walk.isEnd (path ++ rest) = true) (isLast : (path ++ rest).getLast? = some last)
    (nonempty : path ≠ []) (enough : rest.length < fuel) (marks) : last ∈ mark walk fuel path marks := by
  induction rest generalizing path fuel marks with
  | nil =>
    rw [append_nil] at isEnd isLast
    exact mem_mark_of_isEnd isEnd isLast enough marks
  | cons node rest ih =>
    cases fuel with
    | zero => cases enough
    | succ fuel =>
      rw [append_cons] at isEnd isLast
      have inner : walk.isEnd path = false := by
        simpa using first [] (node :: rest) rfl (cons_ne_nil _ _)
      obtain ⟨pathLast, isPathLast⟩ := Option.isSome_iff_exists.mp (getLast?_isSome.mpr nonempty)
      have later : ∀ before after, rest = before ++ after → after ≠ [] →
          walk.isEnd (path ++ [node] ++ before) = false := by
        intro before after split goesOn
        rw [← append_cons]
        exact first (node :: before) after (by rw [split, cons_append]) goesOn
      have found (marks : List α) : last ∈ mark walk fuel (path ++ [node]) marks :=
        ih follows.2 later isEnd isLast (by simp) (Nat.lt_of_succ_lt_succ enough) marks
      simp only [mark, isPathLast, inner]
      exact mem_visitAll (fun node => subset_mark walk fuel (path ++ [node])) follows.1 found marks

/-! ### Ends everywhere -/

section

variable (Link : α → α → Prop) (Open : α → Prop)

/-- What has been seen: the neighbors of every node that was visited are visited or on the path. -/
structure Covers (visited : Set α) (marks path : List α) : Prop where
  next : ∀ node ∈ visited, ∀ neighbor, Link node neighbor → neighbor ∈ visited ∨ neighbor ∈ path
  ends : ∀ node ∈ visited, Open node → node ∈ marks
  marked : ∀ node ∈ marks, node ∈ visited ∨ node ∈ path

variable {Link Open} {visited : Set α}

omit [DecidableEq α] in
lemma covers_visitAll {visit nodes}
    (visits : ∀ node ∈ nodes, ∀ visited marks, Covers Link Open visited marks path →
      ∃ visited', visited ⊆ visited' ∧ node ∈ visited' ∧ Covers Link Open visited' (visit node marks) path)
    (covers : Covers Link Open visited marks path) :
    ∃ visited', visited ⊆ visited' ∧ (∀ node ∈ nodes, node ∈ visited') ∧
      Covers Link Open visited' (visitAll visit nodes marks) path := by
  induction nodes generalizing visited marks with
  | nil => exact ⟨visited, subset_rfl, by simp, covers⟩
  | cons node nodes ih =>
    rw [forall_mem_cons] at visits
    obtain ⟨middle, more, seen, coversFirst⟩ := visits.1 visited marks covers
    obtain ⟨visited', evenMore, seenRest, coversAll⟩ := ih visits.2 coversFirst
    exact ⟨visited', more.trans evenMore, forall_mem_cons.mpr ⟨evenMore seen, seenRest⟩, coversAll⟩

omit [DecidableEq α] in
/-- On a longer path, with its last node marked or not. -/
lemma Covers.extend {marks'} (covers : Covers Link Open visited marks path) (more : marks ⊆ marks')
    (onlyNode : ∀ key ∈ marks', key ∈ marks ∨ key = node) :
    Covers Link Open visited marks' (path ++ [node]) where
  next key isSeen neighbor linked := (covers.next key isSeen neighbor linked).imp_right (mem_append_left _)
  ends key isSeen isOpen := more (covers.ends key isSeen isOpen)
  marked := by
    intro key isMarked
    rcases onlyNode key isMarked with old | rfl
    · exact (covers.marked key old).imp_right (mem_append_left _)
    · exact .inr (mem_append_right _ (.head _))

omit [DecidableEq α] in
/-- The last node of the path counts as visited when its neighbors are seen. -/
lemma Covers.leave (covers : Covers Link Open visited marks (path ++ [node]))
    (seen : ∀ neighbor, Link node neighbor → neighbor ∈ visited ∨ neighbor ∈ path ++ [node])
    (isMarked : Open node → node ∈ marks) : Covers Link Open (insert node visited) marks path := by
  have left {key : α} (isSeen : key ∈ visited ∨ key ∈ path ++ [node]) :
      key ∈ insert node visited ∨ key ∈ path := by
    rw [mem_append, mem_singleton] at isSeen
    rcases isSeen with isSeen | onPath | rfl
    · exact .inl (.inr isSeen)
    · exact .inr onPath
    · exact .inl (.inl rfl)
  refine ⟨?_, ?_, fun key isMarked => left (covers.marked key isMarked)⟩
  · rintro key (rfl | isSeen) neighbor linked
    · exact left (seen neighbor linked)
    · exact left (covers.next key isSeen neighbor linked)
  · rintro key (rfl | isSeen) isOpen
    · exact isMarked isOpen
    · exact covers.ends key isSeen isOpen

variable {root : α}
  (nextIs : ∀ path last node, path.getLast? = some last →
    (node ∈ walk.next path ↔ Link last node ∧ node ∉ path))
include nextIs

omit [DecidableEq α] in
/-- From a node that was visited, paths lead only to nodes that were visited. -/
lemma Covers.follows (covers : Covers Link Open visited marks [root]) (onPath : root ∈ path)
    (isLast : path.getLast? = some last) (isSeen : last ∈ visited)
    (follows : Follows walk path rest) : ∀ node ∈ rest, node ∈ visited := by
  induction rest generalizing path last with
  | nil => simp
  | cons node rest ih =>
    obtain ⟨linked, fresh⟩ := (nextIs _ _ _ isLast).mp follows.1
    have nodeSeen : node ∈ visited := by
      rcases covers.next last isSeen node linked with seen | isRoot
      · exact seen
      · exact absurd (mem_singleton.mp isRoot ▸ onPath) fresh
    refine forall_mem_cons.mpr ⟨nodeSeen, ?_⟩
    exact ih (mem_append_left _ onPath) getLast?_concat nodeSeen follows.2

variable (measure : List α → Nat)
  (endIs : ∀ path last, 2 ≤ path.length → path.getLast? = some last → Open last → walk.isEnd path = true)
  (falls : ∀ path, ∀ node ∈ walk.next path, measure (path ++ [node]) < measure path)
include endIs falls

/-- A visit sees the node and, through it, all that the path does not block. -/
lemma covers_mark (nonempty : path ≠ []) (fresh : node ∉ path) (enough : measure (path ++ [node]) < fuel)
    (covers : Covers Link Open visited marks path) :
    ∃ visited', visited ⊆ visited' ∧ node ∈ visited' ∧
      Covers Link Open visited' (mark walk fuel (path ++ [node]) marks) path := by
  induction fuel generalizing path node visited marks with
  | zero => cases enough
  | succ fuel ih =>
    have isLast : (path ++ [node]).getLast? = some node := getLast?_concat
    have goesOn {marks : List α} (known : Open node → node ∈ marks)
        (covers : Covers Link Open visited marks (path ++ [node])) : ∃ visited', visited ⊆ visited' ∧
          node ∈ visited' ∧ Covers Link Open visited' (visitAll
            (fun child => mark walk fuel (path ++ [node] ++ [child])) (walk.next (path ++ [node])) marks) path := by
      have visits : ∀ child ∈ walk.next (path ++ [node]), ∀ visited marks,
          Covers Link Open visited marks (path ++ [node]) → ∃ visited', visited ⊆ visited' ∧
            child ∈ visited' ∧ Covers Link Open visited'
              (mark walk fuel (path ++ [node] ++ [child]) marks) (path ++ [node]) := by
        intro child isNext visited marks covers
        have fewer := falls _ child isNext
        exact ih (by simp) ((nextIs _ _ _ isLast).mp isNext).2 (by omega) covers
      obtain ⟨visited', more, seen, coversAll⟩ := covers_visitAll visits covers
      have stays := subset_visitAll (fun child => subset_mark walk fuel (path ++ [node] ++ [child]))
        (walk.next (path ++ [node])) marks
      refine ⟨insert node visited', more.trans (Set.subset_insert _ _), .inl rfl,
        coversAll.leave ?_ fun isOpen => stays (known isOpen)⟩
      intro neighbor linked
      by_cases onPath : neighbor ∈ path ++ [node]
      · exact .inr onPath
      · exact .inl (seen neighbor ((nextIs _ _ _ isLast).mpr ⟨linked, onPath⟩))
    have long : 2 ≤ (path ++ [node]).length := by
      have := length_pos_iff.mpr nonempty
      rw [length_append, length_singleton]
      omega
    simp only [mark, isLast]
    split
    · split
      next old =>
        exact ⟨visited, subset_rfl, (covers.marked node old).resolve_right fresh, covers⟩
      · refine goesOn (fun _ => mem_append_right _ (.head _)) (covers.extend ?_ ?_)
        · exact subset_append_left _ _
        · simp
    next inner =>
      refine goesOn (fun isOpen => absurd (endIs _ _ long isLast isOpen) inner) (covers.extend ?_ ?_)
      · exact Subset.refl _
      · exact fun key old => .inl old

/-- All that can be reached from the root is marked, as far as paths may end there. -/
lemma mem_mark_of_open (enough : measure [root] < fuel) (follows : Follows walk [root] rest)
    (isLast : rest.getLast? = some last) (isOpen : Open last) : last ∈ mark walk fuel [root] [] := by
  cases fuel with
  | zero => cases enough
  | succ fuel =>
    have visits : ∀ child ∈ walk.next [root], ∀ visited marks, Covers Link Open visited marks [root] →
        ∃ visited', visited ⊆ visited' ∧ child ∈ visited' ∧ Covers Link Open visited'
          (mark walk fuel ([root] ++ [child]) marks) [root] := by
      intro child isNext visited marks covers
      have fewer := falls _ child isNext
      exact covers_mark nextIs measure endIs falls (by simp) ((nextIs _ _ _ rfl).mp isNext).2 (by omega) covers
    have goesOn {marks : List α} (onlyRoot : ∀ key ∈ marks, key = root) :
        last ∈ visitAll (fun child => mark walk fuel ([root] ++ [child])) (walk.next [root]) marks := by
      have nothing : Covers Link Open ∅ marks [root] :=
        ⟨nofun, nofun, fun key isMarked => .inr (mem_singleton.mpr (onlyRoot key isMarked))⟩
      obtain ⟨visited, -, seen, covers⟩ := covers_visitAll visits nothing
      cases rest with
      | nil => cases isLast
      | cons node rest =>
        have nodeSeen := seen node follows.1
        have restSeen := covers.follows nextIs (mem_append_left [node] (.head _)) getLast?_concat
          nodeSeen follows.2
        have all := forall_mem_cons.mpr ⟨nodeSeen, restSeen⟩
        exact covers.ends last (all last (mem_of_getLast? isLast)) isOpen
    simp only [mark, getLast?_singleton]
    split
    · exact goesOn (by simp)
    · exact goesOn (by simp)

end

end PulseMesh.MarkedSearch
