import PulseMesh.Lib.Rows

/-!
# Onions

Items are wrapped for keys, one layer for every key, and taken off from the top by the holders of
the keys.  Whoever takes off a layer puts a filler at the bottom, so that the onion keeps its size.
The rules below say what is taken off, what remains, and that nobody else gets anything.
-/

namespace PulseMesh.Onion

open Machine Rows List

variable {κ ι γ ε : Type}

/-- How items are wrapped for a key and unwrapped by its holder. -/
structure Scheme (κ ι γ ε : Type) where
  wrap : κ → ι → Except ε γ
  unwrap : κ → γ → Except ε ι

/-- Between valid keys, what is wrapped for a key is unwrapped with it, and with no other. -/
structure Scheme.Correct (scheme : Scheme κ ι γ ε) (valid : κ → Prop) : Prop where
  unwraps : ∀ {key item layer}, valid key → scheme.wrap key item = .ok layer →
    scheme.unwrap key layer = .ok item
  closed : ∀ {key other item layer}, valid key → valid other → other ≠ key →
    scheme.wrap key item = .ok layer → ∃ e, scheme.unwrap other layer = .error e

variable (scheme : Scheme κ ι γ ε)

def wrapAll (items : List (κ × ι)) : Except ε (List γ) :=
  items.mapM fun (key, item) => scheme.wrap key item

/-- The top layer is gone even if it cannot be unwrapped; there is nothing to do without one. -/
def peel (key : κ) (filler : γ → γ) : List γ → Option (Except ε ι × List γ)
  | [] => none
  | top :: layers =>
    match scheme.unwrap key top with
    | .ok item => some (.ok item, layers ++ [filler top])
    | .error e => some (.error e, layers)

/-- The items the holders of the keys take off, one after the other. -/
def peelAll : List (κ × (γ → γ)) → List γ → Option (List ι × List γ)
  | [], layers => some ([], layers)
  | (key, filler) :: keys, layers =>
    match peel scheme key filler layers with
    | some (.ok item, rest) => (peelAll keys rest).map fun (items, last) => (item :: items, last)
    | _ => none

variable {scheme} {valid : κ → Prop} {items : List (κ × ι)} {layers : List γ}

lemma wrapAll_append {others} (wrapped : wrapAll scheme (items ++ others) = .ok layers) :
    ∃ top bottom, layers = top ++ bottom ∧ wrapAll scheme items = .ok top ∧
      wrapAll scheme others = .ok bottom := by
  rw [wrapAll, mapM_append] at wrapped
  obtain ⟨top, wrappedTop, rest⟩ := ok_of_bind wrapped
  obtain ⟨bottom, wrappedBottom, built⟩ := ok_of_bind rest
  cases built
  exact ⟨top, bottom, rfl, wrappedTop, wrappedBottom⟩

lemma length_of_wrapAll (wrapped : wrapAll scheme items = .ok layers) : layers.length = items.length :=
  (mapM_eq_ok.mp wrapped).length_eq.symm

variable (correct : scheme.Correct valid)
include correct

section

variable (validKeys : ∀ item ∈ items, valid item.1) (wrapped : wrapAll scheme items = .ok layers)
  (fillers : List (γ → γ)) (sameLength : fillers.length = items.length) (below : List γ)
include validKeys wrapped fillers sameLength below

/-- Layers come off in the order of their keys; fillers collect below what was there before. -/
lemma peelAll_wrapped :
    ∃ trash, trash.length = items.length ∧
      peelAll scheme ((items.map Prod.fst).zip fillers) (layers ++ below) =
        some (items.map Prod.snd, below ++ trash) := by
  induction items generalizing fillers layers below with
  | nil =>
    cases wrapped
    exact ⟨[], rfl, by simp [peelAll]⟩
  | cons item items ih =>
    rw [forall_mem_cons] at validKeys
    match fillers with
    | filler :: fillers =>
      cases mapM_eq_ok.mp wrapped with
      | @cons _ top _ layers wrappedTop wrappedRest =>
        -- the filler of the top layer lies below what is peeled next
        obtain ⟨trash, trashLength, peeled⟩ := ih validKeys.2 (mapM_eq_ok.mpr wrappedRest) fillers
          (by simpa using sameLength) (below ++ [filler top])
        refine ⟨filler top :: trash, by simp [trashLength], ?_⟩
        simp [peelAll, peel, correct.unwraps validKeys.1 wrappedTop, peeled]

/-- In the middle of the way: the layers of the remaining keys are on top. -/
lemma peelAll_take (count : Nat) :
    ∃ top trash, wrapAll scheme (items.drop count) = .ok top ∧ top.length + trash.length = layers.length ∧
      peelAll scheme (((items.map Prod.fst).zip fillers).take count) (layers ++ below) =
        some ((items.map Prod.snd).take count, top ++ below ++ trash) := by
  have split := wrapped
  rw [← take_append_drop count items] at split
  obtain ⟨peeledLayers, top, rfl, wrappedTaken, wrappedTop⟩ := wrapAll_append split
  obtain ⟨trash, trashLength, peeled⟩ := peelAll_wrapped correct
    (fun item member => validKeys item (mem_of_mem_take member)) wrappedTaken
    (fillers.take count) (by simp [sameLength]) (top ++ below)
  refine ⟨top, trash, wrappedTop, ?_, ?_⟩
  · have taken := length_of_wrapAll wrappedTaken
    rw [length_append]
    omega
  · rw [zip, take_zipWith, ← zip, ← map_take, ← map_take,
      append_assoc, peeled]

end

lemma peel_other_key {key other item} (validKey : valid key) (validOther : valid other)
    (different : other ≠ key) (wrapped : wrapAll scheme ((key, item) :: items) = .ok layers)
    (filler : γ → γ) (below) :
    ∃ e rest, peel scheme other filler (layers ++ below) = some (.error e, rest) := by
  cases mapM_eq_ok.mp wrapped with
  | @cons _ top _ layers wrappedTop _ =>
    obtain ⟨e, fails⟩ := correct.closed validKey validOther different wrappedTop
    exact ⟨e, layers ++ below, by simp [peel, fails]⟩

end PulseMesh.Onion
