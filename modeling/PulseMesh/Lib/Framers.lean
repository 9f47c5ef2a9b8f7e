import PulseMesh.Lib.Machine

/-!
# Framers

A framer collects the chunks of a stream and gives out the frames that it finds in them.  After every chunk
all frames that are there are taken.
-/

namespace PulseMesh.Framers

section

variable {σ β φ ε : Type} (addData : σ → List β → σ) (takeFrame : σ → Except ε (Option φ × σ))

/-- Frames are taken until there is none. -/
inductive Drains : σ → List φ → σ → Prop where
  | none {s t : σ} (nothing : takeFrame s = .ok (none, t)) : Drains s [] t
  | frame {s mid t : σ} {frame : φ} {frames : List φ} (taken : takeFrame s = .ok (some frame, mid))
      (rest : Drains mid frames t) : Drains s (frame :: frames) t

inductive Feeds : σ → List (List β) → List φ → σ → Prop where
  | nil {s : σ} : Feeds s [] [] s
  | chunk {s mid t : σ} {chunk : List β} {chunks : List (List β)} {frames later : List φ}
      (drains : Drains takeFrame (addData s chunk) frames mid) (rest : Feeds mid chunks later t) :
      Feeds s (chunk :: chunks) (frames ++ later) t

variable {addData takeFrame} {s t t' : σ} {chunks : List (List β)} {frames frames' : List φ}

lemma Drains.unique (drains : Drains takeFrame s frames t) (drains' : Drains takeFrame s frames' t') :
    frames = frames' ∧ t = t' := by
  induction drains generalizing frames' with
  | none nothing =>
    cases drains' with
    | none nothing' =>
      cases nothing.symm.trans nothing'
      exact ⟨rfl, rfl⟩
    | frame taken' _ => cases nothing.symm.trans taken'
  | frame taken rest ih =>
    cases drains' with
    | none nothing' => cases taken.symm.trans nothing'
    | frame taken' rest' =>
      cases taken.symm.trans taken'
      obtain ⟨rfl, rfl⟩ := ih rest'
      exact ⟨rfl, rfl⟩

lemma Feeds.unique (feeds : Feeds addData takeFrame s chunks frames t)
    (feeds' : Feeds addData takeFrame s chunks frames' t') : frames = frames' ∧ t = t' := by
  induction feeds generalizing frames' with
  | nil =>
    cases feeds'
    exact ⟨rfl, rfl⟩
  | chunk drains rest ih =>
    cases feeds' with
    | chunk drains' rest' =>
      obtain ⟨rfl, rfl⟩ := drains.unique drains'
      obtain ⟨rfl, rfl⟩ := ih rest'
      exact ⟨rfl, rfl⟩

end

end PulseMesh.Framers
