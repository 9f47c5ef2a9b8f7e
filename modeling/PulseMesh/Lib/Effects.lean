import Mathlib

/-!
# Computations that stop short and leave a state behind

What has been done before a computation stops is not undone.  A stopped computation was therefore
stopped in one of its parts, in the state the parts before it have left.
-/

namespace PulseMesh.Effects

variable {ε σ α β : Type} {x : EStateM ε σ α} {f : α → EStateM ε σ β} {s t : σ} {e : ε}

lemma bind_ok_iff {b} : (x >>= f) s = .ok b t ↔ ∃ a mid, x s = .ok a mid ∧ f a mid = .ok b t := by
  change EStateM.bind x f s = _ ↔ _
  rw [EStateM.bind]
  cases x s with
  | ok a mid => simp
  | error e mid => simp

lemma bind_error_iff :
    (x >>= f) s = .error e t ↔ x s = .error e t ∨ ∃ a mid, x s = .ok a mid ∧ f a mid = .error e t := by
  change EStateM.bind x f s = _ ↔ _
  rw [EStateM.bind]
  cases x s with
  | ok a mid => simp
  | error e mid => simp

/-- What a computation leaves behind, however it ends. -/
def stateAfter (x : EStateM ε σ α) (s : σ) : σ :=
  match x s with
  | .ok _ t => t
  | .error _ t => t

lemma stateAfter_of_ok {a} (ended : x s = .ok a t) : stateAfter x s = t := by
  simp [stateAfter, ended]

lemma stateAfter_of_error (ended : x s = .error e t) : stateAfter x s = t := by
  simp [stateAfter, ended]

lemma stateAfter_bind :
    stateAfter (x >>= f) s =
      match x s with
      | .ok a mid => stateAfter (f a) mid
      | .error _ mid => mid := by
  change (match EStateM.bind x f s with | .ok _ t => t | .error _ t => t) = _
  rw [EStateM.bind]
  cases x s with
  | ok a mid => rfl
  | error e mid => rfl

/-! ### Loops -/

variable {body : α → EStateM ε σ PUnit} {items : List α}

lemma forM_cons_eq (item : α) : (item :: items).forM body = body item >>= fun _ => items.forM body := rfl

/-- A loop that is stopped has gone through the items before the one that stops it. -/
lemma forM_error (stopped : items.forM body s = .error e t) :
    ∃ done item rest mid, items = done ++ item :: rest ∧ done.forM body s = .ok ⟨⟩ mid ∧
      body item mid = .error e t := by
  induction items generalizing s with
  | nil => cases stopped
  | cons item items ih =>
    rw [forM_cons_eq, bind_error_iff] at stopped
    rcases stopped with first | ⟨⟨⟩, mid, first, later⟩
    · exact ⟨[], item, items, s, rfl, rfl, first⟩
    · obtain ⟨done, last, rest, final, rfl, ran, stops⟩ := ih later
      refine ⟨item :: done, last, rest, final, rfl, ?_, stops⟩
      rw [forM_cons_eq, bind_ok_iff]
      exact ⟨⟨⟩, mid, first, ran⟩

section

variable {γ : Type} {produce : α → EStateM ε σ β} {seen : σ → γ}

/-- A loop over the items produces their results and changes nothing that no turn changes. -/
lemma mapM_ok {R results} (each : ∀ item s b t, produce item s = .ok b t → R item b ∧ seen t = seen s)
    (ended : items.mapM produce s = .ok results t) : List.Forall₂ R items results ∧ seen t = seen s := by
  induction items generalizing s t results with
  | nil =>
    cases ended
    exact ⟨.nil, rfl⟩
  | cons item items ih =>
    rw [List.mapM_cons, bind_ok_iff] at ended
    obtain ⟨b, mid, first, later⟩ := ended
    rw [bind_ok_iff] at later
    obtain ⟨bs, final, rest, built⟩ := later
    cases built
    obtain ⟨related, same⟩ := each item s b mid first
    obtain ⟨others, unchanged⟩ := ih rest
    exact ⟨.cons related others, unchanged.trans same⟩

lemma mapM_error {Cause : ε → Prop} (goesOn : ∀ item s b t, produce item s = .ok b t → seen t = seen s)
    (stops : ∀ item s e t, produce item s = .error e t → Cause e ∧ seen t = seen s)
    (stopped : items.mapM produce s = .error e t) : Cause e ∧ seen t = seen s := by
  induction items generalizing s with
  | nil => cases stopped
  | cons item items ih =>
    rw [List.mapM_cons, bind_error_iff] at stopped
    rcases stopped with first | ⟨b, mid, first, later⟩
    · exact stops item s e t first
    · rw [bind_error_iff] at later
      rcases later with rest | ⟨bs, final, _, built⟩
      · obtain ⟨cause, same⟩ := ih rest
        exact ⟨cause, same.trans (goesOn item s b mid first)⟩
      · cases built

end

end PulseMesh.Effects
