import PulseMesh.Lib.Machine

/-!
# Runs

A machine takes one input at a time and may stop.  An invariant that every step keeps, under a
condition on the state before it and the input, holds at the end of every run whose steps meet
the condition.
-/

namespace PulseMesh.Runs

open Machine List

variable {σ ι ε : Type} (step : σ → ι → Except ε σ)

def run (s : σ) : List ι → Except ε σ
  | [] => .ok s
  | input :: inputs => do
    let next ← step s input
    run next inputs

/-- Every step of the run is taken from a state and on an input that meet the condition. -/
def Along (condition : σ → ι → Prop) (s : σ) : List ι → Prop
  | [] => True
  | input :: inputs => condition s input ∧ ∀ next, step s input = .ok next → Along condition next inputs

variable {step} {condition : σ → ι → Prop} {inputs : List ι} {Inv : σ → Prop} {s : σ}

/-- On a given run the condition can be checked by taking the steps. -/
instance decidableAlong {condition : σ → ι → Prop} [∀ s input, Decidable (condition s input)] :
    (s : σ) → (inputs : List ι) → Decidable (Along step condition s inputs)
  | _, [] => .isTrue trivial
  | s, input :: inputs =>
    match stepped : step s input with
    | .error _ => decidable_of_iff (condition s input) ⟨fun meets => ⟨meets, by simp [stepped]⟩, And.left⟩
    | .ok next =>
      have : Decidable (Along step condition next inputs) := decidableAlong next inputs
      decidable_of_iff (condition s input ∧ Along step condition next inputs)
        (by simp [Along, stepped])

lemma along_mono {weaker} (weakens : ∀ s input, condition s input → weaker s input)
    (along : Along step condition s inputs) : Along step weaker s inputs := by
  induction inputs generalizing s with
  | nil => trivial
  | cons input inputs ih =>
    exact ⟨weakens s input along.1, fun next stepped => ih (along.2 next stepped)⟩

lemma along_append {mid before after} (along : Along step condition s (before ++ after))
    (reached : run step s before = .ok mid) : Along step condition mid after := by
  induction before generalizing s with
  | nil =>
    cases reached
    exact along
  | cons input before ih =>
    obtain ⟨next, stepped, rest⟩ := ok_of_bind reached
    exact ih (along.2 next stepped) rest

lemma along_of_append {before after} (along : Along step condition s (before ++ after)) :
    Along step condition s before := by
  induction before generalizing s with
  | nil => trivial
  | cons input before ih => exact ⟨along.1, fun next stepped => ih (along.2 next stepped)⟩

/-- A kept invariant holds wherever a run arrives. -/
lemma invariant_of_run
    (kept : ∀ s input next, Inv s → condition s input → step s input = .ok next → Inv next) {t}
    (along : Along step condition s inputs) (initial : Inv s) (reached : run step s inputs = .ok t) :
    Inv t := by
  induction inputs generalizing s with
  | nil =>
    cases reached
    exact initial
  | cons input inputs ih =>
    obtain ⟨next, stepped, rest⟩ := ok_of_bind reached
    exact ih (along.2 next stepped) (kept s input next initial along.1 stepped) rest

lemma run_eq_foldlM (s : σ) (inputs) : run step s inputs = inputs.foldlM step s := by
  induction inputs generalizing s with
  | nil => rfl
  | cons input inputs ih =>
    exact congrArg _ (funext fun next => ih next)

lemma run_append (s : σ) (before after) :
    run step s (before ++ after) = run step s before >>= fun mid => run step mid after := by
  simp only [run_eq_foldlM, foldlM_append]

lemma along_trivial (s : σ) (inputs) : Along step (fun _ _ => True) s inputs := by
  induction inputs generalizing s with
  | nil => trivial
  | cons input inputs ih => exact ⟨trivial, fun next _ => ih next⟩

lemma along_of_forall {condition : ι → Prop} (meets : ∀ input ∈ inputs, condition input) (s : σ) :
    Along step (fun _ input => condition input) s inputs := by
  induction inputs generalizing s with
  | nil => trivial
  | cons input inputs ih =>
    rw [forall_mem_cons] at meets
    exact ⟨meets.1, fun next _ => ih meets.2 next⟩

/-- An invariant that every step keeps, without any condition. -/
lemma invariant_of_steps (kept : ∀ s input next, Inv s → step s input = .ok next → Inv next) {t}
    (initial : Inv s) (reached : run step s inputs = .ok t) : Inv t :=
  invariant_of_run (fun s input next inv _ stepped => kept s input next inv stepped)
    (along_trivial s inputs) initial reached

/-- Where the condition also makes a step possible, no such run stops. -/
lemma run_ok (steps : ∀ s input, Inv s → condition s input → ∃ next, step s input = .ok next ∧ Inv next)
    (along : Along step condition s inputs) (initial : Inv s) :
    ∃ t, run step s inputs = .ok t ∧ Inv t := by
  induction inputs generalizing s with
  | nil => exact ⟨s, rfl, initial⟩
  | cons input inputs ih =>
    obtain ⟨next, stepped, inv⟩ := steps s input initial along.1
    obtain ⟨t, reached, invT⟩ := ih (along.2 next stepped) inv
    exact ⟨t, by simp only [run, stepped, ok_bind, reached], invT⟩

/-- If a lawful step goes through exactly under the condition, as long as an invariant holds, a lawful run
does so exactly if all its steps meet the condition. -/
lemma run_returns_iff_of_invariant {lawful} (returns_iff : ∀ s input, Inv s → lawful s input →
      ((∃ next, step s input = .ok next) ↔ condition s input))
    (kept : ∀ s input next, Inv s → lawful s input → step s input = .ok next → Inv next)
    (along : Along step lawful s inputs) (initial : Inv s) :
    (∃ t, run step s inputs = .ok t) ↔ Along step condition s inputs := by
  induction inputs generalizing s with
  | nil => exact iff_of_true ⟨s, rfl⟩ trivial
  | cons input inputs ih =>
    have steps := returns_iff s input initial along.1
    have later next (stepped : step s input = .ok next) :=
      ih (along.2 next stepped) (kept s input next initial along.1 stepped)
    constructor
    · rintro ⟨t, ran⟩
      obtain ⟨next, stepped, ran⟩ := ok_of_bind ran
      refine ⟨steps.mp ⟨next, stepped⟩, fun next' stepped' => ?_⟩
      cases stepped.symm.trans stepped'
      exact (later next stepped).mp ⟨t, ran⟩
    · rintro ⟨meets, meetLater⟩
      obtain ⟨next, stepped⟩ := steps.mpr meets
      obtain ⟨t, ran⟩ := (later next stepped).mpr (meetLater next stepped)
      exact ⟨t, bind_eq_ok.mpr ⟨next, stepped, ran⟩⟩

/-- An invariant that a step from a state where it holds keeps exactly under the condition: it holds
all along a run exactly when all steps that are taken meet the condition. -/
lemma always_iff_along {Support : σ → Prop}
    (supported : ∀ s input next, Support s → step s input = .ok next → Support next)
    (kept_iff : ∀ s input next, Support s → Inv s → step s input = .ok next →
      (Inv next ↔ condition s input)) (support : Support s) (initial : Inv s) :
    (∀ before after reached, inputs = before ++ after → run step s before = .ok reached → Inv reached) ↔
      Along step (fun s input => ∀ next, step s input = .ok next → condition s input) s inputs := by
  induction inputs generalizing s with
  | nil =>
    refine iff_of_true ?_ trivial
    intro before after reached split arrives
    obtain ⟨rfl, -⟩ := append_eq_nil_iff.mp split.symm
    cases arrives
    exact initial
  | cons input inputs ih =>
    constructor
    · intro always
      have kept : ∀ next, step s input = .ok next → Inv next := fun next stepped =>
        always [input] inputs next rfl (by simp [run, stepped])
      refine ⟨fun next stepped => (kept_iff s input next support initial stepped).mp (kept next stepped),
        fun next stepped => (ih (supported s input next support stepped) (kept next stepped)).mp ?_⟩
      intro before after reached split arrives
      exact always (input :: before) after reached (by rw [split]; rfl) (by simpa [run, stepped])
    · rintro ⟨meets, along⟩ before after reached split arrives
      cases before with
      | nil =>
        cases arrives
        exact initial
      | cons first before =>
        obtain ⟨rfl, rest⟩ := cons_eq_cons.mp split
        obtain ⟨next, stepped, arrives⟩ := ok_of_bind arrives
        have kept := (kept_iff s input next support initial stepped).mpr (meets next stepped)
        exact (ih (supported s input next support stepped) kept).mpr (along next stepped) before after
          reached rest arrives

/-- A run that keeps an invariant without stopping: if a step does so exactly under the condition, a run does
so exactly if all its steps meet it. -/
lemma always_ok_iff_along
    (ok_iff : ∀ s input, Inv s → ((∃ next, step s input = .ok next ∧ Inv next) ↔ condition s input))
    (initial : Inv s) :
    (∀ before after, inputs = before ++ after → ∃ t, run step s before = .ok t ∧ Inv t) ↔
      Along step condition s inputs := by
  constructor
  · intro always
    induction inputs generalizing s with
    | nil => trivial
    | cons input inputs ih =>
      obtain ⟨next, ran, inv⟩ := always [input] inputs rfl
      obtain ⟨_, stepped, ⟨⟩⟩ := ok_of_bind ran
      refine ⟨(ok_iff s input initial).mp ⟨next, stepped, inv⟩, fun next' stepped' => ?_⟩
      cases stepped.symm.trans stepped'
      refine ih inv fun before after split => ?_
      simpa [run, stepped] using always (input :: before) after (by rw [split]; rfl)
  · rintro along before after rfl
    exact run_ok (fun s input inv meets => (ok_iff s input inv).mpr meets) (along_of_append along) initial

/-! ### Potentials -/

variable (step) in
/-- The sum of what the steps of a run contribute. -/
def runSum (contribution : σ → ι → Int) (s : σ) : List ι → Int
  | [] => 0
  | input :: inputs =>
    contribution s input +
      match step s input with
      | .ok next => runSum contribution next inputs
      | .error _ => 0

lemma runSum_sub (gain loss : σ → ι → Int) (s : σ) (inputs) :
    runSum step (fun s input => gain s input - loss s input) s inputs =
      runSum step gain s inputs - runSum step loss s inputs := by
  induction inputs generalizing s with
  | nil => simp [runSum]
  | cons input inputs ih =>
    simp only [runSum]
    cases step s input with
    | error =>
      dsimp only
      omega
    | ok next =>
      have later := ih next
      dsimp only
      omega

/-- A quantity that every step changes by its contribution. -/
lemma potential_of_run {potential : σ → Int} {contribution}
    (steps : ∀ s input next, Inv s → step s input = .ok next →
      Inv next ∧ potential next = potential s + contribution s input) {t} (initial : Inv s)
    (reached : run step s inputs = .ok t) :
    potential t = potential s + runSum step contribution s inputs := by
  induction inputs generalizing s with
  | nil =>
    cases reached
    simp [runSum]
  | cons input inputs ih =>
    obtain ⟨next, stepped, rest⟩ := ok_of_bind reached
    obtain ⟨kept, changed⟩ := steps s input next initial stepped
    have later := ih kept rest
    simp only [runSum, stepped]
    omega

end PulseMesh.Runs
