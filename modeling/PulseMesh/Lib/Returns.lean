import PulseMesh.Lib.Machine

/-!
# Total correctness

A computation that may stop *returns* with a postcondition if it does not stop and its result meets the
postcondition.  There is a rule for each way in which such computations are put together.
-/

namespace PulseMesh.Machine

variable {ε α β : Type} {x : Except ε α} {f : α → Except ε β} {a : α}

def Returns (x : Except ε α) (Post : α → Prop) : Prop := ∃ a, x = .ok a ∧ Post a

/-- Nothing is asked of the result. -/
abbrev Safe (x : Except ε α) : Prop := Returns x fun _ => True

namespace Returns

variable {Post Mid : α → Prop} {Final : β → Prop}

lemma ok (meets : Post a) : Returns (.ok a : Except ε α) Post := ⟨a, rfl, meets⟩

lemma of_eq (returned : x = .ok a) (meets : Post a) : Returns x Post := ⟨a, returned, meets⟩

lemma mono (returns : Returns x Mid) (weaker : ∀ a, Mid a → Post a) : Returns x Post := by
  obtain ⟨a, returned, meets⟩ := returns
  exact ⟨a, returned, weaker a meets⟩

/-- What is known of any result holds of this one too. -/
lemma also (returns : Returns x Mid) (known : ∀ a, x = .ok a → Post a) :
    Returns x fun a => Mid a ∧ Post a := by
  obtain ⟨a, returned, meets⟩ := returns
  exact ⟨a, returned, meets, known a returned⟩

lemma bind (first : Returns x Mid) (rest : ∀ a, Mid a → Returns (f a) Final) :
    Returns (x >>= f) Final := by
  obtain ⟨a, rfl, meets⟩ := first
  exact rest a meets

lemma andThen (first : Safe x) (rest : ∀ a, Returns (f a) Final) :
    Returns (x >>= f) Final := first.bind fun a _ => rest a

lemma of_ne_error (unfailing : ∀ e, x ≠ .error e) : Safe x := by
  cases x with
  | error e => exact absurd rfl (unfailing e)
  | ok a => exact ok trivial

lemma post (returns : Returns x Post) (returned : x = .ok a) : Post a := by
  obtain ⟨b, rfl, meets⟩ := returns
  cases returned
  exact meets

end Returns

/-- If nothing can stop it later, a computation returns exactly if its first part does. -/
lemma bind_returns_iff (rest : ∀ a, x = .ok a → ∃ b, f a = .ok b) :
    (∃ b, (x >>= f) = .ok b) ↔ ∃ a, x = .ok a := by
  constructor
  · rintro ⟨b, returned⟩
    obtain ⟨a, first, -⟩ := ok_of_bind returned
    exact ⟨a, first⟩
  · rintro ⟨a, first⟩
    obtain ⟨b, returned⟩ := rest a first
    exact ⟨b, bind_eq_ok.mpr ⟨a, first, returned⟩⟩

/-! ### Where it is not known whether the computation stops -/

/-- Any result meets the postcondition, and there is a result if the computation is `safe`. -/
structure Settles (safe : Prop) (x : Except ε α) (Post : α → Prop) : Prop where
  meets : ∀ a, x = .ok a → Post a
  returns : safe → ∃ a, x = .ok a

namespace Settles

variable {safe : Prop} {Post Mid : α → Prop} {Final : β → Prop}

lemma ok (meets : Post a) : Settles safe (.ok a : Except ε α) Post := by
  constructor
  · intro b returned
    cases returned
    exact meets
  · exact fun _ => ⟨a, rfl⟩

lemma mono (settles : Settles safe x Mid) (weaker : ∀ a, Mid a → Post a) : Settles safe x Post :=
  ⟨fun a returned => weaker a (settles.meets a returned), settles.returns⟩

lemma bind (first : Settles safe x Mid) (rest : ∀ a, Mid a → Settles safe (f a) Final) :
    Settles safe (x >>= f) Final := by
  constructor
  · intro b returned
    obtain ⟨a, computed, finished⟩ := ok_of_bind returned
    exact (rest a (first.meets a computed)).meets b finished
  · intro isSafe
    obtain ⟨a, computed⟩ := first.returns isSafe
    obtain ⟨b, finished⟩ := (rest a (first.meets a computed)).returns isSafe
    exact ⟨b, bind_eq_ok.mpr ⟨a, computed, finished⟩⟩

lemma total (settles : Settles safe x Post) (isSafe : safe) : Returns x Post := by
  obtain ⟨a, returned⟩ := settles.returns isSafe
  exact ⟨a, returned, settles.meets a returned⟩

end Settles

/-! ### Lists -/

section

variable {σ ι : Type} {step : σ → ι → Except ε σ} {inputs : List ι} {Inv : σ → Prop}

/-- A loop returns if every turn keeps the invariant. -/
lemma returns_foldlM (turn : ∀ s, ∀ input ∈ inputs, Inv s → Returns (step s input) Inv) {s}
    (initial : Inv s) : Returns (inputs.foldlM step s) Inv := by
  induction inputs generalizing s with
  | nil => exact .ok initial
  | cons input inputs ih =>
    refine (turn s input List.mem_cons_self initial).bind fun next kept => ?_
    exact ih (fun s input listed => turn s input (List.mem_cons_of_mem _ listed)) kept

lemma returns_mapM {convert : ι → Except ε α}
    (each : ∀ input ∈ inputs, Safe (convert input)) : Safe (inputs.mapM convert) := by
  induction inputs with
  | nil => exact .ok trivial
  | cons input inputs ih =>
    rw [List.forall_mem_cons] at each
    rw [List.mapM_cons]
    exact each.1.andThen fun _ => (ih each.2).andThen fun _ => .ok trivial

end

/-! ### Arithmetic -/

/-- The released build never stops on a sum, a difference or a product. -/
lemma returns_arith {p} (release : p = .release) (t) (x : Int) : Safe (arith p t x) := by
  subst release
  obtain ⟨w, computed, -⟩ := arith_release_eq_ok t x
  exact .of_eq computed trivial

end PulseMesh.Machine
