import PulseMesh.Lib.Machine

/-!
# Integers split into two signed columns

A wide integer is kept as a signed high half and a non-negative low half in radix `2 ^ 63`.
The pair determines the integer, and the integers are ordered as their pairs are
lexicographically.
-/

namespace PulseMesh.Machine

@[ext]
structure SplitInt where
  high : I64
  low : I64
  low_nonneg : 0 ≤ low.val
deriving DecidableEq

namespace SplitInt

def value (s : SplitInt) : Int := s.high.val * 2 ^ 63 + s.low.val

/-- The integers that have a split form. -/
def Fits (x : Int) : Prop := -2 ^ 126 ≤ x ∧ x < 2 ^ 126

instance (x : Int) : Decidable (Fits x) := inferInstanceAs (Decidable (_ ∧ _))

lemma fits_thousand : Fits 1000 := by decide

lemma high_holds_of_fits {x} (fits : Fits x) : i64.Holds (x / 2 ^ 63) := by
  obtain ⟨low, high⟩ := fits
  rw [i64_holds]
  omega

lemma low_holds (x : Int) : i64.Holds (x % 2 ^ 63) := by
  rw [i64_holds]
  omega

def ofInt (x : Int) (fits : Fits x) : SplitInt where
  high := ⟨x / 2 ^ 63, high_holds_of_fits fits⟩
  low := ⟨x % 2 ^ 63, low_holds x⟩
  low_nonneg := Int.emod_nonneg _ (by decide)

lemma value_fits (s : SplitInt) : Fits s.value := by
  have high := I64.bounds s.high
  have low := I64.bounds s.low
  have nonneg := s.low_nonneg
  unfold Fits value
  omega

@[simp] lemma value_ofInt {x} (fits : Fits x) : (ofInt x fits).value = x := by
  simp only [value, ofInt]
  omega

lemma value_injective {a b : SplitInt} (same : a.value = b.value) : a = b := by
  have lowA := I64.bounds a.low
  have lowB := I64.bounds b.low
  have nonnegA := a.low_nonneg
  have nonnegB := b.low_nonneg
  unfold value at same
  apply SplitInt.ext
  · apply Word.ext
    omega
  · apply Word.ext
    omega

/-- Numeric order is the lexicographic order of the halves. -/
lemma value_lt_value (a b : SplitInt) :
    a.value < b.value ↔ a.high.val < b.high.val ∨ (a.high.val = b.high.val ∧ a.low.val < b.low.val) := by
  have lowA := I64.bounds a.low
  have lowB := I64.bounds b.low
  have nonnegA := a.low_nonneg
  have nonnegB := b.low_nonneg
  unfold value
  omega

end SplitInt

end PulseMesh.Machine
