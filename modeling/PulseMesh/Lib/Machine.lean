import Mathlib

/-!
# Fixed-width integers

A machine integer is a mathematical integer that carries the proof that its type holds it.
Arithmetic is exact where the result fits; where it does not, the build profile decides
between a panic and the two's-complement wrap.
-/

namespace PulseMesh.Machine

/-- What stops a thread: the panics of the arithmetic operators and those raised by name. -/
inductive Panic where
  | overflow
  | divideByZero
  | raised (message : String)
deriving DecidableEq, Repr

/-- The overflow behaviour a crate is compiled with. -/
inductive Profile where
  | debug
  | release
deriving Repr

/-- An integer type: its name, its width and its least value. -/
structure IntType where
  name : String
  bits : Nat
  least : Int

namespace IntType

def Holds (t : IntType) (x : Int) : Prop :=
  t.least ≤ x ∧ x < t.least + 2 ^ t.bits

instance (t : IntType) (x : Int) : Decidable (t.Holds x) :=
  inferInstanceAs (Decidable (_ ∧ _))

/-- Two's-complement wrap onto the values of the type. -/
def wrap (t : IntType) (x : Int) : Int :=
  (x - t.least) % 2 ^ t.bits + t.least

lemma wrap_holds (t : IntType) (x : Int) : t.Holds (t.wrap x) := by
  exact ⟨by unfold wrap; omega, by unfold wrap; omega⟩

lemma wrap_of_holds {t : IntType} {x} (fits : t.Holds x) : t.wrap x = x := by
  obtain ⟨low, high⟩ := fits
  unfold wrap
  rw [Int.emod_eq_of_lt (by omega) (by omega)]
  omega

lemma wrap_wrap_add (t : IntType) (x y : Int) : t.wrap (t.wrap x + y) = t.wrap (x + y) := by
  have inner : t.wrap x + y - t.least = (x - t.least) % 2 ^ t.bits + y := by
    unfold wrap
    omega
  have outer : x - t.least + y = x + y - t.least := by omega
  simp only [wrap] at inner ⊢
  rw [inner, Int.emod_add_emod, outer]

lemma wrap_sub_of_wrap_add (t : IntType) (x y : Int) : t.wrap (t.wrap (x + y) - y) = t.wrap x := by
  have inner : t.wrap (x + y) - y - t.least = (x + y - t.least) % 2 ^ t.bits - y := by
    unfold wrap
    omega
  have outer : x + y - t.least - y = x - t.least := by omega
  simp only [wrap] at inner ⊢
  rw [inner, Int.emod_sub_emod, outer]

end IntType

def u16 : IntType := ⟨"u16", 16, 0⟩
def u32 : IntType := ⟨"u32", 32, 0⟩
def i64 : IntType := ⟨"i64", 64, -9223372036854775808⟩
def u64 : IntType := ⟨"u64", 64, 0⟩
def i128 : IntType := ⟨"i128", 128, -170141183460469231731687303715884105728⟩
def u128 : IntType := ⟨"u128", 128, 0⟩

lemma u16_holds (x : Int) : u16.Holds x ↔ 0 ≤ x ∧ x < 2 ^ 16 := by
  simp [u16, IntType.Holds]

lemma u32_holds (x : Int) : u32.Holds x ↔ 0 ≤ x ∧ x < 2 ^ 32 := by
  simp [u32, IntType.Holds]

lemma i64_holds (x : Int) : i64.Holds x ↔ -2 ^ 63 ≤ x ∧ x < 2 ^ 63 := by
  simp [i64, IntType.Holds]

lemma u64_holds (x : Int) : u64.Holds x ↔ 0 ≤ x ∧ x < 2 ^ 64 := by
  simp [u64, IntType.Holds]

lemma i128_holds (x : Int) : i128.Holds x ↔ -2 ^ 127 ≤ x ∧ x < 2 ^ 127 := by
  simp [i128, IntType.Holds]

lemma u128_holds (x : Int) : u128.Holds x ↔ 0 ≤ x ∧ x < 2 ^ 128 := by
  simp [u128, IntType.Holds]

lemma u32_zero : u32.Holds 0 := by decide
lemma u32_one : u32.Holds 1 := by decide
lemma u32_thousand : u32.Holds 1000 := by decide
lemma i64_zero : i64.Holds 0 := by decide
lemma u64_zero : u64.Holds 0 := by decide
lemma u64_one : u64.Holds 1 := by decide
lemma u64_two : u64.Holds 2 := by decide
lemma u64_three : u64.Holds 3 := by decide
lemma u64_nine : u64.Holds 9 := by decide
lemma u64_hundred : u64.Holds 100 := by decide
lemma u64_thousand : u64.Holds 1000 := by decide
lemma u128_zero : u128.Holds 0 := by decide

/-- A value of a machine integer type. -/
@[ext]
structure Word (t : IntType) where
  val : Int
  holds : t.Holds val
deriving DecidableEq

abbrev U16 := Word u16
abbrev U32 := Word u32
abbrev I64 := Word i64
abbrev U64 := Word u64
abbrev I128 := Word i128
abbrev U128 := Word u128

lemma U32.bounds (w : U32) : 0 ≤ w.val ∧ w.val < 2 ^ 32 := (u32_holds _).mp w.holds
lemma I64.bounds (w : I64) : -2 ^ 63 ≤ w.val ∧ w.val < 2 ^ 63 := (i64_holds _).mp w.holds
lemma U64.bounds (w : U64) : 0 ≤ w.val ∧ w.val < 2 ^ 64 := (u64_holds _).mp w.holds
lemma I128.bounds (w : I128) : -2 ^ 127 ≤ w.val ∧ w.val < 2 ^ 127 := (i128_holds _).mp w.holds
lemma U128.bounds (w : U128) : 0 ≤ w.val ∧ w.val < 2 ^ 128 := (u128_holds _).mp w.holds

/-- The value of an arithmetic operator whose exact result is `x`. -/
def arith (p : Profile) (t : IntType) (x : Int) : Except Panic (Word t) :=
  if fits : t.Holds x then
    .ok ⟨x, fits⟩
  else
    match p with
    | .debug => .error .overflow
    | .release => .ok ⟨t.wrap x, t.wrap_holds x⟩

variable {t : IntType} {p : Profile} {w : Word t}

lemma arith_ok (p) {x} (fits : t.Holds x) : arith p t x = .ok ⟨x, fits⟩ := by
  simp [arith, fits]

lemma arith_debug_eq_ok {x} : arith .debug t x = .ok w ↔ w.val = x := by
  unfold arith
  split
  next fits =>
    constructor
    · intro returned
      cases returned
      rfl
    · rintro rfl
      rfl
  next overflows =>
    constructor
    · intro returned
      cases returned
    · rintro rfl
      exact absurd w.holds overflows

lemma arith_release_eq_ok (t : IntType) (x : Int) :
    ∃ w : Word t, arith .release t x = .ok w ∧ w.val = t.wrap x := by
  by_cases fits : t.Holds x
  · exact ⟨_, arith_ok .release fits, (IntType.wrap_of_holds fits).symm⟩
  · exact ⟨⟨t.wrap x, t.wrap_holds x⟩, by simp [arith, fits], rfl⟩

lemma val_of_arith_eq_ok {x : Int} (returned : arith p t x = .ok w) : w.val = t.wrap x := by
  cases p with
  | debug => rw [← arith_debug_eq_ok.mp returned, IntType.wrap_of_holds w.holds]
  | release =>
    obtain ⟨wrapped, same, val⟩ := arith_release_eq_ok t x
    cases returned.symm.trans same
    exact val

namespace Word

variable {t : IntType}

def add (p : Profile) (a b : Word t) : Except Panic (Word t) := arith p t (a.val + b.val)
def sub (p : Profile) (a b : Word t) : Except Panic (Word t) := arith p t (a.val - b.val)
def mul (p : Profile) (a b : Word t) : Except Panic (Word t) := arith p t (a.val * b.val)
def neg (p : Profile) (a : Word t) : Except Panic (Word t) := arith p t (-a.val)

variable {a : Word t}

/-- Back again, also where the sum has wrapped. -/
lemma sub_of_add {b sum : Word t} (added : a.add p b = .ok sum) : sum.sub p b = .ok a := by
  cases p with
  | debug =>
    have value := arith_debug_eq_ok.mp added
    apply arith_debug_eq_ok.mpr
    omega
  | release =>
    obtain ⟨_, computed, value⟩ := arith_release_eq_ok t (a.val + b.val)
    cases added.symm.trans computed
    obtain ⟨difference, subtracted, back⟩ := arith_release_eq_ok t (sum.val - b.val)
    rw [value, IntType.wrap_sub_of_wrap_add, IntType.wrap_of_holds a.holds] at back
    rw [← Word.ext back]
    exact subtracted

/-- Truncating division; both of its panics are unconditional, whatever the profile. -/
def div (a b : Word t) : Except Panic (Word t) :=
  if b.val = 0 then
    .error .divideByZero
  else
    arith .debug t (Int.tdiv a.val b.val)

/-- The `as` conversion, which wraps. -/
def cast (u : IntType) (a : Word t) : Word u := ⟨u.wrap a.val, u.wrap_holds a.val⟩

variable {u : IntType}

lemma cast_val (fits : u.Holds a.val) : (a.cast u).val = a.val := u.wrap_of_holds fits

/-- The `try_from` conversion. -/
def tryFrom (u : IntType) (a : Word t) : Option (Word u) :=
  if fits : u.Holds a.val then some ⟨a.val, fits⟩ else none

lemma tryFrom_eq_some (fits : u.Holds a.val) : a.tryFrom u = some ⟨a.val, fits⟩ := by
  simp [tryFrom, fits]

lemma tryFrom_eq_none (outside : ¬ u.Holds a.val) : a.tryFrom u = none := by
  simp [tryFrom, outside]

end Word

variable {ε α β : Type} {x : Except ε α} {f : α → Except ε β}

lemma bind_eq_ok {b} : (x >>= f) = .ok b ↔ ∃ a, x = .ok a ∧ f a = .ok b := by
  cases x with
  | error e => simp [bind, Except.bind]
  | ok a => simp [bind, Except.bind]

lemma ok_of_bind {b} (returned : (x >>= f) = .ok b) : ∃ a, x = .ok a ∧ f a = .ok b := bind_eq_ok.mp returned

lemma bind_eq_map_bind {γ : Type} {f : α → Except ε γ} {f' : α → Except ε β} {g}
    (same : ∀ a, f a = g <$> f' a) : (x >>= f) = g <$> (x >>= f') := by
  cases x with
  | error e => rfl
  | ok a => exact same a

lemma bind_eq_error {e} (fails : (x >>= f) = .error e) :
    x = .error e ∨ ∃ a, x = .ok a ∧ f a = .error e := by
  cases x with
  | error e' => exact .inl (congrArg Except.error (Except.error.inj fails))
  | ok a => exact .inr ⟨a, rfl, fails⟩

instance decidableExistsOk : (x : Except ε α) → Decidable (∃ a, x = .ok a)
  | .error _ => .isFalse nofun
  | .ok a => .isTrue ⟨a, rfl⟩

/-- What a computation returns can be checked by running it. -/
instance decidableExistsOkAnd {Post : α → Prop} [DecidablePred Post] :
    (x : Except ε α) → Decidable (∃ a, x = .ok a ∧ Post a)
  | .error _ => .isFalse nofun
  | .ok a => decidable_of_iff (Post a) (by simp)

@[simp] lemma ok_bind (a : α) (f : α → Except ε β) :
    ((Except.ok a : Except ε α) >>= f) = f a := rfl

@[simp] lemma pure_eq_ok (a : α) : (pure a : Except ε α) = .ok a := rfl

@[simp] lemma error_bind (e : ε) (f : α → Except ε β) :
    ((Except.error e : Except ε α) >>= f) = .error e := rfl

end PulseMesh.Machine
