import PulseMesh.Lib.Machine

/-!
# Values shared by the accountant

Wallets, `checked_conversion`, `gwei_to_wei` and the time helpers of the data access objects.
A `SystemTime` is counted in nanoseconds from the Unix epoch.
-/

namespace PulseMesh.Accountant

open Machine

/-- Wallets are compared and stored by their address. -/
structure Wallet where
  address : BitVec 160
deriving DecidableEq

def Wallet.display (wallet : Wallet) : String := "0x" ++ wallet.address.toHex

def weisInGwei : Int := 1000000000

def politelyCheckedConversion {t : IntType} (u : IntType) (num : Word t) : Except String (Word u) :=
  match num.tryFrom u with
  | some converted => .ok converted
  | none => .error s!"Overflow detected with {num.val}: cannot be converted from {t.name} to {u.name}"

def checkedConversion {t : IntType} (u : IntType) (num : Word t) : Except Panic (Word u) :=
  match politelyCheckedConversion u num with
  | .ok converted => .ok converted
  | .error message => .error (.raised message)

lemma checkedConversion_ok {t u : IntType} {num : Word t} (fits : u.Holds num.val) :
    checkedConversion u num = .ok ⟨num.val, fits⟩ := by
  simp [checkedConversion, politelyCheckedConversion, Word.tryFrom_eq_some fits]

lemma checkedConversion_eq_ok {num : Word t} {converted : Word u} :
    checkedConversion u num = .ok converted ↔ converted.val = num.val := by
  by_cases fits : u.Holds num.val
  · rw [checkedConversion_ok fits, Except.ok.injEq, Word.ext_iff, eq_comm]
  · have failed : checkedConversion u num ≠ .ok converted := by
      simp [checkedConversion, politelyCheckedConversion, Word.tryFrom_eq_none fits]
    refine iff_of_false failed ?_
    intro same
    exact fits (same ▸ converted.holds)

/-- The conversion of the number itself is the lossless `From`, so only the product can overflow. -/
def gweiToWei (p : Profile) (t : IntType) {s : IntType} (gwei : Word s) : Except Panic (Word t) :=
  arith p t (gwei.val * weisInGwei)

structure SystemTime where
  nanos : Int
deriving DecidableEq

def nanosInSecond : Int := 1000000000

/-- A timestamp as the tables hold it: the database integers that `to_time_t` produces. -/
@[ext]
structure TimeT where
  secs : I64
  secs_nonneg : 0 ≤ secs.val

instance : DecidableEq TimeT := fun _ _ => decidable_of_iff _ TimeT.ext_iff.symm

def toTimeT (systemTime : SystemTime) : Except Panic TimeT :=
  if past : systemTime.nanos < 0 then
    .error (.raised "Must be wrong, moment way far in the past")
  else if fits : i64.Holds (systemTime.nanos / nanosInSecond) then
    .ok ⟨⟨systemTime.nanos / nanosInSecond, fits⟩, by simp only [nanosInSecond]; omega⟩
  else
    .error (.raised "MASQNode has expired")

lemma toTimeT_eq_ok :
    toTimeT systemTime = .ok timeT ↔
      0 ≤ systemTime.nanos ∧ timeT.secs.val = systemTime.nanos / nanosInSecond := by
  unfold toTimeT
  split
  next past => simp only [reduceCtorEq, false_iff]; omega
  next =>
    split
    next fits =>
      rw [Except.ok.injEq, TimeT.ext_iff, Word.ext_iff, eq_comm]
      exact ⟨fun same => ⟨by omega, same⟩, fun same => same.2⟩
    next expired =>
      simp only [reduceCtorEq, false_iff, not_and]
      intro _ same
      exact expired (same ▸ timeT.secs.holds)

/-- The addition to the epoch overflows for negative timestamps only, which `TimeT` excludes. -/
def fromTimeT (timeT : TimeT) : SystemTime := ⟨timeT.secs.val * nanosInSecond⟩

/-- Whole seconds of `now.duration_since(earlier)`; no duration when `earlier` is the later one. -/
def durationSinceAsSecs (now earlier : SystemTime) : Option U64 :=
  if earlier.nanos ≤ now.nanos then
    some ⟨u64.wrap ((now.nanos - earlier.nanos) / nanosInSecond), u64.wrap_holds _⟩
  else
    none

end PulseMesh.Accountant
