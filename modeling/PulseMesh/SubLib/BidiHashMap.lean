import Mathlib

/-!
# Two-way maps

A map that can be read in both directions is kept as two maps.  An insertion writes both and does not
look at what it overwrites, so that the two agree only if no key and no value is used twice.
-/

namespace PulseMesh.SubLib

open Function Option List

structure BidiHashMap (α β : Type) where
  aToB : α → Option β
  bToA : β → Option α

namespace BidiHashMap

variable {α β : Type}

def new : BidiHashMap α β := ⟨fun _ => none, fun _ => none⟩

variable (map : BidiHashMap α β)

/-- The two directions tell the same. -/
def Consistent : Prop :=
  ∀ a b, map.aToB a = some b ↔ map.bToA b = some a

lemma consistent_new : (new : BidiHashMap α β).Consistent := by
  intro a b
  simp [new]

/-- The directions of a consistent map have the same size. -/
lemma Consistent.card_eq {map : BidiHashMap α β} (consistent : map.Consistent) :
    Nat.card { a // (map.aToB a).isSome } = Nat.card { b // (map.bToA b).isSome } := by
  refine Nat.card_congr ⟨fun a => ⟨(map.aToB a).get a.2, ?_⟩, fun b => ⟨(map.bToA b).get b.2, ?_⟩, ?_, ?_⟩
  · rw [(consistent a _).mp (some_get _).symm]
    rfl
  · rw [(consistent _ b).mpr (some_get _).symm]
    rfl
  · intro a
    simp [(consistent a _).mp (some_get a.2).symm]
  · intro b
    simp [(consistent _ b).mpr (some_get b.2).symm]

variable [DecidableEq α] [DecidableEq β]

def insert (a : α) (b : β) : BidiHashMap α β :=
  ⟨update map.aToB a (some b), update map.bToA b (some a)⟩

def removeA (a : α) : BidiHashMap α β :=
  match map.aToB a with
  | none => map
  | some b => ⟨update map.aToB a none, update map.bToA b none⟩

lemma aToB_insert (a : α) (b : β) (key : α) :
    (map.insert a b).aToB key = if key = a then some b else map.aToB key := by
  simp [insert, update_apply]

lemma bToA_insert (a : α) (b value : β) :
    (map.insert a b).bToA value = if value = b then some a else map.bToA value := by
  simp [insert, update_apply]

variable {map}

lemma consistent_insert (consistent : map.Consistent) (newKey : map.aToB a = none)
    (newValue : map.bToA b = none) : (map.insert a b).Consistent := by
  intro key value
  rw [aToB_insert, bToA_insert]
  by_cases sameKey : key = a
  · subst sameKey
    by_cases sameValue : value = b
    · simp [sameValue]
    · have absent : map.bToA value ≠ some key := by
        rw [Ne, ← consistent, newKey]
        simp
      simp [sameValue, absent, Ne.symm sameValue]
  · by_cases sameValue : value = b
    · subst sameValue
      have absent : map.aToB key ≠ some value := by
        rw [Ne, consistent, newValue]
        simp
      simp [sameKey, absent, Ne.symm sameKey]
    · simpa [sameKey, sameValue] using consistent key value

lemma aToB_removeA (map : BidiHashMap α β) (a key : α) :
    (map.removeA a).aToB key = if key = a then none else map.aToB key := by
  rw [removeA]
  split
  next absent =>
    split
    next same => rw [same, absent]
    next => rfl
  next => simp [update_apply]

lemma bToA_removeA (consistent : map.Consistent) (a : α) (value : β) :
    (map.removeA a).bToA value = if map.bToA value = some a then none else map.bToA value := by
  rw [removeA]
  split
  next absent =>
    have unused : map.bToA value ≠ some a := by
      rw [Ne, ← consistent, absent]
      simp
    rw [if_neg unused]
  next b present =>
    by_cases same : value = b
    · subst same
      simp [(consistent a value).mp present]
    · have other : map.bToA value ≠ some a := fun used =>
        same (some.inj (((consistent a value).mpr used).symm.trans present))
      simp [same, other]

lemma consistent_removeA (consistent : map.Consistent) (a : α) : (map.removeA a).Consistent := by
  intro key value
  rw [aToB_removeA, bToA_removeA consistent]
  by_cases same : key = a
  · subst same
    simp
  · by_cases removed : map.bToA value = some a
    · have other : map.aToB key ≠ some value := fun present =>
        same (some.inj (((consistent key value).mp present).symm.trans removed))
      simp [same, removed, other]
    · simpa [same, removed] using consistent key value

/-! ### Sequences of operations -/

def removeB (map : BidiHashMap α β) (b : β) : BidiHashMap α β :=
  match map.bToA b with
  | none => map
  | some a => ⟨update map.aToB a none, update map.bToA b none⟩

inductive Operation (α β : Type) where
  | insert (a : α) (b : β)
  | removeA (a : α)
  | removeB (b : β)

def apply (map : BidiHashMap α β) : Operation α β → BidiHashMap α β
  | .insert a b => map.insert a b
  | .removeA a => map.removeA a
  | .removeB b => map.removeB b

/-- An insertion finds neither side in use, or the very pair it inserts. -/
def Fits (map : BidiHashMap α β) : Operation α β → Prop
  | .insert a b => map.aToB a = none ∧ map.bToA b = none ∨ map.aToB a = some b
  | _ => True

/-- Removals are symmetric, so what holds of one holds of the other with the maps exchanged. -/
lemma consistent_removeB (consistent : map.Consistent) (b : β) : (map.removeB b).Consistent := by
  have swapped : (BidiHashMap.mk map.bToA map.aToB).Consistent := fun b a => (consistent a b).symm
  have removed := consistent_removeA swapped b
  unfold removeA at removed
  unfold removeB
  cases found : map.bToA b with
  | none => exact consistent
  | some a =>
    simp only [found] at removed
    exact fun key value => (removed value key).symm

lemma consistent_insert_iff (consistent : map.Consistent) :
    (map.insert a b).Consistent ↔ map.Fits (.insert a b) := by
  constructor
  · intro after
    have key := aToB_insert map a b
    have value := bToA_insert map a b
    cases foundA : map.aToB a with
    | none =>
      refine .inl ⟨foundA, eq_none_iff_forall_ne_some.mpr fun other foundB => ?_⟩
      -- the former key of the value still leads to it
      have former := (consistent other b).mpr foundB
      have differs : other ≠ a := fun same => by simp [same, foundA] at former
      have back := (after other b).mp (by rw [key, if_neg differs, former])
      simp only [value, if_true, some.injEq] at back
      exact differs back.symm
    | some other =>
      by_contra unfit
      have differs : other ≠ b := fun same => unfit (.inr (by rw [foundA, same]))
      have back := (after a other).mpr (by rw [value, if_neg differs, (consistent a other).mp foundA])
      simp only [key, if_true, some.injEq] at back
      exact differs back.symm
  · rintro (⟨newKey, newValue⟩ | same)
    · exact consistent_insert consistent newKey newValue
    · have unchanged : map.insert a b = map := by
        rw [insert, update_eq_self_iff.mpr same.symm,
          update_eq_self_iff.mpr ((consistent a b).mp same).symm]
      rwa [unchanged]

lemma consistent_apply_iff (consistent : map.Consistent) (operation : Operation α β) :
    (map.apply operation).Consistent ↔ map.Fits operation := by
  cases operation with
  | insert a b => exact consistent_insert_iff consistent
  | removeA a => exact iff_of_true (consistent_removeA consistent a) trivial
  | removeB b => exact iff_of_true (consistent_removeB consistent b) trivial

/-- **The directions are inverse to each other** and of the same size at every point of a sequence of operations
exactly if every insertion finds neither side in use, or the very pair it inserts. -/
theorem directions_inverse_iff (operations : List (Operation α β)) :
    (∀ n, let map := (operations.take n).foldl apply new
      map.Consistent ∧ Nat.card { a // (map.aToB a).isSome } = Nat.card { b // (map.bToA b).isSome }) ↔
      ∀ n operation, operations[n]? = some operation → ((operations.take n).foldl apply new).Fits operation := by
  have next : ∀ {n operation}, operations[n]? = some operation →
      (operations.take (n + 1)).foldl apply new = ((operations.take n).foldl apply new).apply operation := by
    intro n operation here
    rw [take_add_one, here, toList_some, foldl_append]
    rfl
  constructor
  · intro inverse n operation here
    exact (consistent_apply_iff (inverse n).1 operation).mp (next here ▸ (inverse (n + 1)).1)
  · intro fits n
    suffices consistent : ((operations.take n).foldl apply new).Consistent from ⟨consistent, consistent.card_eq⟩
    induction n with
    | zero => exact consistent_new
    | succ n ih =>
      cases here : operations[n]? with
      | none =>
        rw [take_add_one, here, toList_none, append_nil]
        exact ih
      | some operation =>
        rw [next here]
        exact (consistent_apply_iff ih operation).mpr (fits n operation here)

/-- A key that gets another value keeps the way back from its first one. -/
theorem reused_key_is_stale :
    let map := [Operation.insert 1 10, .insert 1 20].foldl apply (new : BidiHashMap Nat Nat)
    map.bToA 10 = some 1 ∧ map.aToB 1 = some 20 := by
  decide

end BidiHashMap

end PulseMesh.SubLib
