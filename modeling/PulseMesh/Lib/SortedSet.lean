import Mathlib

/-!
# Sorted sets

A finite set as the list of its elements in increasing order, which is how a tree set is walked
through.  There is one such list for every set.
-/

namespace PulseMesh

structure SortedSet (α : Type) [LinearOrder α] where
  toList : List α
  sorted : toList.Pairwise (· < ·)
deriving DecidableEq

namespace SortedSet

variable {α : Type} [LinearOrder α] {s : SortedSet α} {a b : α}

instance : Membership α (SortedSet α) := ⟨fun s a => a ∈ s.toList⟩

instance (a : α) (s : SortedSet α) : Decidable (a ∈ s) := inferInstanceAs (Decidable (a ∈ s.toList))

instance : EmptyCollection (SortedSet α) := ⟨⟨[], .nil⟩⟩

@[simp]
lemma notMem_empty : a ∉ (∅ : SortedSet α) := List.not_mem_nil

lemma nodup (s : SortedSet α) : s.toList.Nodup := s.sorted.imp ne_of_lt

lemma sorted_orderedInsert (new : a ∉ s) :
    (s.toList.orderedInsert (· ≤ ·) a).Pairwise (· < ·) := by
  have ordered : (s.toList.orderedInsert (· ≤ ·) a).Pairwise (· ≤ ·) :=
    (s.sorted.imp le_of_lt).orderedInsert a _
  have distinct : (s.toList.orderedInsert (· ≤ ·) a).Nodup :=
    (List.perm_orderedInsert _ a _).nodup_iff.mpr (List.nodup_cons.mpr ⟨new, s.nodup⟩)
  exact (ordered.and distinct).imp fun both => lt_of_le_of_ne both.1 both.2

def insert (a : α) (s : SortedSet α) : SortedSet α :=
  if known : a ∈ s then s else ⟨s.toList.orderedInsert (· ≤ ·) a, sorted_orderedInsert known⟩

def erase (a : α) (s : SortedSet α) : SortedSet α :=
  ⟨s.toList.erase a, s.sorted.sublist List.erase_sublist⟩

lemma perm_insert (new : a ∉ s) : (s.insert a).toList.Perm (a :: s.toList) := by
  rw [insert, dif_neg new]
  exact List.perm_orderedInsert _ a _

@[simp]
lemma mem_insert : b ∈ s.insert a ↔ b = a ∨ b ∈ s := by
  by_cases known : a ∈ s
  · rw [insert, dif_pos known]
    exact ⟨.inr, fun either => either.elim (fun same => same ▸ known) id⟩
  · exact (perm_insert known).mem_iff.trans List.mem_cons

@[simp]
lemma mem_erase : b ∈ s.erase a ↔ b ≠ a ∧ b ∈ s := s.nodup.mem_erase_iff

end SortedSet

end PulseMesh
