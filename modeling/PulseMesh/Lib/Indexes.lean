import PulseMesh.Lib.Machine

/-!
# Tables and their indexes

A table has one row for a key.  An index of the table by an attribute, which a row may have or not,
leads from the attribute back to the key.  It is sound when it leads to rows that have the attribute,
and exact when it also leads to all of them.  A change of one row keeps either, provided the index
follows the row.
-/

namespace PulseMesh

open Function List AList

variable {κ ι ν : Type}

section

variable [DecidableEq κ] (table : AList fun _ : κ => ν) (key : κ) (row : ν)

lemma lookup_insert_eq_update :
    (fun k => (table.insert key row).lookup k) = update (fun k => table.lookup k) key (some row) := by
  funext k
  by_cases same : k = key
  · subst same
    simp
  · rw [lookup_insert_ne same, update_of_ne same]

lemma lookup_erase_eq_update :
    (fun k => (table.erase key).lookup k) = update (fun k => table.lookup k) key none := by
  funext k
  by_cases same : k = key
  · subst same
    simp
  · rw [lookup_erase_ne same, update_of_ne same]

lemma entries_eq :
    table.entries = table.keys.filterMap fun key => (table.lookup key).map (Sigma.mk key) := by
  have found : ∀ entry ∈ table.entries, (table.lookup entry.1).map (Sigma.mk entry.1) = some entry :=
    fun entry listed => by rw [mem_lookup_iff.mpr listed, Option.map_some]
  rw [AList.keys, List.keys, filterMap_map]
  exact filterMap_some.symm.trans (filterMap_congr fun entry listed => (found entry listed).symm)

/-- The keys in their order and the rows under them make up a table. -/
lemma table_ext {table table' : AList fun _ : κ => ν} (keys : table.keys = table'.keys)
    (rows : ∀ key, table.lookup key = table'.lookup key) : table = table' := by
  apply ext
  simp only [entries_eq, keys, rows]

end

/-- The rows that are found under some keys have these keys. -/
lemma map_key_filterMap_sublist {lookup : κ → Option ν} {keyOf}
    (keyed : ∀ key row, lookup key = some row → keyOf row = key) (keys) :
    Sublist ((keys.filterMap lookup).map keyOf) keys := by
  induction keys with
  | nil => exact .slnil
  | cons key keys ih =>
    cases found : lookup key with
    | none =>
      rw [filterMap_cons_none found]
      exact ih.cons key
    | some row =>
      rw [filterMap_cons_some found, map_cons, keyed key row found]
      exact ih.cons_cons key

/-! ### All rows at once -/

section

open Machine

variable {ε : Type} {update : ν → Except ε ν} {key : κ} {row : ν}

def updateEntries (update : ν → Except ε ν) : (entries : List (Sigma fun _ : κ => ν)) →
    Except ε { updated : List (Sigma fun _ : κ => ν) // updated.keys = entries.keys }
  | [] => .ok ⟨[], rfl⟩
  | ⟨key, row⟩ :: entries => do
    let row ← update row
    let rest ← updateEntries update entries
    return ⟨⟨key, row⟩ :: rest.1, congrArg (key :: ·) rest.2⟩

/-- Every row is updated in its place. -/
def updateRows (update : ν → Except ε ν) (table : AList fun _ : κ => ν) : Except ε (AList fun _ : κ => ν) := do
  let updated ← updateEntries update table.entries
  return ⟨updated.1, (congrArg List.Nodup updated.2).mpr table.nodupKeys⟩

variable {entries : List (Sigma fun _ : κ => ν)}

/-- The update goes through if it does so for every row. -/
lemma updateEntries_ok (updates : ∀ entry ∈ entries, ∃ row, update entry.2 = .ok row) :
    ∃ updated, updateEntries update entries = .ok updated := by
  induction entries with
  | nil => exact ⟨_, rfl⟩
  | cons entry entries ih =>
    rw [forall_mem_cons] at updates
    obtain ⟨row, isUpdated⟩ := updates.1
    obtain ⟨rest, areUpdated⟩ := ih updates.2
    exact ⟨_, bind_eq_ok.mpr ⟨row, isUpdated, bind_eq_ok.mpr ⟨rest, areUpdated, rfl⟩⟩⟩

lemma keys_updateRows {table table' : AList fun _ : κ => ν}
    (isUpdated : updateRows update table = .ok table') : table'.keys = table.keys := by
  obtain ⟨updated, areUpdated, isUpdated⟩ := ok_of_bind isUpdated
  cases isUpdated
  exact updated.2

variable [DecidableEq κ]

lemma dlookup_updateEntries {updated} (areUpdated : updateEntries update entries = .ok updated)
    (found : entries.dlookup key = some row) :
    ∃ row', update row = .ok row' ∧ updated.1.dlookup key = some row' := by
  induction entries with
  | nil => cases found
  | cons entry entries ih =>
    obtain ⟨first, isUpdated, areUpdated⟩ := ok_of_bind areUpdated
    obtain ⟨rest, restUpdated, areUpdated⟩ := ok_of_bind areUpdated
    cases areUpdated
    by_cases same : key = entry.1
    · subst same
      rw [dlookup_cons_eq] at found
      cases found
      exact ⟨first, isUpdated, dlookup_cons_eq _ _ _⟩
    · rw [dlookup_cons_ne _ _ same] at found
      obtain ⟨row', rowUpdated, found'⟩ := ih restUpdated found
      exact ⟨row', rowUpdated, (dlookup_cons_ne rest.1 ⟨entry.1, first⟩ same).trans found'⟩

section

variable {table table' : AList fun _ : κ => ν}

lemma updateRows_ok (updates : ∀ key row, table.lookup key = some row → ∃ row', update row = .ok row') :
    ∃ table', updateRows update table = .ok table' := by
  obtain ⟨updated, areUpdated⟩ := updateEntries_ok fun entry listed =>
    updates entry.1 entry.2 (mem_lookup_iff.mpr listed)
  exact ⟨_, bind_eq_ok.mpr ⟨updated, areUpdated, rfl⟩⟩

lemma lookup_updateRows (isUpdated : updateRows update table = .ok table')
    (found : table.lookup key = some row) :
    ∃ row', update row = .ok row' ∧ table'.lookup key = some row' := by
  obtain ⟨updated, areUpdated, isUpdated⟩ := ok_of_bind isUpdated
  cases isUpdated
  exact dlookup_updateEntries areUpdated found

lemma lookup_updateRows_eq_none (isUpdated : updateRows update table = .ok table') :
    table'.lookup key = none ↔ table.lookup key = none := by
  rw [lookup_eq_none, lookup_eq_none, AList.mem_keys, AList.mem_keys, keys_updateRows isUpdated]

/-- A table in which no row changes is the same, in the same order. -/
lemma updateRows_eq_self (same : ∀ key row, table.lookup key = some row → update row = .ok row) :
    updateRows update table = .ok table := by
  have entries : ∀ entry ∈ table.entries, update entry.2 = .ok entry.2 := fun entry listed =>
    same entry.1 entry.2 (mem_lookup_iff.mpr listed)
  have unchanged : ∃ updated, updateEntries update table.entries = .ok updated ∧ updated.1 = table.entries := by
    generalize table.entries = list at entries
    induction list with
    | nil => exact ⟨_, rfl, rfl⟩
    | cons entry list ih =>
      rw [forall_mem_cons] at entries
      obtain ⟨rest, restUpdated, restIs⟩ := ih entries.2
      exact ⟨_, bind_eq_ok.mpr ⟨_, entries.1, bind_eq_ok.mpr ⟨rest, restUpdated, rfl⟩⟩,
        congrArg (entry :: ·) restIs⟩
  obtain ⟨updated, areUpdated, updatedIs⟩ := unchanged
  exact bind_eq_ok.mpr ⟨updated, areUpdated, congrArg Except.ok (ext updatedIs)⟩

end

end

namespace Index

/-- The index leads to rows that have the attribute. -/
def Sound (attr : ν → Option ι) (rows : κ → Option ν) (index : ι → Option κ) : Prop :=
  ∀ i k, index i = some k → (rows k).bind attr = some i

/-- The index leads to the rows that have the attribute and to no others. -/
def Exact (attr : ν → Option ι) (rows : κ → Option ν) (index : ι → Option κ) : Prop :=
  ∀ i k, index i = some k ↔ (rows k).bind attr = some i

variable {attr : ν → Option ι} {rows : κ → Option ν} {index index' : ι → Option κ} {key : κ}
  {row : Option ν}

lemma Exact.sound (exact_ : Exact attr rows index) : Sound attr rows index :=
  fun i k leads => (exact_ i k).mp leads

/-- No two rows of an exactly indexed table share the attribute. -/
lemma Exact.unshared (exact_ : Exact attr rows index) {i k k'} (has : (rows k).bind attr = some i)
    (has' : (rows k').bind attr = some i) : k = k' := by
  have leads := (exact_ i k).mpr has
  have leads' := (exact_ i k').mpr has'
  exact Option.some.inj (leads.symm.trans leads')

variable [DecidableEq κ]

/-- The row of one key has changed and the index leads to that key as the new row says. -/
lemma sound_update (sound : Sound attr rows index)
    (follows : ∀ i, index' i = some key → row.bind attr = some i)
    (others : ∀ i k, k ≠ key → index' i = some k → index i = some k) :
    Sound attr (update rows key row) index' := by
  intro i k leads
  by_cases same : k = key
  · subst same
    simpa using follows i leads
  · rw [update_of_ne same]
    exact sound i k (others i k same leads)

lemma exact_update (exact_ : Exact attr rows index)
    (follows : ∀ i, index' i = some key ↔ row.bind attr = some i)
    (others : ∀ i k, k ≠ key → (index' i = some k ↔ index i = some k)) :
    Exact attr (update rows key row) index' := by
  intro i k
  by_cases same : k = key
  · subst same
    simpa using follows i
  · rw [update_of_ne same, others i k same]
    exact exact_ i k

end Index

end PulseMesh
