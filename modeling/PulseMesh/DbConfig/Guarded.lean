import PulseMesh.DbConfig.PasswordAtomicity

/-!
# Tables with one password

Every encrypted value should open under the password the example stands for.  A single write keeps that
if the value is plain or opens under that password; a change of the password keeps it if it goes through,
or if no value was written back under another password before it was cut off.
-/

namespace PulseMesh.DbConfig

open SubLib Blockchain ConfigTable List Option

/-- All encrypted values open under the password, which is the one that is accepted. -/
structure Guarded (bip39 : Bip39) (passwordOpt : Option String) (table : ConfigTable) : Prop where
  accepted : Accepts bip39 passwordOpt table
  opens : ∀ name, (name, true) ∈ table.columns → ∀ value, table.valueOf name = some value →
    ∃ password plain, passwordOpt = some password ∧ bip39.decryptBytes value password = .ok plain

def SinglePassword (bip39 : Bip39) (table : ConfigTable) : Prop :=
  ∃ passwordOpt, Guarded bip39 passwordOpt table

/-! ### Single writes -/

section

variable {name : String}

section

variable (notExample : name ≠ exampleEncrypted)
include notExample

lemma accepts_update :
    Accepts bip39 passwordOpt (table.update name valueOpt) ↔ Accepts bip39 passwordOpt table := by
  rw [accepts_iff, accepts_iff, find?_update]
  cases found : table.find? exampleEncrypted with
  | none => simp
  | some record =>
    have named := (mem_of_find? found).2
    rw [map_some, updateRecord, if_neg (by rw [named]; exact notExample.symm)]

/-- A plain value has no password. -/
lemma guarded_update_plain (plain : (name, true) ∉ table.columns) :
    Guarded bip39 passwordOpt (table.update name valueOpt) ↔ Guarded bip39 passwordOpt table := by
  have unchanged : ∀ other, (other, true) ∈ table.columns →
      (table.update name valueOpt).valueOf other = table.valueOf other := by
    intro other listed
    apply valueOf_update_of_ne
    rintro rfl
    exact plain listed
  constructor
  · rintro ⟨accepted, opens⟩
    refine ⟨(accepts_update notExample).mp accepted, fun other listed value present => ?_⟩
    exact opens other (by simpa using listed) value (by rw [unchanged other listed]; exact present)
  · rintro ⟨accepted, opens⟩
    refine ⟨(accepts_update notExample).mpr accepted, fun other listed value present => ?_⟩
    rw [columns_update] at listed
    exact opens other listed value (by rw [← unchanged other listed]; exact present)

lemma guarded_update_encrypted (guarded : Guarded bip39 passwordOpt table)
    (opensNew : ∀ value, valueOpt = some value →
      ∃ password plain, passwordOpt = some password ∧ bip39.decryptBytes value password = .ok plain) :
    Guarded bip39 passwordOpt (table.update name valueOpt) := by
  refine ⟨(accepts_update notExample).mpr guarded.accepted, fun other listed value present => ?_⟩
  rw [columns_update] at listed
  by_cases same : other = name
  · subst same
    obtain ⟨record, member, named⟩ := mem_map.mp listed
    have there : (table.find? other).isSome = true := by
      rw [← (Prod.mk.inj named).1, find?_of_mem member]
      rfl
    rw [valueOf_update_self _ there] at present
    exact opensNew value present
  · rw [valueOf_update_of_ne _ _ same] at present
    exact guarded.opens other listed value present

end

end

/-! ### Changes of the password -/

section

variable {bip39 : Bip39} {exampleData : Nat → Bytes} {given : Option String} {new : String}
  {s t : DbState} {table : ConfigTable}

lemma valueOf_of_mem (member : record ∈ table.records) : table.valueOf record.name = record.valueOpt := by
  rw [valueOf, find?_of_mem member]
  rfl

/-- Values that were written back in part still have one password exactly if none of them was encrypted
under another one. -/
lemma singlePassword_writeBack_iff (sound : bip39.Sound)
    (related : List.Forall₂ (Reencrypted bip39 given new) (table.others.take n) done)
    (guarded : Guarded bip39 given table) :
    SinglePassword bip39 (table.writeBack done) ↔
      given = some new ∨ ∀ record ∈ table.others.take n, record.encrypted = true → record.valueOpt = none := by
  constructor
  · rintro ⟨passwordOpt, accepted, opens⟩
    have same := password_unique sound ((accepts_writeBack related).mp accepted) guarded.accepted
    by_contra! harmful
    obtain ⟨changed, record, written, encrypted, filled⟩ := harmful
    obtain ⟨value, present⟩ := ne_none_iff_exists'.mp filled
    obtain ⟨record', reencrypted, left⟩ := valueOf_of_reencrypted related written
    obtain ⟨password, plain, crypt, isGiven, -, becomes, opensNew⟩ :=
      reencrypted.changed encrypted value present
    have old := (mem_others.mp (mem_of_mem_take written)).1
    obtain ⟨password', plain', isPassword, opensOld⟩ := opens record.name
      (by rw [columns_writeBack]; exact mem_map.mpr ⟨record, old, by rw [encrypted]⟩) crypt
      (by rw [left, becomes])
    apply changed
    rw [← same, isPassword, sound.onePassword _ _ _ _ _ opensOld opensNew]
  · intro harmless
    refine ⟨given, (accepts_writeBack related).mpr guarded.accepted, fun name listed value present => ?_⟩
    rw [columns_writeBack] at listed
    obtain ⟨record, member, named⟩ := mem_map.mp listed
    obtain ⟨rfl, encrypted⟩ := Prod.mk.inj named
    by_cases written : record ∈ table.others.take n
    · obtain ⟨record', reencrypted, left⟩ := valueOf_of_reencrypted related written
      rw [left] at present
      cases filled : record.valueOpt with
      | none =>
        rw [reencrypted.kept (Or.inr filled), filled] at present
        cases present
      | some old =>
        obtain ⟨-, plain, crypt, -, -, becomes, opensNew⟩ := reencrypted.changed encrypted old filled
        rw [becomes] at present
        cases present
        rcases harmless with rfl | empty
        · exact ⟨new, plain, rfl, opensNew⟩
        · cases filled.symm.trans (empty record written encrypted)
    · rw [valueOf_of_not_reencrypted related member written] at present
      exact guarded.opens record.name listed value present

/-- After a change that goes through every record but the example has been encrypted anew. -/
lemma reencrypted_of_changed (sound : bip39.Sound)
    (returned : SecureConfigLayer.changePassword bip39 exampleData given new s = .ok () t)
    (member : record ∈ s.table.records) (notExample : record.name ≠ exampleEncrypted) :
    ∃ record', Reencrypted bip39 given new record record' ∧
      t.table.valueOf record.name = record'.valueOpt := by
  obtain ⟨-, records, crypt, -, related, left, -⟩ := changePassword_ok sound returned
  have whole : s.table.others.take s.table.others.length = s.table.others := take_length
  rw [← whole] at related
  obtain ⟨record', reencrypted, becomes⟩ := valueOf_of_reencrypted related
    (by rw [whole]; exact mem_others.mpr ⟨member, notExample⟩)
  exact ⟨record', reencrypted, by rw [left, valueOf_update_of_ne _ _ notExample, becomes]⟩

/-- After a change that goes through all values have the new password. -/
lemma guarded_of_changed (sound : bip39.Sound)
    (returned : SecureConfigLayer.changePassword bip39 exampleData given new s = .ok () t) :
    Guarded bip39 (some new) t.table := by
  obtain ⟨accepted, records, crypt, plain, related, left, opens⟩ := changePassword_ok sound returned
  obtain ⟨example', found, answered⟩ := accepts_iff.mp accepted
  have encrypted : example'.encrypted = true := by
    unfold SecureConfigLayer.passwordMatchesExample at answered
    split_ifs at answered with flag
    exact flag
  rw [← take_length (l := s.table.others)] at related
  have there := find?_example_writeBack related
  constructor
  · apply accepts_iff.mpr
    refine ⟨{ example' with valueOpt := some crypt }, ?_, ?_⟩
    · rw [left, find?_update, there, found, map_some, updateRecord,
        if_pos (mem_of_find? found).2]
    · simp [SecureConfigLayer.passwordMatchesExample, encrypted, DbEncryptionLayer.passwordMatches, opens]
  · intro name listed value present
    rw [left, columns_update, columns_writeBack] at listed
    by_cases isExample : name = exampleEncrypted
    · subst isExample
      rw [left, valueOf_update_self _ (by rw [there, found]; rfl)] at present
      cases present
      exact ⟨new, plain, rfl, opens⟩
    · obtain ⟨record, member, named⟩ := mem_map.mp listed
      obtain ⟨rfl, flag⟩ := Prod.mk.inj named
      obtain ⟨record', reencrypted, becomes⟩ := reencrypted_of_changed sound returned member isExample
      rw [becomes] at present
      cases filled : record.valueOpt with
      | none =>
        rw [reencrypted.kept (Or.inr filled), filled] at present
        cases present
      | some old =>
        obtain ⟨-, plain', crypt', -, -, stored, opensNew⟩ := reencrypted.changed flag old filled
        rw [stored] at present
        cases present
        exact ⟨new, plain', rfl, opensNew⟩

/-- A change that goes through makes the new password the one that is accepted.  But for the example, what
was plain or null is as it was, and what was encrypted opens under the new password to what it was. -/
theorem changePassword_reencrypts (sound : bip39.Sound)
    (returned : SecureConfigLayer.changePassword bip39 exampleData given new s = .ok () t) :
    Accepts bip39 (some new) t.table ∧ t.table.columns = s.table.columns ∧
      ∀ record ∈ s.table.records, record.name ≠ exampleEncrypted →
        ∃ record', Reencrypted bip39 given new record record' ∧
          t.table.valueOf record.name = record'.valueOpt := by
  have columns : t.table.columns = s.table.columns := by
    obtain ⟨-, records, crypt, -, -, left, -⟩ := changePassword_ok sound returned
    rw [left, columns_update, columns_writeBack]
  exact ⟨(guarded_of_changed sound returned).accepted, columns, fun _ member notExample =>
    reencrypted_of_changed sound returned member notExample⟩

theorem sample_change_reencrypts :
    ∃ t, SecureConfigLayer.changePassword markedBip39 (fun _ => [8]) (some "booga") "hoobie"
        ⟨sampleTable, [], 0⟩ = .ok () t ∧ Accepts markedBip39 (some "hoobie") t.table := by
  obtain ⟨t, changed⟩ : ∃ t, SecureConfigLayer.changePassword markedBip39 (fun _ => [8]) (some "booga")
      "hoobie" ⟨sampleTable, [], 0⟩ = .ok () t := ⟨_, rfl⟩
  exact ⟨t, changed, (changePassword_reencrypts markedBip39_sound changed).1⟩

/-- The example is replaced: it opens under the new password, but to other bytes. -/
theorem example_is_not_reencrypted :
    ∃ t, SecureConfigLayer.changePassword markedBip39 (fun _ => [8]) (some "booga") "hoobie"
        ⟨sampleTable, [], 0⟩ = .ok () t ∧ Accepts markedBip39 (some "booga") sampleTable ∧
      sampleTable.valueOf exampleEncrypted = markedValue [7] "booga" ∧
      t.table.valueOf exampleEncrypted = markedValue [8] "hoobie" := ⟨_, rfl, rfl, rfl, rfl⟩

end

end PulseMesh.DbConfig
