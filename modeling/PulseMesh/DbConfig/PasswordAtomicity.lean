import PulseMesh.DbConfig.PasswordChange

/-!
# Password changes that are cut off

The example is written last, so a change that returns an error leaves the old password the one that is
accepted.  But the values that were written back before are encrypted under the new one.
-/

namespace PulseMesh.DbConfig

open Effects SubLib Blockchain ConfigTable

section

variable {bip39 : Bip39} {exampleData : Nat → Bytes} {given : Option String} {new : String}
  {s t : DbState}

/-- The records that are written back before the first call that fails. -/
def writtenBack (s : DbState) : List ConfigDaoRecord := s.table.others.take (failurePoint s.fates - 2)

/-- What the password opens in the table before, it still opens afterwards. -/
def Intact (bip39 : Bip39) (passwordOpt : Option String) (before after : ConfigTable) : Prop :=
  ∀ record ∈ before.records, record.encrypted = true → ∀ value password plain,
    record.valueOpt = some value → passwordOpt = some password → bip39.decryptBytes value password = .ok plain →
      ∃ value', after.valueOf record.name = some value' ∧ bip39.decryptBytes value' password = .ok plain

lemma intact_of_unchanged (unchanged : ∀ record ∈ before.records, record.encrypted = true →
      after.valueOf record.name = before.valueOf record.name) : Intact bip39 passwordOpt before after := by
  intro record member encrypted value password plain present _ opens
  refine ⟨value, ?_, opens⟩
  rw [unchanged record member encrypted, valueOf, find?_of_mem member]
  exact present

section

variable {table : ConfigTable} {n : Nat} {done : List ConfigDaoRecord}
  (related : List.Forall₂ (Reencrypted bip39 given new) (table.others.take n) done)

include related

lemma distinct_of_reencrypted : (done.map ConfigDaoRecord.name).Nodup := by
  rw [names_of_reencrypted related]
  have sub : (table.others.take n).Sublist table.records := (List.take_sublist _ _).trans List.filter_sublist
  exact table.primaryKey.sublist (sub.map _)

/-- A record that was written back has the value it was encrypted to. -/
lemma valueOf_of_reencrypted (member : record ∈ table.others.take n) :
    ∃ record', Reencrypted bip39 given new record record' ∧
      (table.writeBack done).valueOf record.name = record'.valueOpt := by
  obtain ⟨record', written, reencrypted⟩ := Rows.forall₂_mem_left related member
  have old := (mem_others.mp (List.mem_of_mem_take member)).1
  refine ⟨record', reencrypted, ?_⟩
  rw [← reencrypted.name]
  apply valueOf_writeBack (distinct_of_reencrypted related) written
  rw [reencrypted.name, find?_of_mem old]
  rfl

/-- The others have the value they had. -/
lemma valueOf_of_not_reencrypted (member : record ∈ table.records)
    (notWritten : record ∉ table.others.take n) :
    (table.writeBack done).valueOf record.name = table.valueOf record.name := by
  rw [valueOf, valueOf, find?_writeBack_of_not_mem]
  rw [names_of_reencrypted related]
  intro named
  obtain ⟨other, listed, same⟩ := List.mem_map.mp named
  have old := (mem_others.mp (List.mem_of_mem_take listed)).1
  cases Rows.eq_of_key_eq table.primaryKey old member same
  exact notWritten listed

/-- The values are those of the old password exactly if none was encrypted under another one. -/
lemma intact_writeBack_iff (sound : bip39.Sound) :
    Intact bip39 given table (table.writeBack done) ↔
      given = some new ∨ ∀ record ∈ table.others.take n, record.encrypted = true → record.valueOpt = none := by
  constructor
  · intro intact
    by_contra! harmful
    obtain ⟨changed, record, written, encrypted, filled⟩ := harmful
    obtain ⟨value, present⟩ := Option.ne_none_iff_exists'.mp filled
    obtain ⟨record', reencrypted, left⟩ := valueOf_of_reencrypted related written
    obtain ⟨password, plain, crypt, isGiven, opens, becomes, opensNew⟩ :=
      reencrypted.changed encrypted value present
    have old := (mem_others.mp (List.mem_of_mem_take written)).1
    obtain ⟨value', found, opensOld⟩ := intact record old encrypted value password plain present isGiven opens
    rw [left, becomes] at found
    cases found
    exact changed (by rw [isGiven, sound.onePassword _ _ _ _ _ opensOld opensNew])
  · rintro (rfl | harmless)
    · intro record member encrypted value password plain present isGiven opens
      cases isGiven
      by_cases written : record ∈ table.others.take n
      · obtain ⟨record', reencrypted, left⟩ := valueOf_of_reencrypted related written
        obtain ⟨password, plain', crypt, isGiven, opens', becomes, opensNew⟩ :=
          reencrypted.changed encrypted value present
        cases isGiven
        cases opens.symm.trans opens'
        exact ⟨crypt, by rw [left, becomes], opensNew⟩
      · refine ⟨value, ?_, opens⟩
        rw [valueOf_of_not_reencrypted related member written, valueOf, find?_of_mem member]
        exact present
    · apply intact_of_unchanged
      intro record member encrypted
      by_cases written : record ∈ table.others.take n
      · obtain ⟨record', reencrypted, left⟩ := valueOf_of_reencrypted related written
        rw [left, reencrypted.kept (Or.inr (harmless record written encrypted)), valueOf, find?_of_mem member]
        rfl
      · exact valueOf_of_not_reencrypted related member written

end

/-- With a password that is not accepted nothing is written. -/
lemma changePassword_refused (refused : ¬ Accepts bip39 given s.table)
    (stopped : SecureConfigLayer.changePassword bip39 exampleData given new s = .error stop t) :
    t.table = s.table := by
  rcases bind_error_iff.mp stopped with checked | ⟨answer, mid, checked, later⟩
  · exact (checkPassword_error checked).1
  · obtain ⟨-, ⟨record, found, answered⟩, rfl⟩ := checkPassword_ok_iff.mp checked
    cases answer with
    | true => exact absurd (accepts_iff.mpr ⟨record, found, answered⟩) refused
    | false =>
      obtain ⟨-, rfl⟩ := Db.err_error_iff.mp later
      rfl

/-- If a change of the password returns an error, the password the table had is still the one that is
accepted.  What it opened it still opens unless a value was written back under another password before
the call that failed. -/
theorem changePassword_atomic_iff (sound : bip39.Sound) {current : Option String} {e : SecureConfigLayerError}
    (accepted : Accepts bip39 current s.table)
    (failed : SecureConfigLayer.changePassword bip39 exampleData given new s = .error (.err e) t) :
    Accepts bip39 current t.table ∧
      (Intact bip39 current s.table t.table ↔ given ≠ current ∨ current = some new ∨
        ∀ record ∈ writtenBack s, record.encrypted = true → record.valueOpt = none) := by
  by_cases same : given = current
  · subst same
    obtain ⟨done, related, left, counted⟩ := changePassword_error sound accepted failed
    have iff := intact_writeBack_iff related sound
    rw [writtenBack, counted, left]
    refine ⟨(accepts_writeBack related).mpr accepted, iff.trans ?_⟩
    simp
  · have refused : ¬ Accepts bip39 given s.table := fun accepts =>
      same (password_unique sound accepts accepted)
    rw [changePassword_refused refused failed]
    exact ⟨accepted, iff_of_true (intact_of_unchanged fun _ _ _ => rfl) (Or.inl same)⟩

end

/-! ### A table with two encrypted values -/

/-- What is encrypted under the password, as the sample encryption writes it. -/
def markedValue (bytes : Bytes) (password : String) : Option String :=
  (markedBip39.encryptBytes 0 bytes password).toOption

def sampleTable : ConfigTable where
  records := [
    ⟨"example_encrypted", markedValue [7] "booga", true⟩,
    ⟨"consuming_wallet_private_key", markedValue [1, 2] "booga", true⟩,
    ⟨"earning_wallet_address", none, false⟩,
    ⟨"past_neighbors", markedValue [3] "booga", true⟩]
  primaryKey := by decide

/-- The given number of calls goes through, then one fails. -/
def failsAfter (calls : Nat) : List (Option ConfigDaoError) :=
  List.replicate calls none ++ [some (.databaseError "disk I/O error")]

lemma sampleTable_accepts : Accepts markedBip39 (some "booga") sampleTable := rfl

theorem sample_change_atomic :
    ∃ e t, SecureConfigLayer.changePassword markedBip39 (fun _ => [7]) (some "booga") "hoobie"
        ⟨sampleTable, failsAfter 2, 0⟩ = .error (.err e) t ∧
      Accepts markedBip39 (some "booga") t.table ∧
      Intact markedBip39 (some "booga") sampleTable t.table := by
  obtain ⟨e, t, failed⟩ : ∃ e t, SecureConfigLayer.changePassword markedBip39 (fun _ => [7])
      (some "booga") "hoobie" ⟨sampleTable, failsAfter 2, 0⟩ = .error (.err e) t := ⟨_, _, rfl⟩
  have settled := changePassword_atomic_iff markedBip39_sound sampleTable_accepts failed
  exact ⟨e, t, failed, settled.1, settled.2.mpr (.inr (.inr (by decide)))⟩

/-- The second value cannot be written back: the old password is still the one that is accepted, but the
private key can be read under the new one only. -/
theorem change_password_cut_off :
    ∃ e t, SecureConfigLayer.changePassword markedBip39 (fun _ => [7]) (some "booga") "hoobie"
        ⟨sampleTable, failsAfter 4, 0⟩ = .error (.err e) t ∧
      Accepts markedBip39 (some "booga") sampleTable ∧ Accepts markedBip39 (some "booga") t.table ∧
      ¬ Intact markedBip39 (some "booga") sampleTable t.table ∧
      t.table.valueOf "consuming_wallet_private_key" = markedValue [1, 2] "hoobie" ∧
      t.table.valueOf "past_neighbors" = markedValue [3] "booga" := by
  refine ⟨_, _, rfl, sampleTable_accepts, rfl, ?_, rfl, rfl⟩
  intro intact
  obtain ⟨value, found, opens⟩ := intact
    ⟨"consuming_wallet_private_key", markedValue [1, 2] "booga", true⟩ (by simp [sampleTable]) rfl _ "booga"
    ⟨[1, 2]⟩ rfl rfl rfl
  cases found
  revert opens
  decide

end PulseMesh.DbConfig
