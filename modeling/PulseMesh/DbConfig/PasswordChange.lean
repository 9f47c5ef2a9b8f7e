import PulseMesh.DbConfig.SecureConfigLayer

/-!
# Changes of the password

What the parts of a change of the password write, and what is accepted as the password of a table.
-/

namespace PulseMesh.DbConfig

open Machine Effects SubLib Blockchain SecureConfigLayer ConfigDao List Option Db

/-! ### Writing records back -/

namespace ConfigTable

/-- The records of a change of the password, without the example. -/
def others (table : ConfigTable) : List ConfigDaoRecord :=
  table.records.filter fun record => decide (record.name ≠ exampleEncrypted)

def writeBack (table : ConfigTable) (records : List ConfigDaoRecord) : ConfigTable :=
  records.foldl (fun table record => table.update record.name record.valueOpt) table

lemma writeBack_cons (table : ConfigTable) (record : ConfigDaoRecord) (records) :
    table.writeBack (record :: records) = (table.update record.name record.valueOpt).writeBack records := rfl

@[simp]
lemma columns_writeBack (table : ConfigTable) (records) :
    (table.writeBack records).columns = table.columns := by
  induction records generalizing table with
  | nil => rfl
  | cons record records ih => rw [writeBack_cons, ih, columns_update]

variable {table : ConfigTable}

lemma find?_writeBack_of_not_mem {records name} (absent : name ∉ records.map ConfigDaoRecord.name) :
    (table.writeBack records).find? name = table.find? name := by
  induction records generalizing table with
  | nil => rfl
  | cons record records ih =>
    rw [map_cons, mem_cons, not_or] at absent
    rw [writeBack_cons, ih absent.2, find?_update]
    cases found : table.find? name with
    | none => rfl
    | some other =>
      rw [map_some, ConfigTable.updateRecord, if_neg]
      rw [(mem_of_find? found).2]
      exact absent.1

lemma isSome_find?_update (table : ConfigTable) (name other : String) (valueOpt) :
    ((table.update name valueOpt).find? other).isSome = (table.find? other).isSome := by
  rw [find?_update, isSome_map]

lemma isSome_find?_writeBack (table : ConfigTable) (records) (name : String) :
    ((table.writeBack records).find? name).isSome = (table.find? name).isSome := by
  induction records generalizing table with
  | nil => rfl
  | cons record records ih => rw [writeBack_cons, ih, isSome_find?_update]

/-- A record that is written back once has its new value afterwards. -/
lemma valueOf_writeBack {records} (distinct : (records.map ConfigDaoRecord.name).Nodup) {record}
    (member : record ∈ records) (present : (table.find? record.name).isSome = true) :
    (table.writeBack records).valueOf record.name = record.valueOpt := by
  induction records generalizing table with
  | nil => cases member
  | cons first records ih =>
    rw [map_cons, nodup_cons] at distinct
    rw [writeBack_cons]
    rcases mem_cons.mp member with rfl | later
    · rw [valueOf, find?_writeBack_of_not_mem distinct.1]
      exact valueOf_update_self _ present
    · exact ih distinct.2 later (by rw [isSome_find?_update]; exact present)

lemma mem_others : record ∈ table.others ↔ record ∈ table.records ∧ record.name ≠ exampleEncrypted := by
  simp [others]

end ConfigTable

/-! ### What the parts of a change do -/

section

variable {bip39 : Bip39} {given : Option String} {new : String} {s : DbState}

/-- The record after it has been encrypted anew. -/
structure Reencrypted (bip39 : Bip39) (given : Option String) (new : String)
    (record record' : ConfigDaoRecord) : Prop where
  name : record'.name = record.name
  encrypted : record'.encrypted = record.encrypted
  kept : record.encrypted = false ∨ record.valueOpt = none → record'.valueOpt = record.valueOpt
  changed : record.encrypted = true → ∀ value, record.valueOpt = some value →
    ∃ password plain crypt, given = some password ∧ bip39.decryptBytes value password = .ok plain ∧
      record'.valueOpt = some crypt ∧ bip39.decryptBytes crypt new = .ok plain

lemma reencryptValue_ok (sound : bip39.Sound)
    (returned : DbEncryptionLayer.reencryptValue bip39 salt value password new name = .ok crypt) :
    ∃ plain, bip39.decryptBytes value password = .ok plain ∧ bip39.decryptBytes crypt new = .ok plain := by
  unfold DbEncryptionLayer.reencryptValue at returned
  cases opened : bip39.decryptBytes value password with
  | error e => simp [opened] at returned
  | ok plain =>
    obtain ⟨other, encrypted, opens⟩ := sound.encrypts salt plain.data new
    simp only [opened, encrypted, Except.ok.injEq] at returned
    subst returned
    exact ⟨plain, rfl, opens⟩

/-- Table and fates of a state; encrypting does not touch them. -/
def stored (s : DbState) : ConfigTable × List (Option ConfigDaoError) := (s.table, s.fates)

lemma reencryptRecord_ok (sound : bip39.Sound)
    (returned : reencryptRecord bip39 given new record s = .ok record' t) :
    Reencrypted bip39 given new record record' ∧ stored t = stored s := by
  obtain ⟨name, valueOpt, encrypted⟩ := record
  unfold reencryptRecord at returned
  dsimp only at returned
  split at returned
  · cases returned
    exact ⟨⟨rfl, rfl, fun _ => rfl, by simp⟩, rfl⟩
  · cases returned
    exact ⟨⟨rfl, rfl, fun _ => rfl, by simp⟩, rfl⟩
  · cases returned
  next value password =>
    obtain ⟨salt, mid, salted, later⟩ := bind_ok_iff.mp returned
    obtain ⟨crypt, mid', returned, built⟩ := bind_ok_iff.mp later
    obtain ⟨reencrypted, rfl⟩ := orPanic_ok_iff.mp returned
    cases salted
    cases built
    obtain ⟨plain, opened, opens⟩ := reencryptValue_ok sound reencrypted
    refine ⟨⟨rfl, rfl, by simp, ?_⟩, rfl⟩
    intro _ value' same
    cases same
    exact ⟨password, plain, crypt, rfl, opened, rfl, opens⟩

/-- Nothing but a panic keeps a record from being encrypted anew. -/
lemma reencryptRecord_error (stopped : reencryptRecord bip39 given new record s = .error stop t) :
    (∃ panic, stop = .panicked panic) ∧ stored t = stored s := by
  obtain ⟨name, valueOpt, encrypted⟩ := record
  unfold reencryptRecord at stopped
  dsimp only at stopped
  split at stopped
  · cases stopped
  · cases stopped
  · cases stopped
    exact ⟨⟨_, rfl⟩, rfl⟩
  · rcases bind_error_iff.mp stopped with salted | ⟨salt, mid, salted, later⟩
    · cases salted
    · cases salted
      rcases bind_error_iff.mp later with reencrypted | ⟨crypt, mid', -, built⟩
      · obtain ⟨⟨panic, -, rfl⟩, rfl⟩ := orPanic_error_iff.mp reencrypted
        exact ⟨⟨panic, rfl⟩, rfl⟩
      · cases built

lemma updateRecord_ok (returned : updateRecord record s = .ok () t) :
    s.fates.head?.join = none ∧
      t = { s with table := s.table.update record.name record.valueOpt, fates := s.fates.tail } := by
  obtain ⟨through, -, left⟩ := set_ok_iff.mp (mapErr_ok_iff.mp returned)
  exact ⟨through, left⟩

/-- The records are written back in order, one call for each of them. -/
lemma updateRecords_ok (returned : updateRecords records s = .ok () t) :
    t.table = s.table.writeBack records ∧ t.fates = s.fates.drop records.length ∧
      ∀ i < records.length, (s.fates.drop i).head?.join = none := by
  induction records generalizing s with
  | nil =>
    cases returned
    exact ⟨rfl, rfl, by simp⟩
  | cons record records ih =>
    rw [updateRecords, forM_cons_eq, bind_ok_iff] at returned
    obtain ⟨⟨⟩, mid, first, later⟩ := returned
    obtain ⟨through, rfl⟩ := updateRecord_ok first
    obtain ⟨written, left, allThrough⟩ := ih later
    refine ⟨written, by rw [left, drop_tail, length_cons], fun i below => ?_⟩
    cases i with
    | zero => exact through
    | succ i =>
      rw [← drop_tail]
      exact allThrough i (by simpa using below)

lemma failurePoint_of_updated (returned : updateRecords records s = .ok () t)
    (fails : t.fates.head?.join = some e) : failurePoint s.fates = records.length := by
  obtain ⟨-, left, through⟩ := updateRecords_ok returned
  exact failurePoint_of_drop through (by rw [← left]; exact fails)

/-- A loop that is cut off has written back the records before the call that fails. -/
lemma updateRecords_error (present : ∀ record ∈ records, (s.table.find? record.name).isSome = true)
    (stopped : updateRecords records s = .error stop t) :
    ∃ done, done <+: records ∧ t.table = s.table.writeBack done ∧ failurePoint s.fates = done.length := by
  obtain ⟨done, record, rest, mid, rfl, ran, fails⟩ := forM_error stopped
  obtain ⟨written, -, -⟩ := updateRecords_ok ran
  have there : (mid.table.find? record.name).isSome = true := by
    rw [written, ConfigTable.isSome_find?_writeBack]
    exact present record (by simp)
  refine ⟨done, prefix_append _ _, ?_⟩
  unfold updateRecord mapErr at fails
  split at fails
  · cases fails
  all_goals next failed =>
      obtain ⟨rfl, e, -, cause⟩ := set_error failed
      cases fails
      rcases cause with fate | absent
      · exact ⟨written, failurePoint_of_updated ran fate⟩
      · simp [absent] at there

lemma getAll_error {stop} (failed : getAll s = .error stop t) :
    t.table = s.table ∧ failurePoint s.fates = 0 := by
  obtain ⟨rfl, e, -, cause⟩ := call_error failed
  rcases cause with fate | impossible
  · exact ⟨rfl, failurePoint_of_fails fate⟩
  · cases impossible

lemma reencryptAll_ok (sound : bip39.Sound)
    (returned : records.mapM (reencryptRecord bip39 given new) s = .ok records' t) :
    Forall₂ (Reencrypted bip39 given new) records records' ∧ stored t = stored s :=
  mapM_ok (fun _ _ _ _ one => reencryptRecord_ok sound one) returned

lemma names_of_reencrypted (related : Forall₂ (Reencrypted bip39 given new) records records') :
    records'.map ConfigDaoRecord.name = records.map ConfigDaoRecord.name :=
  Rows.map_eq_of_forall₂ related fun _ _ reencrypted => reencrypted.name

variable {table : ConfigTable}

/-- Every record that is to be written back is there. -/
lemma present_of_reencrypted (related : Forall₂ (Reencrypted bip39 given new) table.others records) :
    ∀ record ∈ records, (table.find? record.name).isSome = true := by
  intro record' member
  obtain ⟨record, old, reencrypted⟩ := Rows.forall₂_mem_right related member
  rw [reencrypted.name, ConfigTable.find?_of_mem (ConfigTable.mem_others.mp old).1]
  rfl

lemma reencryptRecords_ok (sound : bip39.Sound) (returned : reencryptRecords bip39 given new s = .ok () t) :
    ∃ records, Forall₂ (Reencrypted bip39 given new) s.table.others records ∧
      t.table = s.table.writeBack records ∧
      ∀ e, t.fates.head?.join = some e → failurePoint s.fates - 1 = records.length := by
  obtain ⟨existing, mid, read, later⟩ := bind_ok_iff.mp returned
  obtain ⟨through, rfl, rfl⟩ := getAll_ok_iff.mp (mapErr_ok_iff.mp read)
  obtain ⟨records, mid', reencrypted, written⟩ := bind_ok_iff.mp later
  obtain ⟨related, same⟩ := reencryptAll_ok sound reencrypted
  obtain ⟨sameTable, sameFates⟩ := Prod.mk.inj same
  obtain ⟨left, -, -⟩ := updateRecords_ok written
  refine ⟨records, related, by rw [left, sameTable], fun e fails => ?_⟩
  rw [← failurePoint_tail through, ← failurePoint_of_updated written fails, sameFates]

/-- What was written back before the change of the values was cut off. -/
lemma reencryptRecords_error (sound : bip39.Sound)
    (stopped : reencryptRecords bip39 given new s = .error (.err e) t) :
    ∃ done, Forall₂ (Reencrypted bip39 given new) (s.table.others.take done.length) done ∧
      t.table = s.table.writeBack done ∧ failurePoint s.fates - 1 = done.length := by
  rcases bind_error_iff.mp stopped with read | ⟨existing, mid, read, later⟩
  · obtain ⟨cause, failed, -⟩ := mapErr_err_iff.mp read
    obtain ⟨same, first⟩ := getAll_error failed
    exact ⟨[], .nil, same, by rw [first]; rfl⟩
  · obtain ⟨through, rfl, rfl⟩ := getAll_ok_iff.mp (mapErr_ok_iff.mp read)
    rcases bind_error_iff.mp later with panicked | ⟨records, mid', reencrypted, cut⟩
    · have onlyPanics := mapM_error (fun _ _ _ _ one => (reencryptRecord_ok sound one).2)
        (fun _ _ _ _ one => reencryptRecord_error one) panicked
      obtain ⟨⟨panic, isPanic⟩, -⟩ := onlyPanics
      cases isPanic
    · obtain ⟨related, same⟩ := reencryptAll_ok sound reencrypted
      obtain ⟨sameTable, sameFates⟩ := Prod.mk.inj same
      have present : ∀ record ∈ records, (mid'.table.find? record.name).isSome = true := by
        rw [sameTable]
        exact present_of_reencrypted related
      obtain ⟨done, front, left, counted⟩ := updateRecords_error present cut
      refine ⟨done, ?_, by rw [left, sameTable], ?_⟩
      · rw [prefix_iff_eq_take.mp front, length_take_of_le front.length_le]
        exact forall₂_take _ related
      · rw [← failurePoint_tail through, ← counted, sameFates]

/-! ### The password -/

/-- The password, or the absence of one, passes the check when nothing keeps it from being read. -/
def Accepts (bip39 : Bip39) (passwordOpt : Option String) (table : ConfigTable) : Prop :=
  SecureConfigLayer.checkPassword bip39 passwordOpt ⟨table, [], 0⟩ = .ok true ⟨table, [], 0⟩

variable {passwordOpt : Option String} {done : List ConfigDaoRecord} {n : Nat}

lemma checkPassword_ok_iff :
    checkPassword bip39 passwordOpt s = .ok answer t ↔
      s.fates.head?.join = none ∧ (∃ record, s.table.find? exampleEncrypted = some record ∧
        passwordMatchesExample bip39 passwordOpt record = .ok answer) ∧
        t = { s with fates := s.fates.tail } := by
  rw [checkPassword, bind_ok_iff]
  simp only [mapErr_ok_iff, get_ok_iff, orPanic_ok_iff]
  constructor
  · rintro ⟨record, mid, ⟨through, found, rfl⟩, answered, rfl⟩
    exact ⟨through, ⟨record, found, answered⟩, rfl⟩
  · rintro ⟨through, ⟨record, found, answered⟩, rfl⟩
    exact ⟨record, _, ⟨through, found, rfl⟩, answered, rfl⟩

lemma accepts_iff :
    Accepts bip39 passwordOpt table ↔ ∃ record, table.find? exampleEncrypted = some record ∧
      passwordMatchesExample bip39 passwordOpt record = .ok true := by
  rw [Accepts, checkPassword_ok_iff]
  simp

instance (passwordOpt : Option String) (table : ConfigTable) : Decidable (Accepts bip39 passwordOpt table) :=
  decidable_of_iff ((table.find? exampleEncrypted).map
      (SecureConfigLayer.passwordMatchesExample bip39 passwordOpt) = some (.ok true)) <| by
    rw [accepts_iff, map_eq_some_iff]

/-- Only an access that fails keeps a password that is accepted from being checked. -/
lemma checkPassword_error (stopped : checkPassword bip39 passwordOpt s = .error stop t) :
    t.table = s.table ∧ (Accepts bip39 passwordOpt s.table → failurePoint s.fates = 0) := by
  rcases bind_error_iff.mp stopped with read | ⟨record, mid, read, checked⟩
  · unfold mapErr at read
    split at read
    · cases read
    all_goals next failed =>
        obtain ⟨rfl, e, -, cause⟩ := call_error failed
        cases read
        refine ⟨rfl, fun accepted => ?_⟩
        obtain ⟨record, found, -⟩ := accepts_iff.mp accepted
        rcases cause with fate | absent
        · exact failurePoint_of_fails fate
        · simp [found] at absent
  · obtain ⟨-, found, rfl⟩ := get_ok_iff.mp (mapErr_ok_iff.mp read)
    obtain ⟨⟨panic, panics, -⟩, rfl⟩ := orPanic_error_iff.mp checked
    refine ⟨rfl, fun accepted => ?_⟩
    obtain ⟨record', found', accepts⟩ := accepts_iff.mp accepted
    cases found.symm.trans found'
    cases panics.symm.trans accepts

/-- A table has one password at most. -/
lemma password_unique (sound : bip39.Sound) (accepted : Accepts bip39 passwordOpt table)
    (alsoAccepted : Accepts bip39 other table) : passwordOpt = other := by
  obtain ⟨record, found, accepts⟩ := accepts_iff.mp accepted
  obtain ⟨record', found', accepts'⟩ := accepts_iff.mp alsoAccepted
  cases found.symm.trans found'
  unfold passwordMatchesExample at accepts accepts'
  split_ifs at accepts accepts' with encrypted
  unfold DbEncryptionLayer.passwordMatches at accepts accepts'
  cases passwordOpt with
  | none =>
    cases other with
    | none => rfl
    | some password =>
      cases value : record.valueOpt with
      | none => simp [value] at accepts'
      | some crypt => simp [value] at accepts
  | some password =>
    cases value : record.valueOpt with
    | none => simp [value] at accepts
    | some crypt =>
      cases other with
      | none => simp [value] at accepts'
      | some password' =>
        simp only [value] at accepts accepts'
        cases opened : bip39.decryptBytes crypt password with
        | error e => rw [opened] at accepts; cases e <;> cases accepts
        | ok plain =>
          cases opened' : bip39.decryptBytes crypt password' with
          | error e => rw [opened'] at accepts'; cases e <;> cases accepts'
          | ok plain' => rw [sound.onePassword _ _ _ _ _ opened opened']

/-! ### A change that is cut off -/

section

variable (related : List.Forall₂ (Reencrypted bip39 given new) (table.others.take n) done)
include related

/-- Writing the records back leaves the example alone. -/
lemma find?_example_writeBack :
    (table.writeBack done).find? exampleEncrypted = table.find? exampleEncrypted := by
  apply ConfigTable.find?_writeBack_of_not_mem
  rw [names_of_reencrypted related]
  intro member
  obtain ⟨record, listed, named⟩ := mem_map.mp member
  exact (ConfigTable.mem_others.mp (mem_of_mem_take listed)).2 named

lemma accepts_writeBack :
    Accepts bip39 passwordOpt (table.writeBack done) ↔ Accepts bip39 passwordOpt table := by
  rw [accepts_iff, accepts_iff, find?_example_writeBack related]

end

variable (sound : bip39.Sound)
include sound

lemma installExampleForPassword_error (present : (s.table.find? exampleEncrypted).isSome = true)
    (stopped : installExampleForPassword bip39 exampleData new s = .error stop t) :
    t.table = s.table ∧ ∃ e, s.fates.head?.join = some e := by
  rcases bind_error_iff.mp stopped with salted | ⟨salt, mid, salted, later⟩
  · cases salted
  cases salted
  obtain ⟨crypt, encrypted, -⟩ := sound.encrypts s.salt (exampleData s.salt) new
  simp only [encrypted] at later
  unfold mapErr at later
  split at later
  · cases later
  all_goals next failed =>
      obtain ⟨rfl, e, -, cause⟩ := set_error failed
      cases later
      rcases cause with fate | absent
      · exact ⟨rfl, e, fate⟩
      · simp [absent] at present

/-- What a change that returns an error has written: the records before the call that failed.  The first
two calls read the example and the records. -/
lemma changePassword_error (accepted : Accepts bip39 given s.table)
    (failed : changePassword bip39 exampleData given new s = .error (.err e) t) :
    ∃ done, Forall₂ (Reencrypted bip39 given new) (s.table.others.take done.length) done ∧
      t.table = s.table.writeBack done ∧ failurePoint s.fates - 2 = done.length := by
  rcases bind_error_iff.mp failed with checked | ⟨answer, mid, checked, later⟩
  · obtain ⟨same, first⟩ := checkPassword_error checked
    exact ⟨[], .nil, same, by rw [first accepted]; rfl⟩
  obtain ⟨through, ⟨record, found, answered⟩, rfl⟩ := checkPassword_ok_iff.mp checked
  obtain ⟨record', found', accepts⟩ := accepts_iff.mp accepted
  cases found.symm.trans found'
  cases answered.symm.trans accepts
  rcases bind_error_iff.mp later with cut | ⟨⟨⟩, mid, reencrypted, example'⟩
  · obtain ⟨done, related, left, counted⟩ := reencryptRecords_error sound cut
    refine ⟨done, related, left, ?_⟩
    have next := failurePoint_tail through
    dsimp only at counted
    omega
  · obtain ⟨records, related, left, counted⟩ := reencryptRecords_ok sound reencrypted
    have whole : s.table.others.take records.length = s.table.others := by
      rw [← related.length_eq, take_length]
    rw [← whole] at related
    have present : (mid.table.find? exampleEncrypted).isSome = true := by
      rw [left, find?_example_writeBack related, found]
      rfl
    obtain ⟨same, cause, fails⟩ := installExampleForPassword_error sound present example'
    refine ⟨records, related, same.trans left, ?_⟩
    have next := failurePoint_tail through
    have all := counted cause fails
    dsimp only at all
    omega

/-- What a change that goes through has written. -/
lemma changePassword_ok (returned : changePassword bip39 exampleData given new s = .ok () t) :
    Accepts bip39 given s.table ∧ ∃ records crypt plain,
      Forall₂ (Reencrypted bip39 given new) s.table.others records ∧
      t.table = (s.table.writeBack records).update exampleEncrypted (some crypt) ∧
      bip39.decryptBytes crypt new = .ok plain := by
  obtain ⟨answer, mid, checked, later⟩ := bind_ok_iff.mp returned
  obtain ⟨-, ⟨record, found, answered⟩, rfl⟩ := checkPassword_ok_iff.mp checked
  cases answer with
  | false => cases later
  | true =>
    obtain ⟨⟨⟩, mid, reencrypted, later⟩ := bind_ok_iff.mp later
    obtain ⟨records, related, left, -⟩ := reencryptRecords_ok sound reencrypted
    obtain ⟨salt, mid', salted, later⟩ := bind_ok_iff.mp later
    obtain ⟨crypt, encrypted, opens⟩ := sound.encrypts salt (exampleData salt) new
    simp only [encrypted] at later
    obtain ⟨-, -, rfl⟩ := set_ok_iff.mp (mapErr_ok_iff.mp later)
    cases salted
    refine ⟨accepts_iff.mpr ⟨record, found, answered⟩, records, crypt, _, related, ?_, opens⟩
    rw [left]

/-- A change that panics has written nothing. -/
lemma changePassword_panicked {panic}
    (panicked : changePassword bip39 exampleData given new s = .error (.panicked panic) t) :
    t.table = s.table := by
  rcases bind_error_iff.mp panicked with checked | ⟨answer, mid, checked, later⟩
  · exact (checkPassword_error checked).1
  obtain ⟨-, -, rfl⟩ := checkPassword_ok_iff.mp checked
  cases answer with
  | false => cases later
  | true =>
    rcases bind_error_iff.mp later with cut | ⟨⟨⟩, mid, -, example'⟩
    · rcases bind_error_iff.mp cut with read | ⟨existing, mid, read, later⟩
      · exact absurd read mapErr_call_ne_panicked
      · obtain ⟨-, rfl, rfl⟩ := getAll_ok_iff.mp (mapErr_ok_iff.mp read)
        rcases bind_error_iff.mp later with panicked | ⟨records, mid', -, cut⟩
        · have unchanged := mapM_error (fun _ _ _ _ one => (reencryptRecord_ok sound one).2)
            (fun _ _ _ _ one => reencryptRecord_error one) panicked
          exact (Prod.mk.inj unchanged.2).1
        · -- the loop that writes the records back returns errors only
          obtain ⟨done, record, rest, final, -, -, fails⟩ := forM_error cut
          exact absurd fails mapErr_call_ne_panicked
    · rcases bind_error_iff.mp example' with salted | ⟨salt, mid', salted, later⟩
      · cases salted
      obtain ⟨crypt, encrypted, -⟩ := sound.encrypts salt (exampleData salt) new
      simp only [encrypted] at later
      exact absurd later mapErr_call_ne_panicked

end

end PulseMesh.DbConfig
