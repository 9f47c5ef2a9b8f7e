import PulseMesh.Lib.Runs

/-!
# Migrations of the schema

All migrations from the version of the database up to the target run in one transaction, and each raises the
stored version by one.  A transaction that is not committed leaves the database as it was.
-/

namespace PulseMesh.DbMigrations

open Machine Runs List

/-- The stored schema version, and whatever else is in the database. -/
structure Database (δ : Type) where
  schemaVersion : Nat
  data : δ

structure DatabaseMigration (δ : Type) where
  oldVersion : Nat
  migrate : Database δ → Except String (Database δ)

/-- What the transaction does: which versions cannot be written, and whether it cannot be committed. -/
structure MigrationUtilities where
  currentSchemaVersion : Nat
  updateError : Nat → Option String
  commitError : Option String

variable {δ : Type} (utils : MigrationUtilities)

def updateSchemaVersion (updateTo : Nat) (db : Database δ) : Except String (Database δ) :=
  match utils.updateError updateTo with
  | some e => .error e
  | none => .ok { db with schemaVersion := updateTo }

def migrateSemiAutomated (db : Database δ) (record : DatabaseMigration δ) : Except String (Database δ) := do
  let migrated ← record.migrate db
  updateSchemaVersion utils (record.oldVersion + 1) migrated

/-- One turn of the loop, with the error as `dispatch_bad_news` words it. -/
def process (db : Database δ) (record : DatabaseMigration δ) : Except String (Database δ) :=
  (migrateSemiAutomated utils db record).mapError fun e =>
    s!"Migrating database from version {record.oldVersion} to {record.oldVersion + 1} failed: {e}"

def selectMigrationsToProcess (obsoleteSchema : Nat) (listOfMigrations : List (DatabaseMigration δ))
    (targetVersion : Nat) : Except Panic (List (DatabaseMigration δ)) :=
  if obsoleteSchema > utils.currentSchemaVersion then
    .error (.raised (s!"Database claims to be more advanced ({obsoleteSchema}) than the version 11 which is the " ++
      "latest version this Node knows about."))
  else
    .ok ((listOfMigrations.dropWhile fun entry => entry.oldVersion != obsoleteSchema).takeWhile fun entry =>
      entry.oldVersion < targetVersion)

/-- The result, and the database it leaves. -/
def initiateMigrations (obsoleteSchema targetVersion : Nat) (listOfMigrations : List (DatabaseMigration δ))
    (db : Database δ) : Except Panic (Except String Unit × Database δ) := do
  let migrationsToProcess ← selectMigrationsToProcess utils obsoleteSchema listOfMigrations targetVersion
  match run (process utils) db migrationsToProcess, utils.commitError with
  | .error message, _ => pure (.error message, db)
  | .ok _, some e => pure (.error e, db)
  | .ok migrated, none => pure (.ok (), migrated)

variable {utils} {listOfMigrations records : List (DatabaseMigration δ)} {db after : Database δ}

lemma selected_range (ordered : obsolete ≤ target) (within : target ≤ n) :
    ((range n).dropWhile (· != obsolete)).takeWhile (· < target) = range' obsolete (target - obsolete) := by
  obtain ⟨k, rfl⟩ := Nat.exists_eq_add_of_le ordered
  obtain ⟨m, rfl⟩ := Nat.exists_eq_add_of_le within
  have front : range (obsolete + k + m) = range obsolete ++ range' obsolete (k + m) := by
    simpa [range_eq_range', Nat.add_assoc] using (range'_append_1 (s := 0) (m := obsolete)).symm
  have stops : (range' obsolete (k + m)).dropWhile (· != obsolete) = range' obsolete (k + m) := by
    cases k + m <;> simp [range'_succ]
  have none : (range' (obsolete + k) m).takeWhile (· < obsolete + k) = [] := by cases m <;> simp [range'_succ]
  rw [front, dropWhile_append_of_pos (by simp; omega), stops, ← range'_append_1,
    takeWhile_append_of_pos (by simp), none, append_nil, Nat.add_sub_cancel_left]

variable (contiguous : listOfMigrations.map DatabaseMigration.oldVersion = range listOfMigrations.length)
include contiguous

/-- The migrations that are processed are those of the versions from the obsolete one up to the target. -/
lemma selected_versions (ordered : obsolete ≤ target) (within : target ≤ listOfMigrations.length)
    (selected : selectMigrationsToProcess utils obsolete listOfMigrations target = .ok records) :
    records <+ listOfMigrations ∧
      records.map DatabaseMigration.oldVersion = range' obsolete (target - obsolete) := by
  unfold selectMigrationsToProcess at selected
  split_ifs at selected
  cases selected
  refine ⟨(takeWhile_sublist _).trans (dropWhile_sublist _), ?_⟩
  rw [← selected_range ordered within, ← contiguous, dropWhile_map, takeWhile_map]
  rfl

omit contiguous

lemma schemaVersion_process (processed : process utils db record = .ok after) :
    after.schemaVersion = record.oldVersion + 1 := by
  unfold process at processed
  cases migrated : migrateSemiAutomated utils db record with
  | error e => simp [migrated, Except.mapError] at processed
  | ok next =>
    rw [migrated] at processed
    cases processed
    obtain ⟨mid, -, updated⟩ := ok_of_bind migrated
    unfold updateSchemaVersion at updated
    split at updated <;> cases updated
    rfl

/-- Migrations that follow each other raise the version by one each. -/
lemma schemaVersion_run (versions : records.map DatabaseMigration.oldVersion = range' db.schemaVersion n)
    (processed : run (process utils) db records = .ok after) : after.schemaVersion = db.schemaVersion + n := by
  induction records generalizing db n with
  | nil =>
    cases processed
    simpa using (congrArg length versions).symm
  | cons record records ih =>
    cases n with
    | zero => cases versions
    | succ n =>
      obtain ⟨first, rest⟩ := cons.inj versions
      obtain ⟨next, migrated, processed⟩ := ok_of_bind processed
      have raised := schemaVersion_process migrated
      rw [first] at raised
      rw [ih (raised ▸ rest) processed, raised]
      omega

include contiguous

/-- **Migrations up to the target**: those from the versions in between are processed once each and in order.  If
all of them go through and are committed, the stored version is the target; otherwise the database is what it was. -/
theorem initiateMigrations_reaches_target
    (ordered : db.schemaVersion ≤ target) (within : target ≤ listOfMigrations.length)
    (returned : initiateMigrations utils db.schemaVersion target listOfMigrations db = .ok (result, after)) :
    ∃ records, records <+ listOfMigrations ∧
      records.map DatabaseMigration.oldVersion = range' db.schemaVersion (target - db.schemaVersion) ∧
      (result = .ok () → run (process utils) db records = .ok after ∧ after.schemaVersion = target) ∧
      ((∃ e, run (process utils) db records = .error e) ∨ result ≠ .ok () → result ≠ .ok () ∧ after = db) := by
  obtain ⟨records, selected, returned⟩ := ok_of_bind returned
  obtain ⟨listed, versions⟩ := selected_versions contiguous ordered within selected
  refine ⟨records, listed, versions, ?_⟩
  cases processed : run (process utils) db records with
  | error e =>
    simp only [processed] at returned
    cases returned
    simp
  | ok migrated =>
    have raised := schemaVersion_run versions processed
    cases committed : utils.commitError <;> simp only [processed, committed] at returned <;> cases returned
    · simp
      omega
    · simp

omit contiguous

/-- Migrations that change nothing but the version. -/
def sampleMigrations : List (DatabaseMigration Unit) := (range 3).map fun version => ⟨version, .ok⟩

theorem sample_migrations_reach_target :
    ∃ after, initiateMigrations ⟨11, fun _ => none, none⟩ 0 2 sampleMigrations ⟨0, ()⟩ = .ok (.ok (), after) ∧
      after.schemaVersion = 2 := by
  have migrated : initiateMigrations ⟨11, fun _ => none, none⟩ (Database.mk 0 ()).schemaVersion 2 sampleMigrations
      ⟨0, ()⟩ = .ok (.ok (), ⟨2, ()⟩) := rfl
  obtain ⟨_, _, _, reached, _⟩ := initiateMigrations_reaches_target rfl (by decide) (by decide) migrated
  exact ⟨_, migrated, (reached rfl).2⟩

/-- A database that is beyond the target stays there, and that is no error. -/
theorem newer_schema_keeps_version :
    initiateMigrations ⟨11, fun _ => none, none⟩ 2 1 sampleMigrations ⟨2, ()⟩ = .ok (.ok (), ⟨2, ()⟩) := rfl

end PulseMesh.DbMigrations
