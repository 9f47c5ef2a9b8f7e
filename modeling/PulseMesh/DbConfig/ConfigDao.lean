import PulseMesh.Lib.Effects
import PulseMesh.Lib.Rows

/-!
# The configuration table

The table of configuration values, its access object and the computations above it.  Any call of the
access object may fail; a call that fails has not changed the table, and a call that has gone through
stays in the table whatever happens later.
-/

namespace PulseMesh.DbConfig

open Machine Effects Option List Function

inductive ConfigDaoError where
  | notPresent
  | transactionError
  | databaseError (msg : String)

def ConfigDaoError.debug : ConfigDaoError → String
  | .notPresent => "NotPresent"
  | .transactionError => "TransactionError"
  | .databaseError msg => s!"DatabaseError({msg.quote})"

structure ConfigDaoRecord where
  name : String
  valueOpt : Option String
  encrypted : Bool
deriving DecidableEq

structure ConfigTable where
  records : List ConfigDaoRecord
  primaryKey : (records.map ConfigDaoRecord.name).Nodup

namespace ConfigTable

def find? (table : ConfigTable) (name : String) : Option ConfigDaoRecord :=
  table.records.find? fun record => decide (record.name = name)

def valueOf (table : ConfigTable) (name : String) : Option String :=
  (table.find? name).bind ConfigDaoRecord.valueOpt

/-- The values of the named record, or of none. -/
def updateRecord (name : String) (valueOpt : Option String) (record : ConfigDaoRecord) : ConfigDaoRecord :=
  if record.name = name then { record with valueOpt } else record

@[simp]
lemma name_updateRecord (name : String) (valueOpt record) :
    (updateRecord name valueOpt record).name = record.name := by
  unfold updateRecord
  split <;> rfl

@[simp]
lemma encrypted_updateRecord (name : String) (valueOpt record) :
    (updateRecord name valueOpt record).encrypted = record.encrypted := by
  unfold updateRecord
  split <;> rfl

def update (table : ConfigTable) (name : String) (valueOpt : Option String) : ConfigTable where
  records := table.records.map (updateRecord name valueOpt)
  primaryKey := by
    rw [List.map_map]
    simpa [comp_def] using table.primaryKey

variable {table : ConfigTable} {record : ConfigDaoRecord}

lemma mem_of_find? (found : table.find? name = some record) : record ∈ table.records ∧ record.name = name :=
  ⟨mem_of_find?_eq_some found, by simpa using find?_some found⟩

lemma find?_of_mem (member : record ∈ table.records) : table.find? record.name = some record := by
  have present : (table.find? record.name).isSome = true :=
    find?_isSome.mpr ⟨record, member, decide_eq_true rfl⟩
  obtain ⟨other, found⟩ := isSome_iff_exists.mp present
  obtain ⟨otherMember, same⟩ := mem_of_find? found
  rw [found, Rows.eq_of_key_eq table.primaryKey otherMember member same]

lemma find?_update (table : ConfigTable) (name other : String) (valueOpt) :
    (table.update name valueOpt).find? other = (table.find? other).map (updateRecord name valueOpt) := by
  simp only [find?, update, find?_map, comp_def, name_updateRecord]

lemma valueOf_update_of_ne (table : ConfigTable) (valueOpt) (differs : other ≠ name) :
    (table.update name valueOpt).valueOf other = table.valueOf other := by
  rw [valueOf, valueOf, find?_update]
  cases found : table.find? other with
  | none => rfl
  | some record =>
    have named := (mem_of_find? found).2
    rw [map_some, bind_some, bind_some, updateRecord, if_neg (by rw [named]; exact differs)]

lemma valueOf_update_self (valueOpt : Option String)
    (present : (table.find? name).isSome = true) : (table.update name valueOpt).valueOf name = valueOpt := by
  obtain ⟨record, found⟩ := isSome_iff_exists.mp present
  have named := (mem_of_find? found).2
  rw [valueOf, find?_update, found, map_some, bind_some, updateRecord, if_pos named]

/-- Names and flags of a table; no call changes them. -/
def columns (table : ConfigTable) : List (String × Bool) :=
  table.records.map fun record => (record.name, record.encrypted)

@[simp]
lemma columns_update (table : ConfigTable) (name : String) (valueOpt) :
    (table.update name valueOpt).columns = table.columns := by
  simp [columns, update, List.map_map, comp_def]

end ConfigTable

/-! ### Computations on the database -/

/-- The table, what becomes of the next calls (those that are not listed go through) and the salt
the next encryption takes. -/
structure DbState where
  table : ConfigTable
  fates : List (Option ConfigDaoError)
  salt : Nat

/-- How a computation stops short. -/
inductive Stop (ε : Type) where
  | err (e : ε)
  | panicked (panic : Panic)

abbrev Db (ε α : Type) := EStateM (Stop ε) DbState α

namespace Db

variable {ε ε' α : Type}

def err (e : ε) : Db ε α := fun s => .error (.err e) s

def orPanic : Except Panic α → Db ε α
  | .ok a => fun s => .ok a s
  | .error panic => fun s => .error (.panicked panic) s

def mapErr (convert : ε → ε') (x : Db ε α) : Db ε' α := fun s =>
  match x s with
  | .ok a t => .ok a t
  | .error (.err e) t => .error (.err (convert e)) t
  | .error (.panicked panic) t => .error (.panicked panic) t

def call (operation : ConfigTable → Except ConfigDaoError (α × ConfigTable)) : Db ConfigDaoError α := fun s =>
  let later := { s with fates := s.fates.tail }
  match s.fates.head?.join with
  | some e => .error (.err e) later
  | none =>
    match operation s.table with
    | .ok (a, table) => .ok a { later with table }
    | .error e => .error (.err e) later

lemma err_error_iff : (err e : Db ε α) s = .error stop t ↔ stop = .err e ∧ t = s := by
  simp [err, eq_comm]

lemma orPanic_ok_iff : (orPanic x : Db ε α) s = .ok a t ↔ x = .ok a ∧ t = s := by
  cases x <;> simp [orPanic, eq_comm]

lemma orPanic_error_iff :
    (orPanic x : Db ε α) s = .error stop t ↔ (∃ panic, x = .error panic ∧ stop = .panicked panic) ∧ t = s := by
  cases x <;> simp [orPanic, eq_comm]

lemma mapErr_ok_iff : mapErr convert x s = .ok a t ↔ x s = .ok a t := by
  unfold mapErr
  split <;> simp_all

lemma mapErr_err_iff {x : Db ε α} :
    mapErr convert x s = .error (.err e) t ↔ ∃ cause, x s = .error (.err cause) t ∧ convert cause = e := by
  unfold mapErr
  cases x s with
  | ok a t => simp
  | error stop mid =>
    cases stop with
    | err cause =>
      simp only [EStateM.Result.error.injEq, Stop.err.injEq]
      constructor
      · rintro ⟨rfl, rfl⟩
        exact ⟨cause, ⟨rfl, rfl⟩, rfl⟩
      · rintro ⟨cause, ⟨rfl, rfl⟩, rfl⟩
        exact ⟨rfl, rfl⟩
    | panicked panic => simp

lemma call_ok_iff :
    call operation s = .ok a t ↔ s.fates.head?.join = none ∧
      ∃ table, operation s.table = .ok (a, table) ∧ t = { s with table, fates := s.fates.tail } := by
  unfold call
  cases s.fates.head?.join with
  | some e => simp
  | none =>
    cases operation s.table with
    | error e => simp
    | ok result =>
      obtain ⟨b, table⟩ := result
      simp only [EStateM.Result.ok.injEq, Except.ok.injEq, Prod.mk.injEq, true_and]
      constructor
      · rintro ⟨rfl, rfl⟩
        exact ⟨table, ⟨rfl, rfl⟩, rfl⟩
      · rintro ⟨table, ⟨rfl, rfl⟩, rfl⟩
        exact ⟨rfl, rfl⟩

/-- A call that fails leaves the table as it is. -/
lemma call_error {stop} (failed : call operation s = .error stop t) :
    t = { s with fates := s.fates.tail } ∧
      ∃ e, stop = .err e ∧ (s.fates.head?.join = some e ∨ operation s.table = .error e) := by
  unfold call at failed
  cases fate : s.fates.head?.join with
  | some e =>
    rw [fate] at failed
    cases failed
    exact ⟨rfl, e, rfl, Or.inl rfl⟩
  | none =>
    rw [fate] at failed
    cases operated : operation s.table with
    | error e =>
      rw [operated] at failed
      cases failed
      exact ⟨rfl, e, rfl, Or.inr rfl⟩
    | ok result =>
      rw [operated] at failed
      cases failed

@[simp]
lemma stateAfter_mapErr (convert : ε → ε') (x : Db ε α) (s) :
    stateAfter (mapErr convert x) s = stateAfter x s := by
  unfold stateAfter mapErr
  cases x s with
  | ok a t => rfl
  | error stop t => cases stop <;> rfl

/-- Calls return their errors. -/
lemma mapErr_call_ne_panicked {convert : ConfigDaoError → ε} {panic} :
    mapErr convert (call operation) s ≠ .error (.panicked panic) t := by
  intro panicked
  cases ran : call operation s with
  | ok a mid => simp [mapErr, ran] at panicked
  | error stop mid =>
    obtain ⟨-, e, rfl, -⟩ := call_error ran
    simp [mapErr, ran] at panicked

end Db

namespace ConfigDao

def getAll : Db ConfigDaoError (List ConfigDaoRecord) := Db.call fun table => .ok (table.records, table)

def get (name : String) : Db ConfigDaoError ConfigDaoRecord := Db.call fun table =>
  match table.find? name with
  | some record => .ok (record, table)
  | none => .error .notPresent

def set (name : String) (valueOpt : Option String) : Db ConfigDaoError Unit := Db.call fun table =>
  match table.find? name with
  | some _ => .ok ((), table.update name valueOpt)
  | none => .error .notPresent

section

lemma getAll_ok_iff :
    getAll s = .ok records t ↔ s.fates.head?.join = none ∧ records = s.table.records ∧
      t = { s with fates := s.fates.tail } := by
  rw [getAll, Db.call_ok_iff]
  simp [eq_comm]

lemma get_ok_iff :
    get name s = .ok record t ↔ s.fates.head?.join = none ∧ s.table.find? name = some record ∧
      t = { s with fates := s.fates.tail } := by
  rw [get, Db.call_ok_iff]
  cases s.table.find? name <;> simp [eq_comm, and_assoc]

lemma set_ok_iff :
    set name valueOpt s = .ok () t ↔ s.fates.head?.join = none ∧ (s.table.find? name).isSome = true ∧
      t = { s with table := s.table.update name valueOpt, fates := s.fates.tail } := by
  rw [set, Db.call_ok_iff]
  cases s.table.find? name <;> simp [eq_comm]

/-- A record that is there can be written unless the call is doomed. -/
lemma set_error {stop} (failed : set name valueOpt s = .error stop t) :
    t = { s with fates := s.fates.tail } ∧
      ∃ e, stop = .err e ∧ (s.fates.head?.join = some e ∨ s.table.find? name = none) := by
  obtain ⟨left, e, stopped, cause⟩ := Db.call_error failed
  refine ⟨left, e, stopped, cause.imp id fun absent => ?_⟩
  cases found : s.table.find? name with
  | none => rfl
  | some record => simp [found] at absent

end

end ConfigDao

/-! ### Computations that only read -/

/-- However the computation ends, the table is what it was. -/
def Reads {ε α : Type} (x : Db ε α) : Prop := ∀ s, (stateAfter x s).table = s.table

namespace Reads

variable {ε α β : Type}

lemma of_ok (reads : Reads x) (ended : x s = .ok a t) : t.table = s.table := by
  rw [← reads s, stateAfter_of_ok ended]

lemma of_error (reads : Reads x) (ended : x s = .error stop t) : t.table = s.table := by
  rw [← reads s, stateAfter_of_error ended]

lemma bind (first : Reads x) (rest : ∀ a, Reads (f a)) : Reads (x >>= f) := by
  intro s
  rw [stateAfter_bind]
  cases ran : x s with
  | error e mid => exact first.of_error ran
  | ok a mid => exact (rest a mid).trans (first.of_ok ran)

/-- What follows a computation that only reads: nothing, or the rest in a state with the same table. -/
lemma bind_cases (first : Reads x) (f : α → Db ε β) (s) :
    (∃ stop t, (x >>= f) s = .error stop t ∧ t.table = s.table) ∨
      ∃ a mid, x s = .ok a mid ∧ mid.table = s.table ∧ (x >>= f) s = f a mid := by
  cases ran : x s with
  | error e mid => exact Or.inl ⟨e, mid, bind_error_iff.mpr (Or.inl ran), first.of_error ran⟩
  | ok a mid =>
    refine Or.inr ⟨a, mid, rfl, first.of_ok ran, ?_⟩
    change EStateM.bind x f s = _
    rw [EStateM.bind, ran]

lemma pure (a : α) : Reads (Pure.pure a : Db ε α) := fun _ => rfl

lemma err (e : ε) : Reads (Db.err e : Db ε α) := fun _ => rfl

lemma orPanic (x : Except Panic α) : Reads (Db.orPanic x : Db ε α) := by
  intro s
  cases x <;> rfl

lemma mapErr (convert : ε → ε') (reads : Reads x) : Reads (Db.mapErr convert x) := by
  intro s
  rw [Db.stateAfter_mapErr]
  exact reads s

lemma get (name : String) : Reads (ConfigDao.get name) := by
  intro s
  cases ran : ConfigDao.get name s with
  | ok record t =>
    obtain ⟨-, -, rfl⟩ := ConfigDao.get_ok_iff.mp ran
    rw [stateAfter_of_ok ran]
  | error stop t =>
    obtain ⟨rfl, -⟩ := Db.call_error ran
    rw [stateAfter_of_error ran]

end Reads

/-! ### Where the calls begin to fail -/

/-- The number of calls that go through before the first that does not. -/
def failurePoint : List (Option ConfigDaoError) → Nat
  | none :: fates => failurePoint fates + 1
  | _ => 0

lemma failurePoint_of_tail (through : fates.head?.join = none)
    (more : fates.tail ≠ []) : failurePoint fates = failurePoint fates.tail + 1 := by
  cases fates with
  | nil => exact absurd rfl more
  | cons fate fates =>
    cases fate with
    | none => rfl
    | some e => simp at through

lemma failurePoint_tail (through : fates.head?.join = none) :
    failurePoint fates.tail = failurePoint fates - 1 := by
  cases fates with
  | nil => rfl
  | cons fate fates =>
    cases fate with
    | none => rfl
    | some e => simp at through

lemma failurePoint_of_fails (fails : fates.head?.join = some e) : failurePoint fates = 0 := by
  cases fates with
  | nil => rfl
  | cons fate fates =>
    cases fate with
    | none => simp at fails
    | some e => rfl


lemma failurePoint_of_drop (through : ∀ i < n, (fates.drop i).head?.join = none)
    (fails : (fates.drop n).head?.join = some e) : failurePoint fates = n := by
  induction n generalizing fates with
  | zero => exact failurePoint_of_fails fails
  | succ n ih =>
    have first : fates.head?.join = none := through 0 (by omega)
    rw [← drop_tail] at fails
    have rest := ih (fun i below => by rw [drop_tail]; exact through (i + 1) (by omega)) fails
    have more : fates.tail ≠ [] := by
      intro drained
      simp [drained] at fails
    rw [failurePoint_of_tail first more, rest]

end PulseMesh.DbConfig
