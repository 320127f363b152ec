import ArgosCyberTools.Python.Effect
import ArgosCyberTools.Python.Runtime

/-!
# A keyed table in SQLite

A table with a `TEXT PRIMARY KEY` that is not declared `NOT NULL`: several
rows may have a NULL key, two rows never share a text.  A parameter is bound
before the statement runs, and a TEXT column stores an integer as its decimal
text; a boolean is the integer `0` or `1`.  One insertion is atomic.
-/

namespace Python

namespace Sqlite

/-- What executing a statement can raise. -/
inductive Failure where
  /-- `sqlite3.IntegrityError`. -/
  | integrity
  /-- Any other `sqlite3.Error`, with its text. -/
  | storage (detail : PyStr)
  /-- An exception that is no `sqlite3.Error`. -/
  | builtin (error : BuiltinError)

/-- How a connection answers the next statement. -/
inductive Connection where
  /-- It raises before binding the parameters: closed, or no such table. -/
  | unavailable (detail : PyStr)
  /-- It raises when the statement runs: a locked file, a full disk. -/
  | failing (detail : PyStr)
  | ready

/-- What a TEXT column stores for a parameter; `none` is NULL. -/
def bindText [PyRuntime] (value : Json) : Except Failure (Option PyStr) :=
  match value with
  | .null => .ok none
  | .bool held => .ok (some (if held then "1" else "0"))
  | .int held =>
      if -2 ^ 63 ≤ held ∧ held < 2 ^ 63 then .ok (some (PyStr.ofInt held))
      else .error (.builtin .overflowError)
  | .float held => .ok (some (PyRuntime.sqliteFloatText held))
  | .str held =>
      if SurrogateFree held then .ok (some held)
      else .error (.builtin .unicodeEncodeError)
  | .list _ =>
      .error (.storage "Error binding parameter 1: type 'list' is not supported")
  | .dict _ =>
      .error (.storage "Error binding parameter 1: type 'dict' is not supported")

theorem bindText_str [PyRuntime] {held : PyStr}
    (scalar : SurrogateFree held) :
    bindText (.str held) = .ok (some held) := by
  rw [bindText, if_pos scalar]

/-- Only `None` is stored as NULL. -/
theorem bindText_eq_null_iff [PyRuntime] {value : Json} :
    bindText value = .ok none ↔ value = .null := by
  cases value with
  | int held =>
      simp only [bindText]
      split_ifs <;> simp
  | str held =>
      simp only [bindText]
      split_ifs <;> simp
  | _ => simp [bindText]

/-- An integer is stored as its decimal text. -/
theorem bindText_int [PyRuntime] {number : Int} {bound : Option PyStr}
    (bindsTo : bindText (.int number) = .ok bound) :
    bound = some (PyStr.ofInt number) := by
  simp only [bindText] at bindsTo
  split_ifs at bindsTo
  exact (Except.ok.inj bindsTo).symm

/-- Rows in which no key other than NULL occurs twice. -/
structure Table (Row Key : Type) (key : Row → Option Key) where
  rows : List Row
  unique : (rows.filterMap key).Nodup

namespace Table

variable {Row Key : Type} {key : Row → Option Key}

def empty : Table Row Key key := ⟨[], List.nodup_nil⟩

/-- Some row has this key. -/
def Holds (table : Table Row Key key) (wanted : Key) : Prop :=
  ∃ row ∈ table.rows, key row = some wanted

instance [DecidableEq Key] (table : Table Row Key key) (wanted : Key) :
    Decidable (table.Holds wanted) := by
  unfold Holds
  infer_instance

/-- A row whose key is not NULL must be the first with that key. -/
def Admits (table : Table Row Key key) (row : Row) : Prop :=
  ∀ wanted, key row = some wanted → ¬ table.Holds wanted

instance [DecidableEq Key] (table : Table Row Key key) (row : Row) :
    Decidable (table.Admits row) :=
  match found : key row with
  | none => .isTrue (by simp [Admits, found])
  | some wanted =>
      decidable_of_iff (¬ table.Holds wanted) (by simp [Admits, found])

theorem empty_admits (row : Row) :
    (empty : Table Row Key key).Admits row := by
  rintro wanted - ⟨other, member, -⟩
  cases member

def append (table : Table Row Key key) (row : Row)
    (admitted : table.Admits row) : Table Row Key key where
  rows := table.rows ++ [row]
  unique := by
    rw [List.filterMap_append]
    apply List.nodup_append.mpr
    refine ⟨table.unique, ?_, ?_⟩
    · cases found : key row <;> simp [found]
    · rintro held heldMember other otherMember rfl
      obtain ⟨old, oldMember, oldKey⟩ := List.mem_filterMap.mp heldMember
      have newKey : key row = some held := by
        obtain ⟨new, newMember, newKey⟩ := List.mem_filterMap.mp otherMember
        exact List.mem_singleton.mp newMember ▸ newKey
      exact admitted held newKey ⟨old, oldMember, oldKey⟩

/-- `INSERT`: a duplicate key raises and adds no row. -/
def insert [DecidableEq Key] (table : Table Row Key key) (row : Row) :
    Except Failure (Table Row Key key) :=
  if admitted : table.Admits row then .ok (table.append row admitted)
  else .error .integrity

variable {table final : Table Row Key key} {row : Row}

/-- Appending a row adds its key, if it is not NULL. -/
theorem holds_iff_of_append (rows : final.rows = table.rows ++ [row])
    {wanted : Key} :
    final.Holds wanted ↔ table.Holds wanted ∨ key row = some wanted := by
  simp [Holds, rows, or_and_right, exists_or]

variable [DecidableEq Key]

theorem insert_eq_ok_iff :
    table.insert row = .ok final ↔
      table.Admits row ∧ final.rows = table.rows ++ [row] := by
  unfold insert
  split_ifs with admitted
  · simp only [Except.ok.injEq, admitted, true_and]
    constructor
    · rintro rfl
      rfl
    · intro rows
      cases final
      cases rows
      rfl
  · simp [admitted]

theorem insert_eq_error_iff {failure : Failure} :
    table.insert row = .error failure ↔
      ¬ table.Admits row ∧ failure = .integrity := by
  unfold insert
  split_ifs with admitted <;> simp [admitted, eq_comm]

end Table

/-- `connection.execute("INSERT ...", (value, ...))`. -/
def execute [PyRuntime] {Row : Type} {key : Row → Option PyStr}
    (connection : Connection) (table : Table Row PyStr key)
    (row : Option PyStr → Row) (value : Json) :
    Except Failure (Table Row PyStr key) :=
  match connection with
  | .unavailable detail => .error (.storage detail)
  | .failing detail => do
      let _ ← bindText value
      .error (.storage detail)
  | .ready => do
      let bound ← bindText value
      table.insert (row bound)

/-- A successful insertion went through a working connection. -/
theorem execute_eq_ok_iff [PyRuntime] {Row : Type}
    {key : Row → Option PyStr} {connection : Connection}
    {table final : Table Row PyStr key} {row : Option PyStr → Row}
    {value : Json} :
    execute connection table row value = .ok final ↔
      connection = .ready ∧ ∃ bound, bindText value = .ok bound ∧
        table.Admits (row bound) ∧
        final.rows = table.rows ++ [row bound] := by
  cases connection with
  | unavailable detail => simp [execute]
  | failing detail => simp [execute, bind_eq_ok_iff]
  | ready => simp [execute, bind_eq_ok_iff, Table.insert_eq_ok_iff]

end Sqlite

end Python
