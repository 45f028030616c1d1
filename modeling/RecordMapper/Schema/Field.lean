import RecordMapper.Schema.Constraint
import RecordMapper.Schema.Kind
import RecordMapper.Text.Quoted

/-!
# Fields

The declaration of one column: its kind, its constraints, its default and its relation to another
table, and the text that declares it in a `CREATE TABLE` statement.
-/

namespace RecordMapper

/-! ## Relations -/

/-- What happens to a row when the row that it refers to goes away or changes its key. -/
inductive ReferentialAction where
  /-- The same happens to it. -/
  | cascade
  /-- Its reference becomes null. -/
  | setNull
  /-- Its reference becomes the column's default. -/
  | setDefault
  /-- The change is refused. -/
  | restrict
  /-- Nothing. -/
  | noAction
deriving DecidableEq, Repr

/-- The keywords of an action. -/
def ReferentialAction.sql : ReferentialAction → String
  | .cascade => "CASCADE"
  | .setNull => "SET NULL"
  | .setDefault => "SET DEFAULT"
  | .restrict => "RESTRICT"
  | .noAction => "NO ACTION"

/-- A reference to a column of another table. -/
structure Relation where
  /-- The table. -/
  table : String
  /-- The column. -/
  field : String
  /-- What happens when the row is deleted. -/
  onDelete : ReferentialAction := .noAction
  /-- What happens when the key is changed. -/
  onUpdate : ReferentialAction := .noAction
deriving DecidableEq, Repr

/-! ## Defaults -/

/-- The value of a field for which none is given. -/
inductive Default where
  /-- Always the same value. -/
  | literal (value : Value)
  /-- A value produced for every insertion, from the number of values produced before and the
  time. -/
  | produced (produce : Nat → Instant → Value)

/-- A value as SQL writes it. -/
def Value.literalSql : Value → String
  | .null => "NULL"
  | .bool b => if b then "TRUE" else "FALSE"
  | .int n => toString n.toInt
  | .float x => x.text .plain
  | .text s => Text.quoteSingle s
  | .instant t => Text.quoteSingle t.canonical
  | .document d => Text.quoteSingle d.compact

/-! ## Fields -/

/-- The declaration of a column. -/
structure Field where
  /-- The name. -/
  name : String
  /-- The kind. -/
  kind : Kind
  /-- Whether a value must be given. -/
  required : Bool := false
  /-- Whether no two rows have the same value. -/
  unique : Bool := false
  /-- Whether this is the primary key. -/
  primaryKey : Bool := false
  /-- Whether the engine numbers the rows by this field. -/
  autoIncrement : Bool := false
  /-- The value where none is given. -/
  default? : Option Default := none
  /-- The least number of characters. -/
  minLength : Option Nat := none
  /-- The greatest number of characters. -/
  maxLength : Option Nat := none
  /-- The least number. -/
  min : Option Binary64 := none
  /-- The greatest number. -/
  max : Option Binary64 := none
  /-- The allowed values. -/
  choices : Option (List Value) := none
  /-- A rule of the caller's. -/
  custom : Option (Value → Option String) := none
  /-- The column of another table that this refers to. -/
  relation : Option Relation := none
  /-- Whether an index is wanted. -/
  indexed : Bool := false

namespace Field

/-- A whole number that the engine assigns, as primary key. -/
def id (name : String) : Field :=
  { name, kind := .number, primaryKey := true, autoIncrement := true }

/-- The constraints in the order in which they are checked. -/
def constraints (f : Field) : List Constraint :=
  (f.minLength.map .minLength).toList ++ (f.maxLength.map .maxLength).toList
    ++ (f.min.map .minValue).toList ++ (f.max.map .maxValue).toList
    ++ (f.choices.map .choices).toList ++ (f.custom.map .custom).toList

/-- What is wrong with a value of the field that is not null: its kind, or else every constraint
that it breaks. -/
def check (f : Field) (v : Value) : List Violation :=
  if f.kind.accepts v then f.constraints.filterMap fun c => c.check f.name v
  else [⟨f.name, f.name ++ " must be " ++ f.kind.describe, "type"⟩]

/-- The default as SQL writes it. A produced default of a date is the engine's own clock, and any
other produced default is left to insertions. -/
def defaultSql? (f : Field) : Option String :=
  match f.default? with
  | none => none
  | some (.literal v) => some v.literalSql
  | some (.produced _) => if f.kind = .date then some "CURRENT_TIMESTAMP" else none

/-- The declaration of the column. -/
def columnSql (f : Field) : String :=
  f.name ++ " " ++ f.kind.columnType f.maxLength
    ++ (if f.primaryKey then " PRIMARY KEY" ++ (if f.autoIncrement then " AUTOINCREMENT" else "")
        else if f.required then " NOT NULL" else "")
    ++ (if f.unique && !f.primaryKey then " UNIQUE" else "")
    ++ (match f.defaultSql? with
        | some d => " DEFAULT " ++ d
        | none => "")

end Field

end RecordMapper
