import RecordMapper.Value.Time

/-!
# Kinds of fields

The logical type of a field: the column type that it has in a table, the values that it accepts and
the value that stands in where none is given.
-/

namespace RecordMapper

/-- The logical type of a field. -/
inductive Kind where
  /-- A short text. -/
  | string
  /-- A whole or floating-point number. -/
  | number
  /-- A truth value. -/
  | boolean
  /-- An instant, stored as its canonical text. -/
  | date
  /-- A text of any length. -/
  | text
  /-- A document, stored as its text. -/
  | json
deriving DecidableEq, Repr

namespace Kind

/-- The name of a kind. -/
def name : Kind → String
  | .string => "string"
  | .number => "number"
  | .boolean => "boolean"
  | .date => "date"
  | .text => "text"
  | .json => "json"

/-- The column type, given the declared length of a short text. -/
def columnType (kind : Kind) (maxLength : Option Nat) : String :=
  match kind, maxLength with
  | .string, some n => "VARCHAR(" ++ toString n ++ ")"
  | .string, none => "TEXT"
  | .number, _ => "INTEGER"
  | .boolean, _ => "BOOLEAN"
  | .date, _ => "DATETIME"
  | .text, _ => "TEXT"
  | .json, _ => "TEXT"

/-- Whether a value that is not null conforms to a kind. -/
def accepts (kind : Kind) (v : Value) : Bool :=
  match kind, v with
  | .string, .text _ => true
  | .text, .text _ => true
  | .number, .int _ => true
  | .number, .float _ => true
  | .boolean, .bool _ => true
  | .date, .instant _ => true
  | .date, .text s => (Instant.ofText? s).isSome
  | .json, _ => true
  | _, _ => false

/-- The value of an optional field for which neither a value nor a default is given. -/
def fallback (kind : Kind) (now : Instant) : Value :=
  match kind with
  | .string | .text => .text ""
  | .number => .int 0
  | .boolean => .bool false
  | .date => .stamp now
  | .json => .null

/-- What a value of this kind is called in messages. -/
def describe : Kind → String
  | .string | .text => "a string"
  | .number => "a number"
  | .boolean => "a boolean"
  | .date => "a valid date"
  | .json => "JSON"

end Kind

end RecordMapper
