import RecordMapper.Record.Basic
import RecordMapper.Value.Time

/-!
# Reading fields as types

What a value is when a caller asks for a certain type, and the error when it is not.
-/

namespace RecordMapper

namespace Value

/-- A value as a signed word. -/
def toInt64 : Value → Except Error Int64
  | .int n => .ok n
  | v => .error (.conversion (.mismatch "Int" v))

/-- A value as a count. -/
def toCount : Value → Except Error UInt64
  | .int n => if n < 0 then .error (.conversion .negativeCount) else .ok n.toUInt64
  | v => .error (.conversion (.mismatch "Int" v))

/-- A value as a floating-point number; a whole number is rounded to one. -/
def toFloat (v : Value) : Except Error Binary64 :=
  match v.asFloat? with
  | some x => .ok x
  | none => .error (.conversion (.mismatch "Float" v))

/-- A value as a truth value; the whole numbers 0 and 1 count as one. -/
def toBool : Value → Except Error Bool
  | .bool b => .ok b
  | .int n =>
    if n = 0 then .ok false
    else if n = 1 then .ok true
    else .error (.conversion (.mismatch "Bool" (.int n)))
  | v => .error (.conversion (.mismatch "Bool" v))

/-- A value as a text. -/
def toText : Value → Except Error String
  | .text s => .ok s
  | v => .error (.conversion (.mismatch "String" v))

/-- A value as an instant. -/
def toInstant (v : Value) : Except Error Instant :=
  match v.asInstant? with
  | some t => .ok t
  | none => .error (.conversion (.mismatch "Timestamp" v))

/-- Reads null as the absence of what `read` reads. -/
def optional {α : Type} (read : Value → Except Error α) : Value → Except Error (Option α)
  | .null => .ok none
  | v => (read v).map some

end Value

/-- Reads a field as a type; a field that is absent is an error. -/
def Record.read {α : Type} (r : Record) (field : String) (read : Value → Except Error α) :
    Except Error α :=
  match r.get? field with
  | some v => read v
  | none => .error (.invalidArgument (.missingField field))

end RecordMapper
