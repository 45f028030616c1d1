import RecordMapper.Document.Text
import RecordMapper.Instant.Basic

/-!
# Values

The values that fields hold and statements bind.

* `Value.same` is equality of content: floats compare by value and documents by content.
* `Value.param` is the form in which a value is bound: instants and documents become text.
* `Value.toDocument` and `Value.ofDocument` go to and from documents. Scalars become the variant
  that is natural for them, arrays and objects stay documents.
-/

namespace RecordMapper

/-- A value of a field or a parameter. -/
inductive Value where
  /-- The absence of a value. -/
  | null
  /-- A truth value. -/
  | bool (b : Bool)
  /-- A whole number. -/
  | int (n : Int64)
  /-- A floating-point number. -/
  | float (x : Binary64)
  /-- A text. -/
  | text (s : String)
  /-- An instant. -/
  | instant (t : Instant)
  /-- A document. -/
  | document (d : Document)
deriving DecidableEq, Repr

instance : Inhabited Value := ⟨.null⟩

namespace Value

/-! ## Reading a value -/

/-- Whether a value is null. -/
def isNull : Value → Bool
  | .null => true
  | _ => false

@[simp] theorem isNull_iff {v : Value} : v.isNull = true ↔ v = .null := by
  cases v <;> simp [isNull]

/-- The value, unless it is null. -/
def nonNull? (v : Value) : Option Value :=
  if v.isNull then none else some v

/-- The truth value, if the value is one. -/
def asBool? : Value → Option Bool
  | .bool b => some b
  | _ => none

/-- The whole number, if the value is one. -/
def asInt? : Value → Option Int64
  | .int n => some n
  | _ => none

/-- The number nearest to a numeric value. -/
def asFloat? : Value → Option Binary64
  | .int n => some (.ofInt n.toInt)
  | .float x => some x
  | _ => none

/-- The text, if the value is one. -/
def asText? : Value → Option String
  | .text s => some s
  | _ => none

/-- The name of a value's class. -/
def className : Value → String
  | .null => "null"
  | .bool _ => "boolean"
  | .int _ => "number"
  | .float _ => "number"
  | .text _ => "string"
  | .instant _ => "timestamp"
  | .document _ => "json"

/-! ## Equality of content -/

/-- Whether two values are of one variant and have the same content. NaN is the same as nothing, the
two zeros are the same, and a whole number is never the same as a float. -/
def same : Value → Value → Bool
  | .null, .null => true
  | .bool a, .bool b => a == b
  | .int m, .int n => m == n
  | .float x, .float y => x.same y
  | .text s, .text t => s == t
  | .instant s, .instant t => s == t
  | .document c, .document d => c.same d
  | _, _ => false

/-! ## Documents and parameters -/

/-- The value that a document stands for. A whole number beyond the signed words becomes a float. -/
def ofDocument : Document → Value
  | .null => .null
  | .bool b => .bool b
  | .number (.whole n) =>
    if n.val < 0x8000000000000000 then .int (Int64.ofInt n.val) else .float (.ofInt n.val)
  | .number (.float x) => .float (.finite x)
  | .text s => .text s
  | d => .document d

/-- The document that a value is sent as. NaN and the infinities have none and become null. -/
def toDocument : Value → Document
  | .null => .null
  | .bool b => .bool b
  | .int n => .ofInt64 n
  | .float x => .ofBinary64 x
  | .text s => .text s
  | .instant t => .text t.canonical
  | .document d => d

/-- The form in which a value is bound as a parameter. -/
def param : Value → Value
  | .instant t => .text t.canonical
  | .document d => .text d.compact
  | v => v

/-! ## Text -/

/-- A value as messages show it. -/
def display : Value → String
  | .null => "NULL"
  | .bool b => toString b
  | .int n => toString n.toInt
  | .float x => x.text .plain
  | .text s => s
  | .instant t => t.canonical
  | .document d => d.compact

/-- A value as diagnostics show it, under the name of its variant. -/
def inspect : Value → String
  | .null => "Null"
  | .bool b => "Bool(" ++ toString b ++ ")"
  | .int n => "Int(" ++ toString n.toInt ++ ")"
  | .float x => "Float(" ++ x.text .diagnostic ++ ")"
  | .text s => "String(" ++ Text.quoteDouble s ++ ")"
  | .instant t => "Timestamp(" ++ t.inspect ++ ")"
  | .document d => "Json(" ++ d.inspect ++ ")"

end Value

end RecordMapper
