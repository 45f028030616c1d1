import RecordMapper.Document.Reader
import RecordMapper.Record.Basic
import RecordMapper.Schema.Basic

/-!
# Stored form

How the values of a record are stored and read back. A value of a json field is stored as the text
of a document, so that a text such as `"42"` is stored with its quotes and stays a text; the engine
gives whole numbers for truth values.
-/

namespace RecordMapper

namespace Kind

/-- The form in which a value of this kind is stored. -/
def encode (kind : Kind) (v : Value) : Value :=
  match kind, v with
  | .json, .null => .null
  | .json, .document d => .document d
  | .json, v => .document v.toDocument
  | _, v => v

/-- The value that is read back from a stored one. A text of a json field that is no document stays
as it is. -/
def hydrate (kind : Kind) (v : Value) : Value :=
  match kind, v with
  | .boolean, .int n => .bool (n != 0)
  | .json, .text s =>
    match Document.ofText? s with
    | some d => .ofDocument d
    | none => .text s
  | _, v => v

end Kind

namespace Schema

/-- Applies a function of the field's kind to the values of declared fields. -/
def mapDeclared (s : Schema) (f : Kind → Value → Value) (r : Record) : Record :=
  r.mapValues fun name v =>
    match s.field? name with
    | some field => f field.kind v
    | none => v

/-- The form in which a record is stored. -/
def encode (s : Schema) (r : Record) : Record :=
  s.mapDeclared Kind.encode r

/-- The record that is read back from a row. -/
def hydrate (s : Schema) (r : Record) : Record :=
  s.mapDeclared Kind.hydrate r

end Schema

end RecordMapper
