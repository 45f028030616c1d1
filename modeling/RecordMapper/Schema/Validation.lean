import RecordMapper.Record.Basic
import RecordMapper.Schema.Basic

/-!
# Validation

Everything that is wrong with a record, in the order in which the fields are declared, and after
that the fields that are not declared, in the order of the record.
-/

namespace RecordMapper

/-- Which fields are checked. -/
inductive ValidationMode where
  /-- Every field, for a record that is inserted. -/
  | create
  /-- Only the fields of the record, for one that changes a row. -/
  | partialUpdate
deriving DecidableEq, Repr

namespace Schema

/-- What is wrong with one field of a record. A field that the engine numbers need not be given on
creation. -/
def fieldViolations (mode : ValidationMode) (r : Record) (f : Field) : List Violation :=
  if mode = .partialUpdate ∧ !r.contains f.name then []
  else
    match r.get? f.name with
    | none | some .null =>
      if f.required && !(mode == .create && f.autoIncrement) then
        [⟨f.name, f.name ++ " is required", "required"⟩]
      else []
    | some v => f.check v

/-- The fields of a record that are not declared. -/
def unknownFields (s : Schema) (r : Record) : List Violation :=
  (r.fields.filter fun name => !s.hasField name).map fun name =>
    ⟨name, name ++ " is not a field of " ++ s.table, "unknown"⟩

/-- Everything that is wrong with a record. -/
def violations (s : Schema) (mode : ValidationMode) (r : Record) : List Violation :=
  s.fields.flatMap (fieldViolations mode r) ++ s.unknownFields r

/-- Succeeds where nothing is wrong with a record. -/
def validate (s : Schema) (mode : ValidationMode) (r : Record) : Except Error Unit :=
  Violation.check (s.violations mode r)

end Schema

end RecordMapper
