/-!
# Violations

What is wrong with one field of a record, and the list of everything that is wrong with it.
-/

namespace RecordMapper

/-- One rule that a field breaks. -/
structure Violation where
  /-- The field. -/
  field : String
  /-- What is wrong, for people. -/
  message : String
  /-- Which rule is broken, for programs. -/
  code : String
deriving DecidableEq, Repr, Inhabited

/-- The messages of a list of violations in one line. -/
def Violation.summary (violations : List Violation) : String :=
  "; ".intercalate (violations.map (·.message))

/-- The violations of one field. -/
def Violation.ofField (field : String) (violations : List Violation) : List Violation :=
  violations.filter fun v => v.field == field

end RecordMapper
