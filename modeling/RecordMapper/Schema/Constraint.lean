import RecordMapper.Failure.Violation
import RecordMapper.Value.Basic

/-!
# Constraints

The rules that a field's value obeys beyond its kind. A rule about texts holds of every other value,
and so does a rule about numbers.
-/

namespace RecordMapper

/-- A rule about the values of a field. -/
inductive Constraint where
  /-- A text has at least so many characters. -/
  | minLength (n : Nat)
  /-- A text has at most so many characters. -/
  | maxLength (n : Nat)
  /-- A number is at least this. -/
  | minValue (x : Binary64)
  /-- A number is at most this. -/
  | maxValue (x : Binary64)
  /-- The value is one of these. -/
  | choices (values : List Value)
  /-- A rule of the caller's, which gives a complaint about a value that breaks it. -/
  | custom (complaint : Value → Option String)

namespace Constraint

/-- The name of a rule, for diagnostics. -/
def name : Constraint → String
  | .minLength _ => "MinLengthValidator"
  | .maxLength _ => "MaxLengthValidator"
  | .minValue _ => "MinValueValidator"
  | .maxValue _ => "MaxValueValidator"
  | .choices _ => "ChoicesValidator"
  | .custom _ => "FnValidator"

/-- The number of characters of a value, if it is a text. -/
def lengthOf? (v : Value) : Option Nat :=
  v.asText?.map String.length

/-- The violation of a rule by the value of `field`, if there is one. -/
def check (c : Constraint) (field : String) (v : Value) : Option Violation :=
  match c with
  | .minLength n =>
    if (lengthOf? v).any (· < n) then
      some ⟨field, field ++ " must be at least " ++ toString n ++ " characters", "min_length"⟩
    else none
  | .maxLength n =>
    if (lengthOf? v).any (n < ·) then
      some ⟨field, field ++ " must be at most " ++ toString n ++ " characters", "max_length"⟩
    else none
  | .minValue x =>
    if v.asFloat?.any (·.less x) then
      some ⟨field, field ++ " must be at least " ++ x.text .plain, "min_value"⟩
    else none
  | .maxValue x =>
    if v.asFloat?.any x.less then
      some ⟨field, field ++ " must be at most " ++ x.text .plain, "max_value"⟩
    else none
  | .choices values =>
    if values.any (·.same v) then none
    else
      some ⟨field, field ++ " must be one of: " ++ ", ".intercalate (values.map Value.display),
        "enum"⟩
  | .custom complaint => (complaint v).map fun message => ⟨field, message, "custom"⟩

end Constraint

end RecordMapper
