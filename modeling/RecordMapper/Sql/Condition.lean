import RecordMapper.Record.Basic
import RecordMapper.Sql.Operator
import RecordMapper.Sql.Template

/-!
# Conditions

A condition is a column, an operator and an operand; a filter is a conjunction of conditions.

* `Condition.predicate` is what a condition means: comparing with null is a test for null, one value
  is a list of one, and an operand that does not fit its operator makes a condition that no row
  meets.
* `Predicate.template` writes it. Values are bound in the order in which they stand.
-/

namespace RecordMapper

/-! ## Conditions and filters -/

/-- The operand of a condition. -/
inductive Operand where
  /-- No operand. -/
  | none
  /-- One value. -/
  | single (value : Value)
  /-- A list of values. -/
  | list (values : List Value)
deriving DecidableEq, Repr

/-- A condition on a column, or on an expression over groups. -/
structure Condition where
  /-- The column or expression. -/
  field : String
  /-- The operator. -/
  operator : Operator
  /-- The operand. -/
  operand : Operand
deriving DecidableEq, Repr

/-- A conjunction of conditions; without any, it holds of every row. -/
abbrev Filter : Type := List Condition

namespace Condition

/-- A condition with one value, which an operator without operand ignores. -/
def ofValue (field : String) (operator : Operator) (value : Value) : Condition :=
  ⟨field, operator, if operator.isUnary then .none else .single value⟩

/-- A condition with a list of values. -/
def ofList (field : String) (operator : Operator) (values : List Value) : Condition :=
  ⟨field, operator, .list values⟩

/-- A condition without operand. -/
def unary (field : String) (operator : Operator) : Condition :=
  ⟨field, operator, .none⟩

/-- `field = value`, or `IS NULL` for null. -/
def eq (field : String) (value : Value) : Condition :=
  ofValue field (.compare .eq) value

/-- `field IN (values)`; no row meets an empty list. -/
def isIn (field : String) (values : List Value) : Condition :=
  ofList field (.member false) values

/-- `field NOT IN (values)`; no row meets an empty list. -/
def notIn (field : String) (values : List Value) : Condition :=
  ofList field (.member true) values

/-- `field BETWEEN low AND high`. -/
def between (field : String) (low high : Value) : Condition :=
  ofList field .between [low, high]

/-- `field IS NULL`. -/
def isNull (field : String) : Condition :=
  unary field (.null false)

/-- `field IS NOT NULL`. -/
def isNotNull (field : String) : Condition :=
  unary field (.null true)

end Condition

namespace Filter

/-- The filter that every field of a record equals its value. -/
def ofRecord (r : Record) : Filter :=
  r.entries.map fun entry => Condition.eq entry.1 entry.2

/-- Whether a condition is on `field`. -/
def mentions (field : String) (filter : Filter) : Bool :=
  filter.any fun c => c.field == field

end Filter

/-! ## Meaning -/

/-- What a condition asks of a row. -/
inductive Predicate where
  /-- The column is null, or is not. -/
  | null (field : String) (negated : Bool)
  /-- The column compares so with a value. -/
  | compare (field : String) (c : Comparison) (value : Value)
  /-- The column is one of some values, or none of them; there is at least one. -/
  | member (field : String) (negated : Bool) (first : Value) (rest : List Value)
  /-- The column lies between two bounds. -/
  | between (field : String) (low high : Value)
  /-- Nothing meets this. -/
  | never
deriving DecidableEq, Repr

/-- What a condition asks of a row. -/
def Condition.predicate (c : Condition) : Predicate :=
  match c.operator, c.operand with
  | .null negated, _ => .null c.field negated
  | .compare .eq, .single .null | .compare .eq, .none => .null c.field false
  | .compare .ne, .single .null | .compare .ne, .none => .null c.field true
  | .compare comparison, .single value => .compare c.field comparison value
  | .member negated, .list (first :: rest) => .member c.field negated first rest
  | .member negated, .single value => .member c.field negated value []
  | .between, .list [low, high] => .between c.field low high
  | _, _ => .never

namespace Predicate

/-- The text and values of a predicate. -/
def template : Predicate → Template
  | .null field negated => .raw (field ++ " " ++ (Operator.null negated).sql)
  | .compare field c value => .raw (field ++ " " ++ c.sql ++ " ") ++ .bind value
  | .member field negated first rest =>
    .raw (field ++ " " ++ (Operator.member negated).sql ++ " (")
      ++ .join ", " ((first :: rest).map .bind) ++ .raw ")"
  | .between field low high =>
    .raw (field ++ " BETWEEN ") ++ .bind low ++ .raw " AND " ++ .bind high
  | .never => .raw "1=0"

end Predicate

/-- The text and values of a condition. -/
def Condition.template (c : Condition) : Template :=
  c.predicate.template

/-- The text and values of a conjunction, which is nothing for no conditions. -/
def Filter.template? (filter : Filter) : Option Template :=
  if filter.isEmpty then none else some (.join " AND " (filter.map Condition.template))

/-- A conjunction after a keyword; nothing for no conditions. -/
def Filter.clause (keyword : String) (filter : Filter) : Template :=
  match Filter.template? filter with
  | some t => .raw (" " ++ keyword ++ " ") ++ t
  | none => .empty

end RecordMapper
