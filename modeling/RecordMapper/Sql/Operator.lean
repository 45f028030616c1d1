import RecordMapper.Failure.Basic
import RecordMapper.Text.Words

/-!
# Operators

The operators of conditions, by the operand that each takes: one value, a list of values, two
bounds, or none.
-/

namespace RecordMapper

/-- A comparison with one value. -/
inductive Comparison where
  /-- `=` -/
  | eq
  /-- `!=` -/
  | ne
  /-- `>` -/
  | gt
  /-- `<` -/
  | lt
  /-- `>=` -/
  | gte
  /-- `<=` -/
  | lte
  /-- `LIKE` -/
  | like
  /-- `NOT LIKE` -/
  | notLike
deriving DecidableEq, Repr

/-- The spelling of a comparison. -/
def Comparison.sql : Comparison → String
  | .eq => "="
  | .ne => "!="
  | .gt => ">"
  | .lt => "<"
  | .gte => ">="
  | .lte => "<="
  | .like => "LIKE"
  | .notLike => "NOT LIKE"

/-- An operator. -/
inductive Operator where
  /-- A comparison with one value. -/
  | compare (c : Comparison)
  /-- `IN` or `NOT IN` a list of values. -/
  | member (negated : Bool)
  /-- `BETWEEN` two bounds. -/
  | between
  /-- `IS NULL` or `IS NOT NULL`. -/
  | null (negated : Bool)
deriving DecidableEq, Repr

namespace Operator

/-- The spelling of an operator. -/
def sql : Operator → String
  | .compare c => c.sql
  | .member false => "IN"
  | .member true => "NOT IN"
  | .between => "BETWEEN"
  | .null false => "IS NULL"
  | .null true => "IS NOT NULL"

/-- Whether the operand is a list. -/
def takesList : Operator → Bool
  | .member _ | .between => true
  | _ => false

/-- Whether there is no operand. -/
def isUnary : Operator → Bool
  | .null _ => true
  | _ => false

/-- The operator of a spelling in capitals with single blanks. -/
def ofSpelling? (s : String) : Option Operator :=
  match s with
  | "=" | "==" => some (.compare .eq)
  | "!=" | "<>" => some (.compare .ne)
  | ">" => some (.compare .gt)
  | "<" => some (.compare .lt)
  | ">=" => some (.compare .gte)
  | "<=" => some (.compare .lte)
  | "LIKE" => some (.compare .like)
  | "NOT LIKE" => some (.compare .notLike)
  | "IN" => some (.member false)
  | "NOT IN" => some (.member true)
  | "BETWEEN" => some .between
  | "IS NULL" => some (.null false)
  | "IS NOT NULL" => some (.null true)
  | _ => none

/-- Reads an operator in any letter case and with any blanks around and between its words. -/
def ofText (s : String) : Except Error Operator :=
  let spelling := [' '].intercalate (Text.words s.toList)
  match ofSpelling? (String.ofList (spelling.map Text.upper)) with
  | some op => .ok op
  | none => .error (.invalidArgument (.unknownOperator s))

end Operator

end RecordMapper
