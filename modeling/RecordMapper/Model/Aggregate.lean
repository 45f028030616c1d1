import RecordMapper.Model.Find
import RecordMapper.Model.Together

/-!
# Aggregates

Counts, sums, means, extremes and percentiles of a field over the rows of a filter, and aggregates
by groups. Rows that are marked as deleted are left out as they are by finds.

* `Model.stats` asks for five aggregates in statements that do not wait for each other.
* `Model.aggregate` asks for several aggregates in one statement, by groups or over all rows.
* `Model.percentile` counts the rows and then fetches the row of the nearest rank.
-/

namespace RecordMapper

/-- An aggregate function. -/
inductive AggregateFunction where
  /-- The number of values, or of rows. -/
  | count
  /-- The number of distinct values. -/
  | countDistinct
  /-- The sum. -/
  | sum
  /-- The mean. -/
  | avg
  /-- The smallest value. -/
  | min
  /-- The largest value. -/
  | max
deriving DecidableEq, Repr

namespace AggregateFunction

/-- The name of a function, as aliases and messages use it. -/
def name : AggregateFunction → String
  | .count => "count"
  | .countDistinct => "count_distinct"
  | .sum => "sum"
  | .avg => "avg"
  | .min => "min"
  | .max => "max"

/-- The expression of a function of a column. -/
def sql (f : AggregateFunction) (field : String) : String :=
  match f with
  | .count => "COUNT(" ++ field ++ ")"
  | .countDistinct => "COUNT(DISTINCT " ++ field ++ ")"
  | .sum => "SUM(" ++ field ++ ")"
  | .avg => "AVG(" ++ field ++ ")"
  | .min => "MIN(" ++ field ++ ")"
  | .max => "MAX(" ++ field ++ ")"

end AggregateFunction

/-- An aggregate with the name of its column in the result. -/
structure Aggregate where
  /-- The function. -/
  function : AggregateFunction
  /-- The column, or `*` for rows. -/
  field : String
  /-- The name in the result. -/
  label : String
deriving DecidableEq, Repr

namespace Aggregate

/-- An aggregate named for its function and field. -/
def of (function : AggregateFunction) (field : String) : Aggregate :=
  ⟨function, field, if field = "*" then function.name else function.name ++ "_" ++ field⟩

/-- The number of rows. -/
def countAll : Aggregate :=
  of .count "*"

/-- The expression. -/
def expression (a : Aggregate) : String :=
  a.function.sql a.field

/-- The expression under its alias. -/
def sql (a : Aggregate) : String :=
  a.expression ++ " AS " ++ a.label

/-- Whether a name is an ASCII identifier. -/
def isIdentifier (name : String) : Bool :=
  match name.toList with
  | [] => false
  | c :: rest => !c.isDigit && (c :: rest).all fun c => c.isAlphanum || c == '_'

end Aggregate

/-- Which rows are aggregated, and how the groups are given. -/
structure AggregateOptions where
  /-- The conditions on rows. -/
  filter : Filter := []
  /-- The group columns; without any, all rows are one group. -/
  groupBy : List String := []
  /-- The orderings, by group columns or aliases. -/
  order : List Order := []
deriving DecidableEq, Repr

/-- A summary of a numeric field; the summary of no values has no entries. -/
structure Stats where
  /-- The number of values. -/
  count : UInt64 := 0
  /-- The sum, if there are values. -/
  sum : Option Binary64 := none
  /-- The mean, if there are values. -/
  avg : Option Binary64 := none
  /-- The smallest value. -/
  min : Option Value := none
  /-- The largest value. -/
  max : Option Value := none
deriving DecidableEq, Repr

/-- The orderings that the name of a field spells. -/
def Order.byField (field : String) : List Order :=
  Order.listOfText field

namespace Model

variable {σ : Type}

/-! ## Single aggregates -/

/-- Refuses a column that is no field; the rows themselves can be counted. -/
def checkAggregate (m : Model σ) (function : AggregateFunction) (field : String) :
    Except Error Unit :=
  if field = "*" ∧ function = .count then .ok () else m.checkColumn function.name field

/-- One aggregate over the rows of a filter, null if the engine gives none. -/
def aggregateValue (m : Model σ) (function : AggregateFunction) (field : String)
    (filter : Filter) : Call σ Value := do
  Call.lift (m.checkAggregate function field)
  let q ← Call.lift (m.queryFor { filter })
  let rows ← m.fetch { q with select := [function.sql field ++ " AS value"] }
  return (rows.head?.bind fun row => row.get? "value").getD .null

/-- The sum of a field. -/
def sum (m : Model σ) (field : String) (filter : Filter) : Call σ (Option Binary64) := do
  return (← m.aggregateValue .sum field filter).asFloat?

/-- The mean of a field. -/
def avg (m : Model σ) (field : String) (filter : Filter) : Call σ (Option Binary64) := do
  return (← m.aggregateValue .avg field filter).asFloat?

/-- The smallest value of a field. -/
def min (m : Model σ) (field : String) (filter : Filter) : Call σ (Option Value) := do
  return (← m.aggregateValue .min field filter).nonNull?

/-- The largest value of a field. -/
def max (m : Model σ) (field : String) (filter : Filter) : Call σ (Option Value) := do
  return (← m.aggregateValue .max field filter).nonNull?

/-- An aggregate that is a count; null counts as zero. -/
def countAggregate (m : Model σ) (function : AggregateFunction) (field : String)
    (filter : Filter) : Call σ UInt64 := do
  let v ← m.aggregateValue function field filter
  if v.isNull then return 0 else Call.lift v.toCount

/-- The number of values of a field, or of rows for `*`. -/
def countValues (m : Model σ) (field : String) (filter : Filter) : Call σ UInt64 :=
  m.countAggregate .count field filter

/-- The number of distinct values of a field. -/
def countDistinct (m : Model σ) (field : String) (filter : Filter) : Call σ UInt64 :=
  m.countAggregate .countDistinct field filter

/-- The calls that a summary is made of, each of which enters one value. -/
def summaries (m : Model σ) (field : String) (filter : Filter) : List (Call σ (Stats → Stats)) :=
  [do let count ← m.countValues field filter; return fun s => { s with count },
    do let sum ← m.sum field filter; return fun s => { s with sum },
    do let avg ← m.avg field filter; return fun s => { s with avg },
    do let min ← m.min field filter; return fun s => { s with min },
    do let max ← m.max field filter; return fun s => { s with max }]

/-- A summary of a field, from five statements that are put to the engine together. -/
def stats (m : Model σ) (field : String) (filter : Filter) (schedule : Schedule := .prompt) :
    Call σ Stats := do
  let entries ← Call.together schedule (m.summaries field filter)
  return entries.foldl (fun summary enter => enter summary) {}

/-! ## Values and groups -/

/-- The distinct values of a field, ascending. -/
def distinct (m : Model σ) (field : String) (filter : Filter) : Call σ (List Value) := do
  Call.lift (m.checkAggregate .min field)
  let q ← Call.lift (m.queryFor { filter })
  let rows ← m.fetch
    { q.addOrders (Order.byField field) with select := [field], distinct := true }
  return rows.filterMap fun row => row.get? field

/-- Refuses aggregates that cannot be asked for. -/
def checkAggregates (m : Model σ) (aggregates : List Aggregate) (options : AggregateOptions) :
    Except Error Unit := do
  if aggregates.isEmpty then throw (.invalidArgument .noAggregate)
  aggregates.forM fun a => do
    m.checkAggregate a.function a.field
    if !Aggregate.isIdentifier a.label then throw (.invalidArgument (.invalidAlias a.label))
  options.groupBy.forM (m.checkAggregate .min)
  options.order.forM fun o =>
    if options.groupBy.contains o.column || aggregates.any (fun a => a.label == o.column) then
      .ok ()
    else .error (.invalidArgument (.unknownAggregateOrder o.column))

/-- Several aggregates in one statement: one record for every group, its group columns first. -/
def aggregate (m : Model σ) (aggregates : List Aggregate) (options : AggregateOptions) :
    Call σ (List Record) := do
  Call.lift (m.checkAggregates aggregates options)
  let q ← Call.lift (m.queryFor { filter := options.filter })
  m.fetch
    { (q.addGroups options.groupBy).addOrders options.order with
      select := options.groupBy ++ aggregates.map Aggregate.sql }

/-- The number of rows for every value of a field, ascending. -/
def groupBy (m : Model σ) (field : String) (filter : Filter) : Call σ (List Record) :=
  m.aggregate [.countAll] { filter, groupBy := [field], order := Order.byField field }

/-! ## Percentiles -/

/-- The place, from 1, of the `p`-th percentile among `count` values: `p / 100 * count` rounded up,
in floating-point numbers, and moved into the range of places. -/
def percentileRank (p : Binary64) (count : UInt64) : UInt64 :=
  let rank := ((p.div (.ofNat 100)).mul (.ofNat count.toNat)).ceilCount
  if rank < 1 then 1 else if count < rank then count else rank

/-- The value of a field at a percentile by nearest rank, if there is any value. -/
def percentile (m : Model σ) (field : String) (p : Binary64) (filter : Filter) :
    Call σ (Option Value) := do
  if !((Binary64.ofNat 0).atMost p && p.atMost (.ofNat 100)) then
    throw (.invalidArgument (.percentileRange p))
  Call.lift (m.checkAggregate .min field)
  let q ← Call.lift (m.queryFor { filter })
  let q := q.addCondition (.isNotNull field)
  let count ← m.fetchCount q
  if count = 0 then return none
  let rows ← m.fetch
    { q.addOrders (Order.byField field) with
      select := [field], limit := some 1, offset := some (percentileRank p count - 1) }
  return rows.head?.bind fun row => row.get? field

/-- The middle value of a field. -/
def median (m : Model σ) (field : String) (filter : Filter) : Call σ (Option Value) :=
  m.percentile field (.ofNat 50) filter

end Model

end RecordMapper
