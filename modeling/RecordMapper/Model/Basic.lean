import RecordMapper.Failure.Classification
import RecordMapper.Model.Call
import RecordMapper.Record.Reading
import RecordMapper.Schema.Storage
import RecordMapper.Settings.Basic

/-!
# Models

A model binds a schema to an engine. This module holds what all operations on records share: putting
a statement to the engine, reading rows and counts, and checking the columns that a caller names.

* `Model.execute` binds parameters in their wire form and classifies a rejection.
* `Model.fetch` reads the rows of a query as records.
* `Model.queryFor` makes the query of find options; it hides rows that are marked as deleted.
-/

namespace RecordMapper

/-- Which rows are looked for, and how they are given. -/
structure FindOptions where
  /-- The conditions on rows. -/
  filter : Filter := []
  /-- The selected columns; all of them if there are none. -/
  select : List String := []
  /-- The orderings. -/
  order : List Order := []
  /-- The greatest number of rows. -/
  limit : Option UInt64 := none
  /-- The number of rows that are passed over. -/
  offset : Option UInt64 := none
  /-- Whether rows that are marked as deleted are found too. -/
  withDeleted : Bool := false
deriving DecidableEq, Repr

/-- The operations on the records of one table. -/
structure Model (σ : Type) where
  /-- The schema of the table. -/
  schema : Schema
  /-- The engine. -/
  engine : Engine σ
  /-- The hooks. -/
  hooks : Hooks := {}
  /-- The settings. -/
  settings : Settings := {}

namespace Model

variable {σ : Type}

/-- The table. -/
def table (m : Model σ) : String :=
  m.schema.table

/-- A query on the table without any clause. -/
def query (m : Model σ) : Query :=
  { table := m.table }

/-- A model as diagnostics show it. -/
def inspect (m : Model σ) : String :=
  "Model \x7b table: " ++ Text.quoteDouble m.table ++ ", hooks: " ++ m.hooks.inspect ++ ", .. \x7d"

/-! ## Statements -/

/-- The error for a statement that the engine rejected. -/
def failure (m : Model σ) (s : Statement) (r : Rejection) : Error :=
  let c := classify (some m.schema) m.settings.excerptLength.toNat r.message s.sql
  .query
    { kind := c.kind, message := c.message, raw := r.message, field := c.field, sql := s.sql
      params := s.params.map Value.display, table := m.table }

/-- Puts a statement to the engine, its parameters in wire form. -/
def execute (m : Model σ) (s : Statement) : Call σ Reply := do
  let s : Statement := ⟨s.sql, s.params.map Value.param⟩
  match ← Call.ask m.engine s with
  | .ok reply => return reply
  | .error rejection => throw (m.failure s rejection)

/-- The records that a query selects. -/
def fetch (m : Model σ) (q : Query) : Call σ (List Record) := do
  let reply ← m.execute q.find.statement
  return reply.rows.map m.schema.hydrate

/-- The number of rows that a query selects. -/
def fetchCount (m : Model σ) (q : Query) : Call σ UInt64 := do
  let reply ← m.execute q.count.statement
  match reply.first? with
  | some row => Call.lift (row.read "count" Value.toCount)
  | none => return 0

/-- The record of a key, be it marked as deleted; no hook is called. -/
def fetchById (m : Model σ) (id : Value) : Call σ (Option Record) := do
  let q := { m.query.addCondition (.eq m.schema.keyName id) with limit := some 1 }
  return (← m.fetch q).head?

/-! ## Columns -/

/-- Refuses a column that is no field; `place` says where it was named. -/
def checkColumn (m : Model σ) (place column : String) : Except Error Unit :=
  if m.schema.hasField column then .ok ()
  else .error (.invalidArgument (.unknownColumn m.table column place))

/-- Refuses the first column of a list that is no field. -/
def checkColumns (m : Model σ) (place : String) (columns : List String) : Except Error Unit :=
  columns.forM (m.checkColumn place)

/-- Refuses a filter on a column that is no field. -/
def checkFilter (m : Model σ) (filter : Filter) : Except Error Unit :=
  m.checkColumns "filter" (filter.map (·.field))

/-- The query of find options, before any hook. -/
def queryFor (m : Model σ) (options : FindOptions) : Except Error Query := do
  m.checkFilter options.filter
  m.checkColumns "select" options.select
  m.checkColumns "order_by" (options.order.map (·.column))
  let alive : Filter :=
    if m.schema.hidesDeleted && !options.withDeleted then [.isNull deletedAt] else []
  return { m.query with
    select := options.select
    conditions := options.filter ++ alive
    orderBy := options.order
    limit := options.limit
    offset := options.offset }

end Model

end RecordMapper
