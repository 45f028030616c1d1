import RecordMapper.Sql.Condition
import RecordMapper.Sql.Order

/-!
# Queries

The clauses of a statement over one table, and the statements that they make.

* `Query.find` selects rows, `Query.count` counts the rows that it would select without paging.
* `Query.update` and `Query.delete` change the rows that meet the conditions.
* `Query.page` sets the window of a page; an offset beyond the words is the greatest word.
-/

namespace RecordMapper

/-- How rows of another table are joined. -/
inductive JoinKind where
  /-- Only rows with a partner. -/
  | inner
  /-- Every row on the left. -/
  | left
  /-- Every row on the right. -/
  | right
deriving DecidableEq, Repr

/-- The keywords of a join. -/
def JoinKind.sql : JoinKind → String
  | .inner => "INNER JOIN"
  | .left => "LEFT JOIN"
  | .right => "RIGHT JOIN"

/-- A joined table. -/
structure Join where
  /-- How it is joined. -/
  kind : JoinKind
  /-- The table. -/
  table : String
  /-- The condition, copied as it is. -/
  on : String
deriving DecidableEq, Repr

/-- The text of a join, with a blank in front. -/
def Join.sql (j : Join) : String :=
  " " ++ j.kind.sql ++ " " ++ j.table ++ " ON " ++ j.on

/-- The clauses of a statement over one table. -/
structure Query where
  /-- The table. -/
  table : String
  /-- The selected columns and expressions; all columns if there are none. -/
  select : List String := []
  /-- The joined tables. -/
  joins : List Join := []
  /-- The conditions on rows. -/
  conditions : Filter := []
  /-- The columns that rows are grouped by. -/
  groupBy : List String := []
  /-- The conditions on groups. -/
  having : Filter := []
  /-- The orderings, the first one deciding first. -/
  orderBy : List Order := []
  /-- The greatest number of rows. -/
  limit : Option UInt64 := none
  /-- The number of rows that are passed over. -/
  offset : Option UInt64 := none
  /-- Whether equal rows are given once. -/
  distinct : Bool := false
deriving DecidableEq, Repr

namespace Query

/-! ## Clauses -/

/-- Adds a condition. -/
def addCondition (q : Query) (c : Condition) : Query :=
  { q with conditions := q.conditions ++ [c] }

/-- Adds every condition of a filter. -/
def addFilter (q : Query) (filter : Filter) : Query :=
  { q with conditions := q.conditions ++ filter }

/-- Adds a joined table. -/
def addJoin (q : Query) (kind : JoinKind) (table on : String) : Query :=
  { q with joins := q.joins ++ [⟨kind, table, on⟩] }

/-- Adds orderings after those that are there. -/
def addOrders (q : Query) (orders : List Order) : Query :=
  { q with orderBy := q.orderBy ++ orders }

/-- Adds group columns after those that are there. -/
def addGroups (q : Query) (columns : List String) : Query :=
  { q with groupBy := q.groupBy ++ columns }

/-- Adds a condition on groups. -/
def addHaving (q : Query) (c : Condition) : Query :=
  { q with having := q.having ++ [c] }

/-- The number of rows before a page; pages are numbered from 1, and page 0 counts as page 1. -/
def pageOffset (page perPage : UInt64) : UInt64 :=
  UInt64.ofNat (min ((page.toNat - 1) * perPage.toNat) (UInt64.size - 1))

/-- Sets the window of a page. -/
def page (q : Query) (page perPage : UInt64) : Query :=
  { q with limit := some perPage, offset := some (pageOffset page perPage) }

/-- Removes the orderings and the window. -/
def clearPaging (q : Query) : Query :=
  { q with orderBy := [], limit := none, offset := none }

/-! ## Statements -/

/-- The joins as text. -/
def joinsSql (q : Query) : String :=
  String.join (q.joins.map Join.sql)

/-- The condition on rows. -/
def whereClause (q : Query) : Template :=
  Filter.clause "WHERE" q.conditions

/-- The grouping and the condition on groups. -/
def groupClause (q : Query) : Template :=
  .raw (if q.groupBy.isEmpty then "" else " GROUP BY " ++ ", ".intercalate q.groupBy)
    ++ Filter.clause "HAVING" q.having

/-- The selection without ordering and window. -/
def core (q : Query) : Template :=
  .raw ("SELECT " ++ (if q.distinct then "DISTINCT " else "")
      ++ (if q.select.isEmpty then "*" else ", ".intercalate q.select)
      ++ " FROM " ++ q.table ++ q.joinsSql)
    ++ q.whereClause ++ q.groupClause

/-- The ordering as text. -/
def orderSql (q : Query) : String :=
  if q.orderBy.isEmpty then "" else " ORDER BY " ++ ", ".intercalate (q.orderBy.map Order.sql)

/-- The window as text; an offset alone goes with the limit -1, which means none. -/
def windowSql (q : Query) : String :=
  match q.limit, q.offset with
  | some limit, some offset =>
    " LIMIT " ++ toString limit.toNat ++ " OFFSET " ++ toString offset.toNat
  | some limit, none => " LIMIT " ++ toString limit.toNat
  | none, some offset => " LIMIT -1 OFFSET " ++ toString offset.toNat
  | none, none => ""

/-- The statement that selects the rows. -/
def find (q : Query) : Template :=
  q.core ++ .raw (q.orderSql ++ q.windowSql)

/-- The statement that counts the rows, whatever the ordering and the window. Distinct or grouped
rows are counted as the rows of a subquery. -/
def count (q : Query) : Template :=
  if q.distinct || !q.groupBy.isEmpty then
    .raw "SELECT COUNT(*) AS count FROM (" ++ q.core ++ .raw ") AS counted"
  else .raw ("SELECT COUNT(*) AS count FROM " ++ q.table ++ q.joinsSql) ++ q.whereClause

/-- The statement that assigns the fields of a record to the rows. -/
def update (q : Query) (set : Record) : Except Error Template :=
  if set.isEmpty then .error .noFieldsToUpdate
  else
    .ok (.raw ("UPDATE " ++ q.table ++ " SET ")
      ++ .join ", " (set.entries.map fun entry => .raw (entry.1 ++ " = ") ++ .bind entry.2)
      ++ q.whereClause)

/-- The statement that deletes the rows. -/
def delete (q : Query) : Template :=
  .raw ("DELETE FROM " ++ q.table) ++ q.whereClause

end Query

end RecordMapper
