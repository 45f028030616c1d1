import RecordMapper.Record.Basic
import RecordMapper.Sql.Template

/-!
# Insertions

The statement that inserts one record, and the one that inserts many rows over the same columns.
-/

namespace RecordMapper.Insert

/-- A tuple of bound values. -/
def tuple (values : List Value) : Template :=
  .raw "(" ++ .join ", " (values.map .bind) ++ .raw ")"

/-- Inserts one record; without fields, the columns take their defaults. -/
def one (table : String) (r : Record) : Template :=
  if r.isEmpty then .raw ("INSERT INTO " ++ table ++ " DEFAULT VALUES")
  else
    .raw ("INSERT INTO " ++ table ++ " (" ++ ", ".intercalate r.fields ++ ") VALUES ")
      ++ tuple (r.entries.map (·.2))

/-- The values of a row at the given columns, null where it has none. -/
def rowValues (columns : List String) (row : Record) : List Value :=
  columns.map fun column => (row.get? column).getD .null

/-- Inserts rows over the given columns. -/
def many (table : String) (columns : List String) (rows : List Record) : Template :=
  .raw ("INSERT INTO " ++ table ++ " (" ++ ", ".intercalate columns ++ ") VALUES ")
    ++ .join ", " (rows.map fun row => tuple (rowValues columns row))

end RecordMapper.Insert
