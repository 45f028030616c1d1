import RecordMapper.Schema.Basic

/-!
# Table definitions

The statements that create and drop a schema's table and indexes, and the migration that holds them.
-/

namespace RecordMapper

/-- An index with its name. -/
structure Index where
  /-- The name. -/
  name : String
  /-- The columns in order. -/
  columns : List String
  /-- Whether no two rows agree in all columns. -/
  unique : Bool
deriving DecidableEq, Repr

namespace Schema

/-- The clause for the reference of a field to another table. -/
def foreignKeySql (f : Field) (r : Relation) : String :=
  "FOREIGN KEY (" ++ f.name ++ ") REFERENCES " ++ r.table ++ "(" ++ r.field ++ ") ON DELETE "
    ++ r.onDelete.sql ++ " ON UPDATE " ++ r.onUpdate.sql

/-- The statement that creates the table: its columns and then its foreign keys. -/
def createSql (s : Schema) : String :=
  let columns := s.fields.map Field.columnSql
  let keys := s.fields.filterMap fun f => f.relation.map (foreignKeySql f)
  "CREATE TABLE " ++ s.table ++ " (" ++ ", ".intercalate (columns ++ keys) ++ ")"

/-- The statement that drops the table. -/
def dropSql (s : Schema) : String :=
  "DROP TABLE IF EXISTS " ++ s.table

/-- The index of a field that asks for one; primary and unique fields have theirs anyway. -/
def fieldIndex? (table : String) (f : Field) : Option Index :=
  if f.indexed && !f.primaryKey && !f.unique then
    some ⟨"idx_" ++ table ++ "_" ++ f.name, [f.name], false⟩
  else none

/-- The index over several columns, with its name. -/
def compositeIndex (table : String) (index : CompositeIndex) : Index :=
  let made :=
    (if index.unique then "uidx" else "idx") ++ "_" ++ table ++ "_" ++ "_".intercalate index.fields
  ⟨index.name.getD made, index.fields, index.unique⟩

/-- The indexes of the table: those of fields in declared order, then those over several columns. -/
def indexes (s : Schema) : List Index :=
  s.fields.filterMap (fieldIndex? s.table) ++ s.options.indexes.map (compositeIndex s.table)

/-- The statement that creates an index. -/
def createIndexSql (s : Schema) (index : Index) : String :=
  "CREATE " ++ (if index.unique then "UNIQUE " else "") ++ "INDEX " ++ index.name ++ " ON "
    ++ s.table ++ "(" ++ ", ".intercalate index.columns ++ ")"

/-- The statements that create the indexes. -/
def indexSql (s : Schema) : List String :=
  s.indexes.map s.createIndexSql

end Schema

/-! ## Migrations -/

/-- The statements that create a table and those that take it back. -/
structure Migration where
  /-- The name. -/
  name : String
  /-- The table. -/
  table : String
  /-- The statements that create the table, in order. -/
  up : List String
  /-- The statements that remove it, in order. -/
  down : List String
  /-- When the migration was made. -/
  createdAt : Instant
deriving DecidableEq, Repr

namespace Migration

/-- The migration that creates a schema's table and indexes; it takes back the indexes in reverse
order and then the table. -/
def createTable (s : Schema) (now : Instant) : Migration where
  name := "create_" ++ s.table
  table := s.table
  up := s.createSql :: s.indexSql
  down := s.indexes.reverse.map (fun index => "DROP INDEX IF EXISTS " ++ index.name) ++ [s.dropSql]
  createdAt := now

/-- The name of the file. -/
def fileName (m : Migration) : String :=
  m.createdAt.serial ++ "_" ++ m.name ++ ".sql"

/-- The text of the file. -/
def text (m : Migration) : String :=
  let lines (statements : List String) := String.join (statements.map (· ++ ";\n"))
  "-- Migration: " ++ m.name ++ "\n-- Created: " ++ m.createdAt.stamp ++ "\n\n-- Up\n"
    ++ lines m.up ++ "\n-- Down\n" ++ lines m.down

end Migration

end RecordMapper
