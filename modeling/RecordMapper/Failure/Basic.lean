import RecordMapper.Failure.Violation
import RecordMapper.Value.Basic

/-!
# Errors

Every way in which an operation can fail, as causes. The wording of a cause is in its `message`.

* `FailureKind` classifies what an engine reports about a statement.
* `QueryFailure` is a rejected statement with what is needed to understand the rejection.
* `Error` is the sum of all causes; `Error.message` words them.
-/

namespace RecordMapper

/-! ## Rejected statements -/

/-- The class of an engine's report. -/
inductive FailureKind where
  /-- A unique constraint. -/
  | duplicateEntry
  /-- A foreign key constraint. -/
  | foreignKeyViolation
  /-- A NOT NULL constraint. -/
  | notNullViolation
  /-- A NOT NULL constraint on a field that the schema declares optional. -/
  | schemaMismatch
  /-- A CHECK constraint. -/
  | checkConstraintViolation
  /-- Status 400. -/
  | malformedRequest
  /-- Status 401. -/
  | unauthorized
  /-- Status 403. -/
  | forbidden
  /-- Status 404. -/
  | notFound
  /-- Status 429. -/
  | rateLimited
  /-- A status from 500 to 599. -/
  | serverError
  /-- Anything else. -/
  | unclassified
deriving DecidableEq, Repr, Inhabited

namespace FailureKind

/-- The name of a class, for logs. -/
def name : FailureKind → String
  | .duplicateEntry => "duplicate_entry"
  | .foreignKeyViolation => "foreign_key_violation"
  | .notNullViolation => "not_null_violation"
  | .schemaMismatch => "schema_mismatch"
  | .checkConstraintViolation => "check_constraint_violation"
  | .malformedRequest => "malformed_request"
  | .unauthorized => "unauthorized"
  | .forbidden => "forbidden"
  | .notFound => "not_found"
  | .rateLimited => "rate_limited"
  | .serverError => "server_error"
  | .unclassified => "unclassified"

/-- Whether the engine refused the write because of a constraint. -/
def isConstraint : FailureKind → Bool
  | .duplicateEntry | .foreignKeyViolation | .notNullViolation | .schemaMismatch
  | .checkConstraintViolation => true
  | _ => false

end FailureKind

/-- A rejected statement. -/
structure QueryFailure where
  /-- The class of the report. -/
  kind : FailureKind
  /-- The report in words for people. -/
  message : String
  /-- The report as the engine gave it. -/
  raw : String
  /-- The field at fault, if it is known. -/
  field : Option String
  /-- The text of the statement. -/
  sql : String
  /-- The parameters of the statement, as messages show them. -/
  params : List String
  /-- The table of the operation. -/
  table : String
deriving DecidableEq, Repr, Inhabited

/-! ## Causes -/

/-- Why a row that was inserted, or was there, could not be given back. -/
inductive MissingRow where
  /-- The engine reported no identifier. -/
  | noIdentifier (table : String)
  /-- No row has the identifier. -/
  | notFound (table : String) (id : Value)
  /-- The row was there and is gone. -/
  | disappeared (table : String) (id : Value)
deriving DecidableEq, Repr

/-- The words of a cause. -/
def MissingRow.message : MissingRow → String
  | .noIdentifier table =>
    table ++ ": the executor reported no identifier for the inserted row"
  | .notFound table id => table ++ ": row " ++ id.display ++ " not found after insert"
  | .disappeared table id => table ++ ": row " ++ id.display ++ " disappeared during upsert"

/-- Why a schema is refused. -/
inductive SchemaFault where
  /-- The table has no name. -/
  | blankTable
  /-- A field is declared twice. -/
  | duplicateField (table field : String)
  /-- A field has no name. -/
  | blankField (table : String)
  /-- The engine is to number a field that is not the primary key. -/
  | autoIncrementNotKey (table field : String)
  /-- The engine is to number a field that is no number. -/
  | autoIncrementNotNumber (table field : String)
  /-- The default of a required field breaks the field's own rules. -/
  | invalidDefault (table field : String) (problems : List String)
  /-- There is not exactly one primary key. -/
  | primaryKeys (table : String) (found : Nat)
  /-- An index has no columns. -/
  | emptyIndex (table : String)
  /-- An index names a field that is not declared. -/
  | unknownIndexField (table field : String)
deriving DecidableEq, Repr

/-- The words of a cause. -/
def SchemaFault.message : SchemaFault → String
  | .blankTable => "table name must not be empty"
  | .duplicateField table field => table ++ ": duplicate field '" ++ field ++ "'"
  | .blankField table => table ++ ": field name must not be empty"
  | .autoIncrementNotKey table field =>
    table ++ "." ++ field ++ ": auto-increment requires primary key"
  | .autoIncrementNotNumber table field =>
    table ++ "." ++ field ++ ": auto-increment requires a number field"
  | .invalidDefault table field problems =>
    table ++ "." ++ field ++ ": default value is invalid: " ++ "; ".intercalate problems
  | .primaryKeys table found =>
    table ++ ": expected exactly one primary key, found " ++ toString found
  | .emptyIndex table => table ++ ": composite index without fields"
  | .unknownIndexField table field =>
    table ++ ": composite index references unknown field '" ++ field ++ "'"

/-- Why the arguments of an operation make no sense. -/
inductive ArgumentFault where
  /-- A text is no operator. -/
  | unknownOperator (text : String)
  /-- A record lacks a field. -/
  | missingField (field : String)
  /-- A column is no field of the table. -/
  | unknownColumn (table column place : String)
  /-- A page has no rows. -/
  | emptyPage
  /-- An operation needs a table that keeps deleted rows. -/
  | needsSoftDelete (table operation : String)
  /-- An operation has nothing to match a row by. -/
  | nothingToMatch (table operation : String)
  /-- A value cannot be the key of a row. -/
  | invalidIdentifier (table : String) (id : Value) (key requirement : String)
  /-- A row that was found lacks its key. -/
  | rowWithoutKey (table key : String)
  /-- No aggregate was asked for. -/
  | noAggregate
  /-- An alias is no identifier. -/
  | invalidAlias (label : String)
  /-- An ordering is by neither a group column nor an alias. -/
  | unknownAggregateOrder (column : String)
  /-- A percentile is outside 0 to 100. -/
  | percentileRange (p : Binary64)
  /-- An item of an update has no key. -/
  | itemWithoutKey (table key : String)
  /-- An item of an update names no row. -/
  | noSuchRecord (table key : String) (id : Value)
deriving DecidableEq, Repr

/-- The words of a cause. -/
def ArgumentFault.message : ArgumentFault → String
  | .unknownOperator text => "Unknown operator '" ++ text ++ "'"
  | .missingField field => "Field '" ++ field ++ "' not found in record"
  | .unknownColumn table column place =>
    table ++ ": unknown field '" ++ column ++ "' in " ++ place
  | .emptyPage => "per_page must be at least 1"
  | .needsSoftDelete table operation =>
    table ++ ": " ++ operation ++ " requires a soft-delete schema"
  | .nothingToMatch table operation =>
    table ++ ": " ++ operation ++ " needs at least one value to match on"
  | .invalidIdentifier table id key requirement =>
    table ++ ": " ++ id.display ++ " is not a valid identifier for " ++ key ++ " ("
      ++ requirement ++ ")"
  | .rowWithoutKey table key => table ++ ": matched row carries no '" ++ key ++ "' column"
  | .noAggregate => "aggregate needs at least one expression"
  | .invalidAlias label => "invalid aggregate alias '" ++ label ++ "'"
  | .unknownAggregateOrder column => "cannot order aggregate results by '" ++ column ++ "'"
  | .percentileRange p => "percentile must be between 0 and 100, got " ++ p.text .plain
  | .itemWithoutKey table key => table ++ ": bulk_update item without '" ++ key ++ "'"
  | .noSuchRecord table key id => table ++ ": no record with " ++ key ++ " = " ++ id.display

/-- Why a value cannot be read as what is asked for. -/
inductive ConversionFault where
  /-- The value is of another variant. -/
  | mismatch (expected : String) (found : Value)
  /-- A whole number is negative where a count is asked for. -/
  | negativeCount
  /-- A document is no object. -/
  | notAnObject (found : Document)
deriving DecidableEq, Repr

/-- The words of a cause. -/
def ConversionFault.message : ConversionFault → String
  | .mismatch expected found => "Expected " ++ expected ++ ", got " ++ found.inspect
  | .negativeCount =>
    "Int value out of u64 range: number too small to fit in target type"
  | .notAnObject found => "Expected a JSON object for a record, got " ++ found.compact

/-- The two formats that settings are read from. -/
inductive SettingsFormat where
  /-- TOML. -/
  | toml
  /-- JSON. -/
  | json
deriving DecidableEq, Repr

/-- The name of a format. -/
def SettingsFormat.name : SettingsFormat → String
  | .toml => "TOML"
  | .json => "JSON"

/-- Why settings cannot be loaded. -/
inductive SettingsFault where
  /-- The file cannot be read. -/
  | unreadable (format : SettingsFormat)
  /-- The text is not of the format. -/
  | malformed (format : SettingsFormat)
  /-- A setting has a value of the wrong type. -/
  | mistyped (format : SettingsFormat)
deriving DecidableEq, Repr

/-- The words of a cause. -/
def SettingsFault.message : SettingsFault → String
  | .unreadable format => "Failed to read " ++ format.name ++ " file"
  | .malformed format => "Failed to parse " ++ format.name
  | .mistyped format => "Failed to deserialize settings from " ++ format.name

/-! ## Errors -/

/-- A failed operation. -/
inductive Error where
  /-- A record breaks rules of its schema; no statement was issued. -/
  | validation (violations : List Violation)
  /-- An update assigns nothing. -/
  | noFieldsToUpdate
  /-- A row could not be given back. -/
  | missingRow (cause : MissingRow)
  /-- A schema is malformed. -/
  | invalidSchema (cause : SchemaFault)
  /-- The arguments make no sense. -/
  | invalidArgument (cause : ArgumentFault)
  /-- A hook refused. -/
  | hook (message : String)
  /-- The engine rejected a statement. -/
  | query (failure : QueryFailure)
  /-- A bulk operation stopped at an item. -/
  | bulkAborted (index : Nat) (completed : UInt64) (source : Error)
  /-- Settings could not be loaded. -/
  | settings (cause : SettingsFault)
  /-- A value could not be converted. -/
  | conversion (cause : ConversionFault)
deriving Repr, DecidableEq

instance : Inhabited Error := ⟨.noFieldsToUpdate⟩

namespace Error

/-- The words of an error. -/
def message : Error → String
  | .validation violations => "Validation failed: " ++ Violation.summary violations
  | .noFieldsToUpdate => "No fields to update"
  | .missingRow cause => "Failed to create record: " ++ cause.message
  | .invalidSchema cause => "Invalid schema: " ++ cause.message
  | .invalidArgument cause => "Invalid argument: " ++ cause.message
  | .hook message => "Hook failed: " ++ message
  | .query failure => failure.message
  | .bulkAborted index completed source =>
    "Bulk operation aborted at item " ++ toString index ++ " after "
      ++ toString completed.toNat ++ " completed: " ++ source.message
  | .settings cause => "Configuration error: " ++ cause.message
  | .conversion cause => "Serialization error: " ++ cause.message

/-- The class of the engine's report, where an engine's report is the cause. -/
def kind? : Error → Option FailureKind
  | .query failure => some failure.kind
  | .bulkAborted _ _ source => source.kind?
  | _ => none

/-- Whether a unique constraint is the cause. -/
def isDuplicateEntry (e : Error) : Bool :=
  e.kind? == some .duplicateEntry

end Error

/-- Succeeds where there is no violation. -/
def Violation.check (violations : List Violation) : Except Error Unit :=
  if violations.isEmpty then .ok () else .error (.validation violations)

end RecordMapper
