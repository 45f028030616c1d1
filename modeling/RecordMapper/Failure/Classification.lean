import RecordMapper.Failure.Pattern
import RecordMapper.Schema.Basic

/-!
# Classification of engine reports

What an engine's message about a statement means. The classes are tried in a fixed order: unique
constraints, foreign keys, NOT NULL, CHECK, then status codes; any other message is passed on as it
is. Letter case does not matter.

* `classify` is total: every message has a class.
* `excerpt` cuts the text of a statement for use in messages.
-/

namespace RecordMapper

/-- What a message means. -/
structure Classification where
  /-- The class. -/
  kind : FailureKind
  /-- The message in words for people. -/
  message : String
  /-- The field at fault, if it is known. -/
  field : Option String
deriving DecidableEq, Repr

/-- At most `limit` characters of a statement; three dots mark a cut. -/
def excerpt (limit : Nat) (sql : String) : String :=
  if sql.length ≤ limit then sql
  else String.ofList (sql.toList.take (limit - 3)) ++ "..."

namespace Classification

/-! ## Fields -/

/-- The words of a statement that hint at the column of a duplicate entry. -/
def duplicateHints : List String :=
  ["email", "username", "slug", "sku"]

/-- The last component of a name with points. -/
def columnName (name : List Char) : String :=
  String.ofList ((Text.pieces (· == '.') name).getLastD name)

/-- The column that a message about a duplicate entry names, or else the first hint that occurs in
the statement. -/
def duplicateField? (raw sql : String) : Option String :=
  let cs := raw.toList
  let named := [Pattern.qualifiedName "unique constraint failed:", Pattern.quotedKey,
    Pattern.parenthesizedKey].findSome? fun pattern => Pattern.search pattern cs
  match named with
  | some name => some (columnName name)
  | none =>
    let lowered := Text.lowered sql
    duplicateHints.find? fun hint => Text.contains hint lowered

/-- The column that a message about a missing value names. -/
def missingField? (raw : String) : Option String :=
  let cs := raw.toList
  let named := [Pattern.qualifiedName "not null constraint failed:", Pattern.nullColumn,
    Pattern.columnCannotBeNull].findSome? fun pattern => Pattern.search pattern cs
  named.map columnName

/-! ## Status codes -/

/-- The status that a message gives as a number of three ASCII digits. -/
def statedStatus? (raw : String) : Option Nat :=
  match Pattern.searchAtWord Pattern.statusCode false raw.toList with
  | some code =>
    if code.all Char.isDigit then some (code.foldl (fun n d => 10 * n + (d.toNat - '0'.toNat)) 0)
    else none
  | none => none

/-- The phrases that stand for a status. -/
def statusPhrases : List (String × Nat) :=
  [("bad request", 400), ("unauthorized", 401), ("forbidden", 403), ("not found", 404),
   ("too many requests", 429), ("rate limit", 429), ("internal server error", 500)]

/-- The status that a phrase of a message stands for. -/
def phrasedStatus? (lowered : List Char) : Option Nat :=
  (statusPhrases.find? fun phrase => Text.contains phrase.1 lowered).map (·.2)

/-- The class of a status and what it means. -/
def ofStatus? (status : Nat) : Option (FailureKind × String) :=
  if status = 400 then
    some (.malformedRequest, "Malformed request: the remote engine rejected the statement")
  else if status = 401 then some (.unauthorized, "Unauthorized: check the database credentials")
  else if status = 403 then
    some (.forbidden, "Forbidden: the credentials lack access to this database")
  else if status = 404 then
    some (.notFound, "Not found: the database or endpoint does not exist")
  else if status = 429 then
    some (.rateLimited, "Rate limited: too many requests to the remote engine")
  else if 500 ≤ status ∧ status ≤ 599 then
    some (.serverError, "Server error: the remote engine failed to execute the statement")
  else none

/-! ## Classes -/

/-- A duplicate entry. -/
def duplicate (field : Option String) : Classification :=
  match field with
  | some f => ⟨.duplicateEntry, "Duplicate entry for field '" ++ f ++ "'", some f⟩
  | none =>
    ⟨.duplicateEntry, "Duplicate entry: a record with the same unique value already exists", none⟩

/-- A missing value. A field that the schema declares optional means that the schema and the table
disagree. -/
def missing (schema : Option Schema) (field : Option String) : Classification :=
  match field with
  | some f =>
    if (schema.bind (·.field? f)).any fun declared => !declared.required then
      ⟨.schemaMismatch, "Schema mismatch: field '" ++ f
        ++ "' is optional in the schema but NOT NULL in the database table", some f⟩
    else ⟨.notNullViolation, "Missing required field '" ++ f ++ "'", some f⟩
  | none => ⟨.notNullViolation, "Missing value for a required field", none⟩

end Classification

open Classification in
/-- What an engine's message `raw` about the statement `sql` means. -/
def classify (schema : Option Schema) (excerptLength : Nat) (raw sql : String) : Classification :=
  let lowered := Text.lowered raw
  let mentions (phrase : String) : Bool := Text.contains phrase lowered
  if mentions "unique" || mentions "duplicate" then duplicate (duplicateField? raw sql)
  else if mentions "foreign key" then
    ⟨.foreignKeyViolation,
      "Foreign key constraint failed: the referenced record does not exist or is still referenced",
      none⟩
  else if mentions "not null" || mentions "cannot be null" || mentions "null value in column" then
    missing schema (missingField? raw)
  else if mentions "check constraint" then
    ⟨.checkConstraintViolation, "Check constraint failed: " ++ raw, none⟩
  else
    let status := (statedStatus? raw).or (phrasedStatus? lowered)
    match status, status.bind ofStatus? with
    | some n, some (kind, meaning) =>
      ⟨kind, meaning ++ " (HTTP " ++ toString n ++ "). SQL: " ++ excerpt excerptLength sql, none⟩
    | _, _ => ⟨.unclassified, raw, none⟩

end RecordMapper
