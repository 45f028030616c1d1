import RecordMapper.Text.Words

/-!
# Orderings

A column and a direction, and the short spellings that they are read from: `name`, `name desc` and
`-name`, several of them with commas between.
-/

namespace RecordMapper

/-- The direction of an ordering. -/
inductive Direction where
  /-- From small to large. -/
  | asc
  /-- From large to small. -/
  | desc
deriving DecidableEq, Repr

/-- The keyword of a direction. -/
def Direction.sql : Direction → String
  | .asc => "ASC"
  | .desc => "DESC"

/-- An ordering by one column. -/
structure Order where
  /-- The column. -/
  column : String
  /-- The direction. -/
  direction : Direction
deriving DecidableEq, Repr

namespace Order

/-- An ordering as statements write it. -/
def sql (o : Order) : String :=
  o.column ++ " " ++ o.direction.sql

/-- Reads one ordering. A minus sign in front means descending and the rest is the column; else the
first word is the column and the second one the direction, ascending unless it is `desc`. -/
def ofChars? (cs : List Char) : Option Order :=
  match Text.trim cs with
  | '-' :: rest =>
    let column := Text.trim rest
    if column.isEmpty then none else some ⟨String.ofList column, .desc⟩
  | cs =>
    match Text.words cs with
    | [] => none
    | [column] => some ⟨String.ofList column, .asc⟩
    | column :: direction :: _ =>
      some ⟨String.ofList column,
        if Text.sameLetters (String.ofList direction) "desc" then .desc else .asc⟩

/-- Reads one ordering from a text. -/
def ofText? (s : String) : Option Order :=
  ofChars? s.toList

/-- Reads orderings with commas between; what is no ordering is passed over. -/
def listOfText (s : String) : List Order :=
  (Text.pieces (· == ',') s.toList).filterMap ofChars?

end Order

end RecordMapper
