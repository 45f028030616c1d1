import RecordMapper.Toml.Scalar

/-!
# The grammar of TOML

A TOML text as the list of its expressions: key-value pairs and table headers, in order. Whether
they fit together is decided when the tables are built.

* `readValue?` reads a value; arrays and inline tables nest at most `maxDepth` levels deep.
* `expressions?` reads a whole text.
-/

namespace RecordMapper.Toml

/-- A key: its components between points. -/
abbrev Key : Type := List String

/-- A value as it is written. -/
inductive Written where
  /-- A text. -/
  | text (s : String)
  /-- A number. -/
  | number (n : Number)
  /-- A truth value. -/
  | bool (b : Bool)
  /-- A date or time. -/
  | datetime (d : Datetime)
  /-- An array. -/
  | array (items : List Written)
  /-- An inline table. -/
  | inline (pairs : List (Key × Written))
deriving Repr

/-- An expression. -/
inductive Expression where
  /-- A key and a value. -/
  | pair (key : Key) (value : Written)
  /-- The header of a table. -/
  | table (key : Key)
  /-- The header of one more table of an array. -/
  | element (key : Key)
deriving Repr

/-- How deep arrays and inline tables may nest, and how many components a key may have. -/
def maxDepth : Nat := 79

/-! ## Keys -/

/-- A character of a bare key. -/
def isBare (c : Char) : Bool :=
  c.isAlphanum || c == '_' || c == '-'

/-- Reads one component of a key: bare, or between single or double quotes. -/
def readComponent? : Step String := fun cs =>
  match cs with
  | '"' :: rest =>
    (readBasic? (rest.length + 1) rest).map fun (s, rest) => (String.ofList s, rest)
  | '\'' :: rest => (readLiteral? rest).map fun (s, rest) => (String.ofList s, rest)
  | _ =>
    match cs.takeWhile isBare with
    | [] => none
    | name => some (String.ofList name, cs.dropWhile isBare)

/-- Reads a key of at most `most` components, with blanks around each. -/
def readKey? : Nat → Step Key
  | 0, _ => none
  | most + 1, cs => do
    let (first, rest) ← readComponent? (skipBlanks cs)
    match skipBlanks rest with
    | '.' :: rest =>
      let (more, rest) ← readKey? most rest
      return (first :: more, rest)
    | rest => return ([first], rest)

/-- Reads a key, the equals sign, and a value read by `value`. -/
def readPair? (value : Step Written) : Step (Key × Written) := fun cs => do
  let (key, rest) ← readKey? maxDepth cs
  match rest with
  | '=' :: rest =>
    let (v, rest) ← value (skipBlanks rest)
    return ((key, v), rest)
  | _ => none

/-! ## Blanks over several lines -/

/-- What follows a comment at the start of a text, with the line end still there; the text itself if
there is no comment. -/
def skipComment (cs : List Char) : List Char :=
  match cs with
  | '#' :: rest => rest.dropWhile isVisible
  | _ => cs

/-- Skips blanks, line ends and comments that end with their line. -/
def skipLines : Nat → List Char → List Char
  | 0, cs => cs
  | fuel + 1, cs =>
    let rest := skipBlanks cs
    match afterLineEnd? (skipComment rest) with
    | some next => skipLines fuel next
    | none => rest

/-! ## Values -/

/-- Reads the items of an array after its opening bracket or a comma, up to and with its closing
bracket. A comma may follow the last item. -/
def readItems? (value : Step Written) : Nat → Step (List Written)
  | 0, _ => none
  | fuel + 1, cs =>
    match skipLines (cs.length + 1) cs with
    | ']' :: rest => some ([], rest)
    | cs => do
      let (first, rest) ← value cs
      match skipLines (rest.length + 1) rest with
      | ',' :: rest =>
        let (more, rest) ← readItems? value fuel rest
        return (first :: more, rest)
      | ']' :: rest => return ([first], rest)
      | _ => none

/-- Reads the pairs of an inline table after its opening brace or a comma: at least one, up to and
with its closing brace. -/
def readPairs? (value : Step Written) : Nat → Step (List (Key × Written))
  | 0, _ => none
  | fuel + 1, cs => do
    let (first, rest) ← readPair? value cs
    match skipBlanks rest with
    | ',' :: rest =>
      let (more, rest) ← readPairs? value fuel rest
      return (first :: more, rest)
    | '\x7d' :: rest => return ([first], rest)
    | _ => none

/-- Reads a value that is neither array nor inline table. -/
def readScalar? : Step Written := fun cs =>
  match cs with
  | '"' :: _ => (readText? cs).map fun (s, rest) => (.text s, rest)
  | '\'' :: _ => (readText? cs).map fun (s, rest) => (.text s, rest)
  | 't' :: _ => (RawDocument.afterWord? "true" cs).map fun rest => (.bool true, rest)
  | 'f' :: _ => (RawDocument.afterWord? "false" cs).map fun rest => (.bool false, rest)
  | _ =>
    match readDatetime? cs with
    | some (d, rest) => some (.datetime d, rest)
    | none => (readNumber? cs).map fun (n, rest) => (.number n, rest)

/-- Reads a value nested at most `levels` deep. -/
def readValue? : Nat → Step Written
  | levels, '[' :: cs =>
    match levels with
    | 0 => none
    | levels + 1 =>
      (readItems? (readValue? levels) (cs.length + 1) cs).map fun (xs, rest) => (.array xs, rest)
  | levels, '\x7b' :: cs =>
    match levels with
    | 0 => none
    | levels + 1 =>
      match skipBlanks cs with
      | '\x7d' :: rest => some (.inline [], rest)
      | cs =>
        (readPairs? (readValue? levels) (cs.length + 1) cs).map fun (xs, rest) =>
          (.inline xs, rest)
  | _, cs => readScalar? cs

/-! ## Expressions -/

/-- What follows the end of a line: blanks, perhaps a comment, and a line end or the end of the
text. -/
def afterLine? (cs : List Char) : Option (List Char) :=
  match skipComment (skipBlanks cs) with
  | [] => some []
  | rest => afterLineEnd? rest

/-- Reads an expression. -/
def readExpression? : Step Expression := fun cs =>
  match cs with
  | '[' :: '[' :: rest => do
    let (key, rest) ← readKey? maxDepth rest
    match rest with
    | ']' :: ']' :: rest => return (.element key, rest)
    | _ => none
  | '[' :: rest => do
    let (key, rest) ← readKey? maxDepth rest
    match rest with
    | ']' :: rest => return (.table key, rest)
    | _ => none
  | _ => (readPair? (readValue? maxDepth) cs).map fun ((key, v), rest) => (.pair key v, rest)

/-- Reads the lines of a text, of which there are at most `fuel`. -/
def readExpressions? : Nat → List Char → Option (List Expression)
  | 0, cs => if cs.isEmpty then some [] else none
  | fuel + 1, cs =>
    match skipBlanks cs with
    | [] => some []
    | rest =>
      match afterLine? rest with
      | some next => readExpressions? fuel next
      | none => do
        let (first, rest) ← readExpression? rest
        let next ← afterLine? rest
        let more ← readExpressions? fuel next
        return first :: more

/-- The expressions of a text. A byte order mark at its start is passed over. -/
def expressions? (s : String) : Option (List Expression) :=
  let cs := match s.toList with
    | '\uFEFF' :: rest => rest
    | cs => cs
  readExpressions? (cs.length + 1) cs

end RecordMapper.Toml
