import RecordMapper.Binary64.Text

/-!
# The grammar of JSON

A JSON text as a tree of what is written: numbers by their digits, texts by their characters and
escaped 16-bit units, the entries of objects in order and with repetitions. `RawDocument.ofText?`
accepts exactly the texts of the grammar; what a number or a text denotes, and how deep a document
may be nested, is decided by those who read the tree.
-/

namespace RecordMapper

/-- A number as it is written. -/
structure RawNumber where
  /-- Whether a minus sign is written. -/
  negative : Bool
  /-- The digits before the point; no superfluous zero leads them. -/
  whole : List Char
  /-- The digits after the point, empty where no point is written. -/
  fraction : List Char
  /-- Whether the exponent has a minus sign, and its digits. -/
  exponent : Option (Bool × List Char)
deriving DecidableEq, Repr, Inhabited

/-- A character of a text as it is written. -/
inductive RawChar where
  /-- A character that stands for itself or has an escape of its own. -/
  | plain (c : Char)
  /-- A 16-bit unit written by its four hexadecimal digits. -/
  | unit (n : Nat)
deriving DecidableEq, Repr, Inhabited

/-- A document as it is written. -/
inductive RawDocument where
  /-- The word `null`. -/
  | null
  /-- One of the words `true` and `false`. -/
  | bool (b : Bool)
  /-- A number. -/
  | number (n : RawNumber)
  /-- A text between quotes. -/
  | text (cs : List RawChar)
  /-- An array. -/
  | array (items : List RawDocument)
  /-- An object; keys may repeat. -/
  | object (entries : List (List RawChar × RawDocument))
deriving Repr, Inhabited

namespace RawDocument

/-! ## Blanks and words -/

/-- A blank between the tokens of a JSON text. -/
def isBlank (c : Char) : Bool :=
  c == ' ' || c == '\t' || c == '\n' || c == '\r'

/-- A text without the blanks at its start. -/
def skipBlanks (cs : List Char) : List Char :=
  cs.dropWhile isBlank

/-- What follows `word` at the start of a text. -/
def afterWord? (word : String) (cs : List Char) : Option (List Char) :=
  if word.toList.isPrefixOf cs then some (cs.drop word.length) else none

/-! ## Numbers -/

/-- Reads the digits before the point: a single zero, or digits that no zero leads. -/
def readWhole? (cs : List Char) : Option (List Char × List Char) :=
  match Text.spanDigits cs with
  | ([], _) => none
  | ('0' :: _ :: _, _) => none
  | (digits, rest) => some (digits, rest)

/-- Reads a point and the digits after it, if there is a point. -/
def readFraction? (cs : List Char) : Option (List Char × List Char) :=
  match cs with
  | '.' :: rest =>
    match Text.spanDigits rest with
    | ([], _) => none
    | (digits, rest) => some (digits, rest)
  | _ => some ([], cs)

/-- Reads an exponent, if there is one. -/
def readExponent? (cs : List Char) : Option (Option (Bool × List Char) × List Char) :=
  match cs with
  | c :: rest =>
    if c == 'e' || c == 'E' then
      let (negative, rest) := Text.spanSign rest
      match Text.spanDigits rest with
      | ([], _) => none
      | (digits, rest) => some (some (negative, digits), rest)
    else some (none, cs)
  | [] => some (none, cs)

/-- Reads a number. -/
def readNumber? (cs : List Char) : Option (RawNumber × List Char) := do
  let (negative, cs) := match cs with
    | '-' :: rest => (true, rest)
    | _ => (false, cs)
  let (whole, cs) ← readWhole? cs
  let (fraction, cs) ← readFraction? cs
  let (exponent, cs) ← readExponent? cs
  return (⟨negative, whole, fraction, exponent⟩, cs)

/-! ## Texts -/

/-- The value of a hexadecimal digit. -/
def hexValue? (c : Char) : Option Nat :=
  if '0' ≤ c ∧ c ≤ '9' then some (c.toNat - '0'.toNat)
  else if 'a' ≤ c ∧ c ≤ 'f' then some (c.toNat - 'a'.toNat + 10)
  else if 'A' ≤ c ∧ c ≤ 'F' then some (c.toNat - 'A'.toNat + 10)
  else none

/-- The number that hexadecimal digits denote. -/
def hexNumber? (cs : List Char) : Option Nat :=
  cs.foldlM (fun n c => (hexValue? c).map (16 * n + ·)) 0

/-- The character that a one-letter escape stands for. -/
def shortEscape? (c : Char) : Option Char :=
  match c with
  | '"' => some '"'
  | '\\' => some '\\'
  | '/' => some '/'
  | 'b' => some '\x08'
  | 'f' => some '\x0c'
  | 'n' => some '\n'
  | 'r' => some '\r'
  | 't' => some '\t'
  | _ => none

/-- Reads the rest of a text after its opening quote. -/
def readText? : List Char → Option (List RawChar × List Char)
  | [] => none
  | '"' :: rest => some ([], rest)
  | '\\' :: 'u' :: a :: b :: c :: d :: rest =>
    match hexNumber? [a, b, c, d], readText? rest with
    | some n, some (cs, rest) => some (.unit n :: cs, rest)
    | _, _ => none
  | '\\' :: e :: rest =>
    match shortEscape? e, readText? rest with
    | some c, some (cs, rest) => some (.plain c :: cs, rest)
    | _, _ => none
  | c :: rest =>
    if c.toNat < 0x20 || c == '\\' then none
    else
      match readText? rest with
      | some (cs, rest) => some (.plain c :: cs, rest)
      | none => none

/-! ## Arrays, objects and documents -/

/-- Reads the items of an array after its opening bracket or a comma: at least one, each read by
`item`, with commas between and the closing bracket after them. -/
def readItems? (item : List Char → Option (RawDocument × List Char)) :
    Nat → List Char → Option (List RawDocument × List Char)
  | 0, _ => none
  | fuel + 1, cs => do
    let (first, cs) ← item (skipBlanks cs)
    match skipBlanks cs with
    | ',' :: cs =>
      let (more, cs) ← readItems? item fuel cs
      return (first :: more, cs)
    | ']' :: cs => return ([first], cs)
    | _ => none

/-- Reads the entries of an object after its opening brace or a comma: at least one, each a text, a
colon and a document read by `item`, with commas between and the closing brace after them. -/
def readEntries? (item : List Char → Option (RawDocument × List Char)) :
    Nat → List Char → Option (List (List RawChar × RawDocument) × List Char)
  | 0, _ => none
  | fuel + 1, cs =>
    match skipBlanks cs with
    | '"' :: cs => do
      let (key, cs) ← readText? cs
      match skipBlanks cs with
      | ':' :: cs =>
        let (value, cs) ← item (skipBlanks cs)
        match skipBlanks cs with
        | ',' :: cs =>
          let (more, cs) ← readEntries? item fuel cs
          return ((key, value) :: more, cs)
        | '\x7d' :: cs => return ([(key, value)], cs)
        | _ => none
      | _ => none
    | _ => none

/-- Reads a document that starts the text and is nested at most `levels` deep. -/
def read? : Nat → List Char → Option (RawDocument × List Char)
  | levels, '[' :: cs =>
    match levels with
    | 0 => none
    | levels + 1 =>
      match skipBlanks cs with
      | ']' :: rest => some (.array [], rest)
      | _ => (readItems? (read? levels) (cs.length + 1) cs).map fun (xs, rest) => (.array xs, rest)
  | levels, '\x7b' :: cs =>
    match levels with
    | 0 => none
    | levels + 1 =>
      match skipBlanks cs with
      | '\x7d' :: rest => some (.object [], rest)
      | _ =>
        (readEntries? (read? levels) (cs.length + 1) cs).map fun (xs, rest) => (.object xs, rest)
  | _, '"' :: cs => (readText? cs).map fun (s, rest) => (.text s, rest)
  | _, 'n' :: cs => (afterWord? "ull" cs).map fun rest => (.null, rest)
  | _, 't' :: cs => (afterWord? "rue" cs).map fun rest => (.bool true, rest)
  | _, 'f' :: cs => (afterWord? "alse" cs).map fun rest => (.bool false, rest)
  | _, cs => (readNumber? cs).map fun (n, rest) => (.number n, rest)

/-- Reads a whole text. No document in it is nested deeper than the text is long. -/
def ofText? (s : String) : Option RawDocument :=
  let cs := s.toList
  match read? cs.length (skipBlanks cs) with
  | some (d, rest) => if (skipBlanks rest).isEmpty then some d else none
  | none => none

end RawDocument

end RecordMapper
