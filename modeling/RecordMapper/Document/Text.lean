import RecordMapper.Binary64.Text
import RecordMapper.Document.Basic
import RecordMapper.Text.Quoted

/-!
# Documents as text

Two ways to write a document: `Document.compact` is JSON without any blank, which is what is sent
and stored, and `Document.inspect` names the constructors, which is what diagnostics show.
-/

namespace RecordMapper.Document

/-! ## Compact JSON -/

/-- One character of a JSON text between quotes. -/
def escapeChar (c : Char) : List Char :=
  match c with
  | '"' => ['\\', '"']
  | '\\' => ['\\', '\\']
  | '\x08' => ['\\', 'b']
  | '\t' => ['\\', 't']
  | '\n' => ['\\', 'n']
  | '\x0c' => ['\\', 'f']
  | '\r' => ['\\', 'r']
  | c =>
    if c.toNat < 0x20 then
      ['\\', 'u', '0', '0', Nat.digitChar (c.toNat / 16), Nat.digitChar (c.toNat % 16)]
    else [c]

/-- A text between quotes, as JSON writes it. -/
def quoted (s : String) : List Char :=
  '"' :: (s.toList.flatMap escapeChar ++ ['"'])

/-- A number as JSON writes it. -/
def numberText : Number → List Char
  | .whole n => (toString n.val).toList
  | .float x => (x.text .document).toList

mutual

/-- The characters of a document in compact JSON. -/
def compactChars : Document → List Char
  | .null => "null".toList
  | .bool true => "true".toList
  | .bool false => "false".toList
  | .number n => numberText n
  | .text s => quoted s
  | .array [] => ['[', ']']
  | .array (item :: rest) => '[' :: (compactChars item ++ compactItems rest)
  | .object [] => ['\x7b', '\x7d']
  | .object ((key, value) :: rest) =>
    '\x7b' :: (quoted key ++ ':' :: (compactChars value ++ compactEntries rest))

/-- The items after the first one, each after a comma, and the closing bracket. -/
def compactItems : List Document → List Char
  | [] => [']']
  | item :: rest => ',' :: (compactChars item ++ compactItems rest)

/-- The entries after the first one, each after a comma, and the closing brace. -/
def compactEntries : List (String × Document) → List Char
  | [] => ['\x7d']
  | (key, value) :: rest =>
    ',' :: (quoted key ++ ':' :: (compactChars value ++ compactEntries rest))

end

/-- A document in compact JSON. -/
def compact (d : Document) : String :=
  String.ofList (compactChars d)

/-! ## Diagnostic text -/

mutual

/-- A document as diagnostics show it, every value under the name of its class. -/
def inspect : Document → String
  | .null => "Null"
  | .bool b => "Bool(" ++ toString b ++ ")"
  | .number n => "Number(" ++ String.ofList (numberText n) ++ ")"
  | .text s => "String(" ++ Text.quoteDouble s ++ ")"
  | .array items => "Array [" ++ ", ".intercalate (inspectItems items) ++ "]"
  | .object entries => "Object \x7b" ++ ", ".intercalate (inspectEntries entries) ++ "\x7d"

/-- The items of an array as diagnostics show them. -/
def inspectItems : List Document → List String
  | [] => []
  | item :: rest => inspect item :: inspectItems rest

/-- The entries of an object as diagnostics show them. -/
def inspectEntries : List (String × Document) → List String
  | [] => []
  | (key, value) :: rest => (Text.quoteDouble key ++ ": " ++ inspect value) :: inspectEntries rest

end

end RecordMapper.Document
