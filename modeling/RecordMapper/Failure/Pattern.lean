import RecordMapper.Text.Words

/-!
# Patterns in messages

The shapes by which engines name a column or a status in their messages, letter case aside. A
pattern is tried at every place of the text from the left, and gives the part of the text that it
captures.
-/

namespace RecordMapper.Pattern

/-- A pattern at the start of a text: what it captures. -/
abbrev Matcher : Type := List Char → Option (List Char)

/-- What follows the words of `phrase` at the start of a text, letter case aside. -/
def afterPhrase (phrase : String) (cs : List Char) : Option (List Char) :=
  let n := phrase.length
  if (cs.take n).map Text.fold == phrase.toList then some (cs.drop n) else none

/-- A text without the blanks at its start. -/
def skipBlanks (cs : List Char) : List Char :=
  Text.trimStart cs

/-- What follows an optional character. -/
def skipOptional (c : Char) : List Char → List Char
  | d :: rest => if d = c then rest else d :: rest
  | [] => []

/-- The longest run of a class at the start of a text, if it is not empty, and the rest. -/
def run? (inClass : Char → Bool) (cs : List Char) : Option (List Char × List Char) :=
  match cs.takeWhile inClass with
  | [] => none
  | found => some (found, cs.dropWhile inClass)

/-- Whether a text starts with a character. -/
def startsWith (c : Char) (cs : List Char) : Bool :=
  cs.head? == some c

/-- The phrase and then, after blanks, a name of word characters and points. -/
def qualifiedName (phrase : String) : Matcher := fun cs => do
  let rest ← afterPhrase phrase cs
  let (name, _) ← run? (fun c => Text.isWord c || c == '.') (skipBlanks rest)
  return name

/-- `for key '…'` with anything between the quotes. -/
def quotedKey : Matcher := fun cs => do
  let rest ← afterPhrase "for key '" cs
  let (name, rest) ← run? (fun c => c != '\'') rest
  if startsWith '\'' rest then return name else none

/-- `key (…)` with one word in the parentheses, which may stand in double quotes and between
blanks. -/
def parenthesizedKey : Matcher := fun cs => do
  let rest ← afterPhrase "key (" cs
  let (name, rest) ← run? Text.isWord (skipOptional '"' (skipBlanks rest))
  if startsWith ')' (skipBlanks (skipOptional '"' rest)) then return name else none

/-- `null value in column …` with a word that may stand in double quotes. -/
def nullColumn : Matcher := fun cs => do
  let rest ← afterPhrase "null value in column " cs
  let (name, _) ← run? Text.isWord (skipOptional '"' rest)
  return name

/-- `column '…' cannot be null` with a word between the quotes. -/
def columnCannotBeNull : Matcher := fun cs => do
  let rest ← afterPhrase "column '" cs
  let (name, rest) ← run? Text.isWord rest
  let _ ← afterPhrase "' cannot be null" rest
  return name

/-- What follows `http`, `status` or `status code`. -/
def afterStatusWord (cs : List Char) : Option (List Char) :=
  match afterPhrase "http" cs with
  | some rest => some rest
  | none => do
    let rest ← afterPhrase "status" cs
    let blanks := rest.takeWhile Text.isBlank
    if blanks.isEmpty then return rest
    else return (afterPhrase "code" (skipBlanks rest)).getD rest

/-- A status word, an optional colon and three digits that end a word. -/
def statusCode : Matcher := fun cs => do
  let rest ← afterStatusWord cs
  let rest := skipBlanks (skipOptional ':' (skipBlanks rest))
  let code := rest.take 3
  let ends := match rest.drop 3 with
    | c :: _ => !Text.isWord c
    | [] => true
  if code.length = 3 && code.all Text.isDigit && ends then return code else none

/-- What a pattern captures at the first place where it matches. -/
def search (m : Matcher) : Matcher
  | [] => m []
  | c :: rest => (m (c :: rest)).or (search m rest)

/-- What a pattern captures at the first place where it matches and no word goes on; `inWord` says
whether the character before is a word character. -/
def searchAtWord (m : Matcher) (inWord : Bool) : Matcher
  | [] => none
  | c :: rest =>
    (if inWord then none else m (c :: rest)).or (searchAtWord m (Text.isWord c) rest)

end RecordMapper.Pattern
