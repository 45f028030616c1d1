import RecordMapper.Binary64.Text
import RecordMapper.Document.Raw
import RecordMapper.Instant.Reader

/-!
# Scalars of TOML

Reading the scalar values of a TOML text: texts of the four kinds of quotes, dates and times, and
numbers. Every reader takes its value from the start of a text and leaves the rest.
-/

namespace RecordMapper.Toml

/-- A step of reading: takes something from the start of a text and leaves the rest. -/
abbrev Step (α : Type) : Type := List Char → Option (α × List Char)

/-! ## Blanks and line ends -/

/-- A blank within a line. -/
def isBlank (c : Char) : Bool :=
  c == ' ' || c == '\t'

/-- A text without the blanks at its start. -/
def skipBlanks (cs : List Char) : List Char :=
  cs.dropWhile isBlank

/-- What follows a line end at the start of a text. -/
def afterLineEnd? : List Char → Option (List Char)
  | '\n' :: rest => some rest
  | '\r' :: '\n' :: rest => some rest
  | _ => none

/-- A character that may stand in a comment or between quotes: no control character but the tab. -/
def isVisible (c : Char) : Bool :=
  c == '\t' || (0x20 ≤ c.toNat && c.toNat != 0x7F)

/-! ## Texts on one line -/

/-- The character of a given code point, if it has one. -/
def charOf? (n : Nat) : Option Char :=
  if n.isValidChar then some (Char.ofNat n) else none

/-- The character that a one-letter escape stands for. -/
def shortEscape? (c : Char) : Option Char :=
  match c with
  | 'b' => some '\x08'
  | 't' => some '\t'
  | 'n' => some '\n'
  | 'f' => some '\x0c'
  | 'r' => some '\r'
  | '"' => some '"'
  | '\\' => some '\\'
  | _ => none

/-- Reads an escape after its backslash: a letter, or four or eight hexadecimal digits. -/
def readEscape? : Step Char
  | 'u' :: rest => do
    let digits := rest.take 4
    if digits.length < 4 then none
    else
      let n ← RawDocument.hexNumber? digits
      let c ← charOf? n
      return (c, rest.drop 4)
  | 'U' :: rest => do
    let digits := rest.take 8
    if digits.length < 8 then none
    else
      let n ← RawDocument.hexNumber? digits
      let c ← charOf? n
      return (c, rest.drop 8)
  | c :: rest => (shortEscape? c).map fun d => (d, rest)
  | [] => none

/-- Reads a text between double quotes after the opening one. -/
def readBasic? : Nat → Step (List Char)
  | 0, _ => none
  | fuel + 1, cs =>
    match cs with
    | [] => none
    | '"' :: rest => some ([], rest)
    | '\\' :: rest => do
      let (c, rest) ← readEscape? rest
      let (more, rest) ← readBasic? fuel rest
      return (c :: more, rest)
    | c :: rest =>
      if isVisible c then (readBasic? fuel rest).map fun (more, rest) => (c :: more, rest)
      else none

/-- Reads a text between single quotes after the opening one. -/
def readLiteral? : Step (List Char)
  | [] => none
  | '\'' :: rest => some ([], rest)
  | c :: rest =>
    if isVisible c then (readLiteral? rest).map fun (more, rest) => (c :: more, rest) else none

/-! ## Texts over several lines -/

/-- Closes a text over several lines at a run of its quotes: three of them close it and at most two
more before them belong to it. Gives the ones that belong to it; none if the run is too short to
close. -/
def closingRun? (quote : Char) (cs : List Char) : Option (Option (List Char × List Char)) :=
  let run := cs.takeWhile (· == quote)
  if run.length < 3 then none
  else if run.length ≤ 5 then some (some (run.drop 3, cs.drop run.length))
  else some none

/-- A text without the blanks and line ends at its start. A carriage return alone ends no line. -/
def skipBlankLines : List Char → List Char
  | '\n' :: rest => skipBlankLines rest
  | '\r' :: '\n' :: rest => skipBlankLines rest
  | c :: rest => if isBlank c then skipBlankLines rest else c :: rest
  | [] => []

/-- What follows a backslash at the end of a line: the text from the next character that is no blank
and no line end. None if the line does not end after blanks. -/
def afterContinuation? (cs : List Char) : Option (List Char) :=
  (afterLineEnd? (skipBlanks cs)).map skipBlankLines

/-- Reads the body of a text over several lines, up to and with its closing quotes. Line ends count
as one character; with `escapes`, a backslash starts an escape or, at the end of a line, joins the
lines. -/
def readLines? (quote : Char) (escapes : Bool) : Nat → Step (List Char)
  | 0, _ => none
  | fuel + 1, cs =>
    match closingRun? quote cs with
    | some closed => closed
    | none =>
      match afterLineEnd? cs with
      | some rest =>
        (readLines? quote escapes fuel rest).map fun (more, rest) => ('\n' :: more, rest)
      | none =>
        match cs with
        | [] => none
        | c :: rest =>
          if escapes && c == '\\' then
            match afterContinuation? rest with
            | some rest => readLines? quote escapes fuel rest
            | none => do
              let (d, rest) ← readEscape? rest
              let (more, rest) ← readLines? quote escapes fuel rest
              return (d :: more, rest)
          else if isVisible c then
            (readLines? quote escapes fuel rest).map fun (more, rest) => (c :: more, rest)
          else none

/-- A text without a line end at its start. -/
def skipFirstLineEnd (cs : List Char) : List Char :=
  (afterLineEnd? cs).getD cs

/-- Reads a text of any kind of quotes. -/
def readText? (cs : List Char) : Option (String × List Char) :=
  let found := match cs with
    | '"' :: '"' :: '"' :: rest => readLines? '"' true (rest.length + 1) (skipFirstLineEnd rest)
    | '\'' :: '\'' :: '\'' :: rest =>
      readLines? '\'' false (rest.length + 1) (skipFirstLineEnd rest)
    | '"' :: rest => readBasic? (rest.length + 1) rest
    | '\'' :: rest => readLiteral? rest
    | _ => none
  found.map fun (text, rest) => (String.ofList text, rest)

/-! ## Dates and times -/

/-- A time of day. -/
structure Time where
  /-- The hour. -/
  hour : Nat
  /-- The minute. -/
  minute : Nat
  /-- The second, up to 60. -/
  second : Nat
  /-- The nanoseconds. -/
  nano : Nat
deriving DecidableEq, Repr

/-- A date, a time of day, or both, perhaps with a zone in minutes. -/
structure Datetime where
  /-- The date. -/
  date : Option Date
  /-- The time of day. -/
  time : Option Time
  /-- The zone: nothing, universal time, or minutes ahead of it. -/
  zone : Option (Option Int)
deriving DecidableEq, Repr

/-- A time of day as text, with as many digits of the fraction as lose nothing. -/
def Time.text (t : Time) : String :=
  let fraction := if t.nano = 0 then "" else
    let digits := (Text.padded 9 t.nano).toList
    "." ++ String.ofList (digits.reverse.dropWhile (· == '0')).reverse
  Text.padded 2 t.hour ++ ":" ++ Text.padded 2 t.minute ++ ":" ++ Text.padded 2 t.second ++ fraction

/-- A zone as text. -/
def zoneText : Option (Option Int) → String
  | none => ""
  | some none => "Z"
  | some (some minutes) =>
    (if minutes < 0 then "-" else "+") ++ Text.padded 2 (minutes.natAbs / 60) ++ ":"
      ++ Text.padded 2 (minutes.natAbs % 60)

/-- A date and time as text. -/
def Datetime.text (d : Datetime) : String :=
  let date := (d.date.map Date.text).getD ""
  let time := (d.time.map Time.text).getD ""
  let separator := if d.date.isSome && d.time.isSome then "T" else ""
  date ++ separator ++ time ++ zoneText d.zone

/-- Reads a number of exactly `width` digits that is at most `most`. -/
def bounded (width most : Nat) : Step Nat := fun cs => do
  let (n, rest) ← Instant.number width width cs
  if n ≤ most then return (n, rest) else none

/-- Reads a date. -/
def readDate? : Step Date := fun cs => do
  let (year, cs) ← Instant.number 4 4 cs
  let (_, cs) ← Instant.mark '-' cs
  let (month, cs) ← Instant.number 2 2 cs
  let (_, cs) ← Instant.mark '-' cs
  let (day, cs) ← Instant.number 2 2 cs
  let date ← Date.of? year month day
  return (date, cs)

/-- Reads a time of day. -/
def readTime? : Step Time := fun cs => do
  let (hour, cs) ← bounded 2 23 cs
  let (_, cs) ← Instant.mark ':' cs
  let (minute, cs) ← bounded 2 59 cs
  let (_, cs) ← Instant.mark ':' cs
  let (second, cs) ← bounded 2 60 cs
  let (nano, cs) ← Instant.fractionDigits cs
  return (⟨hour, minute, second, nano⟩, cs)

/-- Reads a zone, if there is one. -/
def readZone? : Step (Option (Option Int)) := fun cs =>
  match cs with
  | 'Z' :: rest => some (some none, rest)
  | 'z' :: rest => some (some none, rest)
  | sign :: rest =>
    if sign == '+' || sign == '-' then do
      let (hours, rest) ← bounded 2 23 rest
      let (_, rest) ← Instant.mark ':' rest
      let (minutes, rest) ← bounded 2 59 rest
      let ahead : Int := 60 * hours + minutes
      return (some (some (if sign == '-' then -ahead else ahead)), rest)
    else some (none, cs)
  | [] => some (none, cs)

/-- Reads the time after a date, if a mark and a time follow. -/
def readTimeAfterDate? (date : Date) : Step Datetime := fun cs =>
  let alone : Option (Datetime × List Char) := some (⟨some date, none, none⟩, cs)
  match cs with
  | c :: rest =>
    if c == 'T' || c == 't' || c == ' ' then
      match readTime? rest with
      | some (time, rest) =>
        (readZone? rest).map fun (zone, rest) => (⟨some date, some time, zone⟩, rest)
      | none => alone
    else alone
  | [] => alone

/-- Reads a date, a time of day, or both. -/
def readDatetime? : Step Datetime := fun cs =>
  match readDate? cs with
  | some (date, rest) => readTimeAfterDate? date rest
  | none => (readTime? cs).map fun (time, rest) => (⟨none, some time, none⟩, rest)

/-- The date or time that a whole text writes. -/
def Datetime.ofText? (s : String) : Option Datetime :=
  match readDatetime? s.toList with
  | some (d, []) => some d
  | _ => none

/-! ## Numbers -/

/-- Reads digits of a class, at least one, with single underscores between them. -/
def readDigits? (inClass : Char → Bool) : Step (List Char)
  | [] => none
  | [c] => if inClass c then some ([c], []) else none
  | c :: d :: rest =>
    if !inClass c then none
    else if d == '_' then (readDigits? inClass rest).map fun (more, rest) => (c :: more, rest)
    else if inClass d then
      (readDigits? inClass (d :: rest)).map fun (more, rest) => (c :: more, rest)
    else some ([c], d :: rest)

/-- Reads a decimal whole number without sign: a single zero, or digits that no zero leads. -/
def readWhole? : Step (List Char)
  | '0' :: rest => some (['0'], rest)
  | cs => readDigits? Char.isDigit cs

/-- Reads the part after the point, if there is a point. -/
def readFraction? : Step (Option (List Char))
  | '.' :: rest => (readDigits? Char.isDigit rest).map fun (digits, rest) => (some digits, rest)
  | cs => some (none, cs)

/-- Reads an exponent, if there is one. -/
def readExponent? : Step (Option (Bool × List Char))
  | c :: rest =>
    if c == 'e' || c == 'E' then
      let (negative, rest) := Text.spanSign rest
      (readDigits? Char.isDigit rest).map fun (digits, rest) => (some (negative, digits), rest)
    else some (none, c :: rest)
  | [] => some (none, [])

/-- A number of TOML. -/
inductive Number where
  /-- A signed word. -/
  | integer (n : Int64)
  /-- A float. -/
  | float (x : Binary64)
deriving DecidableEq, Repr

/-- The signed word of a whole number, if it fits one. -/
def word? (n : Int) : Option Number :=
  if -0x8000000000000000 ≤ n ∧ n < 0x8000000000000000 then some (.integer (Int64.ofInt n)) else none

/-- Reads a number of base 2 ^ `bits` after its two-letter mark. -/
def readBase? (inClass : Char → Bool) (bits : Nat) : Step Number := fun cs => do
  let (digits, rest) ← readDigits? inClass cs
  let n ← digits.foldlM (fun n c => (RawDocument.hexValue? c).map (Nat.pow 2 bits * n + ·))
    (0 : Nat)
  let number ← word? (n : Int)
  return (number, rest)

/-- Reads a decimal number after its sign. Only the positive infinity is no value of a float that is
written in digits. -/
def readDecimal? (negative : Bool) : Step Number := fun cs => do
  let (whole, rest) ← readWhole? cs
  let (fraction, rest) ← readFraction? rest
  let (exponent, rest) ← readExponent? rest
  match fraction, exponent with
  | none, none =>
    let n : Int := Text.digitsValue whole
    let number ← word? (if negative then -n else n)
    return (number, rest)
  | _, _ =>
    let digits := whole ++ fraction.getD []
    let power : Int := match exponent with
      | some (true, ds) => -(Text.digitsValue ds : Int)
      | some (false, ds) => Text.digitsValue ds
      | none => 0
    let x := Binary64.ofDecimal negative (Text.digitsValue digits)
      (power - (fraction.getD []).length)
    if x = .infinite false then none else return (.float x, rest)

/-- A hexadecimal digit. -/
def isHexDigit (c : Char) : Bool :=
  (RawDocument.hexValue? c).isSome

/-- Reads a number. -/
def readNumber? : Step Number := fun cs =>
  match cs with
  | '0' :: 'x' :: rest => readBase? isHexDigit 4 rest
  | '0' :: 'o' :: rest => readBase? (fun c => '0' ≤ c && c ≤ '7') 3 rest
  | '0' :: 'b' :: rest => readBase? (fun c => c == '0' || c == '1') 1 rest
  | _ =>
    let (negative, rest) := Text.spanSign cs
    match RawDocument.afterWord? "inf" rest with
    | some rest => some (.float (.infinite negative), rest)
    | none =>
      match RawDocument.afterWord? "nan" rest with
      | some rest => some (.float .nan, rest)
      | none => readDecimal? negative rest

end RecordMapper.Toml
