import RecordMapper.Binary64.Text
import RecordMapper.Instant.Basic

/-!
# Reading instants

Three spellings of an instant are read, tried in this order.

* RFC 3339: every field has its full width, a `T` or a blank stands between date and time, and the
  zone is `Z` or an offset of hours and minutes (`rfc3339?`).
* A date and a time without a zone: fields may be shorter than their width or follow blanks, and a
  year with a sign may be longer (`dateAndTime?`).
* A date alone, which stands for its midnight (`dateAlone?`).

`Instant.ofText?` is the first that accepts the text.
-/

namespace RecordMapper.Instant

/-! ## Fields -/

/-- A step of reading: takes something from the start of a text and leaves the rest. -/
abbrev Step (α : Type) : Type := List Char → Option (α × List Char)

/-- Reads a number of `least` to `most` digits. -/
def number (least most : Nat) : Step Nat := fun cs =>
  let digits := (cs.take most).takeWhile Char.isDigit
  if digits.length < least then none
  else some (Text.digitsValue digits, cs.drop digits.length)

/-- Reads one given character. -/
def mark (c : Char) : Step Unit
  | d :: rest => if c = d then some ((), rest) else none
  | [] => none

/-- Reads one character of a list. -/
def oneOf (cs : List Char) : Step Char
  | d :: rest => if d ∈ cs then some (d, rest) else none
  | [] => none

/-- Reads a point and the digits of a fraction, if there is a point. Nine digits count and the
others are passed over. -/
def fractionDigits : Step Nat
  | '.' :: rest =>
    let (digits, rest) := Text.spanDigits rest
    if digits.isEmpty then none
    else
      let counted := digits.take 9
      some (Text.digitsValue counted * Nat.pow 10 (9 - counted.length), rest)
  | cs => some (0, cs)

/-! ## RFC 3339 -/

/-- Reads a zone and gives its minutes ahead of universal time. The minus sign may be the
typographical one. -/
def zone : Step Int := fun cs =>
  match cs with
  | 'Z' :: rest => some (0, rest)
  | 'z' :: rest => some (0, rest)
  | sign :: rest => do
    let ahead ← if sign = '+' then some true
      else if sign = '-' ∨ sign = '\u2212' then some false
      else none
    let (hours, rest) ← number 2 2 rest
    let (_, rest) ← mark ':' rest
    let (minutes, rest) ← number 2 2 rest
    if hours < 24 ∧ minutes < 60 then
      let offset : Int := 60 * hours + minutes
      return (if ahead then offset else -offset, rest)
    else none
  | [] => none

/-- Reads an instant as RFC 3339 writes it. -/
def rfc3339? (cs : List Char) : Option Instant := do
  let (year, cs) ← number 4 4 cs
  let (_, cs) ← mark '-' cs
  let (month, cs) ← number 2 2 cs
  let (_, cs) ← mark '-' cs
  let (day, cs) ← number 2 2 cs
  let (_, cs) ← oneOf ['t', 'T', ' '] cs
  let (hour, cs) ← number 2 2 cs
  let (_, cs) ← mark ':' cs
  let (minute, cs) ← number 2 2 cs
  let (_, cs) ← mark ':' cs
  let (second, cs) ← number 2 2 cs
  let (nano, cs) ← fractionDigits cs
  let (offset, cs) ← zone cs
  if cs.isEmpty then
    let date ← Date.of? year month day
    let t ← of? date hour minute second nano
    return t.minusMinutes offset
  else none

/-! ## Dates and times without a zone -/

/-- Reads a number of one or two digits after any blanks. -/
def field : Step Nat := fun cs =>
  number 1 2 (Text.trimStart cs)

/-- The years that a date may have. -/
def inYearRange (year : Int) : Bool :=
  -262143 ≤ year && year ≤ 262142

/-- Reads a year after any blanks: up to four digits, or a sign and any number of digits. -/
def year : Step Int := fun cs =>
  match Text.trimStart cs with
  | '-' :: rest => (number 1 rest.length rest).map fun (n, rest) => (-(n : Int), rest)
  | '+' :: rest => (number 1 rest.length rest).map fun (n, rest) => ((n : Int), rest)
  | cs => (number 1 4 cs).map fun (n, rest) => ((n : Int), rest)

/-- Reads a date. -/
def dateFields : Step Date := fun cs => do
  let (y, cs) ← year cs
  let (_, cs) ← mark '-' cs
  let (month, cs) ← field cs
  let (_, cs) ← mark '-' cs
  let (day, cs) ← field cs
  if inYearRange y then
    let date ← Date.of? y month day
    return (date, cs)
  else none

/-- Reads a date, any blanks, and a time of day without a zone. -/
def dateAndTime? (cs : List Char) : Option Instant := do
  let (date, cs) ← dateFields cs
  let (hour, cs) ← field cs
  let (_, cs) ← mark ':' cs
  let (minute, cs) ← field cs
  let (_, cs) ← mark ':' cs
  let (second, cs) ← field cs
  let (nano, cs) ← fractionDigits cs
  if cs.isEmpty then of? date hour minute second nano else none

/-- Reads a date alone. -/
def dateAlone? (cs : List Char) : Option Instant := do
  let (date, cs) ← dateFields cs
  if cs.isEmpty then return midnight date else none

/-- Reads an instant in any of the three spellings. -/
def ofText? (s : String) : Option Instant :=
  let cs := s.toList
  rfc3339? cs <|> dateAndTime? cs <|> dateAlone? cs

end RecordMapper.Instant
