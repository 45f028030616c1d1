import RecordMapper.Binary64.Shortest
import RecordMapper.Text.Words

/-!
# Numbers as text

Writing a binary64 number in one of three layouts of its shortest decimal, and reading a decimal
text. The layouts differ in a few decisions only, which a `Layout` holds.
-/

namespace RecordMapper

/-- The decisions of a layout. -/
structure Layout where
  /-- The powers of the leading digit that are written without an exponent; all of them if there
  is no window. -/
  window : Option (Int × Int)
  /-- Whether a whole number is written with `.0`. -/
  wholeWithPoint : Bool
  /-- Whether an exponent that is not negative carries a plus sign. -/
  exponentPlus : Bool
  /-- Which of two equally near decimals is written. -/
  tie : Tie
deriving DecidableEq, Repr

namespace Layout

/-- The layout of messages and statements: no exponent, and whole numbers without a point. -/
def plain : Layout := ⟨none, false, false, .upward⟩

/-- The layout of documents: positional from 10 ^ -5 up to below 10 ^ 16, always with a point or an
exponent, and a sign on every exponent. -/
def document : Layout := ⟨some (-5, 15), true, true, .toEven⟩

/-- The layout of diagnostics: positional from 10 ^ -4 up to below 10 ^ 16. -/
def diagnostic : Layout := ⟨some (-4, 15), true, false, .upward⟩

/-- Whether a leading digit of this power is written without an exponent. -/
def positional (layout : Layout) (power : Int) : Bool :=
  match layout.window with
  | none => true
  | some (low, high) => low ≤ power && power ≤ high

end Layout

/-! ## Writing -/

/-- The digits of a decimal without the zeros at its end. -/
def Decimal.significant (d : Decimal) : List Char :=
  ((Nat.toDigits 10 d.digits).reverse.dropWhile (· == '0')).reverse

/-- The power of ten of the leading digit. -/
def Decimal.power (d : Decimal) : Int :=
  d.exponent + digitCount d.digits - 1

/-- Digits with the point after the place of power zero. -/
def positionalText (layout : Layout) (digits : List Char) (power : Int) : List Char :=
  if power < 0 then
    '0' :: '.' :: List.replicate (-power - 1).toNat '0' ++ digits
  else
    let whole := power.toNat + 1
    if digits.length ≤ whole then
      digits ++ List.replicate (whole - digits.length) '0'
        ++ (if layout.wholeWithPoint then ['.', '0'] else [])
    else digits.take whole ++ '.' :: digits.drop whole

/-- Digits with the point after the first one, and an exponent. -/
def exponentText (layout : Layout) (digits : List Char) (power : Int) : List Char :=
  let mantissa := match digits with
    | [] => []
    | [d] => [d]
    | d :: rest => d :: '.' :: rest
  let sign := if power < 0 then ['-'] else if layout.exponentPlus then ['+'] else []
  mantissa ++ 'e' :: sign ++ Nat.toDigits 10 power.natAbs

/-- A finite number in a layout. -/
def Finite.text (layout : Layout) (x : Finite) : String :=
  let sign := if x.negative then ['-'] else []
  let body :=
    if x.rank.val = 0 then positionalText layout ['0'] 0
    else
      let d := shortest layout.tie x.rank
      if layout.positional d.power then positionalText layout d.significant d.power
      else exponentText layout d.significant d.power
  String.ofList (sign ++ body)

/-- A number in a layout. -/
def Binary64.text (layout : Layout) : Binary64 → String
  | .nan => "NaN"
  | .infinite true => "-inf"
  | .infinite false => "inf"
  | .finite x => x.text layout

/-! ## Reading -/

namespace Text

/-- The decimal digits at the start of a text, and what follows them. -/
def spanDigits (cs : List Char) : List Char × List Char :=
  (cs.takeWhile Char.isDigit, cs.dropWhile Char.isDigit)

/-- The number that a list of decimal digits denotes. -/
def digitsValue (ds : List Char) : Nat :=
  ds.foldl (fun n d => 10 * n + (d.toNat - '0'.toNat)) 0

/-- A sign at the start of a text, and what follows it. -/
def spanSign : List Char → Bool × List Char
  | '-' :: rest => (true, rest)
  | '+' :: rest => (false, rest)
  | rest => (false, rest)

/-- The exponent of a decimal text: nothing, or `e` with a whole number. -/
def readExponent? : List Char → Option Int
  | [] => some 0
  | c :: rest =>
    if c == 'e' || c == 'E' then
      let (negative, digits) := spanSign rest
      if digits.isEmpty || !digits.all Char.isDigit then none
      else
        let n : Int := digitsValue digits
        some (if negative then -n else n)
    else none

end Text

/-- Reads a number without its sign: `inf`, `infinity` and `nan` in any letter case, or digits with
an optional point and exponent, at least one digit before or after the point. -/
def Binary64.ofUnsigned? (negative : Bool) (cs : List Char) : Option Binary64 :=
  let word := cs.map Char.toLower
  if word == "inf".toList || word == "infinity".toList then some (.infinite negative)
  else if word == "nan".toList then some .nan
  else
    let (whole, rest) := Text.spanDigits cs
    let (fraction, rest) := match rest with
      | '.' :: rest => Text.spanDigits rest
      | rest => ([], rest)
    if whole.isEmpty && fraction.isEmpty then none
    else (Text.readExponent? rest).map fun exponent =>
      .ofDecimal negative (Text.digitsValue (whole ++ fraction)) (exponent - fraction.length)

/-- Reads a decimal number with an optional sign, rounded to the nearest number. -/
def Binary64.ofText? (s : String) : Option Binary64 :=
  let (negative, rest) := Text.spanSign s.toList
  ofUnsigned? negative rest

end RecordMapper
