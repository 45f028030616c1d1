import RecordMapper.Document.Basic
import RecordMapper.Document.Raw

/-!
# Reading documents

What a written document denotes.

* `RawNumber.read?` gives a number its value. A number without fraction and exponent that fits a
  word is that word; any other is a significand of at most 64 bits times a power of ten, computed by
  one rounding of the significand and one multiplication or division.
* `RawChar.join?` joins the units of a text into characters; a surrogate without its partner is
  refused.
* `Document.ofText?` reads a document nested at most `maxDepth` levels deep.
-/

namespace RecordMapper

/-! ## Numbers -/

/-- The digits of a significand, as far as they fit an unsigned word: appends the digits one by one
and stops before the first that does not fit. Gives the significand and the number of digits left
out. -/
def appendDigits (significand : Nat) : List Char → Nat × Nat
  | [] => (significand, 0)
  | d :: rest =>
    let next := 10 * significand + (d.toNat - '0'.toNat)
    if next < 0x10000000000000000 then appendDigits next rest else (significand, rest.length + 1)

/-- Multiplies by a power of ten, dividing for a negative one. Powers beyond 308 are no numbers:
such a negative power is applied in parts, and such a positive one is too large for any number but
zero. Three parts bring every significand to zero. -/
def scaleByTen? (x : Binary64) (power : Int) : Nat → Option Binary64
  | 0 => some x
  | parts + 1 =>
    if power.natAbs ≤ 308 then
      let factor := Binary64.ofDecimal false 1 power.natAbs
      if 0 ≤ power then
        let y := x.mul factor
        if y.isInfinite then none else some y
      else some (x.div factor)
    else if x.same (.ofNat 0) then some x
    else if 0 ≤ power then none
    else scaleByTen? (x.div (.ofDecimal false 1 308)) (power + 308) parts

namespace RawNumber

/-- The whole number that is written, where it has neither fraction nor exponent, fits a word and is
not minus zero. -/
def whole? (n : RawNumber) : Option Whole :=
  if n.fraction.isEmpty && n.exponent.isNone then
    let magnitude : Int := Text.digitsValue n.whole
    let value := if n.negative then -magnitude else magnitude
    if h : -0x8000000000000000 ≤ value ∧ value < 0x10000000000000000 then
      if n.negative && value == 0 then none else some ⟨value, h⟩
    else none
  else none

/-- The magnitude of a number as a float. Digits beyond the 64 bits of the significand do not count,
but those before the point still move it. An exponent that fits no signed word of 32 bits makes the
number too large, or zero. -/
def magnitude? (n : RawNumber) : Option Binary64 :=
  let (significand, dropped) := appendDigits 0 n.whole
  let (significand, ignored) := appendDigits significand n.fraction
  let power : Int := (dropped : Int) - (n.fraction.length - ignored : Nat)
  match n.exponent with
  | none => scaleByTen? (.ofNat significand) power 4
  | some (negative, digits) =>
    let exponent := Text.digitsValue digits
    if 0x80000000 ≤ exponent then
      if significand != 0 && !negative then none else some (.ofNat 0)
    else
      scaleByTen? (.ofNat significand) (if negative then power - exponent else power + exponent) 4

/-- The number that is written; none where it is too large. -/
def read? (n : RawNumber) : Option Number :=
  match n.whole? with
  | some w => some (.whole w)
  | none =>
    match n.magnitude? with
    | some (.finite x) => some (.float (if n.negative then x.neg else x))
    | _ => none

end RawNumber

/-! ## Texts -/

namespace RawChar

/-- The characters of a text. A high surrogate must be followed by a low one, with which it makes
one character, and a low surrogate must follow a high one. -/
def join? : List RawChar → Option (List Char)
  | [] => some []
  | .plain c :: rest => (join? rest).map (c :: ·)
  | .unit n :: rest =>
    if 0xD800 ≤ n ∧ n < 0xDC00 then
      match rest with
      | .unit m :: rest =>
        if 0xDC00 ≤ m ∧ m < 0xE000 then
          (join? rest).map (Char.ofNat (0x10000 + (n - 0xD800) * 0x400 + (m - 0xDC00)) :: ·)
        else none
      | _ => none
    else if 0xDC00 ≤ n ∧ n < 0xE000 then none
    else (join? rest).map (Char.ofNat n :: ·)

/-- The text of written characters. -/
def text? (cs : List RawChar) : Option String :=
  (join? cs).map String.ofList

end RawChar

/-! ## Documents -/

namespace Document

/-- How deep arrays and objects may be nested in a text. -/
def maxDepth : Nat := 127

mutual

/-- The document that is written, nested at most `levels` deep. -/
def ofRaw? (levels : Nat) : RawDocument → Option Document
  | .null => some .null
  | .bool b => some (.bool b)
  | .number n => n.read?.map .number
  | .text cs => (RawChar.text? cs).map .text
  | .array items => if levels = 0 then none else (ofRawItems? (levels - 1) items).map .array
  | .object entries =>
    if levels = 0 then none else (ofRawEntries? (levels - 1) entries).map ofEntries

/-- The documents of an array. -/
def ofRawItems? (levels : Nat) : List RawDocument → Option (List Document)
  | [] => some []
  | item :: rest =>
    match ofRaw? levels item, ofRawItems? levels rest with
    | some d, some ds => some (d :: ds)
    | _, _ => none

/-- The entries of an object, in the order in which they are written. -/
def ofRawEntries? (levels : Nat) :
    List (List RawChar × RawDocument) → Option (List (String × Document))
  | [] => some []
  | (key, value) :: rest =>
    match RawChar.text? key, ofRaw? levels value, ofRawEntries? levels rest with
    | some k, some d, some ds => some ((k, d) :: ds)
    | _, _, _ => none

end

/-- Reads a JSON text. -/
def ofText? (s : String) : Option Document :=
  (RawDocument.ofText? s).bind (ofRaw? maxDepth)

end Document

end RecordMapper
