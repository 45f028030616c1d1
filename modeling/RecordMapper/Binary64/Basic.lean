/-!
# Binary floating-point numbers of 64 bits

The numbers of the IEEE 754 format binary64, by their exact values.

* A finite number is a sign and the *rank* of its magnitude: the magnitudes in increasing order are
  numbered from 0. The order of magnitudes is then the order of ranks, and every rank is a number.
* `Finite.units` is the magnitude as a multiple of the smallest positive one, 2 ^ -1074.
* `nearestRank` is the rank of the magnitude nearest to a ratio, ties to the even rank; every
  operation is the exact result rounded by it.
-/

namespace RecordMapper

/-- The number of finite magnitudes; the rank that would follow them stands for infinity. -/
abbrev magnitudes : Nat := 0x7FF0000000000000

/-- A finite number: a sign and the rank of its magnitude. Zero has rank 0 and two signs. -/
structure Finite where
  /-- Whether the sign is minus. -/
  negative : Bool
  /-- The place of the magnitude among all magnitudes in increasing order. -/
  rank : Fin magnitudes
deriving DecidableEq, Repr, Inhabited

/-- A binary64 number. -/
inductive Binary64 where
  /-- The result of an operation that has none. -/
  | nan
  /-- An infinity of either sign. -/
  | infinite (negative : Bool)
  /-- A finite number. -/
  | finite (x : Finite)
deriving DecidableEq, Repr, Inhabited

/-! ## Exact values -/

/-- The unit that every finite magnitude is a multiple of is 1 over this number. -/
def unitsPerOne : Nat := Nat.pow 2 1074

/-- The magnitude of rank `r`, in units: up to rank 2 ^ 52 the ranks themselves, then 2 ^ 52
magnitudes for every power of two, twice as far apart each time. -/
def unitsOfRank (r : Nat) : Nat :=
  let step := Nat.pow 2 52
  if r < step then r else (step + r % step) * Nat.pow 2 (r / step - 1)

namespace Finite

/-- The magnitude of a number, in units. -/
def units (x : Finite) : Nat :=
  unitsOfRank x.rank

/-- The place of a number among all numbers: its rank, negative if the number is. The two zeros
share a place. -/
def place (x : Finite) : Int :=
  if x.negative then -(x.rank.val : Int) else x.rank.val

/-- Zero, with a sign. -/
def zero (negative : Bool) : Finite :=
  ⟨negative, ⟨0, by decide⟩⟩

/-- The number of the opposite sign. -/
def neg (x : Finite) : Finite :=
  { x with negative := !x.negative }

end Finite

/-! ## Rounding -/

/-- The quotient rounded to a whole number, a half to the even one. -/
def roundHalfEven (num den : Nat) : Nat :=
  let q := num / den
  let twice := 2 * (num % den)
  if twice < den then q
  else if den < twice then q + 1
  else if q % 2 == 0 then q else q + 1

/-- The rank of the magnitude nearest to `num / den`, ties to the even rank. A rank from
`magnitudes` on means that the ratio is too large for a finite number. -/
def nearestRank (num den : Nat) : Nat :=
  let scaled := num * unitsPerOne
  let shift := Nat.log2 (scaled / den) - 52
  shift * Nat.pow 2 52 + roundHalfEven scaled (den * Nat.pow 2 shift)

namespace Binary64

/-- The number of a sign and a rank, infinite where the rank is that of no finite magnitude. -/
def ofRank (negative : Bool) (rank : Nat) : Binary64 :=
  if h : rank < magnitudes then .finite ⟨negative, ⟨rank, h⟩⟩ else .infinite negative

/-- The number nearest to a ratio with a sign. -/
def ofRatio (negative : Bool) (num den : Nat) : Binary64 :=
  ofRank negative (nearestRank num den)

/-- The number nearest to a natural number. -/
def ofNat (n : Nat) : Binary64 :=
  ofRatio false n 1

/-- The number nearest to a whole number. -/
def ofInt (n : Int) : Binary64 :=
  ofRatio (decide (n < 0)) n.natAbs 1

/-- The number nearest to `digits * 10 ^ exponent`. An exponent so far out that the result is
surely infinite or zero is not expanded. -/
def ofDecimal (negative : Bool) (digits : Nat) (exponent : Int) : Binary64 :=
  if digits = 0 then .finite (.zero negative)
  else
    let length : Int := (Nat.toDigits 10 digits).length
    if 400 < exponent + length then .infinite negative
    else if exponent + length < -400 then .finite (.zero negative)
    else if 0 ≤ exponent then ofRatio negative (digits * Nat.pow 10 exponent.toNat) 1
    else ofRatio negative digits (Nat.pow 10 (-exponent).toNat)

/-! ## Comparison -/

/-- Whether two numbers are equal in value: NaN equals nothing and the two zeros are equal. -/
def same : Binary64 → Binary64 → Bool
  | .infinite a, .infinite b => a == b
  | .finite x, .finite y => x.place == y.place
  | _, _ => false

/-- Whether one number is less than another; never so if either is NaN. -/
def less : Binary64 → Binary64 → Bool
  | .nan, _ => false
  | _, .nan => false
  | .infinite a, .infinite b => a && !b
  | .infinite a, .finite _ => a
  | .finite _, .infinite b => !b
  | .finite x, .finite y => decide (x.place < y.place)

/-- Whether one number is at most another; never so if either is NaN. -/
def atMost (a b : Binary64) : Bool :=
  less a b || same a b

/-! ## Arithmetic -/

/-- The product. -/
def mul : Binary64 → Binary64 → Binary64
  | .nan, _ => .nan
  | _, .nan => .nan
  | .infinite a, .infinite b => .infinite (a != b)
  | .infinite a, .finite y => if y.units = 0 then .nan else .infinite (a != y.negative)
  | .finite x, .infinite b => if x.units = 0 then .nan else .infinite (x.negative != b)
  | .finite x, .finite y =>
    ofRatio (x.negative != y.negative) (x.units * y.units) (unitsPerOne * unitsPerOne)

/-- The quotient. -/
def div : Binary64 → Binary64 → Binary64
  | .nan, _ => .nan
  | _, .nan => .nan
  | .infinite _, .infinite _ => .nan
  | .infinite a, .finite y => .infinite (a != y.negative)
  | .finite x, .infinite b => .finite (.zero (x.negative != b))
  | .finite x, .finite y =>
    if y.units = 0 then
      if x.units = 0 then .nan else .infinite (x.negative != y.negative)
    else ofRatio (x.negative != y.negative) x.units y.units

/-- The number of the opposite sign. -/
def neg : Binary64 → Binary64
  | .nan => .nan
  | .infinite a => .infinite !a
  | .finite x => .finite x.neg

/-- Whether a number is an infinity. -/
def isInfinite : Binary64 → Bool
  | .infinite _ => true
  | _ => false

/-- The least 64-bit count that is not less than a number: 0 for negative numbers and NaN, the
greatest count where the number is above all of them. -/
def ceilCount : Binary64 → UInt64
  | .nan => 0
  | .infinite negative => if negative then 0 else UInt64.ofNat (UInt64.size - 1)
  | .finite x =>
    if x.negative then 0
    else UInt64.ofNat (min ((x.units + (unitsPerOne - 1)) / unitsPerOne) (UInt64.size - 1))

end Binary64

end RecordMapper
