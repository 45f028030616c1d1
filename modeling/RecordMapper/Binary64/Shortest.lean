import RecordMapper.Binary64.Basic

/-!
# Shortest decimals

The decimal with the fewest digits that reads back as a given number; of two with that many, the
nearer one.

`shortest` tries one digit, two digits and so on up to seventeen. On the grid of decimals with so
many digits it looks at the two neighbours of the number and takes one only if it reads back, so
its answer reads back by construction (`nearestRank_shortest`).
-/

namespace RecordMapper

/-- A positive decimal number `digits * 10 ^ exponent`. -/
structure Decimal where
  /-- The digits, read as one whole number. -/
  digits : Nat
  /-- The power of ten of the last digit. -/
  exponent : Int
deriving DecidableEq, Repr, Inhabited

/-- Which of two decimals is taken when a number lies exactly between them. -/
inductive Tie where
  /-- The one with the even last digit. -/
  | toEven
  /-- The larger one. -/
  | upward
deriving DecidableEq, Repr

namespace Decimal

/-- The numerator of a decimal written as a ratio. -/
def num (d : Decimal) : Nat :=
  d.digits * Nat.pow 10 d.exponent.toNat

/-- The denominator of a decimal written as a ratio. -/
def den (d : Decimal) : Nat :=
  Nat.pow 10 (-d.exponent).toNat

/-- The rank of the magnitude nearest to a decimal. -/
def rank (d : Decimal) : Nat :=
  nearestRank d.num d.den

end Decimal

/-- The number of decimal digits of a natural number. -/
def digitCount (n : Nat) : Nat :=
  (Nat.toDigits 10 n).length

/-- The power of ten of the leading decimal digit of `units` units, for a positive number. -/
def leadingPower (units : Nat) : Int :=
  if unitsPerOne ≤ units then (digitCount (units / unitsPerOne) : Int) - 1
  else -(digitCount ((unitsPerOne - 1) / units) : Int)

/-- The exact decimal of a number of units. -/
def exactDecimal (units : Nat) : Decimal :=
  ⟨units * Nat.pow 5 1074, -1074⟩

/-- The decimal that stands for a positive magnitude on the grid of multiples of 10 ^ `power`: of
its two neighbours there, the nearer one that reads back. -/
def onGrid (tie : Tie) (rank : Nat) (power : Int) : Option Decimal :=
  let num := unitsOfRank rank * Nat.pow 10 (-power).toNat
  let den := unitsPerOne * Nat.pow 10 power.toNat
  let below : Decimal := ⟨num / den, power⟩
  let above : Decimal := ⟨num / den + 1, power⟩
  let twice := 2 * (num % den)
  let nearer :=
    if twice < den then below
    else if den < twice then above
    else match tie with
      | .upward => above
      | .toEven => if below.digits % 2 == 0 then below else above
  let farther := if nearer == below then above else below
  [nearer, farther].find? fun d => d.rank == rank

/-- The shortest decimal that reads back as the magnitude of positive rank `rank`. -/
def shortest (tie : Tie) (rank : Nat) : Decimal :=
  let top := leadingPower (unitsOfRank rank)
  let found := (List.range 17).findSome? fun (n : Nat) => onGrid tie rank (top - n)
  found.getD (exactDecimal (unitsOfRank rank))

end RecordMapper
