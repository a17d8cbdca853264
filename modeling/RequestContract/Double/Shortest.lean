import RequestContract.Double.Basic

/-!
# The shortest decimal of a double

The decimal chosen for a positive finite number has the fewest digits among those that lie nearer
to it than to any other double (or as near, when the rank is even), and of the decimals with that
many digits it is the nearest one. On the grid of a given number of digits only the two neighbours
of the number can qualify, so the search tries the two neighbours on one grid after the other.
-/

namespace RequestContract

/-- The decimal `digits * 10 ^ exponent`. -/
structure Decimal where
  /-- The digits, as a whole number. -/
  digits : Nat
  /-- The power of ten of the last digit. -/
  exponent : Int
deriving DecidableEq

namespace Decimal

/-- The number of decimal digits of a natural number; none for zero. -/
def digitCount (n : Nat) : Nat := if n = 0 then 0 else (Nat.toDigits 10 n).length

/-- The numerator of a decimal over the common denominator `10 ^ d`, when `d` is at least the
number of its places after the point. -/
def scaled (x : Decimal) (d : Nat) : Nat := x.digits * Nat.pow 10 (x.exponent + d).toNat

/-- Drops the zeros at the end of the digits. -/
def normalize (x : Decimal) : Decimal :=
  if x.digits = 0 then ⟨0, 0⟩
  else
    let zeros := ((Nat.toDigits 10 x.digits).reverse.takeWhile (· == '0')).length
    ⟨x.digits / Nat.pow 10 zeros, x.exponent + zeros⟩

end Decimal

namespace Double

/-- Decimal places that suffice to tell all finite doubles and the midpoints between them from
zero. -/
def places : Nat := 330

/-- A value of `u` units, times `10 ^ places` and times twice the units of one. -/
def fineUnits (u : Nat) : Nat := 2 * u * Nat.pow 10 places

/-- The same scale for a decimal. -/
def fineDecimal (x : Decimal) : Nat := 2 * x.scaled places * unitsOfOne

/-- Whether a decimal reads back as the finite number of rank `r`: it lies between the midpoints
to the two neighbours, the midpoints included when `r` is even. -/
def readsBack (r : Nat) (x : Decimal) : Bool :=
  let low := (unitsOfRank (r - 1) + unitsOfRank r) * Nat.pow 10 places
  let high := (unitsOfRank r + unitsOfRank (r + 1)) * Nat.pow 10 places
  let v := fineDecimal x
  if r % 2 = 0 then low ≤ v && v ≤ high else low < v && v < high

/-- The power of ten just above the value of rank `r`: the value has its first digit one place
below it. -/
def decimalTop (r : Nat) : Int :=
  (Decimal.digitCount (unitsOfRank r * Nat.pow 10 places / unitsOfOne) : Int) - places

/-- The two neighbours of the value of rank `r` among the decimals with exponent `e`. -/
def neighbours (r : Nat) (e : Int) : Decimal × Decimal :=
  let below := unitsOfRank r * Nat.pow 10 (-e).toNat / (unitsOfOne * Nat.pow 10 e.toNat)
  (⟨below, e⟩, ⟨below + 1, e⟩)

/-- Which of the two neighbours is taken on one grid, if any reads back: the nearer one, and the
one that `upward` says when they are equally near. -/
def pick (r : Nat) (upward : Nat → Bool) (e : Int) : Option Decimal :=
  let (below, above) := neighbours r e
  match readsBack r below, readsBack r above with
  | false, false => none
  | true, false => some below
  | false, true => some above
  | true, true =>
    let v := fineUnits (unitsOfRank r)
    let down := v - fineDecimal below
    let up := fineDecimal above - v
    if down < up || (down == up && !upward below.digits) then some below else some above

/-- The shortest decimal for the finite number of rank `r`. `upward` says for a tie whether the
upper neighbour is taken, given the digits of the lower one. -/
def shortest (upward : Nat → Bool) (r : Nat) : Decimal :=
  let top := decimalTop r
  match (List.range 17).findSome? fun n => pick r upward (top - (n + 1 : Nat)) with
  | some x => x.normalize
  | none => ⟨0, 0⟩

end Double

end RequestContract
