/-!
# Double precision numbers

A double is a sign and a rank: its place among the doubles from zero upward in order of absolute
value. So zero has rank 0, the least positive number `2 ^ (-1074)` rank 1, and the finite numbers
fill the ranks below `Double.infinityRank`, which is infinity; the ranks above it are no number.
Comparing two numbers is comparing their signed ranks, and every finite number is a whole number
of units of `2 ^ (-1074)`.
-/

namespace RequestContract

/-- A double precision number. -/
structure Double where
  /-- Whether the sign is minus. Zero has both signs. -/
  negative : Bool
  /-- The place in the order of absolute values. -/
  rank : Nat
  /-- Sixty-three bits hold the rank. -/
  rank_lt : rank < 9223372036854775808

namespace Double

/-- The number of doubles in a binade: two to the power 52. -/
def binade : Nat := 4503599627370496

/-- The rank of infinity. -/
def infinityRank : Nat := 2047 * binade

/-- Zero, with a plus sign. -/
def zero : Double := ⟨false, 0, by decide⟩

instance : Inhabited Double := ⟨zero⟩

/-- Positive infinity. -/
def infinity : Double := ⟨false, infinityRank, by decide⟩

/-- The same number with the other sign. -/
def neg (x : Double) : Double := { x with negative := !x.negative }

instance : Neg Double := ⟨neg⟩

/-- No number at all. -/
def isNaN (x : Double) : Bool := infinityRank < x.rank

/-- A number that is not infinite. -/
def isFinite (x : Double) : Bool := x.rank < infinityRank

/-- Zero, of either sign. -/
def isZero (x : Double) : Bool := x.rank == 0

/-! ### The value in units -/

/-- The absolute value of the finite number of a rank, in units of `2 ^ (-1074)`: the first two
binades count in single units, and each later one in units twice as large as the one before. -/
def unitsOfRank (r : Nat) : Nat :=
  if r < binade then r else (binade + r % binade) * Nat.pow 2 (r / binade - 1)

/-- The number one in units. -/
def unitsOfOne : Nat := Nat.pow 2 1074

/-- The absolute value in units of `2 ^ (-1074)`. -/
def units (x : Double) : Nat := unitsOfRank x.rank

/-- The value in units of `2 ^ (-1074)`. -/
def signedUnits (x : Double) : Int := if x.negative then -(x.units : Int) else x.units

@[simp] theorem units_zero : zero.units = 0 := rfl

/-! ### Comparison -/

/-- The rank with the sign. -/
def signedRank (x : Double) : Int := if x.negative then -(x.rank : Int) else x.rank

/-- At most: never so when one side is no number. -/
def le (x y : Double) : Bool := !x.isNaN && !y.isNaN && decide (x.signedRank ≤ y.signedRank)

/-- Less: never so when one side is no number. -/
def lt (x y : Double) : Bool := !x.isNaN && !y.isNaN && decide (x.signedRank < y.signedRank)

/-- Numerical equality: both zeros are equal, and what is no number equals nothing. -/
def same (x y : Double) : Bool := !x.isNaN && !y.isNaN && decide (x.signedRank = y.signedRank)

instance : BEq Double := ⟨same⟩

theorem le_iff {x y : Double} :
    x.le y = true ↔ x.isNaN = false ∧ y.isNaN = false ∧ x.signedRank ≤ y.signedRank := by
  simp [le, and_assoc]

theorem lt_iff {x y : Double} :
    x.lt y = true ↔ x.isNaN = false ∧ y.isNaN = false ∧ x.signedRank < y.signedRank := by
  simp [lt, and_assoc]

end Double

end RequestContract
