import RequestContract.Double.Basic

/-!
# Rounding to a double

A quotient of natural numbers is rounded to the nearest double, a tie to the one of even rank.
What lies beyond the largest finite number by half a step or more becomes infinity. Integers,
products and quotients of doubles are rounded in the same way.
-/

namespace RequestContract

/-- The whole number nearest to `n / d`, a half going to the even neighbour. -/
def roundHalfEven (n d : Nat) : Nat :=
  if 2 * (n % d) < d ∨ (2 * (n % d) = d ∧ n / d % 2 = 0) then n / d else n / d + 1

namespace Double

/-- The rank of the double nearest to `n / d` units, with no bound on the exponent. The quotient
is rounded to the 53 leading bits of its whole part; `shift` bits are left out. -/
def rankOfUnits (n d : Nat) : Nat :=
  let shift := (n / d).log2 - 52
  shift * binade + roundHalfEven n (d * Nat.pow 2 shift)

/-- The double with a sign and the rank `r`, or infinity if the rank is beyond it. -/
def ofRank (negative : Bool) (r : Nat) : Double :=
  ⟨negative, min r infinityRank, Nat.lt_of_le_of_lt (Nat.min_le_right _ _) (by decide)⟩

/-- The double nearest to `n / d` units. -/
def ofUnits (negative : Bool) (n d : Nat) : Double := ofRank negative (rankOfUnits n d)

/-- The double nearest to the quotient `n / d`. -/
def ofRatio (negative : Bool) (n d : Nat) : Double := ofUnits negative (n * unitsOfOne) d

/-- The double nearest to a natural number. -/
def ofNat (n : Nat) : Double := ofRatio false n 1

/-- The double nearest to an integer. -/
def ofInt : Int → Double
  | .ofNat n => ofRatio false n 1
  | .negSucc n => ofRatio true (n + 1) 1

/-- The rounded product of two finite numbers. -/
def mul (x y : Double) : Double :=
  ofUnits (x.negative != y.negative) (x.units * y.units) unitsOfOne

/-- The rounded quotient of two finite numbers, the second not zero. -/
def div (x y : Double) : Double :=
  ofUnits (x.negative != y.negative) (x.units * unitsOfOne) y.units

instance : Mul Double := ⟨mul⟩

instance : Div Double := ⟨div⟩

end Double

end RequestContract
