import RequestContract.Double.Shortest

/-!
# How a double is written

A layout fixes what the shortest decimal leaves open: where positional notation ends, whether a
whole number keeps a point, and which way a tie between two shortest decimals goes. Messages and
JSON text use different layouts.
-/

namespace RequestContract

/-- The choices in writing a number. -/
structure NumberLayout where
  /-- For a tie: whether the upper neighbour is taken, given the digits of the lower one. -/
  upward : Nat → Bool
  /-- Whether a whole number is written with `.0`. -/
  keepsPoint : Bool
  /-- The exponents of the first digit, from the first to below the second, that are written
  without an exponent; `none` if all are. -/
  positional : Option (Int × Int)
  /-- The text for what is no number. -/
  nanText : String
  /-- The text for infinity, given whether the sign is minus. -/
  infinityText : Bool → String

namespace NumberLayout

/-- Messages write every number out in full, a half up, with no point in a whole number. -/
def message : NumberLayout :=
  ⟨fun _ => true, false, none, "NaN", fun negative => if negative then "-inf" else "inf"⟩

/-- JSON text writes numbers from `0.00001` up to `10 ^ 16` in full and the others with an
exponent, a half to the even neighbour; it has no word for what is not finite. -/
def json : NumberLayout :=
  ⟨(· % 2 = 1), true, some (-5, 16), "null", fun _ => "null"⟩

end NumberLayout

namespace Decimal

/-- Digits without an exponent; `pointZero` is the ending of a whole number. -/
def positionalText (x : Decimal) (pointZero : String) : String :=
  let ds := toString x.digits
  if 0 ≤ x.exponent then
    ds ++ "".pushn '0' x.exponent.toNat ++ pointZero
  else
    let after := (-x.exponent).toNat
    if after < ds.length then
      let before := ds.length - after
      String.ofList (ds.toList.take before) ++ "." ++ String.ofList (ds.toList.drop before)
    else
      "0." ++ "".pushn '0' (after - ds.length) ++ ds

/-- Digits with a point after the first and the exponent of the first, which always has a sign. -/
def exponentText (x : Decimal) : String :=
  let ds := (toString x.digits).toList
  let e := x.exponent + ds.length - 1
  let mantissa := match ds with
    | d :: r@(_ :: _) => String.ofList (d :: '.' :: r)
    | _ => String.ofList ds
  mantissa ++ (if e < 0 then "e-" else "e+") ++ toString e.natAbs

/-- The text of a decimal without a sign. -/
def text (layout : NumberLayout) (x : Decimal) : String :=
  let e := x.exponent + (digitCount x.digits : Int) - 1
  let pointZero := if layout.keepsPoint then ".0" else ""
  match layout.positional with
  | none => x.positionalText pointZero
  | some (low, high) =>
    if low ≤ e && e < high then x.positionalText pointZero else x.exponentText

end Decimal

namespace Double

/-- The text of a number. -/
def text (layout : NumberLayout) (x : Double) : String :=
  if x.isNaN then layout.nanText
  else if !x.isFinite then layout.infinityText x.negative
  else
    let size := if x.isZero then ⟨0, 0⟩ else shortest layout.upward x.rank
    (if x.negative then "-" else "") ++ size.text layout

end Double

end RequestContract
