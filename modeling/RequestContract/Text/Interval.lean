/-!
# Character classes by intervals

A class of characters is given by the intervals of code points that it is made of.
-/

namespace RequestContract.Text

/-- Membership of a code point in one of the intervals, ends included. -/
def inIntervals (intervals : List (Nat × Nat)) (c : Char) : Bool :=
  intervals.any fun (lo, hi) => lo ≤ c.toNat && c.toNat ≤ hi

@[simp] theorem inIntervals_nil (c : Char) : inIntervals [] c = false := rfl

@[simp] theorem inIntervals_cons (lo hi : Nat) (rest : List (Nat × Nat)) (c : Char) :
    inIntervals ((lo, hi) :: rest) c
      = ((decide (lo ≤ c.toNat) && decide (c.toNat ≤ hi)) || inIntervals rest c) := rfl

end RequestContract.Text
