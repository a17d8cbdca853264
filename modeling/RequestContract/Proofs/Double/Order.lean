import Mathlib.Algebra.Order.Field.Rat
import Mathlib.Algebra.Order.Ring.Cast
import Mathlib.Order.Monotone.Basic
import Mathlib.Tactic.Lemma
import Mathlib.Tactic.Ring
import RequestContract.Double.Basic

/-!
# Doubles in order

A rank is taken apart into an exponent `e` and a significand `q`, so that the double is `q` steps of
`2 ^ e` units. The next rank is one such step farther from zero, so units go up with ranks, and
comparing two finite numbers is comparing their values as fractions (`le_iff_toRat_le`).
-/

namespace RequestContract

namespace Double

variable {x y : Double} {e q : Nat}

/-! ### Exponent and significand -/

/-- Where steps are of `2 ^ e` units, `q` of them lead from zero to a double: fewer than a binade
of steps only where they are the smallest there are, and two binades to the end of the binade. -/
structure IsSignificand (e q : Nat) : Prop where
  binade_le : e = 0 ∨ binade ≤ q
  le_two_binades : q ≤ 2 * binade

lemma unitsOfRank_add (h : IsSignificand e q) : unitsOfRank (e * binade + q) = q * 2 ^ e := by
  obtain ⟨hle, hle'⟩ := h
  rw [unitsOfRank, Nat.pow_eq]
  split
  · next hlt =>
    obtain rfl : e = 0 := by
      rcases hle with rfl | hle
      · rfl
      · omega
    simp
  · next hge =>
    rcases Nat.lt_or_eq_of_le hle' with hlt | rfl
    · have hdiv : (e * binade + q) / binade = e + 1 := by
        simp only [binade] at *
        omega
      have hmod : binade + (e * binade + q) % binade = q := by
        simp only [binade] at *
        omega
      rw [hdiv, hmod, Nat.add_sub_cancel]
    · -- the end of a binade is where steps get twice as large
      have hdiv : (e * binade + 2 * binade) / binade = e + 2 := by
        simp only [binade]
        omega
      have hmod : (e * binade + 2 * binade) % binade = 0 := by
        simp only [binade]
        omega
      rw [hdiv, hmod, Nat.add_zero, Nat.add_succ_sub_one, Nat.pow_succ]
      ring

lemma exists_isSignificand (r : Nat) :
    ∃ e q, IsSignificand e q ∧ q < 2 * binade ∧ r = e * binade + q := by
  by_cases h : r < binade
  · exact ⟨0, r, ⟨.inl rfl, by omega⟩, by omega, by omega⟩
  · have hmod := Nat.mod_lt r (show 0 < binade by decide)
    refine ⟨r / binade - 1, binade + r % binade, ⟨.inr (by omega), by omega⟩, by omega, ?_⟩
    simp only [binade] at *
    omega

/-- The next rank is one step farther. -/
lemma unitsOfRank_strictMono : StrictMono unitsOfRank := by
  refine strictMono_nat_of_lt_succ fun r => ?_
  obtain ⟨e, q, h, hlt, rfl⟩ := exists_isSignificand r
  have hnext : IsSignificand e (q + 1) := ⟨h.binade_le.imp_right (by omega), hlt⟩
  rw [unitsOfRank_add h, Nat.add_assoc, unitsOfRank_add hnext]
  exact Nat.mul_lt_mul_of_pos_right (Nat.lt_succ_self q) (Nat.two_pow_pos e)

lemma units_le_units_iff : x.units ≤ y.units ↔ x.rank ≤ y.rank :=
  unitsOfRank_strictMono.le_iff_le

lemma units_eq_zero_iff : x.units = 0 ↔ x.rank = 0 :=
  unitsOfRank_strictMono.injective.eq_iff' rfl

/-! ### The value as a fraction -/

/-- The value of a finite number. -/
def toRat (x : Double) : ℚ := x.signedUnits / unitsOfOne

lemma exists_unitsOfOne_eq : ∃ k, k ≤ 1074 ∧ unitsOfOne = 2 ^ k :=
  ⟨1074, Nat.le_refl _, by decide +kernel⟩

lemma unitsOfOne_pos : 0 < unitsOfOne := by
  obtain ⟨k, -, hk⟩ := exists_unitsOfOne_eq
  exact hk ▸ Nat.two_pow_pos k

lemma signedRank_le_signedRank_iff :
    x.signedRank ≤ y.signedRank ↔ x.signedUnits ≤ y.signedUnits := by
  have hxy : x.units ≤ y.units ↔ x.rank ≤ y.rank := units_le_units_iff
  have hyx : y.units ≤ x.units ↔ y.rank ≤ x.rank := units_le_units_iff
  have hx : x.units = 0 ↔ x.rank = 0 := units_eq_zero_iff
  have hy : y.units = 0 ↔ y.rank = 0 := units_eq_zero_iff
  rw [signedRank, signedRank, signedUnits, signedUnits]
  cases x.negative <;> cases y.negative <;> simp only [if_true, Bool.false_eq_true, if_false] <;>
    omega

lemma toRat_le_toRat_iff : x.toRat ≤ y.toRat ↔ x.signedUnits ≤ y.signedUnits := by
  rw [toRat, toRat, div_le_div_iff_of_pos_right (Nat.cast_pos.mpr unitsOfOne_pos), Int.cast_le]

lemma not_isNaN_of_isFinite (h : x.isFinite = true) : x.isNaN = false := by
  simp only [isFinite, isNaN, decide_eq_true_eq, decide_eq_false_iff_not] at *
  omega

/-- Finite numbers are compared by their values. -/
theorem le_iff_toRat_le (hx : x.isFinite = true) (hy : y.isFinite = true) :
    x.le y = true ↔ x.toRat ≤ y.toRat := by
  rw [le_iff, signedRank_le_signedRank_iff, toRat_le_toRat_iff]
  exact ⟨fun h => h.2.2, fun h => ⟨not_isNaN_of_isFinite hx, not_isNaN_of_isFinite hy, h⟩⟩

end Double

end RequestContract
