import Mathlib.Algebra.Order.Field.Basic
import Mathlib.Tactic.Linarith
import RequestContract.Double.Rounding
import RequestContract.Proofs.Double.Order

/-!
# The double that an integer is rounded to

An integer of 64 bits becomes the double that is nearest to it (`abs_toRat_ofInt_sub_le`). That is
all that is needed to compare the two with others: rounding takes no integer across a double, and an
integer that is a double stays what it is, as all integers up to `2 ^ 53` do.
-/

namespace RequestContract

/-! ### The nearest whole number -/

section

variable {n d m : Nat}

lemma roundHalfEven_eq_or : (roundHalfEven n d = n / d ∧ 2 * (n % d) ≤ d) ∨
    (roundHalfEven n d = n / d + 1 ∧ d ≤ 2 * (n % d)) := by
  rw [roundHalfEven]
  split <;> omega

/-- No whole number is nearer to a quotient than the one it is rounded to. -/
lemma roundHalfEven_nearest (hd : 0 < d) (k : Nat) :
    ((roundHalfEven n d * d : Nat) - n : Int).natAbs ≤ ((k * d : Nat) - n : Int).natAbs := by
  have hn : n / d * d + n % d = n := Nat.div_add_mod' n d
  have hlt := Nat.mod_lt n hd
  have hside : k * d ≤ n / d * d ∨ n / d * d + d ≤ k * d := by
    rcases Nat.lt_or_ge (n / d) k with h | h
    · exact .inr (Nat.succ_mul (n / d) d ▸ Nat.mul_le_mul_right d h)
    · exact .inl (Nat.mul_le_mul_right d h)
  rcases roundHalfEven_eq_or (n := n) (d := d) with ⟨h, hr⟩ | ⟨h, hr⟩
  · rw [h]
    omega
  · rw [h, Nat.succ_mul]
    omega

lemma le_roundHalfEven (hd : 0 < d) (h : m * d ≤ n) : m ≤ roundHalfEven n d := by
  have hle : m ≤ n / d := (Nat.le_div_iff_mul_le hd).mpr h
  rcases roundHalfEven_eq_or (n := n) (d := d) with ⟨hr, -⟩ | ⟨hr, -⟩ <;> omega

lemma roundHalfEven_le (hd : 0 < d) (h : n < m * d) : roundHalfEven n d ≤ m := by
  have hlt : n / d < m := (Nat.div_lt_iff_lt_mul hd).mpr h
  rcases roundHalfEven_eq_or (n := n) (d := d) with ⟨hr, -⟩ | ⟨hr, -⟩ <;> omega

end

namespace Double

/-! ### The nearest rank -/

lemma binade_eq : binade = 2 ^ 52 := rfl

lemma rankOfUnits_one (n : Nat) : rankOfUnits n 1
    = (n.log2 - 52) * binade + roundHalfEven n (2 ^ (n.log2 - 52)) := by
  rw [rankOfUnits, Nat.div_one, Nat.pow_eq, Nat.one_mul]

/-- The exponent is that of the binade that a number of units lies in. -/
lemma exponent_spec (n : Nat) : n < 2 * binade * 2 ^ (n.log2 - 52) ∧
    (n.log2 - 52 = 0 ∨ binade * 2 ^ (n.log2 - 52) ≤ n) := by
  have hlt : n < 2 ^ (n.log2 + 1) := Nat.lt_log2_self
  have hbinades : 2 * binade = 2 ^ 53 := rfl
  rcases Nat.le_total n.log2 52 with h | h
  · have hzero : n.log2 - 52 = 0 := by omega
    have hpow : 2 ^ (n.log2 + 1) ≤ 2 ^ 53 := Nat.pow_le_pow_right Nat.two_pos (by omega)
    refine ⟨?_, .inl hzero⟩
    rw [hzero, hbinades, Nat.pow_zero, Nat.mul_one]
    exact Nat.lt_of_lt_of_le hlt hpow
  · have hne : n ≠ 0 := by
      rintro rfl
      exact absurd h (by decide)
    refine ⟨?_, .inr ?_⟩
    · rwa [hbinades, ← Nat.pow_add, show 53 + (n.log2 - 52) = n.log2 + 1 by omega]
    · rw [binade_eq, ← Nat.pow_add, Nat.add_sub_cancel' h]
      exact Nat.log2_self_le hne

lemma isSignificand_roundHalfEven (n : Nat) :
    IsSignificand (n.log2 - 52) (roundHalfEven n (2 ^ (n.log2 - 52))) := by
  obtain ⟨hlt, hle⟩ := exponent_spec n
  have hpos := Nat.two_pow_pos (n.log2 - 52)
  exact ⟨hle.imp_right (le_roundHalfEven hpos), roundHalfEven_le hpos hlt⟩

lemma unitsOfRank_rankOfUnits (n : Nat) : unitsOfRank (rankOfUnits n 1)
    = roundHalfEven n (2 ^ (n.log2 - 52)) * 2 ^ (n.log2 - 52) := by
  rw [rankOfUnits_one, unitsOfRank_add (isSignificand_roundHalfEven n)]

/-- From some exponent on doubles are whole numbers of steps, and all others lie below. -/
lemma unitsOfRank_eq_mul_or_lt (e r : Nat) :
    (∃ k, unitsOfRank r = k * 2 ^ e) ∨ e ≠ 0 ∧ unitsOfRank r < binade * 2 ^ e := by
  obtain ⟨e', q, h, hlt, rfl⟩ := exists_isSignificand r
  rcases Nat.lt_or_ge e' e with he | he
  · right
    have hrank : e' * binade + q < e * binade + binade := by
      simp only [binade] at *
      omega
    rw [← unitsOfRank_add ⟨.inr (Nat.le_refl _), by omega⟩]
    exact ⟨Nat.ne_zero_of_lt he, unitsOfRank_strictMono hrank⟩
  · left
    refine ⟨q * 2 ^ (e' - e), ?_⟩
    rw [unitsOfRank_add h, Nat.mul_assoc, ← Nat.pow_add, Nat.sub_add_cancel he]

/-- No double is nearer to a number of units than the one it is rounded to. -/
lemma rankOfUnits_nearest (n r : Nat) :
    ((unitsOfRank (rankOfUnits n 1) : Int) - n).natAbs ≤ ((unitsOfRank r : Int) - n).natAbs := by
  have hnearest := roundHalfEven_nearest (n := n) (Nat.two_pow_pos (n.log2 - 52))
  rw [unitsOfRank_rankOfUnits]
  rcases unitsOfRank_eq_mul_or_lt (n.log2 - 52) r with ⟨k, hk⟩ | ⟨hne, hlt⟩
  · rw [hk]
    exact hnearest k
  · -- the double lies below the binade, whose start is at least as near
    have hstart := hnearest binade
    have hle := (exponent_spec n).2.resolve_left hne
    omega

/-- Any whole number of 53 bits, in whatever unit, is a double. -/
lemma exists_unitsOfRank_eq (k : Nat) {m : Nat} (hm : m ≤ 2 * binade) :
    ∃ r ≤ (k + 2) * binade, unitsOfRank r = m * 2 ^ k := by
  induction k generalizing m with
  | zero => exact ⟨0 * binade + m, by omega, unitsOfRank_add ⟨.inl rfl, hm⟩⟩
  | succ k ih =>
    rcases Nat.le_total binade m with h | h
    · exact ⟨(k + 1) * binade + m, by linarith, unitsOfRank_add ⟨.inr h, hm⟩⟩
    · -- twice as many steps of half the size
      obtain ⟨r, hle, hr⟩ := ih (m := 2 * m) (by omega)
      exact ⟨r, by linarith, by rw [hr]; ring⟩

/-! ### Integers -/

section

variable {n : Int} {x : Double}

lemma log2_le {m k : Nat} (h : m ≤ 2 ^ k) : m.log2 ≤ k := by
  by_cases hm : m = 0
  · rw [hm]
    exact Nat.zero_le k
  · exact Nat.le_of_lt_succ ((Nat.log2_lt hm).mpr (Nat.lt_of_le_of_lt h (Nat.pow_lt_pow_succ
      Nat.one_lt_two)))

/-- Numbers of 64 bits are far from infinity. -/
lemma rankOfUnits_lt {m : Nat} (hm : m ≤ 2 ^ 64) :
    rankOfUnits (m * unitsOfOne) 1 < infinityRank := by
  obtain ⟨k, hk, hone⟩ := exists_unitsOfOne_eq
  have hlog : (m * 2 ^ k).log2 ≤ 64 + k :=
    log2_le (Nat.pow_add 2 64 k ▸ Nat.mul_le_mul_right _ hm)
  have hle := (isSignificand_roundHalfEven (m * 2 ^ k)).le_two_binades
  rw [hone, rankOfUnits_one]
  simp only [infinityRank, binade] at *
  omega

lemma rank_ofInt (h : n.natAbs ≤ 2 ^ 64) :
    (ofInt n).rank = rankOfUnits (n.natAbs * unitsOfOne) 1 := by
  have hmin := Nat.min_eq_left (Nat.le_of_lt (rankOfUnits_lt h))
  cases n with
  | ofNat m => exact hmin
  | negSucc m => exact hmin

lemma isFinite_ofInt (h : n.natAbs ≤ 2 ^ 64) : (ofInt n).isFinite = true := by
  rw [isFinite, rank_ofInt h, decide_eq_true_eq]
  exact rankOfUnits_lt h

/-- No double has fewer units between it and an integer than the one that it is rounded to. -/
lemma signedUnits_ofInt_nearest (h : n.natAbs ≤ 2 ^ 64) (x : Double) :
    ((ofInt n).signedUnits - n * unitsOfOne).natAbs
      ≤ (x.signedUnits - n * unitsOfOne).natAbs := by
  have hnearest := rankOfUnits_nearest (n.natAbs * unitsOfOne) x.rank
  rw [← rank_ofInt h] at hnearest
  change (((ofInt n).units : Int) - _).natAbs ≤ ((x.units : Int) - _).natAbs at hnearest
  generalize unitsOfOne = one at hnearest ⊢
  -- with the sign of the integer on both sides the distances are those of the units
  rw [signedUnits, signedUnits]
  cases n with
  | ofNat m =>
    have hsign : (ofInt (.ofNat m)).negative = false := rfl
    have hunits : Int.ofNat m * (one : Int) = ((Int.ofNat m).natAbs * one : Nat) := by
      rw [Nat.cast_mul, Int.ofNat_eq_natCast, Int.natAbs_natCast]
    rw [hsign, hunits]
    cases x.negative <;> simp only [Bool.false_eq_true, if_false, if_true] <;> omega
  | negSucc m =>
    have hsign : (ofInt (.negSucc m)).negative = true := rfl
    have hunits : Int.negSucc m * (one : Int) = -((Int.negSucc m).natAbs * one : Nat) := by
      rw [Nat.cast_mul, Int.natAbs_negSucc, Nat.cast_succ, Int.negSucc_eq, Int.neg_mul]
    rw [hsign, hunits]
    cases x.negative <;> simp only [Bool.false_eq_true, if_false, if_true] <;> omega

/-- The distance in units. -/
lemma abs_toRat_sub (x : Double) (n : Int) :
    |x.toRat - n| = ((x.signedUnits - n * unitsOfOne).natAbs : ℚ) / unitsOfOne := by
  have hone : (0 : ℚ) < unitsOfOne := Nat.cast_pos.mpr unitsOfOne_pos
  rw [toRat]
  generalize unitsOfOne = one at hone ⊢
  calc |(x.signedUnits : ℚ) / one - n|
      = |((x.signedUnits - n * one : Int) : ℚ) / one| := by
        rw [Int.cast_sub, Int.cast_mul, Int.cast_natCast, sub_div, mul_div_cancel_right₀ _ hone.ne']
    _ = |((x.signedUnits - n * one : Int) : ℚ)| / one := by rw [abs_div, abs_of_pos hone]
    _ = _ := by rw [Nat.cast_natAbs, Int.cast_abs]

/-- No double is nearer to an integer than the one that it is rounded to. -/
theorem abs_toRat_ofInt_sub_le (h : n.natAbs ≤ 2 ^ 64) (x : Double) :
    |(ofInt n).toRat - n| ≤ |x.toRat - n| := by
  rw [abs_toRat_sub, abs_toRat_sub,
    div_le_div_iff_of_pos_right (Nat.cast_pos.mpr unitsOfOne_pos), Nat.cast_le]
  exact signedUnits_ofInt_nearest h x

/-! ### What follows -/

/-- Rounding takes no integer across a double. -/
lemma le_toRat_ofInt (h : n.natAbs ≤ 2 ^ 64) (hx : x.toRat ≤ n) : x.toRat ≤ (ofInt n).toRat := by
  have hnearest := abs_toRat_ofInt_sub_le h x
  by_contra hlt
  rw [abs_of_nonpos (by linarith), abs_of_nonpos (by linarith)] at hnearest
  linarith

lemma toRat_ofInt_le (h : n.natAbs ≤ 2 ^ 64) (hx : n ≤ x.toRat) : (ofInt n).toRat ≤ x.toRat := by
  have hnearest := abs_toRat_ofInt_sub_le h x
  by_contra hlt
  rw [abs_of_nonneg (by linarith), abs_of_nonneg (by linarith)] at hnearest
  linarith

/-- An integer is rounded to less than a double if it is less and is not rounded to it. -/
lemma toRat_ofInt_lt_iff (h : n.natAbs ≤ 2 ^ 64) :
    (ofInt n).toRat < x.toRat ↔ n < x.toRat ∧ (ofInt n).toRat ≠ x.toRat := by
  constructor
  · intro hlt
    exact ⟨lt_of_not_ge fun hx => hlt.not_ge (le_toRat_ofInt h hx), hlt.ne⟩
  · rintro ⟨hlt, hne⟩
    exact lt_of_le_of_ne (toRat_ofInt_le h hlt.le) hne

lemma lt_toRat_ofInt_iff (h : n.natAbs ≤ 2 ^ 64) :
    x.toRat < (ofInt n).toRat ↔ x.toRat < n ∧ (ofInt n).toRat ≠ x.toRat := by
  constructor
  · intro hlt
    exact ⟨lt_of_not_ge fun hx => hlt.not_ge (toRat_ofInt_le h hx), hlt.ne'⟩
  · rintro ⟨hlt, hne⟩
    exact lt_of_le_of_ne (le_toRat_ofInt h hlt.le) hne.symm

/-- An integer that is a double stays what it is. -/
lemma toRat_ofInt_eq (h : n.natAbs ≤ 2 ^ 64) (hx : x.toRat = n) : (ofInt n).toRat = n :=
  le_antisymm (hx ▸ toRat_ofInt_le h hx.ge) (hx ▸ le_toRat_ofInt h hx.le)

/-- Integers of 53 bits are doubles. -/
lemma exists_toRat_eq (h : n.natAbs ≤ 2 ^ 53) : ∃ x : Double, x.toRat = n := by
  obtain ⟨k, hk, hone⟩ := exists_unitsOfOne_eq
  obtain ⟨r, hr, hunits⟩ := exists_unitsOfRank_eq k (m := n.natAbs) h
  have hlt : r < 9223372036854775808 := by
    have hle : (k + 2) * binade ≤ 1076 * binade := Nat.mul_le_mul_right _ (by omega)
    simp only [binade] at *
    omega
  have hsigned : signedUnits ⟨decide (n < 0), r, hlt⟩ = n * unitsOfOne := by
    rw [signedUnits, units, hunits, ← hone, Nat.cast_mul]
    rcases lt_or_ge n 0 with hn | hn
    · rw [if_pos (decide_eq_true hn), ← Int.neg_mul, Int.ofNat_natAbs_of_nonpos hn.le, neg_neg]
    · rw [if_neg (by simpa using hn), Int.natAbs_of_nonneg hn]
  refine ⟨⟨decide (n < 0), r, hlt⟩, ?_⟩
  rw [toRat, hsigned, Int.cast_mul, Int.cast_natCast,
    mul_div_cancel_right₀ _ (Nat.cast_ne_zero.mpr unitsOfOne_pos.ne')]

/-- Integers of 53 bits are not changed by rounding. -/
theorem toRat_ofInt_of_natAbs_le (h : n.natAbs ≤ 2 ^ 53) : (ofInt n).toRat = n := by
  obtain ⟨x, hx⟩ := exists_toRat_eq h
  exact toRat_ofInt_eq (le_trans h (by decide)) hx

end

end Double

end RequestContract
