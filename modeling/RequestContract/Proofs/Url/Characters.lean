import Mathlib.Tactic.Lemma
import RequestContract.Url

/-!
# The characters of a URL

A class of characters is given by its intervals, so what is in it, what is not, and which class is
part of which can be read off them. ASCII letters are letters, in either case, and belong to no
other class; so to replace them by small letters leaves each character in its classes. The
characters that separate the parts of a URL are no characters of a host, except the point.
-/

namespace RequestContract

namespace Text

variable {l m : List (Nat × Nat)} {c : Char}

/-! ### Intervals -/

lemma inIntervals_iff :
    inIntervals l c = true ↔ ∃ i ∈ l, i.1 ≤ c.toNat ∧ c.toNat ≤ i.2 := by
  simp [inIntervals]

/-- Between its intervals a class has no characters. -/
lemma inIntervals_eq_false (a b : Nat) (h : (l.all fun i => i.2 < a || b < i.1) = true)
    (ha : a ≤ c.toNat) (hb : c.toNat ≤ b) : inIntervals l c = false := by
  rw [← Bool.not_eq_true, inIntervals_iff]
  rintro ⟨i, hi, hlo, hhi⟩
  have := List.all_eq_true.mp h i hi
  simp only [Bool.or_eq_true, decide_eq_true_eq] at this
  omega

/-- If each interval lies in one of another class, then that class has all the characters. -/
lemma inIntervals_mono (h : (l.all fun i => m.any fun j => j.1 ≤ i.1 && i.2 ≤ j.2) = true)
    (hc : inIntervals l c = true) : inIntervals m c = true := by
  obtain ⟨i, hi, hlo, hhi⟩ := inIntervals_iff.mp hc
  obtain ⟨j, hj, hij⟩ := List.any_eq_true.mp (List.all_eq_true.mp h i hi)
  simp only [Bool.and_eq_true, decide_eq_true_eq] at hij
  exact inIntervals_iff.mpr ⟨j, hj, Nat.le_trans hij.1 hlo, Nat.le_trans hhi hij.2⟩

/-! ### ASCII letters and digits -/

lemma isUpper_iff : c.isUpper = true ↔ 65 ≤ c.toNat ∧ c.toNat ≤ 90 := decide_eq_true_iff

lemma isLower_iff : c.isLower = true ↔ 97 ≤ c.toNat ∧ c.toNat ≤ 122 := by
  have h : c.isLower = true ↔ decide (97 ≤ c.toNat) = true ∧ decide (c.toNat ≤ 122) = true :=
    Bool.and_eq_true_iff
  rwa [decide_eq_true_iff, decide_eq_true_iff] at h

lemma isAlpha_iff : c.isAlpha = true ↔
    65 ≤ c.toNat ∧ c.toNat ≤ 90 ∨ 97 ≤ c.toNat ∧ c.toNat ≤ 122 := by
  rw [← isUpper_iff, ← isLower_iff]
  exact Bool.or_eq_true_iff

lemma isLetter_of_isAlpha (h : c.isAlpha = true) : isLetter c = true := by
  have hupper : (65, 90) ∈ letterIntervals := List.mem_cons_self
  have hlower : (97, 122) ∈ letterIntervals := List.mem_cons_of_mem _ List.mem_cons_self
  rcases isAlpha_iff.mp h with hc | hc
  · exact inIntervals_iff.mpr ⟨_, hupper, hc⟩
  · exact inIntervals_iff.mpr ⟨_, hlower, hc⟩

lemma isDecimalDigit_of_isDigit (h : c.isDigit = true) : isDecimalDigit c = true :=
  inIntervals_iff.mpr ⟨(48, 57), List.mem_cons_self, Char.isDigit_iff_toNat.mp h⟩

-- the tables are longer than the depth to which `decide` goes by default
section Tables

set_option maxRecDepth 8000

lemma isNumeral_of_isDecimalDigit (h : isDecimalDigit c = true) : isNumeral c = true :=
  inIntervals_mono (by decide) h

lemma isNumeral_eq_false_of_isAlpha (h : c.isAlpha = true) : isNumeral c = false := by
  have := isAlpha_iff.mp h
  exact inIntervals_eq_false 65 122 (by decide) (by omega) (by omega)

lemma isDecimalDigit_eq_false_of_isAlpha (h : c.isAlpha = true) : isDecimalDigit c = false := by
  have := isAlpha_iff.mp h
  exact inIntervals_eq_false 65 122 (by decide) (by omega) (by omega)

lemma isBlank_eq_false_of_isAlpha (h : c.isAlpha = true) : isBlank c = false := by
  have := isAlpha_iff.mp h
  exact inIntervals_eq_false 65 122 (by decide) (by omega) (by omega)

lemma isLetter_longS : isLetter 'ſ' = true := by decide

lemma isLetter_eq_false_of_isDigit (h : c.isDigit = true) : isLetter c = false := by
  obtain ⟨hlo, hhi⟩ := Char.isDigit_iff_toNat.mp h
  exact inIntervals_eq_false 48 57 (by decide) hlo hhi

end Tables

/-! ### Small letters -/

lemma toNat_toLower (c : Char) :
    c.toLower.toNat = if 65 ≤ c.toNat ∧ c.toNat ≤ 90 then c.toNat + 32 else c.toNat := by
  have hshift : ('a'.val - 'A'.val).toNat = 32 := rfl
  by_cases h : 65 ≤ c.toNat ∧ c.toNat ≤ 90
  · have hmoved : c.toLower = ⟨c.val + ('a'.val - 'A'.val), _⟩ := dif_pos h
    rw [if_pos h, hmoved, ← Char.toNat_val, UInt32.toNat_add, hshift, Char.toNat_val]
    omega
  · have hkept : c.toLower = c := dif_neg h
    rw [if_neg h, hkept]

lemma toNat_toUpper (c : Char) :
    c.toUpper.toNat = if 97 ≤ c.toNat ∧ c.toNat ≤ 122 then c.toNat - 32 else c.toNat := by
  -- the shift is downwards, so it is `2 ^ 32 - 32` in a word
  have hshift : ('A'.val - 'a'.val).toNat = 4294967264 := rfl
  by_cases h : 97 ≤ c.toNat ∧ c.toNat ≤ 122
  · have hmoved : c.toUpper = ⟨c.val + ('A'.val - 'a'.val), _⟩ := dif_pos h
    rw [if_pos h, hmoved, ← Char.toNat_val, UInt32.toNat_add, hshift, Char.toNat_val]
    omega
  · have hkept : c.toUpper = c := dif_neg h
    rw [if_neg h, hkept]

/-- A character has the same small letter in either case. -/
lemma toLower_eq_toLower {d : Char} (h : d = c ∨ d = c.toLower ∨ d = c.toUpper) :
    d.toLower = c.toLower := by
  rw [← Char.toNat_inj, toNat_toLower, toNat_toLower]
  rcases h with rfl | rfl | rfl
  · rfl
  · rw [toNat_toLower]
    grind
  · rw [toNat_toUpper]
    grind

lemma toLower_eq_iff {w : Char} (hw : w.isUpper = false) :
    c.toLower = w ↔ c = w ∨ c = w.toUpper := by
  have hw' := mt isUpper_iff.mpr (Bool.eq_false_iff.mp hw)
  rw [← Char.toNat_inj, ← Char.toNat_inj, ← Char.toNat_inj, toNat_toLower, toNat_toUpper]
  grind

lemma toLower_eq_iff_of_isAlpha_eq_false {w : Char} (hw : w.isAlpha = false) :
    c.toLower = w ↔ c = w := by
  obtain ⟨hupper, hlower⟩ := Bool.or_eq_false_iff.mp hw
  have hself : w.toUpper = w := by
    rw [← Char.toNat_inj, toNat_toUpper, if_neg (mt isLower_iff.mpr (Bool.eq_false_iff.mp hlower))]
  rw [toLower_eq_iff hupper, hself, or_self]

lemma toLower_eq_self (h : c.isAlpha = false) : c.toLower = c :=
  (toLower_eq_iff_of_isAlpha_eq_false h).mpr rfl

lemma isAlpha_toLower (h : c.isAlpha = true) : c.toLower.isAlpha = true := by
  have := isAlpha_iff.mp h
  rw [isAlpha_iff, toNat_toLower]
  grind

/-- For a class that has all ASCII letters or none of them, case does not matter. -/
lemma apply_toLower {p : Char → Bool} {b : Bool} (h : ∀ c, c.isAlpha = true → p c = b) (c : Char) :
    p c.toLower = p c := by
  by_cases hc : c.isAlpha = true
  · rw [h c hc, h c.toLower (isAlpha_toLower hc)]
  · rw [toLower_eq_self (Bool.eq_false_iff.mpr hc)]

@[simp] lemma isLetter_toLower (c : Char) : isLetter c.toLower = isLetter c :=
  apply_toLower (fun _ => isLetter_of_isAlpha) c

@[simp] lemma isNumeral_toLower (c : Char) : isNumeral c.toLower = isNumeral c :=
  apply_toLower (fun _ => isNumeral_eq_false_of_isAlpha) c

@[simp] lemma isDecimalDigit_toLower (c : Char) : isDecimalDigit c.toLower = isDecimalDigit c :=
  apply_toLower (fun _ => isDecimalDigit_eq_false_of_isAlpha) c

@[simp] lemma isBlank_toLower (c : Char) : isBlank c.toLower = isBlank c :=
  apply_toLower (fun _ => isBlank_eq_false_of_isAlpha) c

end Text

namespace Url

lemma isAlphanumeric_of_isDecimalDigit {c : Char} (h : Text.isDecimalDigit c = true) :
    isAlphanumeric c = true := by
  rw [isAlphanumeric, Text.isNumeral_of_isDecimalDigit h, Bool.or_true]

lemma isAlphanumeric_of_isLetter {c : Char} (h : Text.isLetter c = true) :
    isAlphanumeric c = true := by
  rw [isAlphanumeric, h, Bool.true_or]

lemma isHostChar_of_isAlphanumeric {c : Char} (h : isAlphanumeric c = true) :
    isHostChar c = true := by
  rw [isHostChar, h, Bool.true_or, Bool.true_or]

lemma isDecimalDigit_eq_false_of_isHostChar {c : Char} (h : isHostChar c = false) :
    Text.isDecimalDigit c = false := by
  rw [← Bool.not_eq_true]
  intro hc
  rw [isHostChar_of_isAlphanumeric (isAlphanumeric_of_isDecimalDigit hc)] at h
  cases h

/-! ### Separators -/

lemma isHostChar_hyphen : isHostChar '-' = true := by
  simp [isHostChar]

lemma isHostChar_point : isHostChar '.' = true := by
  simp [isHostChar]

set_option maxRecDepth 8000 in
lemma isAlphanumeric_point : isAlphanumeric '.' = false := by decide

lemma ne_point_of_isAlphanumeric {c : Char} (h : isAlphanumeric c = true) : c ≠ '.' := by
  rintro rfl
  rw [isAlphanumeric_point] at h
  cases h

set_option maxRecDepth 8000 in
lemma isHostChar_at : isHostChar '@' = false := by decide

set_option maxRecDepth 8000 in
/-- A character that a port or a tail can start with is no character of a host. -/
lemma isHostChar_separator {c : Char} (h : c = ':' ∨ c = '/' ∨ c = '?' ∨ c = '#') :
    isHostChar c = false := by
  rcases h with rfl | rfl | rfl | rfl <;> decide

end Url

end RequestContract
