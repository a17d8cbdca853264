import RequestContract.Proofs.Double.Rounding
import RequestContract.Proofs.WrongShapes

/-!
# Integers and ranges

The ends of a range are doubles, and an integer is rounded to a double before it is held against
them. Rounding takes no integer across an end, but it may take it onto the end. So an integer
outside a range is reported unless the double nearest to it is the end that it lies beyond, and no
other integer is, as `Schema.sanitizeValue_tells_outOfRange_iff` says. Integers up to `2 ^ 53` are
doubles themselves, so for them the comparison is exact.
-/

namespace RequestContract

variable {s : Schema} {k : String} {f : Field} {v : Json} {q : List Path.Component} {a : Spot}
  {n : Int} {r : Range} {code : String}

/-! ### Integers and doubles -/

namespace Range

lemma contains_iff (hmin : r.min.isFinite = true) (hmax : r.max.isFinite = true) {x : Double}
    (hx : x.isFinite = true) :
    r.contains x = true ↔ r.min.toRat ≤ x.toRat ∧ x.toRat ≤ r.max.toRat := by
  rw [contains, Bool.and_eq_true, Double.le_iff_toRat_le hmin hx, Double.le_iff_toRat_le hx hmax]

/-- An integer is held to lie outside a range if it does and is not rounded to an end. -/
lemma not_contains_ofInt_iff (hmin : r.min.isFinite = true) (hmax : r.max.isFinite = true)
    (hn : n.natAbs ≤ 2 ^ 64) : ¬ r.contains (Double.ofInt n) = true ↔
      (n < r.min.toRat ∧ (Double.ofInt n).toRat ≠ r.min.toRat) ∨
      (r.max.toRat < n ∧ (Double.ofInt n).toRat ≠ r.max.toRat) := by
  rw [contains_iff hmin hmax (Double.isFinite_ofInt hn), not_and_or, not_le, not_le,
    Double.toRat_ofInt_lt_iff hn, Double.lt_toRat_ofInt_iff hn]

end Range

/-! ### What is told at the end of a way -/

/-- Among what the check adds to the findings there is one with the code at the end of the way. -/
def Check.Tells (check : Check) (ctx : Context) (q : List Path.Component) (code : String) : Prop :=
  ∃ x ∈ (check ctx).findings.drop ctx.findings.length,
    x.location = .within (ctx.path.pushMany q) ∧ x.code = code

lemma Check.Reports.tells_iff {check : Check} {ctx : Context} {bs : List Breach}
    (h : check.Reports ctx.path bs) : check.Tells ctx q code ↔ (q, code) ∈ bs.map Breach.key := by
  rw [Tells, h ctx.findings, List.drop_left, List.mem_map]
  constructor
  · rintro ⟨x, hx, hl, rfl⟩
    obtain ⟨b, hb, rfl⟩ := List.mem_map.mp hx
    have hway := ctx.path.pushMany_injective (Location.within.inj hl)
    exact ⟨b, hb, Prod.ext hway rfl⟩
  · rintro ⟨b, hb, hkey⟩
    obtain ⟨rfl, rfl⟩ := Prod.mk.inj hkey
    exact ⟨_, List.mem_map_of_mem hb, rfl, rfl⟩

/-- At the end of a way the content check tells what is wrong with the value there. -/
lemma Schema.sanitizeValue_tells_iff (hd : v.DistinctKeys)
    (hr : s.Reaches (.ofField k f v) q a) (ctx : Context) :
    (s.sanitizeValue k f v).Tells ctx q code ↔ ∃ w, a.Breaks w ∧ w.code = code := by
  obtain ⟨bs, hbs, hkeys⟩ := s.exists_reports_sanitizeSpot (.ofField k f v) ctx.path
  rw [sanitizeSpot_ofField] at hbs
  rw [hbs.tells_iff, hkeys, List.mem_map]
  constructor
  · rintro ⟨b, hb, hkey⟩
    obtain ⟨q', e, x, he, hx, rfl⟩ := Walk.exists_of_mem_reports hb
    obtain ⟨w, hw, rfl⟩ := List.mem_map.mp hx
    rw [Breach.along_here] at hkey
    obtain ⟨rfl, rfl⟩ := Prod.mk.inj hkey
    obtain rfl := he.unique hd hr
    exact ⟨w, Spot.mem_contentViolations.mp hw, rfl⟩
  · rintro ⟨w, hw, rfl⟩
    have hx : Breach.here w ∈ contentWalk.look a :=
      List.mem_map_of_mem (Spot.mem_contentViolations.mpr hw)
    refine ⟨_, (Walk.mem_reports_iff hd).mpr ⟨q, a, .here w, hr, hx, rfl⟩, ?_⟩
    rw [Breach.along_here]
    rfl

/-! ### The main result -/

/-- An integer that 64 bits hold, with or without a sign, where a number is asked for, in a field
with a range whose ends are finite. -/
structure Spot.HoldsInteger (a : Spot) (n : Int) (r : Range) : Prop where
  type : a.type = .primitive .number
  value : a.value = .number (.integer n)
  range : a.field.range = some r
  min_isFinite : r.min.isFinite = true
  max_isFinite : r.max.isFinite = true
  lower : -2 ^ 63 ≤ n
  upper : n < 2 ^ 64

namespace Spot.HoldsInteger

lemma natAbs_le (h : a.HoldsInteger n r) : n.natAbs ≤ 2 ^ 64 := by
  have hlower := h.lower
  have hupper := h.upper
  omega

lemma exists_breaks_iff (h : a.HoldsInteger n r) :
    (∃ w, a.Breaks w ∧ w.code = "out_of_range") ↔ ¬ r.contains (Double.ofInt n) = true := by
  rw [Range.contains, Bool.and_eq_true]
  constructor
  · rintro ⟨w, hw, hcode⟩
    cases hw with
    | range ht hv hrange hout =>
      obtain rfl := Json.number.inj (h.value.symm.trans hv)
      obtain rfl := Option.some.inj (h.range.symm.trans hrange)
      exact hout
    | length | start | url | enum | size => simp [Violation.code] at hcode
  · intro hout
    exact ⟨_, .range h.type h.value h.range hout, rfl⟩

end Spot.HoldsInteger

/-- An integer is told to be out of range if and only if it lies outside the range and the double
nearest to it is not the end that it lies beyond. Up to `2 ^ 53` there is no exception. -/
theorem Schema.sanitizeValue_tells_outOfRange_iff (hd : v.DistinctKeys)
    (hr : s.Reaches (.ofField k f v) q a) (ha : a.HoldsInteger n r) (ctx : Context) :
    ((s.sanitizeValue k f v).Tells ctx q "out_of_range" ↔
      (n < r.min.toRat ∧ (Double.ofInt n).toRat ≠ r.min.toRat) ∨
      (r.max.toRat < n ∧ (Double.ofInt n).toRat ≠ r.max.toRat)) ∧
    (∀ x : Double, |(Double.ofInt n).toRat - n| ≤ |x.toRat - n|) ∧
    (n.natAbs ≤ 2 ^ 53 → ((s.sanitizeValue k f v).Tells ctx q "out_of_range" ↔
      n < r.min.toRat ∨ r.max.toRat < n)) := by
  have htells : (s.sanitizeValue k f v).Tells ctx q "out_of_range" ↔
      (n < r.min.toRat ∧ (Double.ofInt n).toRat ≠ r.min.toRat) ∨
      (r.max.toRat < n ∧ (Double.ofInt n).toRat ≠ r.max.toRat) := by
    rw [sanitizeValue_tells_iff hd hr, ha.exists_breaks_iff,
      Range.not_contains_ofInt_iff ha.min_isFinite ha.max_isFinite ha.natAbs_le]
  refine ⟨htells, Double.abs_toRat_ofInt_sub_le ha.natAbs_le, fun hn => ?_⟩
  rw [htells, Double.toRat_ofInt_of_natAbs_le hn, and_iff_left_of_imp LT.lt.ne,
    and_iff_left_of_imp LT.lt.ne']

/-! ### A tree that bears too much -/

namespace Orchard

/-- A tree bears at most `2 ^ 53` fruits. -/
def bearable : Range := ⟨.ofInt 0, .ofInt (2 ^ 53)⟩

/-- How many fruits the trees bear. -/
def yields : Field := .ofDecl (.array (.primitive .number))
  { FieldDecl.ofType "array[number]" with range := some bearable }

/-- One tree bears one fruit too many, and another less than none. -/
def yielded : Json := .array [.number (.integer (2 ^ 53 + 1)), .number (.integer (-1))]

/-- The spot of a tree that bears a number of fruits. -/
def yieldAt (i : Nat) (n : Int) : Spot :=
  (Spot.ofField "yields" yields yielded).element (.primitive .number) i (.number (.integer n))

lemma distinctKeys_yielded : yielded.DistinctKeys := by
  simp [yielded, Json.DistinctKeys, Json.DistinctKeysItems]

lemma reaches_excess :
    schema.Reaches (.ofField "yields" yields yielded) [.index 0] (yieldAt 0 (2 ^ 53 + 1)) :=
  .step (.element rfl rfl rfl) (.here _)

lemma reaches_deficit :
    schema.Reaches (.ofField "yields" yields yielded) [.index 1] (yieldAt 1 (-1)) :=
  .step (.element rfl rfl rfl) (.here _)

lemma holdsInteger_yieldAt (i : Nat) (hlower : -2 ^ 63 ≤ n) (hupper : n < 2 ^ 64) :
    (yieldAt i n).HoldsInteger n bearable where
  type := rfl
  value := rfl
  range := rfl
  min_isFinite := Double.isFinite_ofInt (by decide)
  max_isFinite := Double.isFinite_ofInt (by decide)
  lower := hlower
  upper := hupper

lemma toRat_bearable_min : bearable.min.toRat = 0 :=
  Double.toRat_ofInt_of_natAbs_le (n := 0) (by decide)

lemma toRat_bearable_max : bearable.max.toRat = 2 ^ 53 :=
  (Double.toRat_ofInt_of_natAbs_le (n := 2 ^ 53) (by decide)).trans (by norm_num)

/-- Less than no fruit is out of range. -/
theorem sanitizeValue_tells_outOfRange_deficit :
    yielded.DistinctKeys ∧
    schema.Reaches (.ofField "yields" yields yielded) [.index 1] (yieldAt 1 (-1)) ∧
    (yieldAt 1 (-1)).HoldsInteger (-1) bearable ∧
    (schema.sanitizeValue "yields" yields yielded).Tells ⟨Path.root, []⟩ [.index 1]
      "out_of_range" := by
  have ha := holdsInteger_yieldAt 1 (n := -1) (by decide) (by decide)
  have h := Schema.sanitizeValue_tells_outOfRange_iff distinctKeys_yielded reaches_deficit ha
    ⟨Path.root, []⟩
  refine ⟨distinctKeys_yielded, reaches_deficit, ha, (h.2.2 (by decide)).mpr (.inl ?_)⟩
  rw [toRat_bearable_min]
  norm_num

lemma contains_ofInt_excess : bearable.contains (.ofInt (2 ^ 53 + 1)) = true := by decide +kernel

/-- Rounding takes one fruit too many onto the end of the range. -/
theorem not_forall_tells_outOfRange_iff :
    ¬ ∀ (s : Schema) (k : String) (f : Field) (v : Json) (q : List Path.Component) (a : Spot)
      (n : Int) (r : Range) (ctx : Context), v.DistinctKeys →
      s.Reaches (.ofField k f v) q a → a.HoldsInteger n r → r.isInverted = false →
      ((s.sanitizeValue k f v).Tells ctx q "out_of_range" ↔
        n < r.min.toRat ∨ r.max.toRat < n) := by
  intro h
  have ha := holdsInteger_yieldAt 0 (n := 2 ^ 53 + 1) (by decide) (by decide)
  have htells := h schema "yields" yields yielded [.index 0] _ _ bearable ⟨Path.root, []⟩
    distinctKeys_yielded reaches_excess ha (by decide +kernel)
  rw [Schema.sanitizeValue_tells_iff distinctKeys_yielded reaches_excess,
    ha.exists_breaks_iff] at htells
  refine htells.mpr (.inr ?_) contains_ofInt_excess
  rw [toRat_bearable_max]
  norm_num

end Orchard

end RequestContract
