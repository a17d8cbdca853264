import RequestContract.Proofs.Check.Content
import RequestContract.Proofs.Check.Structure

/-!
# Which violations each check reports

The structural check and the content check have no code in common: what the one reports has a code
of `Violation.shapeCodes`, what the other reports has a code of `Violation.contentCodes`. That a
category is missing is reported by neither. So the findings of a validation tell by their codes
where they come from.
-/

namespace RequestContract

namespace Violation

/-- The codes of the structural check. -/
def shapeCodes : List String :=
  ["missing_field", "unexpected_field", "incorrect_type", "enum_value_not_allowed"]

/-- The codes that are about the keys of an object. -/
def coverageCodes : List String := ["missing_field", "unexpected_field"]

/-- The codes of the content check. -/
def contentCodes : List String :=
  ["illegal_length", "illegal_array_length", "out_of_range", "not_url", "does_not_start_with",
    "illegal_enum_value"]

/-- Whether the violation is about the keys of an object. -/
def isCoverage : Violation → Bool
  | missingField _ => true
  | unexpectedField _ => true
  | _ => false

lemma not_mem_contentCodes_of_mem_shapeCodes {code : String} (h : code ∈ shapeCodes) :
    code ∉ contentCodes := by
  simp only [shapeCodes, List.mem_cons, List.not_mem_nil, or_false] at h
  rcases h with rfl | rfl | rfl | rfl <;> decide

lemma isCoverage_eq_false_of_mem_contentCodes {v : Violation} (h : v.code ∈ contentCodes) :
    v.isCoverage = false := by
  cases v with
  | missingField _ => exact absurd h (by simp [code, contentCodes])
  | unexpectedField _ => exact absurd h (by simp [code, contentCodes])
  | _ => rfl

end Violation

variable {s : Schema} {nested coverage : Coverage} {r : RecordType} {ms : List (String × Json)}
  {a : Spot} {b : Breach} {o : MemberOrder}

/-! ### At one spot -/

lemma RecordType.Uncovered.isCoverage {k : String} {v : Violation} (h : r.Uncovered ms k v) :
    v.isCoverage = true := by
  cases h <;> rfl

lemma RecordType.Uncovered.code_mem {k : String} {v : Violation} (h : r.Uncovered ms k v) :
    v.code ∈ Violation.shapeCodes := by
  cases h <;> simp [Violation.code, Violation.shapeCodes]

lemma Coverage.code_mem_of_mem_breaches (h : b ∈ coverage.breaches r ms) :
    b.violation.code ∈ Violation.shapeCodes := by
  obtain ⟨-, k, v, hu, rfl⟩ := mem_breaches.mp h
  exact hu.code_mem

lemma Coverage.code_mem_coverageCodes (h : b ∈ coverage.breaches r ms) :
    b.violation.code ∈ Violation.coverageCodes := by
  obtain ⟨-, k, v, hu, rfl⟩ := mem_breaches.mp h
  cases hu <;> simp [Violation.code, Violation.coverageCodes]

lemma Spot.code_mem_of_mem_shapeBreaches (h : b ∈ a.shapeBreaches s nested) :
    b.violation.code ∈ Violation.shapeCodes := by
  rcases mem_shapeBreaches.mp h with ⟨-, rfl⟩ | ⟨t, -, -, -, rfl⟩ | ⟨n, r, ms, -, -, -, hb⟩
  · simp [Breach.here, incorrectType, Violation.code, Violation.shapeCodes]
  · simp [Breach.here, Violation.code, Violation.shapeCodes]
  · exact Coverage.code_mem_of_mem_breaches hb

lemma Spot.Breaks.code_mem {v : Violation} (h : a.Breaks v) : v.code ∈ Violation.contentCodes := by
  cases h <;> simp [Violation.code, Violation.contentCodes]

/-! ### In a walk -/

namespace Walk

variable {w : Walk}

/-- What is said of all that a walk sees is said of all that it reports. -/
lemma forall_mem_reportsAfter {P : Violation → Prop} (hw : ∀ a, ∀ x ∈ w.look a, P x.violation)
    (h : b ∈ w.reportsAfter s (o.spots r ms)) : P b.violation := by
  obtain ⟨q, e, x, -, hx, rfl⟩ := exists_of_mem_reportsAfter_spots h
  exact hw e x hx

end Walk

lemma code_mem_of_mem_shapeWalk (h : b ∈ (shapeWalk s nested).reportsAfter s (o.spots r ms)) :
    b.violation.code ∈ Violation.shapeCodes :=
  Walk.forall_mem_reportsAfter (P := fun v => v.code ∈ Violation.shapeCodes)
    (fun _ _ hx => Spot.code_mem_of_mem_shapeBreaches hx) h

lemma code_mem_of_mem_contentWalk (h : b ∈ contentWalk.reportsAfter s (o.spots r ms)) :
    b.violation.code ∈ Violation.contentCodes := by
  refine Walk.forall_mem_reportsAfter (P := fun v => v.code ∈ Violation.contentCodes)
    (fun a x hx => ?_) h
  obtain ⟨v, hv, rfl⟩ := List.mem_map.mp hx
  exact (Spot.mem_contentViolations.mp hv).code_mem

end RequestContract
