import Mathlib.Data.List.Perm.Basic
import RequestContract.Proofs.Categories

/-!
# Strings outside their enum

Both checks hold a string against the values of its enum, and each has a code of its own for one
that is not among them. They go through the request in different orders, but of the strings outside
their enum that are reached each of them reports all, each once: what the findings with the one code
say is allowed, and where, is up to the order what the findings with the other code say.
-/

namespace RequestContract

variable {s : Schema} {nested : Coverage} {r : RecordType} {ms : List (String × Json)}
  {o : MemberOrder} {code code' : String}

/-! ### What is said to be allowed -/

/-- The values that are allowed in place of a string outside its enum. -/
def Violation.allowed : Violation → List String
  | enumValueNotAllowed _ vs => vs
  | illegalEnumValue _ vs => vs
  | _ => []

/-- Where the findings with a code are, each with the values that it says are allowed. -/
def Finding.allowances (code : String) (xs : List Finding) : List (Location × List String) :=
  (xs.filter fun x => x.code == code).map fun x => (x.location, x.violation.allowed)

namespace Breach

/-- The ways of the breaches with a code, each with the values that it says are allowed. -/
def allowances (code : String) (bs : List Breach) : List (List Path.Component × List String) :=
  (bs.filter fun b => b.violation.code == code).map fun b => (b.way, b.violation.allowed)

variable {bs cs : List Breach}

lemma mem_allowances {k : List Path.Component × List String} : k ∈ allowances code bs ↔
    ∃ b ∈ bs, b.violation.code = code ∧ (b.way, b.violation.allowed) = k := by
  simp [allowances, and_assoc]

lemma allowances_append :
    allowances code (bs ++ cs) = allowances code bs ++ allowances code cs := by
  rw [allowances, List.filter_append, List.map_append]
  rfl

lemma allowances_eq_nil {codes : List String} (h : ∀ b ∈ bs, b.violation.code ∈ codes)
    (hc : code ∉ codes) : allowances code bs = [] := by
  rw [allowances, List.map_eq_nil_iff, List.filter_eq_nil_iff]
  intro b hb hcode
  exact hc (eq_of_beq hcode ▸ h b hb)

/-- The code being the same, only the ways tell apart what is not reported twice. -/
lemma nodup_allowances (h : (bs.map key).Nodup) (code : String) : (allowances code bs).Nodup := by
  have hkeys : (allowances code bs).map (fun k => (k.1, code))
      = (bs.filter fun b => b.violation.code == code).map key := by
    rw [allowances, List.map_map]
    apply List.map_congr_left
    intro b hb
    have hcode := (List.mem_filter.mp hb).2
    rw [key, eq_of_beq hcode]
    rfl
  refine List.Nodup.of_map (fun k => (k.1, code)) ?_
  rw [hkeys]
  exact (List.filter_sublist.map key).nodup h

lemma allowances_map_findingAt (p : Path) (bs : List Breach) :
    Finding.allowances code (bs.map (findingAt p))
      = (allowances code bs).map fun k => (.within (p.pushMany k.1), k.2) := by
  rw [Finding.allowances, allowances, List.filter_map, List.map_map, List.map_map]
  rfl

end Breach

/-! ### Both walks tell enums -/

/-- The value is a string outside its enum, whose values are `vs`. -/
def Spot.OutsideEnum (a : Spot) (vs : List String) : Prop :=
  a.type = .enum ∧ vs = a.field.allowedValues ∧ ∃ t, a.value = .string t ∧ t ∉ vs

/-- With the code the walk reports that a value is a string outside its enum, and nothing else. -/
def Walk.TellsEnums (w : Walk) (code : String) : Prop :=
  ∀ a k, k ∈ Breach.allowances code (w.look a) ↔ k.1 = [] ∧ a.OutsideEnum k.2

lemma tellsEnums_shapeWalk : (shapeWalk s nested).TellsEnums "enum_value_not_allowed" := by
  rintro a ⟨q, vs⟩
  rw [Breach.mem_allowances]
  constructor
  · rintro ⟨b, hb, hc, hk⟩
    rcases Spot.mem_shapeBreaches.mp hb with
      ⟨-, rfl⟩ | ⟨t, ht, hv, hm, rfl⟩ | ⟨n, r, ms, -, -, -, hb⟩
    · exact absurd hc (by simp [Breach.here, Spot.incorrectType, Violation.code])
    · obtain ⟨rfl, rfl⟩ := Prod.mk.inj hk
      exact ⟨rfl, ht, rfl, t, hv, hm⟩
    · exact absurd (hc ▸ Coverage.code_mem_coverageCodes hb) (by decide)
  · rintro ⟨rfl, ht, rfl, t, hv, hm⟩
    exact ⟨_, Spot.mem_shapeBreaches.mpr (.inr (.inl ⟨t, ht, hv, hm, rfl⟩)), rfl, rfl⟩

lemma tellsEnums_contentWalk : contentWalk.TellsEnums "illegal_enum_value" := by
  rintro a ⟨q, vs⟩
  rw [Breach.mem_allowances]
  constructor
  · rintro ⟨b, hb, hc, hk⟩
    obtain ⟨v, hv, rfl⟩ := List.mem_map.mp hb
    obtain ⟨rfl, rfl⟩ := Prod.mk.inj hk
    rw [Spot.mem_contentViolations] at hv
    cases hv with
    | enum ht hv hm => exact ⟨rfl, ht, rfl, _, hv, hm⟩
    | _ => exact absurd hc (by simp [Breach.here, Violation.code])
  · rintro ⟨rfl, ht, rfl, t, hv, hm⟩
    have hbreaks := Spot.mem_contentViolations.mpr (.enum ht hv hm)
    exact ⟨_, List.mem_map_of_mem hbreaks, rfl, rfl⟩

namespace Walk.TellsEnums

variable {w w' : Walk}

/-- With the code the walk reports the strings outside their enum that are reached. -/
lemma mem_allowances_iff (hw : w.TellsEnums code) (hd : (Json.object ms).DistinctKeys)
    {k : List Path.Component × List String} :
    k ∈ Breach.allowances code (w.reportsAfter s (o.spots r ms)) ↔
      ∃ a, s.Reached r ms k.1 a ∧ a.OutsideEnum k.2 := by
  rw [Breach.mem_allowances]
  constructor
  · rintro ⟨b, hb, hc, rfl⟩
    obtain ⟨q, a, x, ha, hx, rfl⟩ := (mem_reportsAfter_spots_iff hd).mp hb
    obtain ⟨hway, houtside⟩ : x.way = [] ∧ a.OutsideEnum x.violation.allowed :=
      (hw a _).mp (Breach.mem_allowances.mpr ⟨x, hx, hc, rfl⟩)
    refine ⟨a, ?_, houtside⟩
    rwa [Breach.along, hway, List.append_nil]
  · rintro ⟨a, ha, houtside⟩
    obtain ⟨x, hx, hc, hk⟩ := Breach.mem_allowances.mp ((hw a ([], k.2)).mpr ⟨rfl, houtside⟩)
    obtain ⟨hway, hvs⟩ := Prod.mk.inj hk
    refine ⟨x.along k.1, (mem_reportsAfter_spots_iff hd).mpr ⟨k.1, a, x, ha, hx, rfl⟩, hc, ?_⟩
    rw [Breach.along, hway, hvs, List.append_nil]

/-- Two walks that tell enums tell the same of them, up to the order. -/
theorem perm (hw : w.TellsEnums code) (hw' : w'.TellsEnums code') (hn : w.IsNeat s)
    (hn' : w'.IsNeat s) (hd : (Json.object ms).DistinctKeys) :
    (Breach.allowances code (w.reportsAfter s (o.spots r ms))).Perm
      (Breach.allowances code' (w'.reportsAfter s (o.spots r ms))) := by
  rw [List.perm_ext_iff_of_nodup
    (Breach.nodup_allowances (nodup_reportsAfter_spots hd hn) code)
    (Breach.nodup_allowances (nodup_reportsAfter_spots hd hn') code')]
  intro k
  rw [hw.mem_allowances_iff hd, hw'.mem_allowances_iff hd]

end Walk.TellsEnums

/-! ### In a validation -/

namespace Validator

variable {strict : Bool} {request : Request}

/-- Each of the two codes is that of one walk. -/
lemma allowances_partBreaches_perm (hd : (Json.object ms).DistinctKeys) :
    (Breach.allowances "enum_value_not_allowed"
        ((Validator.mk s ⟨true, strict⟩).partBreaches r ms)).Perm
      (Breach.allowances "illegal_enum_value"
        ((Validator.mk s ⟨true, strict⟩).partBreaches r ms)) := by
  have hcoverage : Breach.allowances "enum_value_not_allowed" (Coverage.strict.breaches r ms)
      = [] :=
    Breach.allowances_eq_nil (fun b => Coverage.code_mem_coverageCodes) (by decide)
  have hcontent : Breach.allowances "enum_value_not_allowed"
      (contentWalk.reportsAfter s (MemberOrder.declared.spots r ms)) = [] :=
    Breach.allowances_eq_nil (fun b => code_mem_of_mem_contentWalk) (by decide)
  have hcoverage' : Breach.allowances "illegal_enum_value" (Coverage.strict.breaches r ms) = [] :=
    Breach.allowances_eq_nil (fun b => Coverage.code_mem_coverageCodes) (by decide)
  have hshape (nested : Coverage) : Breach.allowances "illegal_enum_value"
      ((shapeWalk s nested).reportsAfter s (MemberOrder.declared.spots r ms)) = [] :=
    Breach.allowances_eq_nil (fun b => code_mem_of_mem_shapeWalk) (by decide)
  simp only [partBreaches, if_true]
  simp only [Breach.allowances_append, hcoverage, hcontent, hcoverage', hshape, List.nil_append,
    List.append_nil]
  exact tellsEnums_shapeWalk.perm tellsEnums_contentWalk shapeWalk_isNeat contentWalk_isNeat hd

lemma allowances_categoryFindings_perm (hd : request.DistinctKeys) (c : Category)
    (r : RecordType) :
    (Finding.allowances "enum_value_not_allowed"
        ((Validator.mk s ⟨true, strict⟩).categoryFindings request c r)).Perm
      (Finding.allowances "illegal_enum_value"
        ((Validator.mk s ⟨true, strict⟩).categoryFindings request c r)) := by
  rw [categoryFindings]
  cases hp : request.part c with
  | none => exact .refl _
  | some ms =>
    simp only [Breach.allowances_map_findingAt]
    exact (allowances_partBreaches_perm (hd c ms hp)).map _

/-- If contents are checked too, the structural check and the content check find strings outside
their enum at the same places, up to the order, and name the same values as allowed there. -/
theorem allowances_perm (s : Schema) (strict : Bool) (hd : request.DistinctKeys) :
    (Finding.allowances "enum_value_not_allowed"
        ((Validator.mk s ⟨true, strict⟩).validate request).findings).Perm
      (Finding.allowances "illegal_enum_value"
        ((Validator.mk s ⟨true, strict⟩).validate request).findings) := by
  rw [findings_validate, Finding.allowances, Finding.allowances, List.filter_flatMap,
    List.filter_flatMap, List.map_flatMap, List.map_flatMap]
  exact List.Perm.flatMap_left _ fun e _ => allowances_categoryFindings_perm hd e.1 e.2

end Validator

/-! ### A grafted tree -/

namespace Orchard

/-- A fig tree that a plum tree grows on, neither of a kind that is known. The branches are given
before the kind, though declared after it. -/
def graftedMembers : List (String × Json) :=
  [("rows", .array [.array [.object [
    ("branches", .array [.object [("tree", .object [("kind", .string "plum")])]]),
    ("kind", .string "fig")]]])]

def graftedRequest : Request := Request.empty.withMembers .body graftedMembers

lemma distinctKeys_graftedRequest : graftedRequest.DistinctKeys := by
  refine Request.distinctKeys_empty.withMembers .body ?_
  simp [graftedMembers, Json.DistinctKeys, Json.DistinctKeysItems, Json.DistinctKeysMembers]

/-- Where the kind of the fig tree stands. -/
def atFig : Path := ⟨[.property "body", .property "rows", .index 0, .index 0, .property "kind"]⟩

/-- Where the kind of the plum tree stands. -/
def atPlum : Path := ⟨[.property "body", .property "rows", .index 0, .index 0,
  .property "branches", .index 0, .property "tree", .property "kind"]⟩

/-- The structural check finds the plum first and the content check the fig. -/
theorem allowances_perm_grafted :
    graftedRequest.DistinctKeys ∧
    Finding.allowances "enum_value_not_allowed" (validator.validate graftedRequest).findings
      = [(.within atPlum, ["apple", "pear"]), (.within atFig, ["apple", "pear"])] ∧
    Finding.allowances "illegal_enum_value" (validator.validate graftedRequest).findings
      = [(.within atFig, ["apple", "pear"]), (.within atPlum, ["apple", "pear"])] ∧
    (Finding.allowances "enum_value_not_allowed" (validator.validate graftedRequest).findings).Perm
      (Finding.allowances "illegal_enum_value" (validator.validate graftedRequest).findings) :=
  ⟨distinctKeys_graftedRequest, by with_unfolding_all rfl, by with_unfolding_all rfl,
    Validator.allowances_perm schema true distinctKeys_graftedRequest⟩

end Orchard

end RequestContract
