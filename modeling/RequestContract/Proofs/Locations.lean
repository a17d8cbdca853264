import RequestContract.Proofs.Categories
import RequestContract.Proofs.Path.Reading

/-!
# What locations tell apart

Findings that are made at different paths should have different locations, since the location is all
that is shown. This is so as long as the names on the paths are legible: a name with a point is put
between quotes and cannot be taken for two names, as `Validator.location_render_eq_iff` says.

It is not so of all names. A name that ends in a bracketed number reads like a position in a list,
so a finding at the one has the location of a finding at the other.
-/

namespace RequestContract

/-! ### Names that are not legible -/

namespace Path

/-- A bracketed number at the end of a name reads like a position. -/
lemma chars_bracketed {k : String} (h : '.' ∉ k.toList) (i : Nat) :
    (Component.property (k ++ (Component.index i).render)).chars
      = (Component.property k).chars ++ (Component.index i).chars := by
  have hdigits : '.' ∉ (Component.index i).chars := by
    intro hmem
    rw [Component.chars, Nat.toString_eq_ofList_toDigits, String.toList_ofList] at hmem
    have hdigit : '.' ∈ Nat.toDigits 10 i := by simpa using hmem
    have := Nat.isDigit_of_mem_toDigits (by decide) (by decide) hdigit
    exact absurd this (by decide)
  have htext : (k ++ (Component.index i).render).toList
      = k.toList ++ (Component.index i).chars := by
    rw [String.toList_append, Component.render, String.toList_ofList]
  have hnot : '.' ∉ (k ++ (Component.index i).render).toList := by
    rw [htext, List.mem_append, not_or]
    exact ⟨h, hdigits⟩
  rw [Component.chars, if_neg hnot, Component.chars, if_neg h, htext, List.cons_append]

lemma render_bracketed {k : String} (h : '.' ∉ k.toList) (i : Nat) (cs ds : List Component) :
    (Path.mk (cs ++ .property (k ++ (Component.index i).render) :: ds)).render
      = (Path.mk (cs ++ .property k :: .index i :: ds)).render := by
  rw [render, render, chars, chars]
  simp only [List.flatMap_append, List.flatMap_cons, chars_bracketed h, List.append_assoc]

end Path

/-! ### Names that are legible -/

namespace Validator

variable {v : Validator} {request : Request} {x y : Finding}

/-- Unless a category is missing, a finding is made below a category. -/
lemma exists_location_eq (hx : x ∈ (v.validate request).findings)
    (hm : ∀ c, x.violation ≠ .rootMissing c) :
    ∃ k cs, x.location = .within ⟨.property k :: cs⟩ := by
  obtain ⟨c, r, -, ⟨-, rfl⟩ | ⟨ms, -, b, -, rfl⟩⟩ := mem_findings_validate_iff.mp hx
  · exact absurd rfl (hm c)
  · exact ⟨c.name, b.way, rfl⟩

/-- Two findings, other than that a category is missing, have the same location only if they were
made at the same path, if all names on the two paths are legible. -/
theorem location_render_eq_iff (hx : x ∈ (v.validate request).findings)
    (hy : y ∈ (v.validate request).findings) (hxm : ∀ c, x.violation ≠ .rootMissing c)
    (hym : ∀ c, y.violation ≠ .rootMissing c) :
    ∃ p q, x.location = .within p ∧ y.location = .within q ∧
      (p.Legible → q.Legible → (x.location.render = y.location.render ↔ p = q)) := by
  obtain ⟨k, cs, hxl⟩ := exists_location_eq hx hxm
  obtain ⟨l, ds, hyl⟩ := exists_location_eq hy hym
  refine ⟨_, _, hxl, hyl, fun hp hq => ?_⟩
  rw [hxl, hyl]
  constructor
  · intro h
    exact Path.render_injective hp hq h
  · intro h
    rw [h]

end Validator

/-! ### Labels -/

namespace Orchard

def label : FieldDecl := .ofType "string"

def labels : FieldDecl := .ofType "array[string]"

def rowOfLabels : FieldDecl := .ofType "Row"

/-- A label under a name with a point, and one below a name with the same start. -/
def pointedDecl : SchemaDecl := ⟨.ofList [
  ("body", .ofList [("row.end", label), ("row", rowOfLabels)]),
  ("Row", .ofList [("end", label)])]⟩

def pointed : Validator := ⟨⟨.ofList [
  ("body", .ofList [("row.end", .ofDecl (.primitive .string) label),
    ("row", .ofDecl (.named "Row") rowOfLabels)]),
  ("Row", .ofList [("end", .ofDecl (.primitive .string) label)])]⟩, Options.standard⟩

/-- Both labels are numbers. -/
def pointedRequest : Request := Request.empty.withMembers .body
  [("row.end", .number (.integer 1)), ("row", .object [("end", .number (.integer 2))])]

lemma resolve_pointedDecl : pointedDecl.resolve = .ok pointed.schema := by
  with_unfolding_all rfl

/-- Where the first label is found. -/
def atRowEnd : Path := ⟨[.property "body", .property "row.end"]⟩

/-- Where the second label is found. -/
def atEndOfRow : Path := ⟨[.property "body", .property "row", .property "end"]⟩

lemma findings_pointed : (pointed.validate pointedRequest).findings = [
    ⟨.within atRowEnd, .incorrectType "row.end" "" "string"⟩,
    ⟨.within atEndOfRow, .incorrectType "end" "" "string"⟩] := by
  with_unfolding_all rfl

lemma legible_atRowEnd : atRowEnd.Legible := by
  simp [atRowEnd, Path.Legible, Path.Component.legible_property]

lemma legible_atEndOfRow : atEndOfRow.Legible := by
  simp [atEndOfRow, Path.Legible, Path.Component.legible_property]

/-- Only the quotes tell the locations of the two labels apart. -/
theorem location_render_eq_iff_pointed :
    pointedDecl.resolve = .ok pointed.schema ∧
    ∃ x ∈ (pointed.validate pointedRequest).findings,
    ∃ y ∈ (pointed.validate pointedRequest).findings,
      (∀ c, x.violation ≠ .rootMissing c) ∧ (∀ c, y.violation ≠ .rootMissing c) ∧
      x.location = .within atRowEnd ∧ y.location = .within atEndOfRow ∧
      atRowEnd.Legible ∧ atEndOfRow.Legible ∧
      x.location.render = "body.\"row.end\"" ∧ y.location.render = "body.row.end" ∧
      x.location.render ≠ y.location.render := by
  have hx : ⟨.within atRowEnd, .incorrectType "row.end" "" "string"⟩
      ∈ (pointed.validate pointedRequest).findings := by
    rw [findings_pointed]
    exact List.mem_cons_self
  have hy : ⟨.within atEndOfRow, .incorrectType "end" "" "string"⟩
      ∈ (pointed.validate pointedRequest).findings := by
    rw [findings_pointed]
    exact List.mem_cons_of_mem _ (List.mem_singleton_self _)
  obtain ⟨p, q, hp, hq, h⟩ := Validator.location_render_eq_iff hx hy nofun nofun
  cases hp
  cases hq
  refine ⟨resolve_pointedDecl, _, hx, _, hy, nofun, nofun, rfl, rfl, legible_atRowEnd,
    legible_atEndOfRow, by decide, by decide, ?_⟩
  intro heq
  exact absurd ((h legible_atRowEnd legible_atEndOfRow).mp heq) (by decide)

/-- A label under a name that reads like the first of a row, and a row of labels. -/
def bracketedDecl : SchemaDecl := ⟨.ofList [("body", .ofList [("row[0]", label), ("row", labels)])]⟩

def bracketed : Validator := ⟨⟨.ofList [("body", .ofList [
  ("row[0]", .ofDecl (.primitive .string) label),
  ("row", .ofDecl (.array (.primitive .string)) labels)])]⟩, Options.standard⟩

/-- All labels are numbers. -/
def bracketedRequest : Request := Request.empty.withMembers .body
  [("row[0]", .number (.integer 1)), ("row", .array [.number (.integer 2)])]

lemma resolve_bracketedDecl : bracketedDecl.resolve = .ok bracketed.schema := by
  with_unfolding_all rfl

lemma findings_bracketed : (bracketed.validate bracketedRequest).findings = [
    ⟨.within ⟨[.property "body", .property "row[0]"]⟩, .incorrectType "row[0]" "" "string"⟩,
    ⟨.within ⟨[.property "body", .property "row", .index 0]⟩,
      .incorrectType "row" "[0]" "string"⟩] := by
  with_unfolding_all rfl

/-- Different paths do not always have different locations: the label under the one name and the
first of the row are both found at the same location. -/
theorem not_forall_location_render_ne :
    ¬ ∀ (d : SchemaDecl) (s : Schema) (o : Options) (request : Request) (x y : Finding)
        (p q : Path), d.resolve = .ok s →
      x ∈ ((Validator.mk s o).validate request).findings →
      y ∈ ((Validator.mk s o).validate request).findings →
      x.location = .within p → y.location = .within q → p ≠ q →
      x.location.render ≠ y.location.render := by
  intro h
  refine h bracketedDecl bracketed.schema bracketed.options bracketedRequest _ _ _ _
    resolve_bracketedDecl
    (findings_bracketed.symm ▸ List.mem_cons_self)
    (findings_bracketed.symm ▸ List.mem_cons_of_mem _ (List.mem_singleton_self _))
    rfl rfl (by decide) ?_
  exact Path.render_bracketed (k := "row") (by decide) 0 [.property "body"] []

end Orchard

end RequestContract
