import RequestContract.Proofs.Check.Content
import RequestContract.Proofs.Check.Structure

/-!
# Checks only add findings

All checks of a request go through one context, with one path and one list of findings. Each comes
back to the path from which it started. To the findings it only adds, and what it adds depends on
that path, but not on what has been found before. `Check.Framed` says so of a check, and
`Schema.checks_framed` that it is so of the checks of a value and of an object.

The members of an object are checked at paths that end in their names, so there a check is a walk
over spots. A value may be checked at any path, also at one that ends in positions of which its
field knows nothing. For the content check that changes no more than texts; for the structural check
the argument is by recursion on the value, down to the objects in it.
-/

namespace RequestContract

namespace Check

/-- The check comes back to its path, and what it adds to the findings depends on that path only. -/
def Framed (check : Check) : Prop :=
  ∃ found : Path → List Finding,
    ∀ ctx : Context, check ctx = ⟨ctx.path, ctx.findings ++ found ctx.path⟩

variable {check : Check}

lemma Framed.of_reports (h : ∀ p, ∃ bs, check.Reports p bs) : check.Framed := by
  choose bs hbs using h
  exact ⟨fun p => (bs p).map (Breach.findingAt p), fun ctx => hbs ctx.path ctx.findings⟩

/-- Going on from an empty list of findings and adding them afterwards makes no difference. -/
lemma Framed.join_branch (h : check.Framed) (ctx : Context) :
    ctx.join (check ctx.branch) = check ctx := by
  obtain ⟨found, hfound⟩ := h
  rw [hfound, hfound]
  rfl

/-- The elements of a list are checked with something to report if each of them is. -/
lemma Reports.exists_items {check : Json → Check} {p : Path} {items : List Json}
    (h : ∀ v ∈ items, ∀ i, ∃ bs, (check v).Reports (p.push (.index i)) bs) :
    ∃ bs, (Check.inOrder (items.zipIdx.map fun x =>
      Check.inside (.index x.2) (check x.1))).Reports p bs := by
  have hitem : ∀ x ∈ items.zipIdx, ∃ bs, (Check.inside (.index x.2) (check x.1)).Reports p bs := by
    intro x hx
    obtain ⟨bs, hbs⟩ := h x.1 (List.fst_mem_of_mem_zipIdx hx) x.2
    exact ⟨_, hbs.inside⟩
  choose! bs hbs using hitem
  exact ⟨_, .inOrder hbs⟩

end Check

namespace Schema

/-! ### The structural check -/

lemma exists_reports_reportIncorrectType (name : String) (t : FieldType) (p : Path) :
    ∃ bs, (reportIncorrectType name t).Reports p bs :=
  ⟨_, fun fs => Check.Reports.single p (.incorrectType name p.indexSuffix.render t.render) fs⟩

lemma exists_reports_checkScalar (name : String) (f : Field) (v : Json) (p : Path) :
    ∃ bs, (checkValue.checkScalar name f v).Reports p bs := by
  rw [checkValue.checkScalar.eq_def]
  split
  · exact ⟨_, .idle p⟩
  · split
    · exact ⟨_, .idle p⟩
    · exact exists_reports_reportIncorrectType name _ p
  · split
    · exact ⟨_, .idle p⟩
    · exact ⟨_, .single p _⟩
  · exact exists_reports_reportIncorrectType name _ p

lemma exists_reports_checkValue (s : Schema) (nested : Coverage) (name : String) (f : Field)
    (v : Json) (p : Path) : ∃ bs, (s.checkValue nested name f v).Reports p bs := by
  match v with
  | .null | .bool _ | .number _ | .string _ =>
    rw [checkValue]
    exact exists_reports_checkScalar name f _ p
  | .array items =>
    rw [checkValue]
    cases f.type with
    | any => exact ⟨_, .idle p⟩
    | array t =>
      cases f.element? with
      | none => exact ⟨_, .idle p⟩
      | some e =>
        simp only [checkItems_eq]
        refine Check.Reports.exists_items fun v hv i => ?_
        have := List.sizeOf_lt_of_mem hv
        exact exists_reports_checkValue s nested name e v (p.push (.index i))
    | _ => exact exists_reports_reportIncorrectType name _ p
  | .object ms =>
    cases ht : f.type with
    | named n =>
      cases hr : s.type? n with
      | none =>
        rw [checkValue, ht]
        simp only [hr]
        exact ⟨_, .idle p⟩
      | some r => exact ⟨_, reports_checkValue_object ht hr p⟩
    | any =>
      rw [checkValue, ht]
      exact ⟨_, .idle p⟩
    | _ =>
      rw [checkValue, ht]
      exact exists_reports_reportIncorrectType name _ p
termination_by sizeOf v

/-! ### The content check -/

lemma exists_reports_sanitizeValue (s : Schema) (name : String) (f : Field) (v : Json) (p : Path) :
    ∃ bs, (s.sanitizeValue name f v).Reports p bs := by
  obtain ⟨bs, hbs, -⟩ := s.exists_reports_sanitizeSpot (.ofField name f v) p
  rw [sanitizeSpot_ofField] at hbs
  exact ⟨bs, hbs⟩

/-! ### The main result -/

/-- Whatever is checked, with whatever configuration and from whatever context, the path is as
before, and the findings that are added depend on the path alone. So the content check can as well
be run on a branch that is joined afterwards. -/
theorem checks_framed (s : Schema) (nested coverage : Coverage) (name : String) (f : Field)
    (v : Json) (r : RecordType) (ms : List (String × Json)) :
    (s.checkValue nested name f v).Framed ∧ (s.checkObject nested coverage r ms).Framed ∧
    (s.sanitizeValue name f v).Framed ∧ (s.sanitizeObject r ms).Framed ∧
    ∀ ctx : Context,
      ctx.join (s.sanitizeValue name f v ctx.branch) = s.sanitizeValue name f v ctx ∧
      ctx.join (s.sanitizeObject r ms ctx.branch) = s.sanitizeObject r ms ctx := by
  have hvalue : (s.sanitizeValue name f v).Framed :=
    .of_reports fun p => s.exists_reports_sanitizeValue name f v p
  have hobject : (s.sanitizeObject r ms).Framed := .of_reports fun p => ⟨_, reports_sanitizeObject p⟩
  refine ⟨.of_reports fun p => s.exists_reports_checkValue nested name f v p,
    .of_reports fun p => ⟨_, reports_checkObject p⟩, hvalue, hobject, fun ctx => ?_⟩
  exact ⟨hvalue.join_branch ctx, hobject.join_branch ctx⟩

end Schema

end RequestContract
