import RequestContract.Proofs.Check.Content
import RequestContract.Proofs.Check.Structure

/-!
# Objects are checked alike wherever they occur

An object of a declared type can be a whole category or lie anywhere inside one. A category is
checked in the order of declaration and an object inside it in its own order, but
`checkObject_perm_checkValue` says that both report the same, up to order, if keys are covered in
the same way.

Where the object lies does not matter either. What is reported inside it depends on the way from the
object only, and `checkObject_sanitizeObject_alikeAt` says that at two paths just the start of the
locations is different.
-/

namespace RequestContract

variable {s : Schema} {nested coverage : Coverage} {r : RecordType} {ms : List (String × Json)}

/-! ### In the order of declaration or as given -/

/-- In each order the same declared members are there. -/
lemma MemberOrder.spots_perm (h : (ms.map Prod.fst).Nodup) (o o' : MemberOrder) :
    (o.spots r ms).Perm (o'.spots r ms) := by
  have hsub {o o' : MemberOrder} : o.spots r ms ⊆ o'.spots r ms := by
    rintro ⟨c, a⟩ hn
    obtain ⟨k, f, v, hk, hf, rfl, rfl⟩ := of_mem_spots hn
    exact mem_spots h hk hf
  rw [List.perm_ext_iff_of_nodup (nodup_steps h).of_map (nodup_steps h).of_map]
  exact fun _ => ⟨fun hn => hsub hn, fun hn => hsub hn⟩

/-- An object of a declared type has the same findings as a category and inside of one, up to
order. -/
theorem checkObject_perm_checkValue {n : String} {f : Field} (hk : (ms.map Prod.fst).Nodup)
    (hr : s.type? n = some r) (ht : f.type = .named n) (c : Coverage) (name : String)
    (ctx : Context) :
    ∃ found found' : List Finding,
      s.checkObject c c r ms ctx = { ctx with findings := ctx.findings ++ found } ∧
      s.checkValue c name f (.object ms) ctx = { ctx with findings := ctx.findings ++ found' } ∧
      found.Perm found' ∧ (found = [] ↔ found' = []) := by
  have hreports : ((shapeWalk s c).reportsAfter s (MemberOrder.declared.spots r ms)).Perm
      ((shapeWalk s c).reportsAfter s (MemberOrder.given.spots r ms)) :=
    (MemberOrder.spots_perm hk .declared .given).flatMap_right _
  have hfound := (hreports.append_left (c.breaches r ms)).map (Breach.findingAt ctx.path)
  refine ⟨_, _, reports_checkObject ctx.path ctx.findings,
    reports_checkValue_object ht hr ctx.path ctx.findings, hfound, ?_⟩
  rw [← List.length_eq_zero_iff, hfound.length_eq, List.length_eq_zero_iff]

/-! ### A tree with its branches in front -/

namespace Orchard

/-- The type of a tree. -/
def treeRecord : RecordType := .ofList [("kind", .ofDecl .enum kind),
  ("branches", .ofDecl (.array (.named "Branch")) branches)]

/-- A tree with its branches in front, and nothing as it should be. -/
def oddTree : List (String × Json) :=
  [("branches", .array [.object [("name", .string "leaf")], .null]), ("kind", .string "plum")]

/-- At the second tree of a row, the query having been missed before. -/
def inRow : Context := ⟨⟨[.property "body", .property "rows", .index 0, .index 1]⟩,
  [⟨.request, .rootMissing .query⟩]⟩

lemma nodup_keys_oddTree : (oddTree.map Prod.fst).Nodup := by
  decide

/-- As a category an odd tree has the wrong kind first, inside of one it has that last. -/
theorem checkObject_perm_checkValue_oddTree :
    decl.resolve = .ok schema ∧ (oddTree.map Prod.fst).Nodup ∧
    schema.type? "Tree" = some treeRecord ∧
    (Field.ofDecl (.named "Tree") tree).type = .named "Tree" ∧
    ∃ found found' : List Finding,
      schema.checkObject .strict .strict treeRecord oddTree inRow
        = { inRow with findings := inRow.findings ++ found } ∧
      schema.checkValue .strict "rows" (.ofDecl (.named "Tree") tree) (.object oddTree) inRow
        = { inRow with findings := inRow.findings ++ found' } ∧
      found.Perm found' ∧ (found = [] ↔ found' = []) ∧
      found.map Finding.code = ["enum_value_not_allowed", "missing_field", "incorrect_type"] ∧
      found'.map Finding.code = ["missing_field", "incorrect_type", "enum_value_not_allowed"] := by
  have htype : schema.type? "Tree" = some treeRecord := by with_unfolding_all rfl
  obtain ⟨found, found', hfound, hfound', hperm, hnil⟩ :=
    checkObject_perm_checkValue (f := .ofDecl (.named "Tree") tree) nodup_keys_oddTree htype rfl
      .strict "rows" inRow
  have hcodes := congrArg (fun ctx => (ctx.findings.drop 1).map Finding.code) hfound
  have hcodes' := congrArg (fun ctx => (ctx.findings.drop 1).map Finding.code) hfound'
  refine ⟨resolve_decl, nodup_keys_oddTree, htype, rfl, found, found', hfound, hfound', hperm, hnil,
    hcodes.symm.trans ?_, hcodes'.symm.trans ?_⟩
  · with_unfolding_all rfl
  · with_unfolding_all rfl

end Orchard

/-! ### At one path or another -/

namespace Check

/-- From both contexts the check finds the same violations in the same order, at locations that go
on in the same way after the path of the context. -/
def AlikeAt (check : Check) (ctx ctx' : Context) : Prop :=
  ∃ (found found' : List Finding) (ends : List String),
    check ctx = { ctx with findings := ctx.findings ++ found } ∧
    check ctx' = { ctx' with findings := ctx'.findings ++ found' } ∧
    found.map Finding.violation = found'.map Finding.violation ∧
    found.map (fun x => x.location.render) = ends.map (ctx.path.render ++ ·) ∧
    found'.map (fun x => x.location.render) = ends.map (ctx'.path.render ++ ·)

/-- A check that reports the same breaches everywhere finds alike. -/
lemma Reports.alikeAt {check : Check} {bs : List Breach} (h : ∀ p, check.Reports p bs)
    {ctx ctx' : Context} (hp : ctx.path ≠ Path.root) (hp' : ctx'.path ≠ Path.root) :
    check.AlikeAt ctx ctx' := by
  have hrender {p : Path} (hp : p ≠ Path.root) (b : Breach) : (b.findingAt p).location.render
      = p.render ++ String.ofList (b.way.flatMap Path.Component.chars) :=
    Path.render_pushMany hp b.way
  refine ⟨_, _, bs.map fun b => String.ofList (b.way.flatMap Path.Component.chars),
    h ctx.path ctx.findings, h ctx'.path ctx'.findings, ?_, ?_, ?_⟩
  · rw [List.map_map, List.map_map]
    rfl
  · simp only [List.map_map, Function.comp_def, hrender hp]
  · simp only [List.map_map, Function.comp_def, hrender hp']

end Check

/-- At two paths an object has the same findings in the same order, but for the text of the path in
front of each location. -/
theorem checkObject_sanitizeObject_alikeAt (s : Schema) (nested coverage : Coverage)
    (r : RecordType) (ms : List (String × Json)) {ctx ctx' : Context}
    (hp : ctx.path ≠ Path.root) (hp' : ctx'.path ≠ Path.root) :
    (s.checkObject nested coverage r ms).AlikeAt ctx ctx' ∧
    (s.sanitizeObject r ms).AlikeAt ctx ctx' :=
  ⟨Check.Reports.alikeAt reports_checkObject hp hp',
    Check.Reports.alikeAt reports_sanitizeObject hp hp'⟩

namespace Orchard

/-- At a list in a list, which is no place for a category. -/
def inList : Context := ⟨⟨[.index 3, .index 0]⟩, []⟩

/-- An odd tree in a row and one in a list are found to be odd in the same ways. -/
theorem checkObject_sanitizeObject_alikeAt_oddTree :
    inRow.path ≠ Path.root ∧ inList.path ≠ Path.root ∧
    (schema.checkObject .strict .strict treeRecord oddTree).AlikeAt inRow inList ∧
    (schema.sanitizeObject treeRecord oddTree).AlikeAt inRow inList := by
  have hrow : inRow.path ≠ Path.root := by decide
  have hlist : inList.path ≠ Path.root := by decide
  exact ⟨hrow, hlist, checkObject_sanitizeObject_alikeAt _ _ _ _ _ hrow hlist⟩

end Orchard

end RequestContract
