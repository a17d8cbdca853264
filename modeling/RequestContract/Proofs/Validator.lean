import RequestContract.Proofs.Check.Conformance
import RequestContract.Proofs.Request
import RequestContract.Validator

/-!
# What a validator reports

The findings of a validation are those of the declared categories, one category after the other. Of
a category that is there they are the breaches that the structural check reports, followed by those
of the content check if the options ask for it.

`isValid_validate_iff` says that a request is valid if and only if each declared category is there
and conforms to its type.
-/

namespace RequestContract

namespace Validator

variable {v : Validator} {r : RecordType} {ms : List (String × Json)} {request : Request}

/-! ### Findings -/

/-- The breaches inside a category, in the order in which they are reported. -/
def partBreaches (v : Validator) (r : RecordType) (ms : List (String × Json)) : List Breach :=
  Coverage.strict.breaches r ms
    ++ (shapeWalk v.schema v.options.nestedCoverage).reportsAfter v.schema
      (MemberOrder.declared.spots r ms)
    ++ if v.options.sanitize then
        contentWalk.reportsAfter v.schema (MemberOrder.declared.spots r ms)
      else []

/-- The findings in a category. -/
def categoryFindings (v : Validator) (request : Request) (c : Category) (r : RecordType) :
    List Finding :=
  match request.part c with
  | some ms => (v.partBreaches r ms).map (Breach.findingAt (Path.root.push (.property c.name)))
  | none => [⟨.request, .rootMissing c⟩]

/-- What is found on a branch is joined to what the structural check has found. -/
lemma reports_checkPart (p : Path) : (v.checkPart r ms).Reports p (v.partBreaches r ms) := by
  intro fs
  rw [checkPart, partBreaches, reports_checkObject p fs]
  cases v.options.sanitize with
  | false => simp
  | true => simp [Context.branch, Context.join, reports_sanitizeObject p []]

lemma checkCategory_eq (c : Category) (fs : List Finding) :
    v.checkCategory request c r ⟨Path.root, fs⟩
      = ⟨Path.root, fs ++ v.categoryFindings request c r⟩ := by
  simp only [checkCategory, categoryFindings, Request.category_eq_part]
  cases request.part c with
  | none =>
    simp only [Check.inside, Context.within, Context.descend, Context.reportAt,
      Path.truncate_push]
  | some ms =>
    rw [(reports_checkPart _).inside fs, List.map_map]
    rfl

theorem findings_validate (v : Validator) (request : Request) : (v.validate request).findings
    = v.schema.roots.flatMap fun e => v.categoryFindings request e.1 e.2 := by
  have h (es : List (Category × RecordType)) (fs : List Finding) :
      Check.inOrder (es.map fun e => v.checkCategory request e.1 e.2) ⟨Path.root, fs⟩
        = ⟨Path.root, fs ++ es.flatMap fun e => v.categoryFindings request e.1 e.2⟩ := by
    induction es generalizing fs with
    | nil => simp
    | cons e es ih =>
      rw [List.map_cons, Check.inOrder_cons, checkCategory_eq, ih, List.flatMap_cons,
        List.append_assoc]
  rw [validate, Context.start, h, List.nil_append, Context.toReport]

lemma mem_roots_iff {s : Schema} {c : Category} : (c, r) ∈ s.roots ↔ s.root? c = some r := by
  simp only [Schema.roots, List.mem_filterMap, Option.map_eq_some_iff, Prod.mk.injEq]
  constructor
  · rintro ⟨c, _, r, hr, rfl, rfl⟩
    exact hr
  · intro hr
    exact ⟨c, c.mem_all, r, hr, rfl, rfl⟩

/-- What is found: that a declared category is missing, or a breach inside a declared category. -/
lemma mem_findings_validate_iff {x : Finding} : x ∈ (v.validate request).findings ↔
    ∃ c r, v.schema.root? c = some r ∧ ((request.part c = none ∧ x = ⟨.request, .rootMissing c⟩) ∨
      ∃ ms, request.part c = some ms ∧ ∃ b ∈ v.partBreaches r ms,
        x = b.findingAt (Path.root.push (.property c.name))) := by
  rw [findings_validate, List.mem_flatMap, Prod.exists]
  refine exists_congr fun c => exists_congr fun r => and_congr mem_roots_iff ?_
  cases hp : request.part c <;> simp [categoryFindings, hp, eq_comm]

lemma mem_partBreaches_iff {b : Breach} : b ∈ v.partBreaches r ms ↔
    b ∈ Coverage.strict.breaches r ms ∨
    b ∈ (shapeWalk v.schema v.options.nestedCoverage).reportsAfter v.schema
      (MemberOrder.declared.spots r ms) ∨
    v.options.sanitize = true ∧
      b ∈ contentWalk.reportsAfter v.schema (MemberOrder.declared.spots r ms) := by
  rw [partBreaches, List.mem_append, List.mem_append, or_assoc]
  cases v.options.sanitize <;> simp

/-- Two validations find the same if their schemas declare the same categories and the same is found
in each. -/
lemma validate_eq_of_categories {v' : Validator} {request' : Request}
    (h : ∀ c, Option.Rel (fun r r' => v.categoryFindings request c r
      = v'.categoryFindings request' c r') (v.schema.root? c) (v'.schema.root? c)) :
    v.validate request = v'.validate request' := by
  have hfindings : (v.validate request).findings = (v'.validate request').findings := by
    rw [findings_validate, findings_validate, Schema.roots, Schema.roots,
      List.filterMap_eq_flatMap_toList, List.filterMap_eq_flatMap_toList, List.flatMap_assoc,
      List.flatMap_assoc]
    apply List.flatMap_congr
    intro c _
    have hc := h c
    generalize v.schema.root? c = x, v'.schema.root? c = y at hc ⊢
    cases hc with
    | none => rfl
    | some hr => simpa using hr
  exact congrArg Report.mk hfindings

/-! ### The verdict -/

lemma conformsTo_iff (hs : v.schema.Closed) {n : String} (hr : v.schema.type? n = some r)
    (hd : (Json.object ms).DistinctKeys) :
    v.schema.ConformsTo v.options r ms ↔ v.partBreaches r ms = [] := by
  have hspot (k f w) (hk : (k, w) ∈ ms) (hf : r.get? k = some f) :
      v.schema.Conforms v.options f 0 f.type w ↔
        (shapeWalk v.schema v.options.nestedCoverage).reports v.schema (.ofField k f w) = [] ∧
        (v.options.sanitize = true → contentWalk.reports v.schema (.ofField k f w) = []) :=
    Spot.conforms_iff_reports_eq_nil (a := .ofField k f w) hs (hd.member hk) (hs n r k f hr hf)
  rw [partBreaches, List.append_eq_nil_iff, List.append_eq_nil_iff, Coverage.breaches,
    ← RecordType.covers_iff, Walk.reportsAfter_spots_eq_nil_iff hd.keys,
    ite_eq_right_iff, Walk.reportsAfter_spots_eq_nil_iff hd.keys]
  constructor
  · rintro ⟨hc, hm⟩
    have hspots := fun k f w hk hf => (hspot k f w hk hf).mp (hm k f w hk hf)
    refine ⟨⟨hc, fun k f w hk hf => (hspots k f w hk hf).1⟩, ?_⟩
    intro ho k f w hk hf
    exact (hspots k f w hk hf).2 ho
  · rintro ⟨⟨hc, hshape⟩, hcontent⟩
    refine ⟨hc, ?_⟩
    intro k f w hk hf
    exact (hspot k f w hk hf).mpr ⟨hshape k f w hk hf, fun ho => hcontent ho k f w hk hf⟩

lemma categoryFindings_eq_nil_iff {c : Category} : v.categoryFindings request c r = [] ↔
    ∃ ms, request.part c = some ms ∧ v.partBreaches r ms = [] := by
  rw [categoryFindings]
  cases request.part c <;> simp

lemma isValid_iff_partBreaches : (v.validate request).isValid = true ↔
    ∀ c r, v.schema.root? c = some r →
      ∃ ms, request.part c = some ms ∧ v.partBreaches r ms = [] := by
  rw [Report.isValid_iff, findings_validate, List.flatMap_eq_nil_iff]
  simp only [Prod.forall, mem_roots_iff, categoryFindings_eq_nil_iff]

/-- A request is valid if and only if each category that is declared is there and conforms. -/
theorem isValid_validate_iff {d : SchemaDecl} (hv : d.resolve = .ok v.schema)
    (hd : request.DistinctKeys) :
    (v.validate request).isValid = true ↔ ∀ c r, v.schema.root? c = some r →
      ∃ ms, request.part c = some ms ∧ v.schema.ConformsTo v.options r ms := by
  have hs := SchemaDecl.closed_of_resolve hv
  rw [Report.isValid_iff, findings_validate, List.flatMap_eq_nil_iff]
  simp only [Prod.forall, mem_roots_iff, categoryFindings_eq_nil_iff]
  refine forall_congr' fun c => forall_congr' fun r => forall_congr' fun hr =>
    exists_congr fun ms => and_congr_right fun hm => ?_
  exact (conformsTo_iff hs hr (hd c ms hm)).symm

end Validator

/-! ### An orchard -/

namespace Orchard

/-- A validator that asks for all that can be asked of an orchard. -/
def validator : Validator := ⟨schema, ⟨true, true⟩⟩

/-- A request with an orchard as its body. -/
def request : Request := Request.empty.withMembers .body members

lemma distinctKeys_request : request.DistinctKeys :=
  Request.distinctKeys_empty.withMembers .body distinctKeys_members

/-- An orchard is valid if and only if it conforms, strict options being asked for. -/
theorem isValid_validate_request_iff :
    decl.resolve = .ok validator.schema ∧ request.DistinctKeys ∧
    ((validator.validate request).isValid = true ↔ ∀ c r, validator.schema.root? c = some r →
      ∃ ms, request.part c = some ms ∧ validator.schema.ConformsTo validator.options r ms) :=
  ⟨resolve_decl, distinctKeys_request,
    Validator.isValid_validate_iff resolve_decl distinctKeys_request⟩

end Orchard

end RequestContract
