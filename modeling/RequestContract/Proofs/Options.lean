import RequestContract.Proofs.Check.Codes
import RequestContract.Proofs.Validator

/-!
# Options only add findings

With one option more a validator finds what it found before, in the same order, and more in between.
What the content check adds is told by its code. What strict options add is about the keys of an
object inside a category: such a finding lies more than one step below the category, where without
strict options no missing and no undeclared key is reported at all.

`Validator.findings_eq_filter` says that leaving an option out is leaving out just these findings.
-/

namespace RequestContract

variable {s : Schema} {r : RecordType} {ms : List (String × Json)} {b : Breach}
  {o : MemberOrder} {nested : Coverage}

/-! ### The keys of objects inside a category -/

/-- A breach says of an object inside, which is of a named type, that it lacks a required key or has
one that its type does not declare. -/
inductive Schema.NestedUncovered (s : Schema) (r : RecordType) (ms : List (String × Json)) :
    Breach → Prop
  | inside {q : List Path.Component} {a : Spot} {n : String} {r' : RecordType}
      {ms' : List (String × Json)} {k : String} {v : Violation} (ha : s.Reached r ms q a)
      (ht : a.type = .named n) (hr : s.type? n = some r') (hv : a.value = .object ms')
      (h : r'.Uncovered ms' k v) : NestedUncovered s r ms ⟨q ++ [.property k], v⟩

/-- A finding says so of an object inside a category of the request. -/
def Schema.FindsNestedUncovered (s : Schema) (request : Request) (x : Finding) : Prop :=
  ∃ c r ms b, s.root? c = some r ∧ request.part c = some ms ∧ s.NestedUncovered r ms b ∧
    x = b.findingAt (Path.root.push (.property c.name))

/-- Whether a breach of coverage lies more than one step away. -/
def Breach.isNestedCoverage (b : Breach) : Bool := b.violation.isCoverage && 1 < b.way.length

/-- Whether a missing or undeclared key is that of an object inside a category: the category and the
key are not the only steps to it. -/
def Finding.isNestedCoverage (x : Finding) : Bool :=
  match x.location with
  | .within p => x.violation.isCoverage && 2 < p.length
  | _ => false

lemma Finding.isNestedCoverage_findingAt (c : Category) (b : Breach) :
    (b.findingAt (Path.root.push (.property c.name))).isNestedCoverage = b.isNestedCoverage := by
  have hlength : (Path.root.push (.property c.name)).components.length = 1 := rfl
  simp only [isNestedCoverage, Breach.findingAt, Breach.isNestedCoverage, Path.length,
    Path.components_pushMany, List.length_append, hlength]
  congr 2
  exact propext (by omega)

lemma Coverage.isNestedCoverage_eq_false (h : b ∈ nested.breaches r ms) :
    b.isNestedCoverage = false := by
  obtain ⟨-, k, v, -, rfl⟩ := mem_breaches.mp h
  simp [Breach.isNestedCoverage]

lemma isNestedCoverage_eq_false_of_mem_contentWalk
    (h : b ∈ contentWalk.reportsAfter s (o.spots r ms)) : b.isNestedCoverage = false := by
  have hc := Violation.isCoverage_eq_false_of_mem_contentCodes (code_mem_of_mem_contentWalk h)
  rw [Breach.isNestedCoverage, hc, Bool.false_and]

/-- What the structural check reports below a category about keys is about those of an object
inside. -/
lemma nestedUncovered_of_mem_shapeWalk
    (h : b ∈ (shapeWalk s nested).reportsAfter s (o.spots r ms))
    (hb : b.violation.isCoverage = true) : s.NestedUncovered r ms b := by
  obtain ⟨q, a, x, ha, hx, rfl⟩ := Walk.exists_of_mem_reportsAfter_spots h
  rcases Spot.mem_shapeBreaches.mp hx with
    ⟨-, rfl⟩ | ⟨t, -, -, -, rfl⟩ | ⟨n, r', ms', ht, hv, hr, hx⟩
  · cases hb
  · cases hb
  · obtain ⟨-, k, v, hu, rfl⟩ := Coverage.mem_breaches.mp hx
    exact .inside ha ht hr hv hu

lemma Schema.NestedUncovered.isNestedCoverage (h : s.NestedUncovered r ms b) :
    b.isNestedCoverage = true := by
  obtain ⟨ha, -, -, -, hu⟩ := h
  obtain ⟨k, f, v, q, -, -, rfl, -⟩ := Schema.reached_iff.mp ha
  simp [Breach.isNestedCoverage, hu.isCoverage]

/-! ### Walks that see less -/

namespace Walk

variable {w w' : Walk} {p : Violation → Bool}

lemma reportsAfter_eq_filter {ns : List (Path.Component × Spot)}
    (h : ∀ n ∈ ns, w.reports s n.2 = (w'.reports s n.2).filter fun b => p b.violation) :
    w.reportsAfter s ns = (w'.reportsAfter s ns).filter fun b => p b.violation := by
  rw [reportsAfter, reportsAfter, List.filter_flatMap]
  apply List.flatMap_congr
  intro n hn
  rw [List.filter_map, h n hn]
  rfl

/-- If a walk sees just some of the violations that another one sees, it reports just these. -/
lemma reports_eq_filter (hl : ∀ a, w.look a = (w'.look a).filter fun b => p b.violation)
    (ho : w.order = w'.order) (a : Spot) :
    w.reports s a = (w'.reports s a).filter fun b => p b.violation := by
  -- by induction on the value, which gets smaller with each step
  rw [reports_eq, reports_eq, List.filter_append, hl, ho, reportsAfter_eq_filter]
  intro n hn
  have := (Spot.step_of_mem_next hn).value_lt
  exact reports_eq_filter hl ho n.2
termination_by sizeOf a.value

end Walk

lemma Coverage.filter_breaches :
    (nested.breaches r ms).filter (fun b => !b.violation.isCoverage) = [] := by
  rw [List.filter_eq_nil_iff]
  intro b hb
  obtain ⟨-, k, v, hu, rfl⟩ := mem_breaches.mp hb
  simp [hu.isCoverage]

/-- Without coverage of nested objects the structural check sees all but breaches of coverage. -/
lemma look_shapeWalk_lenient (a : Spot) : (shapeWalk s .lenient).look a
    = ((shapeWalk s .strict).look a).filter fun b => !b.violation.isCoverage := by
  show a.shapeBreaches s .lenient = (a.shapeBreaches s .strict).filter _
  rw [Spot.shapeBreaches, Spot.shapeBreaches]
  split
  · split
    · split <;> rfl
    · split
      · exact Coverage.filter_breaches.symm
      · rfl
    · rfl
  · rfl

lemma reportsAfter_shapeWalk_lenient (ns : List (Path.Component × Spot)) :
    (shapeWalk s .lenient).reportsAfter s ns
      = ((shapeWalk s .strict).reportsAfter s ns).filter fun b => !b.violation.isCoverage := by
  apply Walk.reportsAfter_eq_filter (p := fun v => !v.isCoverage)
  intro n _
  exact Walk.reports_eq_filter (p := fun v => !v.isCoverage) look_shapeWalk_lenient rfl n.2

/-! ### The findings of a validator -/

namespace Validator

/-- What is left out of the breaches of each category is left out of the findings. -/
lemma findings_validate_eq_filter {options options' : Options} {p : Breach → Bool}
    {q : Finding → Bool}
    (hpart : ∀ r ms, (Validator.mk s options).partBreaches r ms
      = ((Validator.mk s options').partBreaches r ms).filter p)
    (hroot : ∀ c, q ⟨.request, .rootMissing c⟩ = true)
    (hfind : ∀ c b, q (Breach.findingAt (Path.root.push (.property (Category.name c))) b) = p b)
    (request : Request) : ((Validator.mk s options).validate request).findings
      = ((Validator.mk s options').validate request).findings.filter q := by
  rw [findings_validate, findings_validate, List.filter_flatMap]
  apply List.flatMap_congr
  rintro ⟨c, r⟩ -
  rw [categoryFindings, categoryFindings]
  cases request.part c with
  | none => simp [hroot]
  | some ms =>
    have hq : q ∘ Breach.findingAt (Path.root.push (.property c.name)) = p := funext (hfind c)
    simp only [List.filter_map, hq, hpart]

lemma partBreaches_eq_filter_code (strict : Bool) (r : RecordType) (ms : List (String × Json)) :
    (Validator.mk s ⟨false, strict⟩).partBreaches r ms
      = ((Validator.mk s ⟨true, strict⟩).partBreaches r ms).filter
        fun b => b.violation.code ∉ Violation.contentCodes := by
  have hkeep (bs : List Breach) (h : ∀ b ∈ bs, b.violation.code ∈ Violation.shapeCodes) :
      bs.filter (fun b => b.violation.code ∉ Violation.contentCodes) = bs := by
    rw [List.filter_eq_self]
    intro b hb
    exact decide_eq_true (Violation.not_mem_contentCodes_of_mem_shapeCodes (h b hb))
  have hdrop : (contentWalk.reportsAfter s (MemberOrder.declared.spots r ms)).filter
      (fun b => b.violation.code ∉ Violation.contentCodes) = [] := by
    rw [List.filter_eq_nil_iff]
    intro b hb
    simpa using code_mem_of_mem_contentWalk hb
  simp only [partBreaches, List.filter_append, if_true, Bool.false_eq_true, if_false, hdrop]
  rw [hkeep _ fun b => Coverage.code_mem_of_mem_breaches,
    hkeep _ fun b => code_mem_of_mem_shapeWalk]
  rfl

lemma partBreaches_eq_filter_nested (sanitize : Bool) (r : RecordType)
    (ms : List (String × Json)) :
    (Validator.mk s ⟨sanitize, false⟩).partBreaches r ms
      = ((Validator.mk s ⟨sanitize, true⟩).partBreaches r ms).filter
        fun b => !b.isNestedCoverage := by
  have hkeep (bs : List Breach) (h : ∀ b ∈ bs, b.isNestedCoverage = false) :
      bs.filter (fun b => !b.isNestedCoverage) = bs := by
    rw [List.filter_eq_self]
    intro b hb
    rw [h b hb, Bool.not_false]
  have hshape : ((shapeWalk s .strict).reportsAfter s (MemberOrder.declared.spots r ms)).filter
      (fun b => !b.isNestedCoverage)
      = (shapeWalk s .lenient).reportsAfter s (MemberOrder.declared.spots r ms) := by
    rw [reportsAfter_shapeWalk_lenient]
    apply List.filter_congr
    intro b hb
    cases hc : b.violation.isCoverage with
    | true => rw [(nestedUncovered_of_mem_shapeWalk hb hc).isNestedCoverage]
    | false => rw [Breach.isNestedCoverage, hc, Bool.false_and]
  simp only [partBreaches, Options.nestedCoverage, List.filter_append, Bool.false_eq_true, if_true,
    if_false, hshape]
  rw [hkeep _ fun b => Coverage.isNestedCoverage_eq_false]
  congr 1
  split
  · exact (hkeep _ fun b => isNestedCoverage_eq_false_of_mem_contentWalk).symm
  · rfl

/-- What strict options add is about the keys of an object inside a category. -/
lemma findsNestedUncovered_of_isNestedCoverage {v : Validator} {request : Request} {x : Finding}
    (hx : x ∈ (v.validate request).findings) (hn : x.isNestedCoverage = true) :
    v.schema.FindsNestedUncovered request x := by
  obtain ⟨c, r, hr, ⟨-, rfl⟩ | ⟨ms, hp, b, hb, rfl⟩⟩ := mem_findings_validate_iff.mp hx
  · cases hn
  · rw [Finding.isNestedCoverage_findingAt] at hn
    have hc : b.violation.isCoverage = true := (Bool.and_eq_true_iff.mp hn).1
    refine ⟨c, r, ms, b, hr, hp, ?_, rfl⟩
    rcases mem_partBreaches_iff.mp hb with hb | hb | ⟨-, hb⟩
    · rw [Coverage.isNestedCoverage_eq_false hb] at hn
      cases hn
    · exact nestedUncovered_of_mem_shapeWalk hb hc
    · rw [isNestedCoverage_eq_false_of_mem_contentWalk hb] at hn
      cases hn

/-- Not looking at contents leaves out the findings with a code of the content check, and no others.
Not being strict leaves out the missing and undeclared keys of objects inside a category, and no
others. -/
theorem findings_eq_filter (s : Schema) (request : Request) :
    (∀ strict, ((Validator.mk s ⟨false, strict⟩).validate request).findings
      = ((Validator.mk s ⟨true, strict⟩).validate request).findings.filter
        fun x => x.code ∉ Violation.contentCodes) ∧
    (∀ sanitize, ((Validator.mk s ⟨sanitize, false⟩).validate request).findings
        = ((Validator.mk s ⟨sanitize, true⟩).validate request).findings.filter
          (fun x => !x.isNestedCoverage) ∧
      ∀ x ∈ ((Validator.mk s ⟨sanitize, true⟩).validate request).findings,
        x.isNestedCoverage = true → s.FindsNestedUncovered request x) := by
  refine ⟨fun strict => ?_, fun sanitize => ⟨?_, fun x hx hn => ?_⟩⟩
  · exact findings_validate_eq_filter (partBreaches_eq_filter_code strict) (fun c => by rfl)
      (fun c b => rfl) request
  · refine findings_validate_eq_filter (partBreaches_eq_filter_nested sanitize) (fun c => rfl)
      (fun c b => ?_) request
    rw [Finding.isNestedCoverage_findingAt]
  · exact findsNestedUncovered_of_isNestedCoverage hx hn

end Validator

/-! ### Strict options in an orchard -/

namespace Orchard

/-- The branch of an orchard has no tree. -/
def noTree : Finding := ⟨.within ⟨[.property "body", .property "rows", .index 0, .index 0,
  .property "branches", .index 0, .property "tree"]⟩, .missingField "tree"⟩

/-- Strict options add that the branch has no tree, and without them nothing of the kind is left. -/
theorem findings_eq_filter_request :
    noTree ∈ ((Validator.mk schema ⟨true, true⟩).validate request).findings ∧
    noTree.isNestedCoverage = true ∧ schema.FindsNestedUncovered request noTree ∧
    ((Validator.mk schema ⟨true, false⟩).validate request).findings
      = ((Validator.mk schema ⟨true, true⟩).validate request).findings.filter
        (fun x => !x.isNestedCoverage) ∧
    ((Validator.mk schema ⟨false, true⟩).validate request).findings
      = ((Validator.mk schema ⟨true, true⟩).validate request).findings.filter
        fun x => x.code ∉ Violation.contentCodes := by
  have hfound :
      ((Validator.mk schema ⟨true, true⟩).validate request).findings[2]? = some noTree := by
    with_unfolding_all rfl
  have hmem := List.mem_of_getElem? hfound
  obtain ⟨hcode, hnested⟩ := Validator.findings_eq_filter schema request
  exact ⟨hmem, rfl, (hnested true).2 noTree hmem rfl, (hnested true).1, hcode true⟩

end Orchard

end RequestContract
