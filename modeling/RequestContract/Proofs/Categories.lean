import RequestContract.Proofs.Check.Codes
import RequestContract.Proofs.Validator

/-!
# Each category has a block of its own

The checks of all categories share one path and one list of findings. Still the findings of a
validation are those that each declared category has if it is checked alone, one category after the
other: its block. A block depends only on what the request has under its category, and its findings
lie below that category, whatever the fields are named. Only that a category is missing is found at
the request as a whole.

`Validator.blockwise` says all this of every validator.
-/

namespace RequestContract

variable {v : Validator} {request request' : Request} {r : RecordType}
  {ms : List (String × Json)} {b : Breach} {c : Category} {x : Finding}

namespace Validator

/-- What the check of a category alone finds; nothing if the category is not declared. -/
def block (v : Validator) (request : Request) (c : Category) : List Finding :=
  match v.schema.root? c with
  | some r => (v.checkCategory request c r Context.start).findings
  | none => []

/-- The findings of a validator come in independent blocks. -/
structure Blockwise (v : Validator) : Prop where
  /-- The blocks stand in the order of the categories. -/
  findings_eq (request : Request) : (v.validate request).findings
    = v.block request .body ++ v.block request .cookies ++ v.block request .headers
      ++ v.block request .params ++ v.block request .query
  /-- A category that is not declared has an empty block. -/
  undeclared (request : Request) (c : Category) (hr : v.schema.root? c = none) :
    v.block request c = []
  /-- The block of a declared category that the request lacks says just that, at the request as a
  whole. -/
  lacking (request : Request) (c : Category) (r : RecordType) (hr : v.schema.root? c = some r)
    (hp : request.part c = none) : v.block request c = [⟨.request, .rootMissing c⟩]
  /-- The block of a category that is there lies below it. -/
  below (request : Request) (c : Category) (ms : List (String × Json))
    (hp : request.part c = some ms) :
    ∀ x ∈ v.block request c, (c.name ++ ".").toList <+: x.location.render.toList
  /-- What the request has under a category changes the block of that category only. -/
  frame (request request' : Request) (c : Category)
    (h : ∀ c', c' ≠ c → request.part c' = request'.part c') :
    ∃ before after, Category.all = before ++ c :: after ∧
      (v.validate request).findings = before.flatMap (v.block request) ++ v.block request c
        ++ after.flatMap (v.block request) ∧
      (v.validate request').findings = before.flatMap (v.block request) ++ v.block request' c
        ++ after.flatMap (v.block request)
  /-- Findings at the request as a whole are the missing categories, and no location reads like
  theirs. -/
  atRequest (request : Request) : ∀ x ∈ (v.validate request).findings,
    x.location.render = "[Request]" ↔ ∃ c, x.violation = .rootMissing c

/-! ### Blocks -/

lemma block_of_declared (hr : v.schema.root? c = some r) :
    v.block request c = v.categoryFindings request c r := by
  simp only [block, hr]
  rw [Context.start, checkCategory_eq, List.nil_append]

lemma block_of_undeclared (hr : v.schema.root? c = none) : v.block request c = [] := by
  simp only [block, hr]

lemma block_congr (hp : request.part c = request'.part c) :
    v.block request c = v.block request' c := by
  cases hr : v.schema.root? c with
  | none => rw [block_of_undeclared hr, block_of_undeclared hr]
  | some r =>
    rw [block_of_declared hr, block_of_declared hr, categoryFindings, categoryFindings, hp]

lemma findings_validate_eq_flatMap_block (v : Validator) (request : Request) :
    (v.validate request).findings = Category.all.flatMap (v.block request) := by
  rw [findings_validate, Schema.roots]
  induction Category.all with
  | nil => rfl
  | cons c cs ih =>
    rw [List.filterMap_cons, List.flatMap_cons, ← ih]
    cases hr : v.schema.root? c with
    | none => rw [block_of_undeclared hr, Option.map_none, List.nil_append]
    | some r => rw [block_of_declared hr, Option.map_some, List.flatMap_cons]

/-! ### Inside a category -/

/-- The first step of a breach inside a category is the key of a member. -/
lemma exists_way_eq (hb : b ∈ v.partBreaches r ms) : ∃ k q, b.way = .property k :: q := by
  have hwalk {w : Walk} (hb : b ∈ w.reportsAfter v.schema (MemberOrder.declared.spots r ms)) :
      ∃ k q, b.way = .property k :: q := by
    obtain ⟨p, a, hn, b', -, rfl⟩ := Walk.mem_reportsAfter.mp hb
    obtain ⟨k, -, -, -, -, rfl, -⟩ := MemberOrder.of_mem_spots hn
    exact ⟨k, b'.way, rfl⟩
  rcases mem_partBreaches_iff.mp hb with hb | hb | ⟨-, hb⟩
  · obtain ⟨-, k, u, -, rfl⟩ := Coverage.mem_breaches.mp hb
    exact ⟨k, [], rfl⟩
  · exact hwalk hb
  · exact hwalk hb

lemma code_mem_of_mem_partBreaches (hb : b ∈ v.partBreaches r ms) :
    b.violation.code ∈ Violation.shapeCodes ∨ b.violation.code ∈ Violation.contentCodes := by
  rcases mem_partBreaches_iff.mp hb with hb | hb | ⟨-, hb⟩
  · exact .inl (Coverage.code_mem_of_mem_breaches hb)
  · exact .inl (code_mem_of_mem_shapeWalk hb)
  · exact .inr (code_mem_of_mem_contentWalk hb)

lemma isPrefix_location (hb : b ∈ v.partBreaches r ms) : (c.name ++ ".").toList
    <+: (b.findingAt (Path.root.push (.property c.name))).location.render.toList := by
  obtain ⟨way, u⟩ := b
  obtain ⟨k, q, rfl⟩ := exists_way_eq hb
  have hname : '.' ∉ c.name.toList := by cases c <;> decide
  exact Path.isPrefix_render hname k q

lemma location_ne_request (hb : b ∈ v.partBreaches r ms) :
    (b.findingAt (Path.root.push (.property c.name))).location.render ≠ "[Request]" := by
  intro h
  have hprefix := isPrefix_location (c := c) hb
  rw [h] at hprefix
  revert hprefix
  cases c <;> decide

lemma violation_ne_rootMissing (hb : b ∈ v.partBreaches r ms) (c : Category) :
    b.violation ≠ .rootMissing c := by
  intro h
  have hcode := code_mem_of_mem_partBreaches hb
  rw [h] at hcode
  rcases hcode with hcode | hcode
  · exact absurd hcode (by decide : "root_missing" ∉ Violation.shapeCodes)
  · exact absurd hcode (by decide : "root_missing" ∉ Violation.contentCodes)

/-! ### The main result -/

/-- The findings come in blocks, one for each declared category, independent of each other. -/
theorem blockwise (v : Validator) : v.Blockwise where
  findings_eq request := by
    rw [findings_validate_eq_flatMap_block]
    simp [Category.all]
  undeclared request c hr := block_of_undeclared hr
  lacking request c r hr hp := by
    rw [block_of_declared hr, categoryFindings, hp]
  below request c ms hp x hx := by
    cases hr : v.schema.root? c with
    | none =>
      rw [block_of_undeclared hr] at hx
      cases hx
    | some r =>
      rw [block_of_declared hr, categoryFindings, hp] at hx
      obtain ⟨b, hb, rfl⟩ := List.mem_map.mp hx
      exact isPrefix_location hb
  frame request request' c h := by
    obtain ⟨before, after, hall⟩ := List.append_of_mem c.mem_all
    have hnodup : (before ++ c :: after).Nodup := hall ▸ (by decide : Category.all.Nodup)
    rw [List.nodup_middle, List.nodup_cons, List.mem_append, not_or] at hnodup
    have hsame (cs : List Category) (hc : c ∉ cs) :
        cs.flatMap (v.block request') = cs.flatMap (v.block request) := by
      apply List.flatMap_congr
      intro c' hc'
      exact (block_congr (h c' fun heq => hc (heq ▸ hc'))).symm
    refine ⟨before, after, hall, ?_, ?_⟩
    · rw [findings_validate_eq_flatMap_block, hall, List.flatMap_append, List.flatMap_cons,
        List.append_assoc]
    · rw [findings_validate_eq_flatMap_block, hall, List.flatMap_append, List.flatMap_cons,
        List.append_assoc, hsame before hnodup.1.1, hsame after hnodup.1.2]
  atRequest request x hx := by
    obtain ⟨c, r, -, ⟨-, rfl⟩ | ⟨ms, -, b, hb, rfl⟩⟩ := mem_findings_validate_iff.mp hx
    · exact ⟨fun _ => ⟨c, rfl⟩, fun _ => rfl⟩
    · refine ⟨fun h => absurd h (location_ne_request hb), ?_⟩
      rintro ⟨c', h⟩
      exact absurd h (violation_ne_rootMissing hb c')

end Validator

/-! ### A gate with a misleading sign -/

namespace Orchard

/-- A sign, which is a number under the name of the place at which missing categories are found. -/
def sign : FieldDecl := .ofType "number"

/-- The gate of an orchard asks for a body with a sign, and for a query. -/
def gateDecl : SchemaDecl := ⟨.ofList [
  ("query", .ofList []),
  ("body", .ofList [("[Request]", sign)])]⟩

/-- What the gate declares. -/
def gate : Validator := ⟨⟨.ofList [
  ("query", .ofList []),
  ("body", .ofList [("[Request]", .ofDecl (.primitive .number) sign)])]⟩, ⟨true, true⟩⟩

/-- Comes without a query and with a text for the sign. -/
def visit : Request := Request.empty.withMembers .body [("[Request]", .string "north")]

lemma resolve_gateDecl : gateDecl.resolve = .ok gate.schema := by with_unfolding_all rfl

/-- Only the query is missing at the request as a whole; the sign is wrong below the body. -/
theorem blockwise_gate :
    gateDecl.resolve = .ok gate.schema ∧
    (gate.validate visit).findings = gate.block visit .body ++ gate.block visit .query ∧
    ((gate.block visit .body).map fun x => x.location.render) = ["body.[Request]"] ∧
    (∀ x ∈ gate.block visit .body, "body.".toList <+: x.location.render.toList) ∧
    gate.block visit .query = [⟨.request, .rootMissing .query⟩] := by
  have h := Validator.blockwise gate
  refine ⟨resolve_gateDecl, ?_, by with_unfolding_all rfl, h.below visit .body _ rfl,
    h.lacking visit .query _ rfl rfl⟩
  rw [h.findings_eq, h.undeclared visit .cookies rfl, h.undeclared visit .headers rfl,
    h.undeclared visit .params rfl]
  simp

end Orchard

end RequestContract
