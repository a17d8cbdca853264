import Mathlib.Data.List.Forall2
import RequestContract.Proofs.Validator

/-!
# What a schema leaves open

A schema says nothing about the categories that it does not declare, about the values of fields of
type `any`, and about the values under keys that are not declared. If the options are not strict it
does not even count which undeclared keys the objects inside a category have. Two values that
differ only in such things are alike at every spot: the walks report the same at both and go on
through the same steps to alike spots. So the findings are the same in the same order, which
`Validator.validate_eq_of_alike` says.
-/

namespace RequestContract

/-! ### Alike values -/

/-- The same keys in the same order, those that are not declared left out if they do not count. -/
def Coverage.SameKeys (coverage : Coverage) (r : RecordType) (ks ls : List String) : Prop :=
  match coverage with
  | strict => ks = ls
  | lenient => ks.filter r.contains = ls.filter r.contains

/-- Two values that differ only in what a declared type leaves open: at positions of type `any`,
under undeclared keys, and in undeclared keys that do not count. -/
inductive Schema.Alike (s : Schema) (nested : Coverage) : FieldType → Json → Json → Prop
  | same (t : FieldType) (v : Json) : Alike s nested t v v
  | any (v w : Json) : Alike s nested .any v w
  | array {t : FieldType} {vs ws : List Json} (hl : vs.length = ws.length)
      (h : ∀ (i : Nat) v w, vs[i]? = some v → ws[i]? = some w → Alike s nested t v w) :
      Alike s nested (.array t) (.array vs) (.array ws)
  | named {n : String} {r : RecordType} {ms ns : List (String × Json)} (hr : s.type? n = some r)
      (hk : nested.SameKeys r (ms.map Prod.fst) (ns.map Prod.fst))
      (h : ∀ k f v w, r.get? k = some f → (k, v) ∈ ms → (k, w) ∈ ns → Alike s nested f.type v w) :
      Alike s nested (.named n) (.object ms) (.object ns)

/-- The same for the members of an object of the type `r`, whose keys count as `coverage` says. -/
structure Schema.AlikeMembers (s : Schema) (nested coverage : Coverage) (r : RecordType)
    (ms ns : List (String × Json)) : Prop where
  keys : coverage.SameKeys r (ms.map Prod.fst) (ns.map Prod.fst)
  values : ∀ k f v w, r.get? k = some f → (k, v) ∈ ms → (k, w) ∈ ns → s.Alike nested f.type v w

/-- Two requests of which each declared category is the same, or there in both with alike members.
All keys of a category count. -/
def Schema.AlikeRequests (s : Schema) (nested : Coverage) (request request' : Request) : Prop :=
  ∀ c r, s.root? c = some r → request.part c = request'.part c ∨
    ∃ ms ns, request.part c = some ms ∧ request'.part c = some ns ∧
      s.AlikeMembers nested .strict r ms ns

/-- Two values to be read as requests, whatever their keys are besides the declared categories. -/
def Schema.AlikeDocuments (s : Schema) (nested : Coverage) (x y : Json) : Prop :=
  ∀ c r, s.root? c = some r → x.member? c.name = y.member? c.name ∨
    ∃ ms ns, x.member? c.name = some (.object ms) ∧ y.member? c.name = some (.object ns) ∧
      s.AlikeMembers nested .strict r ms ns

variable {s : Schema} {nested coverage : Coverage} {r : RecordType} {ms ns : List (String × Json)}

/-! ### Alike members -/

/-- However keys count, those that are declared are the same. -/
lemma Coverage.SameKeys.filter_eq {ks ls : List String} (h : coverage.SameKeys r ks ls) :
    ks.filter r.contains = ls.filter r.contains := by
  cases coverage with
  | strict => exact congrArg _ h
  | lenient => exact h

lemma RecordType.uncovered_congr (h : ms.map Prod.fst = ns.map Prod.fst) :
    r.uncovered ms = r.uncovered ns := by
  have hmissing (k : String) : (ms.lookup k).isNone = (ns.lookup k).isNone := by
    rw [Bool.eq_iff_iff, lookup_isNone_iff, lookup_isNone_iff, h]
  simp only [uncovered, h, hmissing]

lemma Coverage.SameKeys.breaches_eq
    (h : coverage.SameKeys r (ms.map Prod.fst) (ns.map Prod.fst)) :
    coverage.breaches r ms = coverage.breaches r ns := by
  cases coverage with
  | strict => exact RecordType.uncovered_congr h
  | lenient => rfl

lemma forall₂_of_keys_eq {R : String × Json → String × Json → Prop}
    (hk : ms.map Prod.fst = ns.map Prod.fst)
    (h : ∀ k v w, (k, v) ∈ ms → (k, w) ∈ ns → R (k, v) (k, w)) : List.Forall₂ R ms ns := by
  rw [← List.forall₂_eq_eq_eq, List.forall₂_map_left_iff, List.forall₂_map_right_iff,
    List.forall₂_iff_zip] at hk
  refine List.forall₂_iff_zip.mpr ⟨hk.1, ?_⟩
  rintro ⟨k, v⟩ ⟨l, w⟩ hz
  obtain rfl : k = l := hk.2 hz
  obtain ⟨hv, hw⟩ := List.of_mem_zip hz
  exact h k v w hv hw

/-- A declared field is in both objects, with alike values, or in neither. -/
lemma Schema.AlikeMembers.lookup (h : s.AlikeMembers nested coverage r ms ns) {k : String}
    {f : Field} (hf : r.get? k = some f) :
    Option.Rel (s.Alike nested f.type) (ms.lookup k) (ns.lookup k) := by
  have hdeclared : r.contains k = true := by simp [OrderedMap.contains, hf]
  have hkeys : (ms.lookup k).isNone = (ns.lookup k).isNone := by
    have := congrArg (k ∈ ·) h.keys.filter_eq
    simp only [List.mem_filter, hdeclared, and_true] at this
    rw [Bool.eq_iff_iff, lookup_isNone_iff, lookup_isNone_iff, this]
  cases hv : ms.lookup k <;> cases hw : ns.lookup k <;> rw [hv, hw] at hkeys
  case none.none => exact .none
  case some.some v w =>
    exact .some (h.values k f v w hf (mem_of_lookup_eq_some hv) (mem_of_lookup_eq_some hw))
  all_goals cases hkeys

/-! ### Alike spots -/

/-- The same spot with an alike value. -/
def Spot.Alike (s : Schema) (nested : Coverage) (a b : Spot) : Prop :=
  ∃ w, b = { a with value := w } ∧ s.Alike nested a.type a.value w

lemma MemberOrder.spots_given_filter (r : RecordType) (ms : List (String × Json)) :
    given.spots r (ms.filter fun m => r.contains m.1) = given.spots r ms := by
  rw [spots, spots, List.filterMap_filter]
  apply List.filterMap_congr
  intro m _
  cases hf : r.get? m.1 <;> simp [OrderedMap.contains, hf]

/-- From alike objects the same steps lead to alike spots, in the same order. -/
lemma Schema.AlikeMembers.spots (h : s.AlikeMembers nested coverage r ms ns) (o : MemberOrder) :
    List.Forall₂ (fun n m => n.1 = m.1 ∧ n.2.Alike s nested m.2) (o.spots r ms) (o.spots r ns) := by
  cases o with
  | given =>
    -- the objects may have different undeclared members, which lead nowhere
    rw [← MemberOrder.spots_given_filter r ms, ← MemberOrder.spots_given_filter r ns]
    refine List.rel_filterMap (fun _ _ h => h) (forall₂_of_keys_eq ?_ ?_)
    · have := h.keys.filter_eq
      rwa [List.filter_map, List.filter_map] at this
    · intro k v w hv hw
      cases hf : r.get? k with
      | none => exact .none
      | some f =>
        have hvw := h.values k f v w hf (List.mem_of_mem_filter hv) (List.mem_of_mem_filter hw)
        exact .some ⟨rfl, w, rfl, hvw⟩
  | declared =>
    refine List.rel_filterMap (fun _ _ h => h) (List.forall₂_same.mpr fun e he => ?_)
    have hrel := h.lookup (OrderedMap.get?_eq_some_iff.mpr he)
    generalize ms.lookup e.1 = x, ns.lookup e.1 = y at hrel ⊢
    cases hrel with
    | none => exact .none
    | some hvw => exact .some ⟨rfl, _, rfl, hvw⟩

namespace Spot.Alike

variable {a b : Spot}

/-- From alike spots the same steps lead to alike spots, in the same order. -/
lemma next (h : a.Alike s nested b) (o : MemberOrder) :
    List.Forall₂ (fun n m => n.1 = m.1 ∧ n.2.Alike s nested m.2) (a.next s o) (b.next s o) := by
  obtain ⟨w, rfl, h⟩ := h
  obtain ⟨name, f, t, is, v⟩ := a
  cases h with
  | same => exact List.forall₂_same.mpr fun n _ => ⟨rfl, n.2.value, rfl, .same _ _⟩
  | any =>
    rw [Spot.next_of_any rfl, Spot.next_of_any rfl]
    exact .nil
  | array hl h =>
    rw [Spot.next_of_list rfl rfl, Spot.next_of_list rfl rfl, List.forall₂_map_left_iff,
      List.forall₂_map_right_iff, List.forall₂_iff_get]
    refine ⟨by simp [hl], fun i hi hi' => ?_⟩
    rw [List.length_zipIdx] at hi hi'
    simp only [List.get_eq_getElem, List.getElem_zipIdx, true_and]
    have hvw := h i _ _ (List.getElem?_eq_getElem hi) (List.getElem?_eq_getElem hi')
    exact ⟨_, rfl, hvw⟩
  | named hr hk h =>
    rw [Spot.next_of_object rfl rfl hr, Spot.next_of_object rfl rfl hr]
    exact Schema.AlikeMembers.spots ⟨hk, h⟩ o

lemma shapeBreaches_eq (h : a.Alike s nested b) :
    a.shapeBreaches s nested = b.shapeBreaches s nested := by
  obtain ⟨w, rfl, h⟩ := h
  obtain ⟨name, f, t, is, v⟩ := a
  cases h with
  | same => rfl
  | any v w => cases v <;> cases w <;> rfl
  | array => rfl
  | named hr hk h =>
    have hbreaches := hk.breaches_eq
    simp [shapeBreaches, FieldType.fits, hr, hbreaches]

lemma contentViolations_eq (h : a.Alike s nested b) :
    a.contentViolations = b.contentViolations := by
  obtain ⟨w, rfl, h⟩ := h
  obtain ⟨name, f, t, is, v⟩ := a
  cases h with
  | same => rfl
  | any v w => cases v <;> cases w <;> rfl
  | array hl h => simp [contentViolations, hl, suffix, depth]
  | named => rfl

end Spot.Alike

/-! ### Walks over alike spots -/

lemma shapeWalk_inStep_alike :
    (shapeWalk s nested).InStep (shapeWalk s nested) s s (Spot.Alike s nested) :=
  ⟨fun _ _ h => h.shapeBreaches_eq, fun _ _ h => h.next .given⟩

lemma contentWalk_inStep_alike : contentWalk.InStep contentWalk s s (Spot.Alike s nested) :=
  ⟨fun _ _ h => congrArg (List.map Breach.here) h.contentViolations_eq,
    fun _ _ h => h.next .declared⟩

/-! ### Validation -/

namespace Validator

variable {v : Validator} {request request' : Request}

lemma partBreaches_congr (h : v.schema.AlikeMembers v.options.nestedCoverage .strict r ms ns) :
    v.partBreaches r ms = v.partBreaches r ns := by
  have hshape := shapeWalk_inStep_alike.reportsAfter_eq (h.spots .declared)
  have hcontent := contentWalk_inStep_alike.reportsAfter_eq (h.spots .declared)
  rw [partBreaches, partBreaches, h.keys.breaches_eq, hshape, hcontent]

lemma validate_congr (h : v.schema.AlikeRequests v.options.nestedCoverage request request') :
    v.validate request = v.validate request' := by
  refine validate_eq_of_categories fun c => ?_
  cases hr : v.schema.root? c with
  | none => exact .none
  | some r =>
    apply Option.Rel.some
    rcases h c r hr with heq | ⟨ms, ns, hm, hn, hmn⟩
    · rw [categoryFindings, categoryFindings, heq]
    · simp only [categoryFindings, hm, hn, partBreaches_congr hmn]

end Validator

/-- Read as requests, alike documents are alike requests. -/
lemma Schema.AlikeDocuments.ofJson {x y : Json} (h : s.AlikeDocuments nested x y) :
    s.AlikeRequests nested (.ofJson x) (.ofJson y) := by
  intro c r hr
  simp only [Request.ofJson]
  rcases h c r hr with heq | ⟨ms, ns, hx, hy, hmn⟩
  · exact .inl (by rw [heq])
  · exact .inr ⟨ms, ns, by rw [hx]; rfl, by rw [hy]; rfl, hmn⟩

/-- What a schema leaves open has no influence on the report, of requests as of documents that are
read as requests. -/
theorem Validator.validate_eq_of_alike (v : Validator) :
    (∀ request request', v.schema.AlikeRequests v.options.nestedCoverage request request' →
      v.validate request = v.validate request') ∧
    ∀ x y, v.schema.AlikeDocuments v.options.nestedCoverage x y →
      v.validate (.ofJson x) = v.validate (.ofJson y) :=
  ⟨fun _ _ h => validate_congr h, fun _ _ h => validate_congr h.ofJson⟩

/-! ### An orchard with notes -/

lemma Schema.Alike.singleton {t : FieldType} {v w : Json} (h : s.Alike nested t v w) :
    s.Alike nested (.array t) (.array [v]) (.array [w]) := by
  refine .array rfl fun i v' w' hv hw => ?_
  obtain ⟨rfl, rfl⟩ : i = 0 ∧ v = v' := by simpa [List.getElem?_singleton] using hv
  obtain rfl : w = w' := Option.some.inj hw
  exact h

namespace Orchard

def row : FieldDecl := .ofType "array[Tree]"

def notes : FieldDecl := .ofType "array[any]"

def notedBody : RecordType := .ofList [("row", .ofDecl (.array (.named "Tree")) row),
  ("notes", .ofDecl (.array .any) notes)]

def bareTree : RecordType := .ofList [("kind", .ofDecl .enum kind)]

def notedSchema : Schema := ⟨.ofList [("body", notedBody), ("Tree", bareTree)]⟩

def plum : List (String × Json) := [("kind", .string "plum")]

def oldPlum : List (String × Json) := [("age", .number (.integer 9)), ("kind", .string "plum")]

/-- A tree and a note. -/
def notedMembers : List (String × Json) :=
  [("row", .array [.object plum]), ("notes", .array [.string "old"]), ("owner", .null)]

/-- The same tree with its age, another note and another owner. -/
def otherMembers : List (String × Json) :=
  [("row", .array [.object oldPlum]), ("notes", .array [.object [("cut", .bool true)]]),
    ("owner", .string "us")]

def notedRequest : Request := Request.empty.withMembers .body notedMembers

/-- A request with a query, which is not declared. -/
def otherRequest : Request := (Request.empty.withMembers .body otherMembers).withMembers .query []

/-- A document with a query. -/
def notedDocument : Json := .object [("query", .object []), ("body", .object notedMembers)]

/-- A document with a comment, which is no category. -/
def otherDocument : Json := .object [("body", .object otherMembers), ("comment", .string "none")]

lemma alike_plum :
    notedSchema.Alike .lenient (.named "Tree") (.object plum) (.object oldPlum) := by
  have htree : notedSchema.type? "Tree" = some bareTree := by with_unfolding_all rfl
  refine .named htree (by with_unfolding_all rfl) fun k f v w _ hv hw => ?_
  obtain ⟨rfl, rfl⟩ : k = "kind" ∧ v = .string "plum" := by simpa [plum] using hv
  obtain rfl : w = .string "plum" := by simpa [oldPlum] using hw
  exact .same f.type _

lemma alikeMembers_noted :
    notedSchema.AlikeMembers .lenient .strict notedBody notedMembers otherMembers := by
  refine ⟨rfl, fun k f v w hf hv hw => ?_⟩
  have hmem : (k, f) ∈ [("row", Field.ofDecl (.array (.named "Tree")) row),
      ("notes", .ofDecl (.array .any) notes)] := OrderedMap.get?_eq_some_iff.mp hf
  simp only [List.mem_cons, Prod.mk.injEq, List.not_mem_nil, or_false] at hmem
  rcases hmem with ⟨rfl, rfl⟩ | ⟨rfl, rfl⟩
  · obtain rfl : v = .array [.object plum] := by simpa [notedMembers] using hv
    obtain rfl : w = .array [.object oldPlum] := by simpa [otherMembers] using hw
    exact .singleton alike_plum
  · obtain rfl : v = .array [.string "old"] := by simpa [notedMembers] using hv
    obtain rfl : w = .array [.object [("cut", .bool true)]] := by simpa [otherMembers] using hw
    exact .singleton (.any _ _)

/-- A query, a comment, notes of any kind, the value under an undeclared key and an undeclared key
of a tree change nothing if strict options are not asked for. -/
theorem validate_eq_of_alike_noted :
    notedSchema.AlikeRequests .lenient notedRequest otherRequest ∧
    (Validator.mk notedSchema ⟨true, false⟩).validate notedRequest
      = (Validator.mk notedSchema ⟨true, false⟩).validate otherRequest ∧
    notedSchema.AlikeDocuments .lenient notedDocument otherDocument ∧
    (Validator.mk notedSchema ⟨true, false⟩).validate (.ofJson notedDocument)
      = (Validator.mk notedSchema ⟨true, false⟩).validate (.ofJson otherDocument) := by
  have hroot (c r) (hr : notedSchema.root? c = some r) : c = .body ∧ r = notedBody := by
    have hroots : notedSchema.roots = [(.body, notedBody)] := by with_unfolding_all rfl
    have hmem := Validator.mem_roots_iff.mpr hr
    rw [hroots, List.mem_singleton] at hmem
    exact Prod.mk.inj hmem
  have hrequests : notedSchema.AlikeRequests .lenient notedRequest otherRequest := by
    intro c r hr
    obtain ⟨rfl, rfl⟩ := hroot c r hr
    exact .inr ⟨notedMembers, otherMembers, rfl, rfl, alikeMembers_noted⟩
  have hdocuments : notedSchema.AlikeDocuments .lenient notedDocument otherDocument := by
    intro c r hr
    obtain ⟨rfl, rfl⟩ := hroot c r hr
    exact .inr ⟨notedMembers, otherMembers, rfl, rfl, alikeMembers_noted⟩
  obtain ⟨h, h'⟩ := Validator.validate_eq_of_alike ⟨notedSchema, ⟨true, false⟩⟩
  exact ⟨hrequests, h _ _ hrequests, hdocuments, h' _ _ hdocuments⟩

end Orchard

end RequestContract
