import Mathlib.Logic.Function.Iterate
import RequestContract.Proofs.Validator

/-!
# What findings say agrees with where they are

A finding has a location, which is made from the path of the value at hand. What it says of that
value is made from other things: the name of a field that is handed on from list to list, the
positions at the end of the path, and a declaration that gets shorter with each list. So the three
could get out of step.

They do not. `Schema.DeclaresAt` follows a path through the declarations alone and says of which
type the objects there are, if any. `Validator.findings_describe` says that each finding inside a
category lies at a field of such an object, so many lists further in as there are positions, and
that it speaks of just this field, these positions and what is declared of them.
-/

namespace RequestContract

/-! ### Paths through the declarations -/

/-- By its declarations, the objects at a path are of a type: a category is of the type of its name,
and what lies below the lists of a field is of the type that the field refers to. -/
inductive Schema.DeclaresAt (s : Schema) : Path → RecordType → Prop
  | category {c : Category} {r : RecordType} (hr : s.root? c = some r) :
      DeclaresAt s (.ofProperty c.name) r
  | member {q : Path} {r r' : RecordType} {k n : String} {f : Field} {is : List Nat}
      (h : DeclaresAt s q r) (hf : r.get? k = some f)
      (ht : f.type = FieldType.array^[is.length] (.named n)) (hr : s.type? n = some r') :
      DeclaresAt s (q.pushMany (.property k :: is.map .index)) r'

/-- The text of positions, each in brackets. -/
def Path.bracketed (is : List Nat) : String :=
  String.join (is.map fun i => "[" ++ toString i ++ "]")

/-- What a violation says of a value is so if the value lies at the positions `is` in the lists of
the field `f` under the name `k`. -/
inductive Field.Describes (f : Field) (k : String) (is : List Nat) : Violation → Prop
  | incorrectType {t : FieldType} (ht : f.type = FieldType.array^[is.length] t) :
      Describes f k is (.incorrectType k (Path.bracketed is) t.render)
  | enumValueNotAllowed (hd : is.length = f.type.depth) :
      Describes f k is (.enumValueNotAllowed k f.allowedValues)
  | illegalLength {actual : Nat} {n : UInt64} (hd : is.length = f.type.depth)
      (hn : f.length = some n) : Describes f k is (.illegalLength k actual n.toNat)
  | illegalArrayLength {actual : Nat} {n : UInt64} (hn : f.arrayLengths[is.length]? = some n) :
      Describes f k is (.illegalArrayLength (k ++ Path.bracketed is) actual n.toNat)
  | outOfRange {text : String} {range : Range} (hd : is.length = f.type.depth)
      (hr : f.range = some range) : Describes f k is (.outOfRange text range)
  | notUrl {text : String} (hd : is.length = f.type.depth) (hu : f.isUrl = true) :
      Describes f k is (.notUrl text)
  | doesNotStartWith {text start : String} (hd : is.length = f.type.depth)
      (hs : f.startsWith = some start) : Describes f k is (.doesNotStartWith text start)
  | illegalEnumValue {text : String} (hd : is.length = f.type.depth) :
      Describes f k is (.illegalEnumValue text f.allowedValues)

/-- What a violation says is so if it is found at the name `k` in an object of the type `r`, or at
the positions `is` below. -/
inductive RecordType.Describes (r : RecordType) (k : String) : List Nat → Violation → Prop
  | missingField {f : Field} (hf : r.get? k = some f) (hq : f.required = true) :
      Describes r k [] (.missingField k)
  | unexpectedField (hk : k ∉ r.keys) : Describes r k [] (.unexpectedField k)
  | value {f : Field} {is : List Nat} {v : Violation} (hf : r.get? k = some f)
      (h : f.Describes k is v) : Describes r k is v

variable {s : Schema} {r r' : RecordType} {p q : Path} {a b : Spot} {ms : List (String × Json)}

/-! ### The type at a path -/

lemma FieldType.depth_iterate_array (n : Nat) (t : FieldType) :
    (array^[n] t).depth = n + t.depth := by
  induction n with
  | zero => simp
  | succ n ih =>
    rw [Function.iterate_succ_apply', depth_array, ih]
    omega

namespace Schema.DeclaresAt

lemma ne_root (h : s.DeclaresAt p r) : p ≠ Path.root := by
  cases h with
  | category hr => simp [Path.ofProperty, Path.root]
  | member h hf ht hr => simp [Path.pushMany, Path.root]

/-- A path leads to one type only. -/
lemma unique (h : s.DeclaresAt p r) (h' : s.DeclaresAt p r') : r = r' := by
  -- by induction on the path, whose last property says which step came last
  induction h generalizing r' with
  | @category c r hr =>
    generalize hp : Path.ofProperty c.name = p at h'
    cases h' with
    | @category c' _ hr' =>
      have hc : c.name = c'.name := by simpa [Path.ofProperty] using hp
      rw [Category.name_injective hc, hr', Option.some.injEq] at hr
      exact hr.symm
    | member hq _ _ _ =>
      obtain ⟨hroot, -, -⟩ := Path.pushMany_property_inj (p := Path.root) (m := []) hp
      exact absurd hroot.symm hq.ne_root
  | @member q r r₁ k n f is hq hf ht hr ih =>
    generalize hp : q.pushMany (.property k :: is.map .index) = p at h'
    cases h' with
    | category _ =>
      obtain ⟨hroot, -, -⟩ := Path.pushMany_property_inj (q := Path.root) (n := []) hp
      exact absurd hroot hq.ne_root
    | member hq' hf' ht' hr' =>
      obtain ⟨rfl, rfl, rfl⟩ := Path.pushMany_property_inj hp
      obtain rfl := ih hq'
      rw [hf, Option.some.injEq] at hf'
      rw [← hf', ht] at ht'
      have array_injective : Function.Injective FieldType.array := fun _ _ => FieldType.array.inj
      have hn := array_injective.iterate _ ht'
      rw [FieldType.named.injEq] at hn
      rw [← hn, hr, Option.some.injEq] at hr'
      exact hr'

end Schema.DeclaresAt

/-! ### Spots -/

/-- At the path the schema declares the field of the spot, and the spot has what is left of its type
after the positions. -/
def Spot.DeclaredAt (s : Schema) (p : Path) (a : Spot) : Prop :=
  ∃ q r, s.DeclaresAt q r ∧ r.get? a.name = some a.field ∧
    p = q.pushMany (.property a.name :: a.indices.map .index) ∧
    a.field.type = FieldType.array^[a.depth] a.type

namespace Spot

lemma declaredAt_ofField (h : s.DeclaresAt q r) {k : String} {f : Field} (hf : r.get? k = some f)
    (v : Json) : (ofField k f v).DeclaredAt s (q.push (.property k)) :=
  ⟨q, r, h, hf, rfl, rfl⟩

/-- Where an object of a named type is declared, its type is. -/
lemma DeclaredAt.declaresAt (h : a.DeclaredAt s p) {n : String} (ht : a.type = .named n)
    (hr : s.type? n = some r) : s.DeclaresAt p r := by
  obtain ⟨q, r', hq, hf, rfl, hfield⟩ := h
  rw [ht] at hfield
  exact .member hq hf hfield hr

end Spot

lemma Schema.Step.declaredAt {c : Path.Component} (hs : s.Step a c b) (h : a.DeclaredAt s p) :
    b.DeclaredAt s (p.push c) := by
  cases hs with
  | element ht hv hi =>
    obtain ⟨q, r, hq, hf, rfl, hfield⟩ := h
    refine ⟨q, r, hq, hf, ?_, ?_⟩
    · simp [Path.push, Path.pushMany, Spot.element]
    · rw [ht] at hfield
      rw [Spot.depth_element, Function.iterate_succ_apply]
      exact hfield
  | member ht hr hv hk hf => exact Spot.declaredAt_ofField (h.declaresAt ht hr) hf _

lemma Schema.Reached.declaredAt (h : s.DeclaresAt p r) {cs : List Path.Component}
    (ha : s.Reached r ms cs a) : a.DeclaredAt s (p.pushMany cs) := by
  induction ha with
  | field hk hf => exact Spot.declaredAt_ofField h hf _
  | step _ hs ih =>
    rw [Path.pushMany_concat]
    exact hs.declaredAt ih

/-! ### The text of positions -/

namespace Path

lemma ofList_chars_index (is : List Nat) :
    String.ofList ((is.map Component.index).flatMap Component.chars) = bracketed is := by
  rw [bracketed, ← String.ofList_toList (s := String.join _), String.toList_join, List.flatMap_map,
    List.flatMap_map]
  congr 1
  apply List.flatMap_congr
  intro i _
  simp [Component.chars]

lemma render_index (is : List Nat) : (Path.mk (is.map .index)).render = bracketed is := by
  rw [render_of_isIndex (by simp), ofList_chars_index]

/-- The positions after a property are the end of the text. -/
lemma render_pushMany_property (p : Path) (k : String) (is : List Nat) :
    (p.pushMany (.property k :: is.map .index)).render
      = (p.push (.property k)).render ++ bracketed is := by
  have hne : p.push (.property k) ≠ root := by simp [push, root]
  rw [pushMany_cons, render_pushMany hne, ofList_chars_index]

end Path

/-! ### What is said at a spot -/

namespace Spot

variable {v : Violation}

lemma DeclaredAt.depth_eq (h : a.DeclaredAt s p) (ht : a.type.depth = 0) :
    a.indices.length = a.field.type.depth := by
  obtain ⟨q, r, -, -, -, hfield⟩ := h
  rw [hfield, FieldType.depth_iterate_array, ht]
  rfl

lemma DeclaredAt.describes_incorrectType (h : a.DeclaredAt s p) :
    a.field.Describes a.name a.indices a.incorrectType := by
  obtain ⟨q, r, -, -, -, hfield⟩ := h
  rw [incorrectType, suffix, Path.render_index]
  exact .incorrectType hfield

/-- All constraints but the number of elements are broken at the bottom of the lists. -/
lemma DeclaredAt.describes_breaks (h : a.DeclaredAt s p) (hv : a.Breaks v) :
    a.field.Describes a.name a.indices v := by
  have hdepth {t : FieldType} (ht : a.type = t) (ht₀ : t.depth = 0) :
      a.indices.length = a.field.type.depth := h.depth_eq (ht ▸ ht₀)
  cases hv with
  | length ht _ hn _ => exact .illegalLength (hdepth ht rfl) hn
  | start ht _ hs _ => exact .doesNotStartWith (hdepth ht rfl) hs
  | url ht _ hu _ => exact .notUrl (hdepth ht rfl) hu
  | range ht _ hr _ => exact .outOfRange (hdepth ht rfl) hr
  | enum ht _ _ => exact .illegalEnumValue (hdepth ht rfl)
  | size _ _ hn _ =>
    rw [suffix, Path.render_index]
    exact .illegalArrayLength hn

end Spot

/-! ### What is said in a category -/

/-- What a violation says is so of a value declared at the path. -/
def Schema.Accounts (s : Schema) (p : Path) (v : Violation) : Prop :=
  ∃ q r k is, s.DeclaresAt q r ∧ p = q.pushMany (.property k :: is.map .index) ∧
    r.Describes k is v

lemma Spot.DeclaredAt.accounts {v : Violation} (h : a.DeclaredAt s p)
    (hv : a.field.Describes a.name a.indices v) : s.Accounts p v := by
  obtain ⟨q, r, hq, hf, hp, -⟩ := h
  exact ⟨q, r, a.name, a.indices, hq, hp, .value hf hv⟩

variable {nested coverage : Coverage} {x : Breach} {o : MemberOrder}

lemma accounts_of_mem_breaches (h : s.DeclaresAt p r) (hx : x ∈ coverage.breaches r ms) :
    s.Accounts (p.pushMany x.way) x.violation := by
  obtain ⟨-, k, v, hu, rfl⟩ := Coverage.mem_breaches.mp hx
  refine ⟨p, r, k, [], h, rfl, ?_⟩
  cases hu with
  | missing hf hq _ => exact .missingField hf hq
  | unexpected _ hk => exact .unexpectedField hk

/-- What is seen at a declared spot is accounted for at its path, or below it if it is about the
keys of an object. -/
lemma accounts_of_mem_shapeBreaches (h : a.DeclaredAt s p) (hx : x ∈ a.shapeBreaches s nested) :
    s.Accounts (p.pushMany x.way) x.violation := by
  rcases Spot.mem_shapeBreaches.mp hx with ⟨-, rfl⟩ | ⟨t, ht, -, -, rfl⟩ | ⟨n, r, ms, ht, -, hr, hx⟩
  · rw [Breach.here, Path.pushMany_nil]
    exact h.accounts h.describes_incorrectType
  · rw [Breach.here, Path.pushMany_nil]
    refine h.accounts (.enumValueNotAllowed (h.depth_eq ?_))
    rw [ht]
    rfl
  · exact accounts_of_mem_breaches (h.declaresAt ht hr) hx

lemma accounts_of_mem_contentViolations {v : Violation} (h : a.DeclaredAt s p)
    (hv : v ∈ a.contentViolations) : s.Accounts p v :=
  h.accounts (h.describes_breaks (Spot.mem_contentViolations.mp hv))

/-- A walk that sees only what is accounted for reports nothing else. -/
lemma accounts_of_mem_reportsAfter {w : Walk} (h : s.DeclaresAt p r)
    (hw : ∀ {a p x}, a.DeclaredAt s p → x ∈ w.look a → s.Accounts (p.pushMany x.way) x.violation)
    (hx : x ∈ w.reportsAfter s (o.spots r ms)) : s.Accounts (p.pushMany x.way) x.violation := by
  obtain ⟨cs, a, y, ha, hy, rfl⟩ := Walk.exists_of_mem_reportsAfter_spots hx
  rw [Breach.along, Path.pushMany_append]
  exact hw (ha.declaredAt h) hy

namespace Validator

variable {v : Validator} {request : Request}

lemma accounts_of_mem_partBreaches {c : Category} (hr : v.schema.root? c = some r)
    (hx : x ∈ v.partBreaches r ms) :
    v.schema.Accounts ((Path.ofProperty c.name).pushMany x.way) x.violation := by
  have hc : v.schema.DeclaresAt (.ofProperty c.name) r := .category hr
  rcases mem_partBreaches_iff.mp hx with hx | hx | ⟨-, hx⟩
  · exact accounts_of_mem_breaches hc hx
  · exact accounts_of_mem_reportsAfter hc (fun h hx => accounts_of_mem_shapeBreaches h hx) hx
  · refine accounts_of_mem_reportsAfter hc (fun h hx => ?_) hx
    obtain ⟨u, hu, rfl⟩ := List.mem_map.mp hx
    rw [Breach.here, Path.pushMany_nil]
    exact accounts_of_mem_contentViolations h hu

/-- A finding, other than that a category is missing, is made at the name of a field in a declared
object or at positions in the lists of that field. The path tells which; the finding speaks of that
field, those positions and what is declared of it; and the location is that of the field with the
positions after it. -/
theorem findings_describe {x : Finding} (hx : x ∈ (v.validate request).findings)
    (hm : ∀ c, x.violation ≠ .rootMissing c) :
    ∃ q r k is, q ≠ Path.root ∧ v.schema.DeclaresAt q r ∧
      (∀ r', v.schema.DeclaresAt q r' → r' = r) ∧
      x.location = .within (q.pushMany (.property k :: is.map .index)) ∧
      x.location.render = (q.push (.property k)).render ++ Path.bracketed is ∧
      r.Describes k is x.violation := by
  obtain ⟨c, r₀, hr₀, ⟨-, rfl⟩ | ⟨ms, -, b, hb, rfl⟩⟩ := mem_findings_validate_iff.mp hx
  · exact absurd rfl (hm c)
  · obtain ⟨q, r, k, is, hq, hp, hv⟩ := accounts_of_mem_partBreaches hr₀ hb
    have hlocation : (b.findingAt (Path.root.push (.property c.name))).location
        = .within (q.pushMany (.property k :: is.map .index)) := congrArg Location.within hp
    refine ⟨q, r, k, is, hq.ne_root, hq, fun r' hr' => hr'.unique hq, hlocation, ?_, hv⟩
    rw [hlocation]
    exact Path.render_pushMany_property q k is

end Validator

/-! ### Something else than a tree -/

namespace Orchard

/-- What stands at the second place of the first row is not a tree. -/
def notTree : Finding := ⟨.within ⟨[.property "body", .property "rows", .index 0, .index 1]⟩,
  .incorrectType "rows" "[0][1]" "Tree"⟩

/-- The field is the one of rows, two lists further in, and the type is what the rows are made of. -/
theorem findings_describe_notTree :
    decl.resolve = .ok validator.schema ∧ notTree ∈ (validator.validate request).findings ∧
    (∀ c, notTree.violation ≠ .rootMissing c) ∧
    ∃ q r k is, q ≠ Path.root ∧ validator.schema.DeclaresAt q r ∧
      (∀ r', validator.schema.DeclaresAt q r' → r' = r) ∧
      notTree.location = .within (q.pushMany (.property k :: is.map .index)) ∧
      notTree.location.render = (q.push (.property k)).render ++ Path.bracketed is ∧
      r.Describes k is notTree.violation ∧
      q = .ofProperty "body" ∧ k = "rows" ∧ is = [0, 1] ∧ Path.bracketed is = "[0][1]" := by
  have hfound : (validator.validate request).findings[3]? = some notTree := by
    with_unfolding_all rfl
  have hmem := List.mem_of_getElem? hfound
  obtain ⟨q, r, k, is, hq, hr, hunique, hlocation, hrender, hv⟩ :=
    Validator.findings_describe hmem nofun
  obtain ⟨rfl, rfl, rfl⟩ := Path.pushMany_property_inj (p := .ofProperty "body") (k := "rows")
    (m := [0, 1]) (Location.within.inj hlocation)
  exact ⟨resolve_decl, hmem, nofun, _, r, _, _, hq, hr, hunique, hlocation, hrender, hv, rfl, rfl,
    rfl, by decide⟩

end Orchard

end RequestContract
