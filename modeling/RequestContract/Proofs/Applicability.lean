import RequestContract.Proofs.Schema.Canonical
import RequestContract.Proofs.Validator

/-!
# Constraints that concern no value

A field may be declared with any constraints, whatever its type. A constraint counts only for the
values that it is about: length, start and form for strings, the range for numbers, the values for
enums, and the `d`-th number of elements for the lists that `d` lists of the field lie around. So
declarations that differ only in constraints that concern no value of their fields' types lead to
the same reports, which `Validator.validate_eq_of_constrainAlike` says for all requests and options.

Elements have all constraints of their list, also those that concern no value. That two fields
constrain alike is therefore said of a type with a depth: what holds at a list holds at its
elements, one deeper.
-/

namespace RequestContract

/-! ### The same constraints -/

/-- Two fields ask the same of the values of type `t` that `depth` lists lie around, and of the
values inside. -/
structure Field.ConstrainAlikeAt (t : FieldType) (depth : Nat) (f g : Field) : Prop where
  length : t.innermost = .primitive .string → f.length = g.length
  startsWith : t.innermost = .primitive .string → f.startsWith = g.startsWith
  isUrl : t.innermost = .primitive .string → f.isUrl = g.isUrl
  range : t.innermost = .primitive .number → f.range = g.range
  values : t.innermost = .enum → f.values = g.values
  arrayLengths : ∀ i < t.depth, f.arrayLengths[depth + i]? = g.arrayLengths[depth + i]?

/-- Two fields that are the same but for constraints that concern no value of their type. -/
structure Field.ConstrainAlike (f g : Field) : Prop where
  type : f.type = g.type
  required : f.required = g.required
  constraints : Field.ConstrainAlikeAt f.type 0 f g

/-- Two declarations of a field that are the same but for constraints that concern no value of the
type that is written. -/
structure FieldDecl.ConstrainAlike (f g : FieldDecl) : Prop where
  typeText : f.typeText = g.typeText
  required : f.required = g.required
  constraints : ∀ t, FieldType.ofText? f.typeText = some t →
    Field.ConstrainAlikeAt t 0 (.ofDecl t f) (.ofDecl t g)

/-- The same types and fields in the same order, but for constraints that concern no value. -/
def SchemaDecl.ConstrainAlike (d d' : SchemaDecl) : Prop :=
  d.types.Related (OrderedMap.Related FieldDecl.ConstrainAlike) d'.types

/-- Under each name both schemas have the same fields, but for constraints that concern no value, or
both have no type. -/
def Schema.ConstrainAlike (s s' : Schema) : Prop :=
  ∀ n, Option.Rel (OrderedMap.Related Field.ConstrainAlike) (s.type? n) (s'.type? n)

/-- Two spots that are the same but for constraints that concern neither the value nor those
inside. -/
structure Spot.ConstrainedAlike (a b : Spot) : Prop where
  name : a.name = b.name
  type : a.type = b.type
  indices : a.indices = b.indices
  value : a.value = b.value
  constraints : Field.ConstrainAlikeAt a.type a.depth a.field b.field

variable {s s' : Schema} {r r' : RecordType} {ms : List (String × Json)}

lemma Field.ConstrainAlikeAt.element {f g : Field} {t : FieldType} {depth : Nat}
    (h : ConstrainAlikeAt (.array t) depth f g) : ConstrainAlikeAt t (depth + 1) f g where
  length := h.length
  startsWith := h.startsWith
  isUrl := h.isUrl
  range := h.range
  values := h.values
  arrayLengths i hi := by
    have := h.arrayLengths (i + 1) (by simpa using hi)
    rwa [← Nat.add_assoc, Nat.add_right_comm] at this

lemma Field.ConstrainAlikeAt.refl (t : FieldType) (depth : Nat) (f : Field) :
    ConstrainAlikeAt t depth f f :=
  ⟨fun _ => rfl, fun _ => rfl, fun _ => rfl, fun _ => rfl, fun _ => rfl, fun _ _ => rfl⟩

/-! ### Objects -/

lemma Field.ConstrainAlike.ofField {f g : Field} (h : f.ConstrainAlike g) (k : String) (v : Json) :
    (Spot.ofField k f v).ConstrainedAlike (.ofField k g v) :=
  ⟨rfl, h.type, rfl, rfl, h.constraints⟩

namespace RecordType

lemma requiredNames_eq (h : r.Related Field.ConstrainAlike r') :
    r.requiredNames = r'.requiredNames := by
  rw [requiredNames, requiredNames]
  rw [OrderedMap.Related] at h
  generalize r.entries = es, r'.entries = es' at h ⊢
  induction h with
  | nil => rfl
  | cons he _ ih =>
    rw [List.filter_cons, List.filter_cons, he.2.required]
    split
    · rw [List.map_cons, List.map_cons, ih, he.1]
    · exact ih

lemma uncovered_eq (h : r.Related Field.ConstrainAlike r') : r.uncovered ms = r'.uncovered ms := by
  have hcontains (k : String) : r.contains k = r'.contains k := h.get?_isSome_iff k
  rw [uncovered, uncovered, requiredNames_eq h]
  simp only [hcontains]

end RecordType

lemma Coverage.breaches_eq (h : r.Related Field.ConstrainAlike r') (coverage : Coverage) :
    coverage.breaches r ms = coverage.breaches r' ms := by
  cases coverage with
  | strict => exact RecordType.uncovered_eq h
  | lenient => rfl

lemma MemberOrder.spots_constrainedAlike (h : r.Related Field.ConstrainAlike r') (o : MemberOrder)
    (ms : List (String × Json)) : List.Forall₂
      (fun n m => n.1 = m.1 ∧ n.2.ConstrainedAlike m.2) (o.spots r ms) (o.spots r' ms) := by
  cases o with
  | given =>
    refine List.rel_filterMap (R := Eq) ?_ (List.forall₂_same.mpr fun _ _ => rfl)
    rintro m _ rfl
    have hm := h.get? m.1
    show Option.Rel _ ((r.get? m.1).map _) ((r'.get? m.1).map _)
    generalize r.get? m.1 = x, r'.get? m.1 = y at hm ⊢
    cases hm with
    | none => exact .none
    | some hfg => exact .some ⟨rfl, hfg.ofField m.1 m.2⟩
  | declared =>
    refine List.rel_filterMap ?_ h
    rintro ⟨k, f⟩ ⟨_, g⟩ ⟨rfl, hfg⟩
    show Option.Rel _ ((ms.lookup k).map _) ((ms.lookup k).map _)
    cases ms.lookup k with
    | none => exact .none
    | some v => exact .some ⟨rfl, hfg.ofField k v⟩

namespace Spot.ConstrainedAlike

variable {a b : Spot}

lemma element (h : a.ConstrainedAlike b) {t : FieldType} (ht : a.type = .array t) (i : Nat)
    (v : Json) : (a.element t i v).ConstrainedAlike (b.element t i v) := by
  refine ⟨h.name, rfl, ?_, rfl, ?_⟩
  · rw [Spot.element, Spot.element, h.indices]
  · have hc := h.constraints
    rw [ht] at hc
    rw [depth_element]
    exact hc.element

lemma next (h : a.ConstrainedAlike b) (hs : s.ConstrainAlike s') (o : MemberOrder) :
    List.Forall₂ (fun n m => n.1 = m.1 ∧ n.2.ConstrainedAlike m.2) (a.next s o) (b.next s' o) := by
  rcases a.list_or_object_or_leaf with ⟨t, items, ht, hv⟩ | ⟨n, ms, ht, hv⟩ | ⟨ha, ho⟩
  · rw [Spot.next_of_list ht hv, Spot.next_of_list (h.type ▸ ht) (h.value ▸ hv),
      List.forall₂_map_left_iff, List.forall₂_map_right_iff]
    exact List.forall₂_same.mpr fun x _ => ⟨rfl, h.element ht x.2 x.1⟩
  · rw [Spot.next, Spot.next, ← h.type, ← h.value, ht, hv]
    have hn := hs n
    dsimp only
    generalize s.type? n = x, s'.type? n = y at hn ⊢
    cases hn with
    | none => exact .nil
    | some hrr => exact MemberOrder.spots_constrainedAlike hrr o ms
  · rw [Spot.next_eq_nil ha ho, Spot.next_eq_nil (h.type ▸ h.value ▸ ha) (h.type ▸ h.value ▸ ho)]
    exact .nil

lemma suffix_eq (h : a.ConstrainedAlike b) : a.suffix = b.suffix := by
  rw [suffix, suffix, h.indices]

lemma shapeBreaches_eq (h : a.ConstrainedAlike b) (hs : s.ConstrainAlike s') (nested : Coverage) :
    a.shapeBreaches s nested = b.shapeBreaches s' nested := by
  rw [shapeBreaches, shapeBreaches, incorrectType, incorrectType, ← h.type, ← h.value, ← h.name,
    h.suffix_eq]
  split
  · split
    · next ht _ =>
      have hvalues := h.constraints.values (by rw [ht]; rfl)
      rw [Field.allowedValues, Field.allowedValues, hvalues]
    · next n ms _ _ =>
      have hn := hs n
      generalize s.type? n = x, s'.type? n = y at hn ⊢
      cases hn with
      | none => rfl
      | some hrr => exact Coverage.breaches_eq hrr nested
    · rfl
  · rfl

lemma contentViolations_eq (h : a.ConstrainedAlike b) :
    a.contentViolations = b.contentViolations := by
  have hc := h.constraints
  rw [contentViolations, contentViolations, ← h.type, ← h.value, ← h.name, h.suffix_eq]
  split
  · next ht _ =>
    rw [ht] at hc
    rw [Field.stringViolations, Field.stringViolations, hc.length rfl, hc.startsWith rfl,
      hc.isUrl rfl]
  · next ht _ =>
    rw [ht] at hc
    rw [Field.numberViolations, Field.numberViolations, hc.range rfl]
  · next ht _ =>
    rw [ht] at hc
    rw [Field.enumViolations, Field.enumViolations, Field.allowedValues, Field.allowedValues,
      hc.values rfl]
  · next t _ ht _ =>
    -- the list at hand is the first of those that are left
    rw [ht] at hc
    have hsize := hc.arrayLengths 0 (Nat.succ_pos _)
    have hdepth : a.depth = b.depth := congrArg List.length h.indices
    rw [Nat.add_zero] at hsize
    rw [Field.sizeViolations, Field.sizeViolations, hsize, hdepth]
  · rfl

end Spot.ConstrainedAlike

/-! ### Validation -/

namespace Schema.ConstrainAlike

lemma shapeWalk_inStep (hs : s.ConstrainAlike s') (nested : Coverage) :
    (shapeWalk s nested).InStep (shapeWalk s' nested) s s' Spot.ConstrainedAlike :=
  ⟨fun _ _ h => h.shapeBreaches_eq hs nested, fun _ _ h => h.next hs .given⟩

lemma contentWalk_inStep (hs : s.ConstrainAlike s') :
    contentWalk.InStep contentWalk s s' Spot.ConstrainedAlike :=
  ⟨fun _ _ h => congrArg (List.map Breach.here) h.contentViolations_eq,
    fun _ _ h => h.next hs .declared⟩

lemma partBreaches_eq (hs : s.ConstrainAlike s') (hr : r.Related Field.ConstrainAlike r')
    (o : Options) :
    (Validator.mk s o).partBreaches r ms = (Validator.mk s' o).partBreaches r' ms := by
  have hspots := MemberOrder.spots_constrainedAlike hr .declared ms
  rw [Validator.partBreaches, Validator.partBreaches, Coverage.breaches_eq hr,
    (hs.shapeWalk_inStep _).reportsAfter_eq hspots, hs.contentWalk_inStep.reportsAfter_eq hspots]

lemma validate_eq (hs : s.ConstrainAlike s') (o : Options) (request : Request) :
    (Validator.mk s o).validate request = (Validator.mk s' o).validate request := by
  refine Validator.validate_eq_of_categories fun c => ?_
  have hc := hs c.name
  show Option.Rel _ (s.type? c.name) (s'.type? c.name)
  generalize s.type? c.name = x, s'.type? c.name = y at hc ⊢
  cases hc with
  | none => exact .none
  | some hr =>
    apply Option.Rel.some
    simp only [Validator.categoryFindings, hs.partBreaches_eq hr]

end Schema.ConstrainAlike

namespace SchemaDecl

variable {d d' : SchemaDecl}

lemma resolveType_constrainAlike {t t' : TypeDecl} (h : t.Related FieldDecl.ConstrainAlike t') :
    (resolveType t).Related Field.ConstrainAlike (resolveType t') := by
  refine h.filterMap fun k f g hfg => ?_
  have hconstraints := hfg.constraints
  rw [← hfg.typeText]
  cases ht : FieldType.ofText? f.typeText with
  | none => exact .none
  | some u => exact .some ⟨rfl, hfg.required, hconstraints u ht⟩

lemma ConstrainAlike.schema (h : d.ConstrainAlike d') (hs : d.resolve = .ok s)
    (hs' : d'.resolve = .ok s') : s.ConstrainAlike s' := by
  intro n
  rw [type?_of_resolve hs, type?_of_resolve hs']
  have hn := h.get? n
  generalize d.types.get? n = x, d'.types.get? n = y at hn ⊢
  cases hn with
  | none => exact .none
  | some ht => exact .some (resolveType_constrainAlike ht)

end SchemaDecl

/-- Constraints that concern no value have no influence on any report. -/
theorem Validator.validate_eq_of_constrainAlike {d d' : SchemaDecl} (hs : d.resolve = .ok s)
    (hs' : d'.resolve = .ok s') (h : d.ConstrainAlike d') (o : Options) (request : Request) :
    (Validator.mk s o).validate request = (Validator.mk s' o).validate request :=
  (h.schema hs hs').validate_eq o request

/-! ### An orchard with idle constraints -/

namespace Orchard

/-- Rows with a number of elements for lists that are not there, and a range that no row has. -/
def idleRows : FieldDecl := (rows.withArrayLengths [2, 1, 5]).withRange .zero .zero

/-- A kind with a length, which no enum is asked for. -/
def idleKind : FieldDecl := (kind.withLength 9).requireUrl

/-- A name with values and numbers of elements. -/
def idleName : FieldDecl := (name.withValues ["ash"]).withArrayLengths [4]

/-- The orchard with constraints that concern no value. -/
def idleDecl : SchemaDecl := ⟨.ofList [
  ("body", .ofList [("rows", idleRows)]),
  ("Tree", .ofList [("kind", idleKind), ("branches", branches)]),
  ("Branch", .ofList [("tree", tree), ("name", idleName)])]⟩

lemma constrainAlike_idleRows : rows.ConstrainAlike idleRows where
  typeText := rfl
  required := rfl
  constraints t ht := by
    have hrows : FieldType.ofText? rows.typeText = some (.array (.array (.named "Tree"))) := by
      with_unfolding_all rfl
    obtain rfl := Option.some.inj (hrows.symm.trans ht)
    refine ⟨nofun, nofun, nofun, nofun, nofun, fun i hi => ?_⟩
    match i, hi with
    | 0, _ => rfl
    | 1, _ => rfl

lemma constrainAlike_idleKind : kind.ConstrainAlike idleKind where
  typeText := rfl
  required := rfl
  constraints t ht := by
    have hkind : FieldType.ofText? kind.typeText = some .enum := by with_unfolding_all rfl
    obtain rfl := Option.some.inj (hkind.symm.trans ht)
    exact ⟨nofun, nofun, nofun, nofun, fun _ => rfl, nofun⟩

lemma constrainAlike_idleName : name.ConstrainAlike idleName where
  typeText := rfl
  required := rfl
  constraints t ht := by
    have hname : FieldType.ofText? name.typeText = some (.primitive .string) := by
      with_unfolding_all rfl
    obtain rfl := Option.some.inj (hname.symm.trans ht)
    exact ⟨fun _ => rfl, fun _ => rfl, fun _ => rfl, nofun, nofun, nofun⟩

lemma constrainAlike_idleDecl : decl.ConstrainAlike idleDecl := by
  have hrefl (f : FieldDecl) : f.ConstrainAlike f :=
    ⟨rfl, rfl, fun _ _ => .refl _ _ _⟩
  refine .cons ⟨rfl, ?_⟩ (.cons ⟨rfl, ?_⟩ (.cons ⟨rfl, ?_⟩ .nil))
  · exact .cons ⟨rfl, constrainAlike_idleRows⟩ .nil
  · exact .cons ⟨rfl, constrainAlike_idleKind⟩ (.cons ⟨rfl, hrefl branches⟩ .nil)
  · exact .cons ⟨rfl, hrefl tree⟩ (.cons ⟨rfl, constrainAlike_idleName⟩ .nil)

/-- The idle constraints change nothing in what is reported about an orchard. -/
theorem validate_eq_of_constrainAlike_idle :
    ∃ s', idleDecl.resolve = .ok s' ∧ decl.resolve = .ok schema ∧ decl.ConstrainAlike idleDecl ∧
      (Validator.mk schema validator.options).validate request
        = (Validator.mk s' validator.options).validate request := by
  have hs' : idleDecl.resolve = .ok _ := SchemaDecl.resolve_eq_ok_iff.mpr
    ⟨SchemaDecl.problems_eq_nil_iff.mp (by with_unfolding_all rfl), rfl⟩
  exact ⟨_, hs', resolve_decl, constrainAlike_idleDecl,
    Validator.validate_eq_of_constrainAlike resolve_decl hs' constrainAlike_idleDecl _ _⟩

end Orchard

end RequestContract
