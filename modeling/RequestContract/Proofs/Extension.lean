import RequestContract.Proofs.Validator

/-!
# One more type

A field refers to a type by its name, and a declaration that resolves declares every name that is
referred to. So a type that is added to it, at whatever position, is referred to by no other type,
and unless it has the name of a category no value is ever checked against it.
`Validator.validate_eq_of_adds` says that the reports stay the same, of all requests and whatever
the options.

What carries the proof is that `Schema.ExtendedBy`, the old names having their types in the new
schema too, is all that walks need in a closed schema.
-/

namespace RequestContract

/-- All types of a schema are in the other one too, under their names. -/
def Schema.ExtendedBy (s s' : Schema) : Prop := ∀ n r, s.type? n = some r → s'.type? n = some r

/-- The second declaration has one more type, somewhere among those of the first. -/
def SchemaDecl.Adds (d : SchemaDecl) (n : String) (t : TypeDecl) (d' : SchemaDecl) : Prop :=
  ∃ before after, d.types.entries = before ++ after ∧
    d'.types.entries = before ++ (n, t) :: after

variable {s s' : Schema}

/-! ### Walks in an extended schema -/

lemma Schema.ExtendedBy.type?_eq (h : s.ExtendedBy s') {t : FieldType} (ht : t.ResolvesIn s)
    {n : String} (hn : t.innermost = .named n) : s'.type? n = s.type? n := by
  obtain ⟨r, hr⟩ := ht n hn
  rw [hr, h n r hr]

namespace Spot

variable {a : Spot}

lemma next_eq_of_extendedBy (h : s.ExtendedBy s') (ha : a.type.ResolvesIn s) (o : MemberOrder) :
    a.next s' o = a.next s o := by
  rw [next, next]
  split
  · rfl
  · next n ms hn _ =>
    rw [h.type?_eq ha (n := n) (by rw [hn]; rfl)]
  · rfl

lemma shapeBreaches_eq_of_extendedBy (h : s.ExtendedBy s') (ha : a.type.ResolvesIn s)
    (nested : Coverage) : a.shapeBreaches s' nested = a.shapeBreaches s nested := by
  rw [shapeBreaches, shapeBreaches]
  split
  · split
    · rfl
    · next n ms hn _ =>
      rw [h.type?_eq ha (n := n) (by rw [hn]; rfl)]
    · rfl
  · rfl

end Spot

/-- A walk in a closed schema is in step with itself in the extended schema, if it sees the same at
each spot whose type resolves. -/
lemma Walk.inStep_of_extendedBy (w w' : Walk) (hs : s.Closed) (h : s.ExtendedBy s')
    (ho : w'.order = w.order) (hl : ∀ a, a.type.ResolvesIn s → w'.look a = w.look a) :
    w'.InStep w s' s fun a b => a = b ∧ a.type.ResolvesIn s := by
  constructor
  · rintro a _ ⟨rfl, ha⟩
    exact hl a ha
  · -- the types of all spots further in resolve, the schema being closed
    rintro a _ ⟨rfl, ha⟩
    rw [ho, Spot.next_eq_of_extendedBy h ha]
    exact List.forall₂_same.mpr fun n hn =>
      ⟨rfl, rfl, (Spot.step_of_mem_next hn).resolvesIn hs ha⟩

/-- So are all spots inside an object of a type of the closed schema. -/
lemma MemberOrder.spots_resolveIn (hs : s.Closed) {n : String} {r : RecordType}
    (hr : s.type? n = some r) (ms : List (String × Json)) (o : MemberOrder) :
    List.Forall₂ (fun n m => n.1 = m.1 ∧ n.2 = m.2 ∧ n.2.type.ResolvesIn s)
      (o.spots r ms) (o.spots r ms) := by
  refine List.forall₂_same.mpr fun x hx => ⟨rfl, rfl, ?_⟩
  obtain ⟨k, f, v, -, hf, -, ha⟩ := MemberOrder.of_mem_spots hx
  rw [ha]
  exact hs n r k f hr hf

/-! ### Reports in an extended schema -/

namespace Validator

variable {o : Options}

lemma partBreaches_eq_of_extendedBy (hs : s.Closed) (h : s.ExtendedBy s') {n : String}
    {r : RecordType} (hr : s.type? n = some r) (ms : List (String × Json)) :
    (Validator.mk s' o).partBreaches r ms = (Validator.mk s o).partBreaches r ms := by
  have hspots := MemberOrder.spots_resolveIn hs hr ms .declared
  have hshape := (Walk.inStep_of_extendedBy (shapeWalk s o.nestedCoverage)
    (shapeWalk s' o.nestedCoverage) hs h rfl
    (fun _ ha => Spot.shapeBreaches_eq_of_extendedBy h ha _)).reportsAfter_eq hspots
  have hcontent := (Walk.inStep_of_extendedBy contentWalk contentWalk hs h rfl
    (fun _ _ => rfl)).reportsAfter_eq hspots
  rw [partBreaches, partBreaches, hshape, hcontent]

/-- More types change no report, if no category gets one. -/
theorem validate_eq_of_extendedBy (hs : s.Closed) (h : s.ExtendedBy s')
    (hroot : ∀ c, s'.root? c = s.root? c) (request : Request) :
    (Validator.mk s' o).validate request = (Validator.mk s o).validate request := by
  refine validate_eq_of_categories fun c => ?_
  simp only [hroot]
  cases hr : s.root? c with
  | none => exact .none
  | some r =>
    have hparts := partBreaches_eq_of_extendedBy (o := o) hs h hr
    exact .some (by simp only [categoryFindings, hparts])

end Validator

/-! ### One more type in a declaration -/

namespace SchemaDecl

variable {d d' : SchemaDecl} {n : String} {t : TypeDecl}

/-- The new type has a new name. -/
lemma Adds.not_mem_keys (h : d.Adds n t d') : n ∉ d.types.keys := by
  obtain ⟨before, after, hd, hd'⟩ := h
  have hnodup := d'.types.nodup
  rw [hd', List.map_append, List.map_cons, List.nodup_middle, List.nodup_cons] at hnodup
  rw [OrderedMap.keys, hd, List.map_append]
  exact hnodup.1

/-- Under all other names there is what was there before. -/
lemma Adds.get?_eq (h : d.Adds n t d') {m : String} (hm : m ≠ n) :
    d'.types.get? m = d.types.get? m := by
  obtain ⟨before, after, hd, hd'⟩ := h
  have hb : (m == n) = false := by simpa using hm
  rw [OrderedMap.get?, OrderedMap.get?, hd, hd', List.lookup_append, List.lookup_append,
    List.lookup_cons, hb]

lemma Adds.type?_eq (h : d.Adds n t d') (hs : d.resolve = .ok s) (hs' : d'.resolve = .ok s')
    {m : String} (hm : m ≠ n) : s'.type? m = s.type? m := by
  rw [type?_of_resolve hs, type?_of_resolve hs', h.get?_eq hm]

lemma Adds.extendedBy (h : d.Adds n t d') (hs : d.resolve = .ok s) (hs' : d'.resolve = .ok s') :
    s.ExtendedBy s' := by
  intro m r hr
  have hm : m ≠ n := by
    rintro rfl
    rw [type?_of_resolve hs, OrderedMap.get?_eq_none_iff.mpr h.not_mem_keys] at hr
    cases hr
  rw [h.type?_eq hs hs' hm, hr]

end SchemaDecl

/-- A type that is added to a declaration under a name of no category leaves all reports as they
are. -/
theorem Validator.validate_eq_of_adds {d d' : SchemaDecl} {n : String} {t : TypeDecl}
    (hs : d.resolve = .ok s) (hs' : d'.resolve = .ok s') (h : d.Adds n t d')
    (hn : ∀ c : Category, c.name ≠ n) (o : Options) (request : Request) :
    (Validator.mk s' o).validate request = (Validator.mk s o).validate request :=
  validate_eq_of_extendedBy (SchemaDecl.closed_of_resolve hs) (h.extendedBy hs hs')
    (fun c => h.type?_eq hs hs' (hn c)) request

/-! ### Leaves -/

namespace Orchard

/-- A leaf grows on a tree and may be made of leaves. -/
def leaf : TypeDecl := .ofList [("tree", .ofType "Tree"), ("parts", .ofType "array[Leaf]")]

/-- The orchard with leaves, which nothing else refers to. -/
def declWithLeaf : SchemaDecl := ⟨.ofList [
  ("body", .ofList [("rows", rows)]),
  ("Leaf", leaf),
  ("Tree", .ofList [("kind", kind), ("branches", branches)]),
  ("Branch", .ofList [("tree", tree), ("name", name)])]⟩

lemma adds_leaf : decl.Adds "Leaf" leaf declWithLeaf :=
  ⟨[("body", .ofList [("rows", rows)])],
    [("Tree", .ofList [("kind", kind), ("branches", branches)]),
      ("Branch", .ofList [("tree", tree), ("name", name)])],
    by with_unfolding_all rfl, by with_unfolding_all rfl⟩

/-- Leaves change nothing in what is reported about an orchard. -/
theorem validate_eq_of_adds_leaf :
    ∃ s', declWithLeaf.resolve = .ok s' ∧ decl.resolve = .ok schema ∧
      decl.Adds "Leaf" leaf declWithLeaf ∧ (∀ c : Category, c.name ≠ "Leaf") ∧
      (Validator.mk s' validator.options).validate request = validator.validate request := by
  have hs' : declWithLeaf.resolve = .ok _ := SchemaDecl.resolve_eq_ok_iff.mpr
    ⟨SchemaDecl.problems_eq_nil_iff.mp (by with_unfolding_all rfl), rfl⟩
  have hn (c : Category) : c.name ≠ "Leaf" := by cases c <;> decide
  exact ⟨_, hs', resolve_decl, adds_leaf, hn,
    Validator.validate_eq_of_adds resolve_decl hs' adds_leaf hn _ _⟩

end Orchard

end RequestContract
