import Mathlib.Data.List.Forall2
import RequestContract.Proofs.Entries
import RequestContract.Schema.Resolution

/-!
# When a declaration resolves, and to what

`SchemaDecl.WellFormed` says what a declaration must satisfy: no type has a reserved name, and each
field has a readable type text, refers only to declared types, gives values if it is an enum, and
has no range that ends before it starts. `resolve_iff_wellFormed` says that just these declarations
resolve, each to a schema with the same types and fields in the same order, and that any other is
rejected with at least one problem. The references may go round in circles.

A schema that a declaration resolves to is closed: every name that a field refers to has a type.
-/

namespace RequestContract

variable {α β : Type}

/-! ### Entry by entry -/

namespace OrderedMap

/-- The same keys in the same order, with related values. -/
def Related (R : α → β → Prop) (m : OrderedMap α) (n : OrderedMap β) : Prop :=
  List.Forall₂ (fun e e' => e.1 = e'.1 ∧ R e.2 e'.2) m.entries n.entries

variable {R : α → β → Prop} {m : OrderedMap α} {n : OrderedMap β}

lemma Related.get? (h : m.Related R n) (k : String) : Option.Rel R (m.get? k) (n.get? k) := by
  rw [OrderedMap.get?, OrderedMap.get?]
  rw [Related] at h
  generalize m.entries = es at h ⊢
  generalize n.entries = es' at h ⊢
  induction h with
  | nil => exact .none
  | @cons e e' es es' he _ ih =>
    rw [show e = (e.1, e.2) from rfl, show e' = (e'.1, e'.2) from rfl, List.lookup_cons,
      List.lookup_cons, ← he.1]
    cases k == e.1
    · exact ih
    · exact .some he.2

lemma Related.get?_isSome_iff (h : m.Related R n) (k : String) :
    (m.get? k).isSome = (n.get? k).isSome := by
  have hk := h.get? k
  generalize m.get? k = x, n.get? k = y at hk ⊢
  cases hk <;> rfl

lemma Related.exists_of_get? (h : m.Related R n) {k : String} {y : β} (hk : n.get? k = some y) :
    ∃ x, m.get? k = some x ∧ R x y := by
  have hrel := h.get? k
  rw [hk] at hrel
  generalize m.get? k = x at hrel ⊢
  cases hrel with
  | some hxy => exact ⟨_, rfl, hxy⟩

lemma related_filterMap {f : String → α → Option β}
    (h : ∀ e ∈ m.entries, ∃ y, f e.1 e.2 = some y ∧ R e.2 y) : m.Related R (m.filterMap f) := by
  change List.Forall₂ _ m.entries (m.entries.filterMap _)
  generalize m.entries = es at h ⊢
  induction es with
  | nil => exact .nil
  | cons e es ih =>
    obtain ⟨y, hy, hR⟩ := h e List.mem_cons_self
    rw [List.filterMap_cons, hy]
    exact .cons ⟨rfl, hR⟩ (ih fun e' he' => h e' (List.mem_cons_of_mem e he'))

lemma Related.filterMap {γ δ : Type} {S : γ → δ → Prop} (h : m.Related R n)
    {f : String → α → Option γ} {g : String → β → Option δ}
    (hfg : ∀ k x y, R x y → Option.Rel S (f k x) (g k y)) :
    (m.filterMap f).Related S (n.filterMap g) := by
  refine List.rel_filterMap ?_ h
  rintro ⟨k, x⟩ ⟨_, y⟩ ⟨rfl, hxy⟩
  have hk := hfg k x y hxy
  show Option.Rel _ ((f k x).map _) ((g k y).map _)
  generalize f k x = u, g k y = v at hk ⊢
  cases hk with
  | none => exact .none
  | some huv => exact .some ⟨rfl, huv⟩

end OrderedMap

/-! ### What is asked of a declaration -/

/-- A field declaration as it should be, among the types of `d`. -/
structure FieldDecl.WellFormed (d : SchemaDecl) (f : FieldDecl) : Prop where
  /-- The type text can be read, the type that it refers to is declared, and an enum has values. -/
  type : ∃ t, FieldType.ofText? f.typeText = some t ∧
    (∀ n, t.innermost = .named n → n ∈ d.types.keys) ∧
    (t.innermost = .enum → ∃ vs, f.values = some vs ∧ vs ≠ [])
  /-- The range does not end before it starts. -/
  range : ∀ r, f.range = some r → r.max.lt r.min = false

/-- A declaration as it should be. -/
structure SchemaDecl.WellFormed (d : SchemaDecl) : Prop where
  /-- No type has a reserved name. -/
  names : ∀ n ∈ d.types.keys, n ∉ FieldType.reservedNames
  /-- All fields are as they should be. -/
  fields : ∀ n t k f, d.types.get? n = some t → t.get? k = some f → f.WellFormed d

/-- A field is what a declaration says, with the type that its text writes. -/
structure FieldDecl.ResolvesTo (d : FieldDecl) (f : Field) : Prop where
  type : FieldType.ofText? d.typeText = some f.type
  required : f.required = d.required
  values : f.values = d.values
  range : f.range = d.range
  isUrl : f.isUrl = d.isUrl
  startsWith : f.startsWith = d.startsWith
  length : f.length = d.length
  arrayLengths : f.arrayLengths = d.arrayLengths.getD []

/-- A schema has the types and fields of a declaration, in its order. -/
def SchemaDecl.ResolvesTo (d : SchemaDecl) (s : Schema) : Prop :=
  d.types.Related (fun t r => t.Related FieldDecl.ResolvesTo r) s.types

/-! ### Problems -/

lemma FieldType.reference?_eq_some_iff {t : FieldType} {n : String} :
    t.reference? = some n ↔ t.innermost = .named n := by
  rw [reference?]
  cases t.innermost <;> simp

lemma FieldType.isEnum_iff {t : FieldType} : t.isEnum = true ↔ t = .enum := by
  cases t <;> simp [isEnum]

namespace SchemaDecl

variable {d : SchemaDecl} {declared : List String} {owner field : String} {t : FieldType}
  {f : FieldDecl}

lemma referenceProblems_eq_nil_iff : referenceProblems declared owner field t = [] ↔
    ∀ n, t.innermost = .named n → n ∈ declared := by
  simp only [← FieldType.reference?_eq_some_iff, referenceProblems]
  cases t.reference? <;> simp

lemma enumProblems_eq_nil_iff : enumProblems owner field t f = [] ↔
    (t.innermost = .enum → ∃ vs, f.values = some vs ∧ vs ≠ []) := by
  rw [enumProblems, ← FieldType.isEnum_iff]
  cases f.values <;> simp

lemma rangeProblems_eq_nil_iff : rangeProblems owner field f = [] ↔
    ∀ r, f.range = some r → r.max.lt r.min = false := by
  rw [rangeProblems]
  cases f.range with
  | none => simp
  | some r => cases h : r.max.lt r.min <;> simp [Range.isInverted, h]

lemma fieldProblems_eq_nil_iff (hd : ∀ n, n ∈ declared ↔ n ∈ d.types.keys) :
    fieldProblems declared owner field f = [] ↔ f.WellFormed d := by
  rw [fieldProblems]
  split
  · next ht =>
    constructor
    · intro h
      cases h
    · rintro ⟨⟨t, ht', _⟩, _⟩
      rw [ht] at ht'
      cases ht'
  · next t ht =>
    rw [List.append_eq_nil_iff, List.append_eq_nil_iff, referenceProblems_eq_nil_iff,
      enumProblems_eq_nil_iff, rangeProblems_eq_nil_iff]
    simp only [hd]
    constructor
    · rintro ⟨⟨hn, he⟩, hr⟩
      exact ⟨⟨t, ht, hn, he⟩, hr⟩
    · rintro ⟨⟨t', ht', hn, he⟩, hr⟩
      rw [ht, Option.some.injEq] at ht'
      subst ht'
      exact ⟨⟨hn, he⟩, hr⟩

lemma mem_declaredNames_iff {n : String} :
    n ∈ d.declaredNames ↔ n ∈ d.types.keys ∧ n ∉ FieldType.reservedNames := by
  simp [declaredNames]

/-- A reserved name is a problem of its own, so without problems all names can be referred to. -/
theorem problems_eq_nil_iff : d.problems = [] ↔ d.WellFormed := by
  rw [problems, List.flatMap_eq_nil_iff]
  constructor
  · intro h
    have hnames : ∀ n ∈ d.types.keys, n ∉ FieldType.reservedNames := by
      intro n hn hr
      obtain ⟨t, ht⟩ := OrderedMap.mem_keys_iff.mp hn
      have := h (n, t) (OrderedMap.get?_eq_some_iff.mp ht)
      simp [typeProblems, hr] at this
    -- without reserved names all types are declared names, so references mean the same
    refine ⟨hnames, fun n t k f ht hf => ?_⟩
    have hp := h (n, t) (OrderedMap.get?_eq_some_iff.mp ht)
    have hn := hnames n (OrderedMap.mem_keys_iff.mpr ⟨t, ht⟩)
    rw [typeProblems, if_neg (by simpa using hn), List.flatMap_eq_nil_iff] at hp
    refine (fieldProblems_eq_nil_iff fun m => ?_).mp (hp (k, f) (OrderedMap.get?_eq_some_iff.mp hf))
    rw [mem_declaredNames_iff]
    exact ⟨And.left, fun hm => ⟨hm, hnames m hm⟩⟩
  · rintro ⟨hnames, hfields⟩ ⟨n, t⟩ he
    have ht := OrderedMap.get?_eq_some_iff.mpr he
    have hn := hnames n (OrderedMap.mem_keys_iff.mpr ⟨t, ht⟩)
    rw [typeProblems, if_neg (by simpa using hn), List.flatMap_eq_nil_iff]
    rintro ⟨k, f⟩ hf
    refine (fieldProblems_eq_nil_iff fun m => ?_).mpr
      (hfields n t k f ht (OrderedMap.get?_eq_some_iff.mpr hf))
    rw [mem_declaredNames_iff]
    exact ⟨And.left, fun hm => ⟨hm, hnames m hm⟩⟩

/-! ### The schema -/

lemma resolveType_related {t : TypeDecl} (h : ∀ k f, t.get? k = some f → f.WellFormed d) :
    t.Related FieldDecl.ResolvesTo (resolveType t) := by
  rw [resolveType]
  apply OrderedMap.related_filterMap
  rintro ⟨k, f⟩ he
  obtain ⟨u, hu, -⟩ := (h k f (OrderedMap.get?_eq_some_iff.mpr he)).type
  exact ⟨.ofDecl u f, by rw [hu, Option.map_some], hu, rfl, rfl, rfl, rfl, rfl, rfl, rfl⟩

lemma resolve_eq_ok_iff {s : Schema} : d.resolve = .ok s ↔
    d.WellFormed ∧ s = ⟨d.types.filterMap fun _ t => some (resolveType t)⟩ := by
  rw [← problems_eq_nil_iff, resolve]
  cases h : NonEmptyList.ofList? d.problems with
  | none =>
    rw [NonEmptyList.ofList?_eq_none_iff] at h
    simp [h, eq_comm]
  | some ps =>
    rw [NonEmptyList.ofList?_eq_some_iff] at h
    simp [h, NonEmptyList.toList]

lemma get?_resolveType (t : TypeDecl) (k : String) : (resolveType t).get? k
    = (t.get? k).bind fun f => (FieldType.ofText? f.typeText).map (Field.ofDecl · f) := by
  rw [resolveType, OrderedMap.get?_filterMap]

lemma type?_of_resolve {s : Schema} (h : d.resolve = .ok s) (n : String) :
    s.type? n = (d.types.get? n).map resolveType := by
  obtain ⟨-, rfl⟩ := resolve_eq_ok_iff.mp h
  rw [Schema.type?, OrderedMap.get?_filterMap]
  cases d.types.get? n <;> rfl

lemma resolvesTo_of_resolve {s : Schema} (h : d.resolve = .ok s) : d.ResolvesTo s := by
  obtain ⟨hd, rfl⟩ := resolve_eq_ok_iff.mp h
  apply OrderedMap.related_filterMap
  rintro ⟨n, t⟩ he
  refine ⟨resolveType t, rfl, ?_⟩
  apply resolveType_related
  intro k f hf
  exact hd.fields n t k f (OrderedMap.get?_eq_some_iff.mpr he) hf

/-- Just the well-formed declarations resolve, to a schema with the same types and fields. -/
theorem resolve_iff_wellFormed (d : SchemaDecl) :
    ((∃ s, d.resolve = .ok s) ↔ d.WellFormed) ∧
    (∀ s, d.resolve = .ok s → d.ResolvesTo s) ∧
    (¬ d.WellFormed → ∃ ps, d.resolve = .error ps ∧ ps.toList ≠ []) := by
  refine ⟨⟨?_, ?_⟩, fun s h => resolvesTo_of_resolve h, ?_⟩
  · rintro ⟨s, h⟩
    exact (resolve_eq_ok_iff.mp h).1
  · intro hd
    exact ⟨_, resolve_eq_ok_iff.mpr ⟨hd, rfl⟩⟩
  · intro hd
    cases h : d.resolve with
    | ok s => exact absurd (resolve_eq_ok_iff.mp h).1 hd
    | error ps => exact ⟨ps, rfl, List.cons_ne_nil _ _⟩

end SchemaDecl

/-! ### A declaration that goes round in circles -/

namespace Orchard

/-- Two rows of one tree each. -/
def rows : FieldDecl := ((FieldDecl.ofType "array[array[Tree]]").require).withArrayLengths [2, 1]

/-- The kind of a tree. -/
def kind : FieldDecl := ((FieldDecl.ofType "enum").require).withValues ["apple", "pear"]

/-- The branches of a tree. -/
def branches : FieldDecl := .ofType "array[Branch]"

/-- What a branch grows into. -/
def tree : FieldDecl := (FieldDecl.ofType " Tree ").require

/-- The name of a branch. -/
def name : FieldDecl := ((FieldDecl.ofType "string").withStart "b").withLength 3

/-- Trees refer to branches and branches to trees. -/
def decl : SchemaDecl := ⟨.ofList [
  ("body", .ofList [("rows", rows)]),
  ("Tree", .ofList [("kind", kind), ("branches", branches)]),
  ("Branch", .ofList [("tree", tree), ("name", name)])]⟩

/-- The type of the body. -/
def body : RecordType := .ofList [("rows", .ofDecl (.array (.array (.named "Tree"))) rows)]

/-- What the declaration resolves to. -/
def schema : Schema := ⟨.ofList [
  ("body", body),
  ("Tree", .ofList [("kind", .ofDecl .enum kind),
    ("branches", .ofDecl (.array (.named "Branch")) branches)]),
  ("Branch", .ofList [("tree", .ofDecl (.named "Tree") tree),
    ("name", .ofDecl (.primitive .string) name)])]⟩

lemma resolve_decl : decl.resolve = .ok schema := by with_unfolding_all rfl

end Orchard

/-! ### Closed schemas -/

/-- The name that a type refers to, if any, has a type in the schema. -/
def FieldType.ResolvesIn (t : FieldType) (s : Schema) : Prop :=
  ∀ n, t.innermost = .named n → ∃ r, s.type? n = some r

/-- All types of fields resolve in the schema itself. -/
def Schema.Closed (s : Schema) : Prop :=
  ∀ n r k f, s.type? n = some r → r.get? k = some f → f.type.ResolvesIn s

/-- Each field of the schema comes from a declaration as it should be. -/
lemma SchemaDecl.exists_fieldDecl_of_resolve {d : SchemaDecl} {s : Schema} (h : d.resolve = .ok s)
    {n k : String} {r : RecordType} {f : Field} (hr : s.type? n = some r) (hf : r.get? k = some f) :
    ∃ g : FieldDecl, g.WellFormed d ∧ g.ResolvesTo f := by
  obtain ⟨hd, -⟩ := resolve_eq_ok_iff.mp h
  obtain ⟨t, ht, htr⟩ := (resolvesTo_of_resolve h).exists_of_get? hr
  obtain ⟨g, hg, hgf⟩ := htr.exists_of_get? hf
  exact ⟨g, hd.fields n t k g ht hg, hgf⟩

theorem SchemaDecl.closed_of_resolve {d : SchemaDecl} {s : Schema} (h : d.resolve = .ok s) :
    s.Closed := by
  have hs := resolvesTo_of_resolve h
  intro n r k f hr hf m hm
  obtain ⟨g, hg, hgf⟩ := exists_fieldDecl_of_resolve h hr hf
  obtain ⟨u, hu, hdecl, -⟩ := hg.type
  rw [hgf.type, Option.some.injEq] at hu
  obtain ⟨t', ht'⟩ := OrderedMap.mem_keys_iff.mp (hdecl m (hu ▸ hm))
  rw [← Option.isSome_iff_exists, Schema.type?, ← hs.get?_isSome_iff, ht']
  rfl

end RequestContract
