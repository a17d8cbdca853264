import Mathlib.Logic.Relation
import RequestContract.Proofs.Schema.Insertion

/-!
# Declarations that ask for less

A declaration is relaxed by changing one field of one type so that less is asked of its values: the
field need not be there, may have any value, loses a constraint, gets a wider range or more values
of an enum. A relaxed declaration resolves if the one before did, to a schema of which each look-up
has the same answer but for the fields that have been relaxed.
-/

namespace RequestContract

section Rel

variable {α : Type} {R : α → α → Prop} {x y : Option α} {a b : α}

lemma rel_self_of_forall (h : ∀ a, R a a) (x : Option α) : Option.Rel R x x := by
  cases x with
  | none => exact .none
  | some a => exact .some (h a)

lemma exists_right_of_rel (h : Option.Rel R x y) (ha : x = some a) : ∃ b, y = some b ∧ R a b := by
  subst ha
  cases h with
  | some h => exact ⟨_, rfl, h⟩

lemma exists_left_of_rel (h : Option.Rel R x y) (hb : y = some b) : ∃ a, x = some a ∧ R a b := by
  subst hb
  cases h with
  | some h => exact ⟨_, rfl, h⟩

end Rel

/-! ### Wider ranges -/

namespace Double

lemma le_trans {x y z : Double} (h : x.le y = true) (h' : y.le z = true) : x.le z = true := by
  rw [le_iff] at h h' ⊢
  exact ⟨h.1, h'.2.1, Int.le_trans h.2.2 h'.2.2⟩

lemma lt_of_le_of_lt {x y z : Double} (h : x.le y = true) (h' : y.lt z = true) :
    x.lt z = true := by
  rw [le_iff] at h
  rw [lt_iff] at h' ⊢
  exact ⟨h.1, h'.2.1, Int.lt_of_le_of_lt h.2.2 h'.2.2⟩

lemma lt_of_lt_of_le {x y z : Double} (h : x.lt y = true) (h' : y.le z = true) :
    x.lt z = true := by
  rw [le_iff] at h'
  rw [lt_iff] at h ⊢
  exact ⟨h.1, h'.2.1, Int.lt_of_lt_of_le h.2.2 h'.2.2⟩

end Double

namespace Range

/-- The second range goes as far as the first at both ends, or farther. -/
structure Within (r r' : Range) : Prop where
  min : r'.min = r.min ∨ r'.min.le r.min = true
  max : r'.max = r.max ∨ r.max.le r'.max = true

variable {r r' : Range}

lemma Within.refl (r : Range) : r.Within r := ⟨.inl rfl, .inl rfl⟩

lemma Within.min_le (h : r.Within r') {x : Double} (hx : r.min.le x = true) :
    r'.min.le x = true := by
  rcases h.min with heq | hle
  · exact heq ▸ hx
  · exact Double.le_trans hle hx

lemma Within.le_max (h : r.Within r') {x : Double} (hx : x.le r.max = true) :
    x.le r'.max = true := by
  rcases h.max with heq | hle
  · exact heq ▸ hx
  · exact Double.le_trans hx hle

/-- A range that is made wider does not come to end before it starts. -/
lemma Within.lt (h : r.Within r') (hlt : r'.max.lt r'.min = true) : r.max.lt r.min = true := by
  have hmin : r'.max.lt r.min = true := by
    rcases h.min with heq | hle
    · exact heq ▸ hlt
    · exact Double.lt_of_lt_of_le hlt hle
  rcases h.max with heq | hle
  · exact heq ▸ hmin
  · exact Double.lt_of_le_of_lt hle hmin

end Range

/-! ### Changes -/

/-- A change of a field after which less is asked of it. -/
inductive FieldDecl.Relaxation (f : FieldDecl) : FieldDecl → Prop
  | optional : Relaxation f { f with required := false }
  | any {text : String} (h : FieldType.ofText? text = some .any) :
      Relaxation f { f with typeText := text }
  | length : Relaxation f { f with length := none }
  | startsWith : Relaxation f { f with startsWith := none }
  | isUrl : Relaxation f { f with isUrl := false }
  | range : Relaxation f { f with range := none }
  | arrayLengths : Relaxation f { f with arrayLengths := none }
  | widen {r r' : Range} (hr : f.range = some r) (h : r.Within r') :
      Relaxation f { f with range := some r' }
  | values {vs ws : List String} (hv : f.values = some vs) (h : vs ⊆ ws) :
      Relaxation f { f with values := some ws }

/-- Such a change of one field of one type. -/
inductive SchemaDecl.Relaxation (d : SchemaDecl) : SchemaDecl → Prop
  | field {n k : String} {t : TypeDecl} {f g : FieldDecl} (ht : d.types.get? n = some t)
      (hf : t.get? k = some f) (h : f.Relaxation g) : Relaxation d (d.withType n (t.insert k g))

/-! ### What is asked afterwards -/

/-- What the second field asks of a value, the first one asks too. -/
structure Field.RelaxesTo (f g : Field) : Prop where
  type : g.type = f.type ∨ g.type = .any
  required : g.required = true → f.required = true
  values : f.allowedValues ⊆ g.allowedValues
  range : ∀ r', g.range = some r' → ∃ r, f.range = some r ∧ r.Within r'
  isUrl : g.isUrl = true → f.isUrl = true
  startsWith : ∀ start, g.startsWith = some start → f.startsWith = some start
  length : ∀ n, g.length = some n → f.length = some n
  arrayLengths : g.arrayLengths = f.arrayLengths ∨ g.arrayLengths = []

/-- The same keys, under which the second type asks for no more. -/
def RecordType.RelaxesTo (r r' : RecordType) : Prop :=
  ∀ k, Option.Rel Field.RelaxesTo (r.get? k) (r'.get? k)

/-- The same names, whose types ask for no more in the second schema. -/
def Schema.RelaxesTo (s s' : Schema) : Prop :=
  ∀ n, Option.Rel RecordType.RelaxesTo (s.type? n) (s'.type? n)

lemma Field.RelaxesTo.refl (f : Field) : f.RelaxesTo f where
  type := .inl rfl
  required h := h
  values := List.Subset.refl _
  range r hr := ⟨r, hr, .refl r⟩
  isUrl h := h
  startsWith _ h := h
  length _ h := h
  arrayLengths := .inl rfl

lemma RecordType.RelaxesTo.refl (r : RecordType) : r.RelaxesTo r :=
  fun _ => rel_self_of_forall Field.RelaxesTo.refl _

/-! ### Changes and resolution -/

namespace FieldDecl

variable {d : SchemaDecl} {f g : FieldDecl}

lemma Relaxation.wellFormed (h : f.Relaxation g) (hf : f.WellFormed d) : g.WellFormed d := by
  cases h with
  | any h => exact ⟨⟨.any, h, nofun, nofun⟩, hf.range⟩
  | range => exact ⟨hf.type, nofun⟩
  | @widen r r' hr hw =>
    refine ⟨hf.type, fun r'' h => ?_⟩
    cases h
    rw [← Bool.not_eq_true]
    intro hlt
    have hr := hf.range r hr
    rw [hw.lt hlt] at hr
    cases hr
  | @values vs ws hv hs =>
    obtain ⟨t, ht, hn, he⟩ := hf.type
    refine ⟨⟨t, ht, hn, fun h => ⟨ws, rfl, ?_⟩⟩, hf.range⟩
    obtain ⟨vs', hvs, hne⟩ := he h
    rw [hv, Option.some.injEq] at hvs
    subst hvs
    rintro rfl
    exact hne (List.subset_nil.mp hs)
  | _ => exact ⟨hf.type, hf.range⟩

lemma Relaxation.relaxesTo (h : f.Relaxation g) {t : FieldType}
    (ht : FieldType.ofText? f.typeText = some t) :
    ∃ u, FieldType.ofText? g.typeText = some u ∧ (Field.ofDecl t f).RelaxesTo (.ofDecl u g) := by
  have hrefl := Field.RelaxesTo.refl (.ofDecl t f)
  cases h with
  | optional => exact ⟨t, ht, { hrefl with required := nofun }⟩
  | any h => exact ⟨.any, h, { hrefl with type := .inr rfl }⟩
  | length => exact ⟨t, ht, { hrefl with length := nofun }⟩
  | startsWith => exact ⟨t, ht, { hrefl with startsWith := nofun }⟩
  | isUrl => exact ⟨t, ht, { hrefl with isUrl := nofun }⟩
  | range => exact ⟨t, ht, { hrefl with range := nofun }⟩
  | arrayLengths => exact ⟨t, ht, { hrefl with arrayLengths := .inr rfl }⟩
  | @widen r r' hr hw =>
    refine ⟨t, ht, { hrefl with range := fun r'' h => ?_ }⟩
    cases h
    exact ⟨r, hr, hw⟩
  | @values vs ws hv hs =>
    refine ⟨t, ht, { hrefl with values := ?_ }⟩
    show f.values.getD [] ⊆ ws
    rwa [hv]

end FieldDecl

namespace SchemaDecl

variable {d d' : SchemaDecl} {s : Schema}

lemma Relaxation.wellFormed (h : d.Relaxation d') (hd : d.WellFormed) : d'.WellFormed := by
  cases h with
  | @field n k t f g ht hf h => exact hd.withType_insert ht (h.wellFormed (hd.fields n t k f ht hf))

lemma relaxesTo_resolveType {t : TypeDecl} {k : String} {f g : FieldDecl} (hf : t.get? k = some f)
    (hw : f.WellFormed d) (h : f.Relaxation g) :
    (resolveType t).RelaxesTo (resolveType (t.insert k g)) := by
  intro l
  rw [get?_resolveType, get?_resolveType]
  by_cases hl : l = k
  · subst hl
    obtain ⟨u, hu, -⟩ := hw.type
    obtain ⟨u', hu', hr⟩ := h.relaxesTo hu
    rw [OrderedMap.get?_insert_self, hf, Option.bind_some, Option.bind_some, hu, hu']
    exact .some hr
  · rw [OrderedMap.get?_insert_of_ne hl]
    exact rel_self_of_forall Field.RelaxesTo.refl _

/-- A change of a declaration that resolves leads to one that resolves, to a schema that asks for no
more. -/
lemma Relaxation.resolve (h : d.Relaxation d') (hs : d.resolve = .ok s) :
    ∃ s', d'.resolve = .ok s' ∧ s.RelaxesTo s' := by
  have hd := (resolve_eq_ok_iff.mp hs).1
  have hs' := resolve_eq_ok_iff.mpr ⟨h.wellFormed hd, rfl⟩
  refine ⟨_, hs', fun m => ?_⟩
  rw [type?_of_resolve hs, type?_of_resolve hs']
  cases h with
  | @field n k t f g ht hf h =>
    by_cases hm : m = n
    · subst hm
      rw [withType, OrderedMap.get?_insert_self, ht]
      exact .some (relaxesTo_resolveType hf (hd.fields m t k f ht hf) h)
    · rw [withType, OrderedMap.get?_insert_of_ne hm]
      exact rel_self_of_forall RecordType.RelaxesTo.refl _

end SchemaDecl

end RequestContract
