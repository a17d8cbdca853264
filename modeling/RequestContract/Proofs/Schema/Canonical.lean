import RequestContract.Proofs.Schema.Resolution
import RequestContract.Proofs.Schema.TypeText

/-!
# Canonical type texts

The canonical text of a type that has been read is read as that type again, since it is itself one
of the texts that write the type. So a declaration can be written anew with canonical type texts,
and nothing changes: it resolves to the same schema or has the same problems.

More generally, a declaration resolves to the same whichever of the texts that write a type it uses
(`SchemaDecl.Respelled.resolve_eq`). A text that writes no type is quoted by the problem that it
makes, so it has to stay as it is.
-/

namespace RequestContract

variable {α β γ : Type}

/-! ### The canonical text -/

namespace FieldType

variable {cs : List Char} {w text text' : String} {t u : FieldType}

lemma Keyword.chars_eq (h : Keyword w t) : t.chars = w.toList := by cases h <;> rfl

/-- If there is a text that writes a type, then its canonical text writes it too. -/
lemma Writes.chars (h : Writes cs t) : Writes t.chars t := by
  induction h with
  | keyword _ h _ =>
    rw [h.chars_eq]
    exact h.writes
  | array _ _ _ ih => exact ih.bracketed
  | name _ h _ =>
    rw [FieldType.chars, String.toList_ofList]
    exact h.writes

lemma ofText?_render (h : ofText? text = some t) : ofText? t.render = some t := by
  have hchars := (writes_of_ofChars? h).chars.ofChars?_eq
  rwa [ofText?, render, String.toList_ofList]

lemma render_eq_iff (ht : ofText? text = some t) (hu : ofText? text' = some u) :
    t = u ↔ t.render = u.render := by
  constructor
  · rintro rfl
    rfl
  · intro h
    have hread := ofText?_render ht
    rw [h, ofText?_render hu] at hread
    exact (Option.some.inj hread).symm

end FieldType

/-! ### Declarations that write their types in another way -/

namespace OrderedMap

variable {R : α → β → Prop} {m : OrderedMap α} {n : OrderedMap β}

lemma Related.map_entries (h : m.Related R n) {f : String → α → γ} {g : String → β → γ}
    (hfg : ∀ k x y, R x y → f k x = g k y) :
    (m.entries.map fun e => f e.1 e.2) = n.entries.map fun e => g e.1 e.2 := by
  rw [Related] at h
  generalize m.entries = es at h ⊢
  generalize n.entries = es' at h ⊢
  induction h with
  | nil => rfl
  | cons he _ ih => rw [List.map_cons, List.map_cons, ih, he.1, hfg _ _ _ he.2]

lemma Related.keys_eq (h : m.Related R n) : m.keys = n.keys :=
  h.map_entries (f := fun k _ => k) (g := fun k _ => k) fun _ _ _ _ => rfl

lemma Related.flatMap_entries (h : m.Related R n) {f : String → α → List γ}
    {g : String → β → List γ} (hfg : ∀ k x y, R x y → f k x = g k y) :
    (m.entries.flatMap fun e => f e.1 e.2) = n.entries.flatMap fun e => g e.1 e.2 := by
  rw [List.flatMap_def, List.flatMap_def, h.map_entries hfg]

lemma Related.filterMap_eq (h : m.Related R n) {f : String → α → Option γ}
    {g : String → β → Option γ} (hfg : ∀ k x y, R x y → f k x = g k y) :
    m.filterMap f = n.filterMap g := by
  have hmap := h.map_entries (f := fun k x => (f k x).map (k, ·))
    (g := fun k y => (g k y).map (k, ·)) fun k x y hxy => congrArg _ (hfg k x y hxy)
  have hentries := congrArg (List.filterMap id) hmap
  rw [List.filterMap_map, List.filterMap_map] at hentries
  rw [OrderedMap.filterMap, OrderedMap.filterMap, mk.injEq]
  exact hentries

end OrderedMap

/-- The second declaration of a field may write the type in another way. -/
inductive FieldDecl.Respelled : FieldDecl → FieldDecl → Prop
  | refl (f : FieldDecl) : Respelled f f
  | typeText {f : FieldDecl} {text : String} {t : FieldType}
      (h : FieldType.ofText? f.typeText = some t) (htext : FieldType.ofText? text = some t) :
      Respelled f { f with typeText := text }

/-- The same types and fields in the same order, but types may be written in another way. -/
def SchemaDecl.Respelled (d d' : SchemaDecl) : Prop :=
  d.types.Related (OrderedMap.Related FieldDecl.Respelled) d'.types

namespace SchemaDecl

variable {d d' : SchemaDecl} {f f' : FieldDecl} {t t' : TypeDecl}

lemma fieldProblems_respelled (h : f.Respelled f') (declared : List String)
    (owner field : String) :
    fieldProblems declared owner field f = fieldProblems declared owner field f' := by
  cases h with
  | refl => rfl
  | typeText h htext =>
    rw [fieldProblems, fieldProblems, h, htext]
    rfl

lemma resolveType_respelled (h : t.Related FieldDecl.Respelled t') :
    resolveType t = resolveType t' := by
  refine h.filterMap_eq fun k f f' hf => ?_
  cases hf with
  | refl => rfl
  | typeText h htext =>
    rw [h, htext]
    rfl

lemma Respelled.problems_eq (h : d.Respelled d') : d.problems = d'.problems := by
  have hdeclared : d.declaredNames = d'.declaredNames := by
    rw [declaredNames, declaredNames, h.keys_eq]
  rw [problems, problems, hdeclared]
  refine h.flatMap_entries fun name t t' ht => ?_
  rw [typeProblems, typeProblems]
  split
  · rfl
  · exact ht.flatMap_entries fun k f f' hf => fieldProblems_respelled hf _ name k

/-- How the types are written does not matter. -/
theorem Respelled.resolve_eq (h : d.Respelled d') : d.resolve = d'.resolve := by
  have htypes : (d.types.filterMap fun _ t => some (resolveType t))
      = d'.types.filterMap fun _ t => some (resolveType t) :=
    h.filterMap_eq fun _ _ _ ht => congrArg some (resolveType_respelled ht)
  rw [resolve, resolve, h.problems_eq, htypes]

end SchemaDecl

/-! ### Canonical declarations -/

/-- The field with the canonical type text, if the text writes a type. -/
def FieldDecl.canonical (f : FieldDecl) : FieldDecl :=
  match FieldType.ofText? f.typeText with
  | some t => { f with typeText := t.render }
  | none => f

/-- The type with canonical fields. -/
def TypeDecl.canonical (t : TypeDecl) : TypeDecl := t.filterMap fun _ f => some f.canonical

/-- The declaration with canonical types. -/
def SchemaDecl.canonical (d : SchemaDecl) : SchemaDecl :=
  ⟨d.types.filterMap fun _ t => some (TypeDecl.canonical t)⟩

lemma FieldDecl.respelled_canonical (f : FieldDecl) : f.Respelled f.canonical := by
  rw [canonical]
  split
  · next h => exact .typeText h (FieldType.ofText?_render h)
  · exact .refl f

lemma SchemaDecl.respelled_canonical (d : SchemaDecl) : d.Respelled d.canonical := by
  refine OrderedMap.related_filterMap fun e _ => ⟨_, rfl, ?_⟩
  exact OrderedMap.related_filterMap fun e _ => ⟨_, rfl, e.2.respelled_canonical⟩

/-- Canonical texts are read as what they stand for, so they tell types apart and can take the place
of all type texts of a declaration. -/
theorem SchemaDecl.canonical_texts :
    (∀ text t, FieldType.ofText? text = some t → FieldType.ofText? t.render = some t) ∧
    (∀ text text' t t', FieldType.ofText? text = some t → FieldType.ofText? text' = some t' →
      (t = t' ↔ t.render = t'.render)) ∧
    ∀ d : SchemaDecl, d.canonical.resolve = d.resolve := by
  refine ⟨fun text t h => FieldType.ofText?_render h, ?_, fun d => ?_⟩
  · intro text text' t t' h h'
    exact FieldType.render_eq_iff h h'
  · exact d.respelled_canonical.resolve_eq.symm

/-! ### The rows of an orchard -/

namespace Orchard

/-- The type of a row of trees. -/
def rowType : FieldType := .array (.named "Tree")

lemma ofText?_rows : FieldType.ofText? " array[ array[Tree ]]" = some rowType.array := by
  with_unfolding_all rfl

lemma ofText?_row : FieldType.ofText? "array[\tTree]\n" = some rowType := by
  with_unfolding_all rfl

/-- Rows are written with blanks at all depths, and so is the type of a branch in the declaration of
the orchard. -/
theorem canonical_texts_rows :
    FieldType.ofText? " array[ array[Tree ]]" = some rowType.array ∧
    FieldType.ofText? "array[\tTree]\n" = some rowType ∧
    FieldType.ofText? rowType.array.render = some rowType.array ∧
    (rowType.array = rowType ↔ rowType.array.render = rowType.render) ∧
    decl.canonical.resolve = decl.resolve := by
  obtain ⟨hread, htell, hresolve⟩ := SchemaDecl.canonical_texts
  exact ⟨ofText?_rows, ofText?_row, hread _ _ ofText?_rows, htell _ _ _ _ ofText?_rows ofText?_row,
    hresolve decl⟩

end Orchard

end RequestContract
