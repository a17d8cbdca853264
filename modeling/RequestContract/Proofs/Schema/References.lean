import RequestContract.Proofs.Schema.Insertion
import RequestContract.Proofs.Schema.TypeText

/-!
# Names that can be referred to

Any text that is not a reserved name may be the name of a type. A reference is read as a type text,
though: blanks around it are passed over and brackets belong to lists. So a declared type can be
referred to by its name just if the name is bare, that is neither empty nor with a blank at either
end nor with a bracket in it; `SchemaDecl.resolve_withType_reference` says so, and that a field of
that type can then be put into any type of the declaration.
-/

namespace RequestContract

open Text

namespace FieldType

variable {n : String}

/-- A name with no blanks around it and no brackets in it. -/
structure IsBareName (n : String) : Prop where
  nonempty : n ≠ ""
  trimmed : Trimmed n.toList
  not_mem_opening : '[' ∉ n.toList
  not_mem_closing : ']' ∉ n.toList

lemma Keyword.mem_reservedNames {w : String} {t : FieldType} (h : Keyword w t) :
    w ∈ reservedNames := by
  cases h <;> decide

/-- A text is read as a reference to itself if it stands for itself. -/
lemma ofText?_eq_named_iff : ofText? n = some (.named n) ↔ IsTypeName n.toList := by
  constructor
  · intro h
    have hwrites : Writes n.toList (.named n) := writes_of_ofChars? h
    generalize hcs : n.toList = cs at hwrites
    cases hwrites with
    | keyword _ hw _ => cases hw
    | @name l r cs hl hname hr => rwa [← hcs, String.toList_ofList]
  · intro h
    rw [ofText?, h.writes.ofChars?_eq, String.ofList_toList]

/-- What is not reserved stands for itself if it is bare. -/
lemma isTypeName_iff_isBareName (hn : n ∉ reservedNames) :
    IsTypeName n.toList ↔ IsBareName n := by
  constructor
  · intro h
    exact ⟨fun he => h.nonempty (he ▸ rfl), h.trimmed, h.not_mem_opening, h.not_mem_closing⟩
  · intro h
    refine ⟨fun he => h.nonempty (String.toList_inj.mp he), h.trimmed, h.not_mem_opening,
      h.not_mem_closing, fun w t hw he => ?_, fun he => ?_⟩
    · exact hn (String.toList_inj.mp he ▸ hw.mem_reservedNames)
    · exact hn (String.toList_inj.mp he ▸ by decide)

end FieldType

namespace SchemaDecl

variable {d : SchemaDecl} {s : Schema} {n : String}

lemma not_mem_reservedNames_of_resolve (hs : d.resolve = .ok s) (hn : n ∈ d.types.keys) :
    n ∉ FieldType.reservedNames :=
  (resolve_eq_ok_iff.mp hs).1.names n hn

/-- A reference to a declared type is as it should be. -/
lemma wellFormed_reference {f : FieldDecl} (hn : n ∈ d.types.keys)
    (hf : FieldType.ofText? f.typeText = some (.named n))
    (hr : ∀ r, f.range = some r → r.isInverted = false) : f.WellFormed d where
  type := by
    refine ⟨.named n, hf, fun m hm => ?_, nofun⟩
    cases hm
    exact hn
  range := hr

/-- The name of a declared type is read as a reference to it just if it is bare. Then a field with
that type text, whatever else is asked of it but an empty range, can be put into any type, and in
the schema that comes of it the field has the declared type. -/
theorem resolve_withType_reference (hs : d.resolve = .ok s) (hn : n ∈ d.types.keys) :
    (FieldType.ofText? n = some (.named n) ↔ FieldType.IsBareName n) ∧
    (FieldType.IsBareName n → ∀ m t k f, d.types.get? m = some t → f.typeText = n →
      (∀ r, f.range = some r → r.isInverted = false) →
      ∃ r s', s.type? m = some r ∧ s' = s.withType m (r.insert k (.ofDecl (.named n) f)) ∧
        (d.withType m (t.insert k f)).resolve = .ok s' ∧ ∃ r', s'.type? n = some r') := by
  have hread : FieldType.ofText? n = some (.named n) ↔ FieldType.IsBareName n := by
    rw [FieldType.ofText?_eq_named_iff,
      FieldType.isTypeName_iff_isBareName (not_mem_reservedNames_of_resolve hs hn)]
  refine ⟨hread, fun hbare m t k f ht hf hr => ?_⟩
  have htext : FieldType.ofText? f.typeText = some (.named n) := hf ▸ hread.mpr hbare
  have hresolve := resolve_withType_insert (k := k) hs ht (wellFormed_reference hn htext hr) htext
  refine ⟨resolveType t, _, by rw [type?_of_resolve hs, ht, Option.map_some], rfl, hresolve, ?_⟩
  have hkeys := keys_withType ht (t.insert k f)
  obtain ⟨u, hu⟩ := OrderedMap.mem_keys_iff.mp (hkeys.symm ▸ hn)
  exact ⟨resolveType u, by rw [type?_of_resolve hresolve, hu, Option.map_some]⟩

end SchemaDecl

/-! ### Grafts -/

namespace Orchard

/-- A tree that grows on a branch. -/
def graft : FieldDecl := .ofType "Tree"

lemma isBareName_tree : FieldType.IsBareName "Tree" where
  nonempty := by decide
  trimmed := trimmed_of_all_not_blank (by decide)
  not_mem_opening := by decide
  not_mem_closing := by decide

/-- Branches may get grafts. -/
theorem resolve_withType_reference_graft :
    decl.resolve = .ok schema ∧ "Tree" ∈ decl.types.keys ∧ FieldType.IsBareName "Tree" ∧
    FieldType.ofText? "Tree" = some (.named "Tree") ∧
    ∃ t, decl.types.get? "Branch" = some t ∧
    ∃ r s', schema.type? "Branch" = some r ∧
      s' = schema.withType "Branch" (r.insert "graft" (.ofDecl (.named "Tree") graft)) ∧
      (decl.withType "Branch" (t.insert "graft" graft)).resolve = .ok s' ∧
      ∃ r', s'.type? "Tree" = some r' := by
  have hn : "Tree" ∈ decl.types.keys := by decide
  have ht : decl.types.get? "Branch" = some (.ofList [("tree", tree), ("name", name)]) := by
    with_unfolding_all rfl
  obtain ⟨hread, hput⟩ := SchemaDecl.resolve_withType_reference resolve_decl hn
  exact ⟨resolve_decl, hn, isBareName_tree, hread.mpr isBareName_tree, _, ht,
    hput isBareName_tree "Branch" _ "graft" graft ht rfl nofun⟩

/-- A type whose name reads like a list. -/
def rowListDecl : SchemaDecl := ⟨.ofList [("Row[]", .ofList [])]⟩

/-- Not each declared type can be referred to by its name: brackets are for lists. -/
theorem not_forall_ofText?_eq_named :
    ¬ ∀ (d : SchemaDecl) (s : Schema) (n : String), d.resolve = .ok s → n ∈ d.types.keys →
      FieldType.ofText? n = some (.named n) := by
  intro h
  have hs : rowListDecl.resolve = .ok ⟨.ofList [("Row[]", .ofList [])]⟩ := by
    with_unfolding_all rfl
  have hread := FieldType.ofText?_eq_named_iff.mp (h rowListDecl _ "Row[]" hs (by decide))
  exact absurd (by decide : '[' ∈ "Row[]".toList) hread.not_mem_opening

end Orchard

end RequestContract
