import RequestContract.Proofs.Schema.Resolution

/-!
# A field put into a declaration

A field that is put into a type of a declaration, in place of an earlier one or after all others,
brings no name of a type and takes none away. So if the declaration resolves and the field is as it
should be, the declaration with the field resolves too, and `SchemaDecl.resolve_withType_insert`
says to what: to the schema with the resolved field at the same place.
-/

namespace RequestContract

variable {α β : Type}

/-! ### Entries -/

/-- Where all entries are kept, an entry is put in the same place before and after. -/
lemma filterMap_putEntry {f : String → α → Option β} {k : String} {v : α} {w : β}
    (hv : f k v = some w) {es : List (String × α)} (hes : ∀ e ∈ es, ∃ u, f e.1 e.2 = some u) :
    (putEntry k v es).filterMap (fun e => (f e.1 e.2).map (e.1, ·))
      = putEntry k w (es.filterMap fun e => (f e.1 e.2).map (e.1, ·)) := by
  induction es with
  | nil => simp [hv]
  | cons e es ih =>
    obtain ⟨u, hu⟩ := hes e List.mem_cons_self
    have ih := ih fun e' he' => hes e' (List.mem_cons_of_mem e he')
    by_cases h : e.1 = k
    · subst h
      simp [putEntry, hu, hv]
    · simp [putEntry, h, hu, ih]

namespace OrderedMap

lemma eq_of_entries {m n : OrderedMap α} (h : m.entries = n.entries) : m = n := by
  cases m
  cases n
  cases h
  rfl

lemma filterMap_insert {f : String → α → Option β} {m : OrderedMap α} {k : String} {v : α} {w : β}
    (hv : f k v = some w) (hm : ∀ e ∈ m.entries, ∃ u, f e.1 e.2 = some u) :
    (m.insert k v).filterMap f = (m.filterMap f).insert k w :=
  eq_of_entries (filterMap_putEntry hv hm)

end OrderedMap

/-! ### Declarations -/

/-- Puts a type into a schema, in place of an earlier one of the name. -/
def Schema.withType (s : Schema) (name : String) (r : RecordType) : Schema :=
  ⟨s.types.insert name r⟩

/-- Whether a field is well-formed depends only on the names of the declaration around it. -/
lemma FieldDecl.WellFormed.of_keys {d d' : SchemaDecl} {f : FieldDecl} (h : f.WellFormed d)
    (hk : d'.types.keys = d.types.keys) : f.WellFormed d' := by
  obtain ⟨t, ht, hn, he⟩ := h.type
  exact ⟨⟨t, ht, fun n hm => hk ▸ hn n hm, he⟩, h.range⟩

namespace SchemaDecl

variable {d : SchemaDecl} {n k : String} {t : TypeDecl} {f : FieldDecl}

/-- A declared type that is put in place of another brings no name. -/
lemma keys_withType (ht : d.types.get? n = some t) (u : TypeDecl) :
    (d.withType n u).types.keys = d.types.keys := by
  rw [withType, OrderedMap.keys_insert, if_pos (OrderedMap.mem_keys_iff.mpr ⟨t, ht⟩)]

lemma WellFormed.withType_insert (hd : d.WellFormed) (ht : d.types.get? n = some t)
    (hf : f.WellFormed d) : (d.withType n (t.insert k f)).WellFormed := by
  have hkeys := keys_withType ht (t.insert k f)
  refine ⟨fun m hm => hd.names m (hkeys ▸ hm), fun m u l e hu he => .of_keys ?_ hkeys⟩
  by_cases hm : m = n
  · subst hm
    rw [withType, OrderedMap.get?_insert_self, Option.some.injEq] at hu
    subst hu
    by_cases hl : l = k
    · subst hl
      rw [OrderedMap.get?_insert_self, Option.some.injEq] at he
      exact he ▸ hf
    · rw [OrderedMap.get?_insert_of_ne hl] at he
      exact hd.fields m t l e ht he
  · rw [withType, OrderedMap.get?_insert_of_ne hm] at hu
    exact hd.fields m u l e hu he

/-- A declaration with one more field, or another one, resolves to the schema with that field. -/
lemma resolve_withType_insert {s : Schema} {u : FieldType} (hs : d.resolve = .ok s)
    (ht : d.types.get? n = some t) (hf : f.WellFormed d)
    (hu : FieldType.ofText? f.typeText = some u) :
    (d.withType n (t.insert k f)).resolve
      = .ok (s.withType n ((resolveType t).insert k (.ofDecl u f))) := by
  obtain ⟨hd, rfl⟩ := resolve_eq_ok_iff.mp hs
  refine resolve_eq_ok_iff.mpr ⟨hd.withType_insert ht hf, congrArg Schema.mk ?_⟩
  have hfield : resolveType (t.insert k f) = (resolveType t).insert k (.ofDecl u f) := by
    refine OrderedMap.filterMap_insert (by rw [hu, Option.map_some]) fun e he => ?_
    obtain ⟨v, hv, -⟩ := (hd.fields n t e.1 e.2 ht (OrderedMap.get?_eq_some_iff.mpr he)).type
    exact ⟨.ofDecl v e.2, by rw [hv, Option.map_some]⟩
  exact (OrderedMap.filterMap_insert (congrArg some hfield) fun e _ => ⟨_, rfl⟩).symm

end SchemaDecl

end RequestContract
