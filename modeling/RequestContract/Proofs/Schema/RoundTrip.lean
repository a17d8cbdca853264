import RequestContract.Proofs.Json.RoundTrip
import RequestContract.Proofs.Schema.Decoding
import RequestContract.Schema.Encoding

/-!
# Declarations that are encoded are decoded

A declaration is what its attributes say: two with the same attributes are equal, so decoding has
only to give back each attribute that is written and leave out the others.
`SchemaDecl.ofText_render` says that the text of a declaration is decoded to the declaration. The
ends of its ranges have to be finite, since JSON has no word for other numbers, and their texts must
be read back.
-/

namespace RequestContract

/-! ### Values of attributes -/

namespace Json

lemma mapM_map_eq_ok {α β ε : Type} {f : α → Except ε β} {g : β → α} (h : ∀ b, f (g b) = .ok b)
    (bs : List β) : (bs.map g).mapM f = .ok bs := by
  induction bs with
  | nil => rfl
  | cons b bs ih =>
    rw [List.map_cons, List.mapM_cons, h, ih]
    rfl

lemma asListOf_asString (ts : List String) :
    asListOf asString (.array (ts.map .string)) = .ok ts :=
  mapM_map_eq_ok (f := asString) (fun _ => rfl) ts

lemma asSize_toNat (n : UInt64) : asSize (.number (.integer n.toNat)) = .ok n := by
  have hlt : (n.toNat : Int) < UInt64.size := Int.ofNat_lt.mpr n.toNat_lt_size
  rw [asSize, sizeOfNumber, if_pos ⟨Int.natCast_nonneg _, hlt⟩, Int.toNat_natCast,
    UInt64.ofNat_toNat]

lemma asListOf_asSize (ns : List UInt64) :
    asListOf asSize (.array (ns.map fun n => .number (.integer n.toNat))) = .ok ns :=
  mapM_map_eq_ok asSize_toNat ns

end Json

/-! ### Fields -/

namespace FieldDecl

/-- A declaration is what its attributes say. -/
lemma eq_of_attribute? {f g : FieldDecl} (h : ∀ a, f.attribute? a = g.attribute? a) : f = g := by
  have string_injective : Function.Injective Json.string := fun _ _ ht => Json.string.inj ht
  have strings_injective : Function.Injective fun ts : List String => Json.array (ts.map .string) :=
    fun _ _ hts => List.map_injective_iff.mpr string_injective (Json.array.inj hts)
  have size_injective : Function.Injective fun n : UInt64 => Json.number (.integer n.toNat) := by
    intro m n hn
    exact UInt64.toNat_inj.mp (Int.ofNat.inj (Json.Number.integer.inj (Json.number.inj hn)))
  have sizes_injective : Function.Injective fun ns : List UInt64 =>
      Json.array (ns.map fun n => .number (.integer n.toNat)) :=
    fun _ _ hns => List.map_injective_iff.mpr size_injective (Json.array.inj hns)
  have range_injective : Function.Injective fun r : Range =>
      Json.array [.number (.real r.min), .number (.real r.max)] := by
    rintro ⟨min, max⟩ ⟨min', max'⟩ hr
    simpa using hr
  have htype : f.typeText = g.typeText := string_injective (Option.some.inj (h .type))
  have hrequired : f.required = g.required := Json.bool.inj (Option.some.inj (h .required))
  have hvalues : f.values = g.values := Option.map_injective strings_injective (h .values)
  have hrange : f.range = g.range := Option.map_injective range_injective (h .range)
  have hurl : f.isUrl = g.isUrl := Json.bool.inj (Option.some.inj (h .isUrl))
  have hstart : f.startsWith = g.startsWith := Option.map_injective string_injective (h .startsWith)
  have hlength : f.length = g.length := Option.map_injective size_injective (h .length)
  have hlengths : f.arrayLengths = g.arrayLengths :=
    Option.map_injective sizes_injective (h .arrayLengths)
  cases f
  cases g
  simp_all

/-- The value that is written for an attribute is read. -/
lemma asAttribute_of_attribute? {f : FieldDecl} {a : Attribute} {v : Json}
    (h : f.attribute? a = some v) (g : FieldDecl) :
    ∃ g', Json.asAttribute a g v = .ok g' ∧ g'.attribute? a = some v := by
  cases a with
  | type =>
    cases h
    exact ⟨{ g with typeText := f.typeText }, rfl, rfl⟩
  | required =>
    cases h
    exact ⟨{ g with required := f.required }, rfl, rfl⟩
  | values =>
    obtain ⟨vs, -, rfl⟩ := Option.map_eq_some_iff.mp h
    refine ⟨{ g with values := some vs }, ?_, rfl⟩
    exact map_eq_ok_iff.mpr ⟨some vs, map_eq_ok_iff.mpr ⟨vs, Json.asListOf_asString vs, rfl⟩, rfl⟩
  | range =>
    obtain ⟨r, -, rfl⟩ := Option.map_eq_some_iff.mp h
    exact ⟨{ g with range := some r }, rfl, rfl⟩
  | isUrl =>
    cases h
    exact ⟨{ g with isUrl := f.isUrl }, rfl, rfl⟩
  | startsWith =>
    obtain ⟨t, -, rfl⟩ := Option.map_eq_some_iff.mp h
    exact ⟨{ g with startsWith := some t }, rfl, rfl⟩
  | length =>
    obtain ⟨n, -, rfl⟩ := Option.map_eq_some_iff.mp h
    refine ⟨{ g with length := some n }, ?_, rfl⟩
    exact map_eq_ok_iff.mpr ⟨some n, map_eq_ok_iff.mpr ⟨n, Json.asSize_toNat n, rfl⟩, rfl⟩
  | arrayLengths =>
    obtain ⟨ns, -, rfl⟩ := Option.map_eq_some_iff.mp h
    refine ⟨{ g with arrayLengths := some ns }, ?_, rfl⟩
    exact map_eq_ok_iff.mpr ⟨some ns, map_eq_ok_iff.mpr ⟨ns, Json.asListOf_asSize ns, rfl⟩, rfl⟩

/-- Reading an attribute does not change the others. -/
lemma attribute?_of_asAttribute_ne {g g' : FieldDecl} {a b : Attribute} {v : Json}
    (h : Json.asAttribute a g v = .ok g') (hb : b ≠ a) : g'.attribute? b = g.attribute? b := by
  cases a <;> obtain ⟨x, -, rfl⟩ := map_eq_ok_iff.mp h <;> cases b <;>
    first
      | rfl
      | exact absurd rfl hb

/-- Nothing is left out but what has its default. -/
lemma attribute?_ofType_eq_none {f : FieldDecl} {a : Attribute} (h : f.attribute? a = none)
    (t : String) : (ofType t).attribute? a = none := by
  cases a with
  | type => cases h
  | required => cases h
  | isUrl => cases h
  | _ => rfl

end FieldDecl

/-- All of `f` has been read but the attributes `as`. -/
structure PartialField.Lacks (p : PartialField) (f : FieldDecl) (as : List Attribute) : Prop where
  /-- The attributes that are lacking have not been given, -/
  unseen : ∀ a ∈ as, a ∉ p.seen
  /-- but the others have, if they are written. -/
  seen : ∀ a ∉ as, (f.attribute? a).isSome → a ∈ p.seen
  /-- The attributes that are not lacking are as in `f`, -/
  same : ∀ a ∉ as, p.field.attribute? a = f.attribute? a
  /-- and so are the others, if they are not written. -/
  absent : ∀ a ∈ as, f.attribute? a = none → p.field.attribute? a = none

namespace PartialField.Lacks

variable {p : PartialField} {f g : FieldDecl} {a : Attribute} {as : List Attribute}

lemma start (f : FieldDecl) : PartialField.start.Lacks f Attribute.all where
  unseen _ _ := List.not_mem_nil
  seen a ha := absurd a.mem_all ha
  same a ha := absurd a.mem_all ha
  absent _ _ h := FieldDecl.attribute?_ofType_eq_none h ""

lemma pass (h : p.Lacks f (a :: as)) (ha : f.attribute? a = none) : p.Lacks f as where
  unseen b hb := h.unseen b (List.mem_cons_of_mem a hb)
  seen b hb hf := by
    apply h.seen b _ hf
    rw [List.mem_cons, not_or]
    refine ⟨?_, hb⟩
    rintro rfl
    rw [ha] at hf
    cases hf
  same b hb := by
    by_cases hab : b = a
    · rw [hab, ha]
      exact h.absent a List.mem_cons_self ha
    · exact h.same b fun hm => (List.mem_cons.mp hm).elim hab hb
  absent b hb := h.absent b (List.mem_cons_of_mem a hb)

lemma give {v : Json} (h : p.Lacks f (a :: as)) (ha : a ∉ as) (hf : f.attribute? a = some v)
    (hread : Json.asAttribute a p.field v = .ok g) (hg : g.attribute? a = some v) :
    (p.give a g).Lacks f as where
  unseen b hb hm := by
    rcases List.mem_cons.mp hm with rfl | hm
    · exact ha hb
    · exact h.unseen b (List.mem_cons_of_mem a hb) hm
  seen b hb hf := by
    by_cases hab : b = a
    · exact hab ▸ List.mem_cons_self
    · have := h.seen b (fun hm => (List.mem_cons.mp hm).elim hab hb) hf
      exact List.mem_cons_of_mem a this
  same b hb := by
    by_cases hab : b = a
    · rw [hab, hf]
      exact hg
    · have := h.same b fun hm => (List.mem_cons.mp hm).elim hab hb
      exact (FieldDecl.attribute?_of_asAttribute_ne hread hab).trans this
  absent b hb hn := by
    have hab : b ≠ a := fun hab => ha (hab ▸ hb)
    have := h.absent b (List.mem_cons_of_mem a hb) hn
    exact (FieldDecl.attribute?_of_asAttribute_ne hread hab).trans this

lemma finish (h : p.Lacks f []) : p.finish = .ok f := by
  have htype : p.seen.contains .type = true := by
    simpa using h.seen .type List.not_mem_nil rfl
  have hfield : p.field = f := FieldDecl.eq_of_attribute? fun a => h.same a List.not_mem_nil
  rw [PartialField.finish, if_pos htype, hfield]

/-- What is written for the lacking attributes makes the field whole. -/
lemma asAttributes (has : as.Nodup) (h : p.Lacks f as) :
    ∃ p', Json.asAttributes p (as.filterMap fun a => (f.attribute? a).map (a.key, ·)) = .ok p' ∧
      p'.Lacks f [] := by
  induction as generalizing p with
  | nil => exact ⟨p, rfl, h⟩
  | cons a as ih =>
    -- what is not written is passed over, what is written has not been seen and is given
    rw [List.nodup_cons] at has
    rw [List.filterMap_cons]
    cases hf : f.attribute? a with
    | none => exact ih has.2 (h.pass hf)
    | some v =>
      have hclaim : p.claim a.key = .ok a := by
        have := h.unseen a List.mem_cons_self
        simp [claim, this]
      obtain ⟨g, hread, hg⟩ := FieldDecl.asAttribute_of_attribute? hf p.field
      obtain ⟨p', hp', hwhole⟩ := ih has.2 (h.give has.1 hf hread hg)
      exact ⟨p', bind_eq_ok_iff.mpr ⟨a, hclaim, bind_eq_ok_iff.mpr ⟨g, hread, hp'⟩⟩, hwhole⟩

end PartialField.Lacks

lemma FieldDecl.asField_toJson (f : FieldDecl) : f.toJson.asField = .ok f := by
  obtain ⟨p, hp, hwhole⟩ := PartialField.Lacks.asAttributes (by decide) (.start f)
  exact bind_eq_ok_iff.mpr ⟨p, hp, hwhole.finish⟩

/-! ### Types and schemas -/

lemma Json.asMapOf_map {α : Type} {f : Json → Except Mismatch α} {g : α → Json}
    (h : ∀ x, f (g x) = .ok x) {m n : OrderedMap α} {es : List (String × α)}
    (hn : n.entries = m.entries ++ es) :
    Json.asMapOf f m (es.map fun e => (e.1, g e.2)) = .ok n := by
  induction es generalizing m with
  | nil =>
    obtain ⟨_, _⟩ := m
    obtain ⟨_, _⟩ := n
    simpa [Json.asMapOf] using hn.symm
  | cons e es ih =>
    obtain ⟨k, x⟩ := e
    have hk : k ∉ m.entries.map Prod.fst := by
      have hnodup := n.nodup
      rw [hn, List.map_append, List.nodup_append] at hnodup
      intro hm
      exact hnodup.2.2 k hm k List.mem_cons_self rfl
    have hinsert : (m.insert k x).entries = m.entries ++ [(k, x)] := putEntry_of_not_mem hk x
    rw [List.map_cons, Json.asMapOf, h]
    apply ih
    rw [hn, hinsert, List.append_assoc, List.singleton_append]

lemma TypeDecl.asType_toJson (t : TypeDecl) : t.toJson.asType = .ok t :=
  Json.asMapOf_map FieldDecl.asField_toJson rfl

lemma SchemaDecl.asSchemaDecl_toJson (d : SchemaDecl) : d.toJson.asSchemaDecl = .ok d := by
  have htypes : (Json.object (d.types.entries.map fun e => (e.1, TypeDecl.toJson e.2))).asTypes
      = .ok d.types := Json.asMapOf_map TypeDecl.asType_toJson rfl
  rw [toJson, Json.asSchemaDecl, Json.asSchemaMembers, if_pos rfl, if_neg (by decide), htypes]
  rfl

/-! ### The text -/

def FieldDecl.bounds (f : FieldDecl) : List Double :=
  match f.range with
  | some r => [r.min, r.max]
  | none => []

/-- The ends of all ranges of a declaration. -/
def SchemaDecl.bounds (d : SchemaDecl) : List Double :=
  d.types.entries.flatMap fun e => e.2.entries.flatMap fun e' => e'.2.bounds

lemma FieldDecl.numbersReadBack_of_attribute? {f : FieldDecl}
    (h : ∀ x ∈ f.bounds, (Json.Number.real x).ReadsBack) {a : Attribute} {v : Json}
    (hv : f.attribute? a = some v) : v.NumbersReadBack := by
  have hsize (n : UInt64) : (Json.number (.integer n.toNat)).NumbersReadBack :=
    Json.Number.readsBack_integer n.toNat_lt_size
  cases a with
  | type | required | isUrl =>
    cases hv
    trivial
  | values =>
    obtain ⟨vs, -, rfl⟩ := Option.map_eq_some_iff.mp hv
    rw [Json.NumbersReadBack, Json.numbersReadBackItems_iff, List.forall_mem_map]
    exact fun _ _ => trivial
  | range =>
    obtain ⟨r, hr, rfl⟩ := Option.map_eq_some_iff.mp hv
    have hb : f.bounds = [r.min, r.max] := by rw [bounds, hr]
    rw [hb] at h
    exact ⟨h r.min (by simp), h r.max (by simp), trivial⟩
  | startsWith =>
    obtain ⟨t, -, rfl⟩ := Option.map_eq_some_iff.mp hv
    trivial
  | length =>
    obtain ⟨n, -, rfl⟩ := Option.map_eq_some_iff.mp hv
    exact hsize n
  | arrayLengths =>
    obtain ⟨ns, -, rfl⟩ := Option.map_eq_some_iff.mp hv
    rw [Json.NumbersReadBack, Json.numbersReadBackItems_iff, List.forall_mem_map]
    exact fun n _ => hsize n

lemma SchemaDecl.numbersReadBack_toJson {d : SchemaDecl}
    (h : ∀ x ∈ d.bounds, (Json.Number.real x).ReadsBack) : d.toJson.NumbersReadBack := by
  refine ⟨?_, trivial⟩
  rw [Json.NumbersReadBack, Json.numbersReadBackMembers_iff, List.forall_mem_map]
  intro e he
  rw [TypeDecl.toJson, Json.NumbersReadBack, Json.numbersReadBackMembers_iff, List.forall_mem_map]
  intro e' he'
  rw [FieldDecl.toJson, Json.NumbersReadBack, Json.numbersReadBackMembers_iff]
  intro m hm
  obtain ⟨a, -, ha⟩ := List.mem_filterMap.mp hm
  obtain ⟨v, hv, rfl⟩ := Option.map_eq_some_iff.mp ha
  refine FieldDecl.numbersReadBack_of_attribute? (fun x hx => h x ?_) hv
  exact List.mem_flatMap.mpr ⟨e, he, List.mem_flatMap.mpr ⟨e', he', hx⟩⟩

/-- The text of a declaration is decoded to the declaration. -/
theorem SchemaDecl.ofText_render {d : SchemaDecl} (hfinite : ∀ x ∈ d.bounds, x.isFinite = true)
    (hread : ∀ x ∈ d.bounds, x.isFinite = true →
      Json.ofText (x.text .json) = .ok (.number (.real x))) :
    SchemaDecl.ofText d.render = .ok d := by
  have hnumbers : d.toJson.NumbersReadBack := by
    apply numbersReadBack_toJson
    intro x hx
    apply Json.Number.readsBack_of_ofText
    rw [Json.Number.render, String.ofList_toList]
    exact hread x hx (hfinite x hx)
  obtain ⟨draft, hdoc, hw⟩ := Json.document_ofText_render hnumbers
  have hdecl := (Json.Draft.sameDecoder_asSchemaDecl hw d).mpr d.asSchemaDecl_toJson
  rw [ofText, render, hdoc]
  show draft.asSchemaDecl >>= _ = _
  rw [hdecl]
  rfl

/-! ### A declaration with a range -/

namespace Orchard

/-- What has grown on a tree since it was last weighed. -/
def growth : FieldDecl := ((FieldDecl.ofType "number").withRange (-half) half).withValues []

/-- Harvests are told apart by names with quotes and line breaks in them. -/
def harvest : SchemaDecl := ⟨.ofList [
  ("body", .ofList [("apples\n\"red\"", growth), ("\\pears", growth.withArrayLengths [])])]⟩

lemma ofText_neg_half : Json.ofText ((-half).text .json) = .ok (.number (.real (-half))) := by
  have htext : (-half).text .json = "-0.5" := by decide +kernel
  have hcuts : Json.Cuts "-0.5".toList (.number ⟨true, [0], some [5], none⟩) [] :=
    (Json.Cuts.number_iff (c := '-') (r := ['0', '.', '5']) rfl).mpr rfl
  rw [htext, Json.ofText, Json.Document.ofText_eq hcuts rfl, Json.Document.read, Json.Draft.read,
    value_half]
  rfl

lemma forall_mem_bounds_harvest {P : Double → Prop} (h : P half) (h' : P (-half)) :
    ∀ x ∈ harvest.bounds, P x := by
  have hb : harvest.bounds = [-half, half, -half, half] := rfl
  rw [hb]
  simp [h, h']

/-- The names, the empty lists and the ends of the ranges all come back. -/
theorem ofText_render_harvest : (∀ x ∈ harvest.bounds, x.isFinite = true) ∧
    (∀ x ∈ harvest.bounds, x.isFinite = true →
      Json.ofText (x.text .json) = .ok (.number (.real x))) ∧
    SchemaDecl.ofText harvest.render = .ok harvest := by
  have hfinite : ∀ x ∈ harvest.bounds, x.isFinite = true :=
    forall_mem_bounds_harvest (by decide) (by decide)
  have hread : ∀ x ∈ harvest.bounds, x.isFinite = true →
      Json.ofText (x.text .json) = .ok (.number (.real x)) :=
    forall_mem_bounds_harvest (fun _ => ofText_half) (fun _ => ofText_neg_half)
  exact ⟨hfinite, hread, SchemaDecl.ofText_render hfinite hread⟩

end Orchard

end RequestContract
