import RequestContract.Proofs.Json.RoundTrip
import RequestContract.Schema.Decoding.OfJson
import RequestContract.Schema.Decoding.OfText

/-!
# Decoding a text and decoding its value

A declaration can be decoded from a text while the text is read, or from the value that the text
writes. The two meet what does not fit in different places, so their reasons may differ, but one
fails exactly when the other does: `Schema.ofText_ofJson_agree`. The text must not repeat a key,
since a value holds of two members under one key only the second.
-/

namespace RequestContract

/-! ### Agreement -/

/-- Both fail, or both give the same. -/
def Agree {α : Type} (x y : Except Mismatch α) : Prop := ∀ a, x = .ok a ↔ y = .ok a

namespace Agree

variable {α β : Type} {x y : Except Mismatch α}

lemma refl (x : Except Mismatch α) : Agree x x := fun _ => Iff.rfl

lemma errors (m n : Mismatch) : Agree (.error m : Except Mismatch α) (.error n) := by
  intro a
  simp

lemma trans {z : Except Mismatch α} (h : Agree x y) (h' : Agree y z) : Agree x z :=
  fun a => (h a).trans (h' a)

lemma map (h : Agree x y) (f : α → β) : Agree (f <$> x) (f <$> y) := by
  intro b
  rw [map_eq_ok_iff, map_eq_ok_iff]
  exact exists_congr fun a => and_congr_left fun _ => h a

lemma bind {f g : α → Except Mismatch β} (h : Agree x y) (hf : ∀ a, Agree (f a) (g a)) :
    Agree (x >>= f) (y >>= g) := by
  intro b
  rw [bind_eq_ok_iff, bind_eq_ok_iff]
  exact exists_congr fun a => and_congr (h a) (hf a b)

end Agree

namespace Json.Draft

/-- From a draft and from the value that it writes the decoders give the same. -/
def SameDecoder {α : Type} (f : Draft → Except Mismatch α) (g : Json → Except Mismatch α) : Prop :=
  ∀ ⦃d : Draft⦄ ⦃v : Json⦄, d.Writes v → Agree (f d) (g v)

variable {α : Type} {f : Draft → Except Mismatch α} {g : Json → Except Mismatch α}

/-! ### Plain values -/

lemma mismatch_agree {d : Draft} {v : Json} (h : d.Writes v) (w : Wanted) :
    Agree (d.mismatch w : Except Mismatch α) (v.mismatch w) := by
  cases h with
  | number hn =>
    simp only [mismatch, hn]
    exact .errors _ _
  | string ht =>
    simp only [mismatch, ht]
    exact .errors _ _
  | _ => exact .errors _ _

lemma sameDecoder_asString : SameDecoder asString Json.asString := by
  intro d v h
  have hw := h
  cases h with
  | string ht =>
    simp only [asString, literalText, ht]
    exact .refl _
  | _ => exact mismatch_agree hw _

lemma sameDecoder_asBool : SameDecoder asBool Json.asBool := by
  intro d v h
  have hw := h
  cases h with
  | bool b => exact .refl _
  | _ => exact mismatch_agree hw _

lemma sameDecoder_asDouble : SameDecoder asDouble Json.asDouble := by
  intro d v h
  have hw := h
  cases h with
  | number hn =>
    simp only [asDouble, literalNumber, hn]
    exact .refl _
  | _ => exact mismatch_agree hw _

lemma sameDecoder_asSize : SameDecoder asSize Json.asSize := by
  intro d v h
  have hw := h
  cases h with
  | number hn =>
    simp only [asSize, literalNumber, hn]
    exact .refl _
  | _ => exact mismatch_agree hw _

lemma sameDecoder_asOptional (hf : SameDecoder f g) :
    SameDecoder (asOptional f) (Json.asOptional g) := by
  intro d v h
  have hw := h
  cases h with
  | null => exact .refl _
  | _ => exact (hf hw).map some

lemma asItems_agree (hf : SameDecoder f g) {ds : List Draft} {vs : List Json}
    (h : WritesItems ds vs) : Agree (asItems f none ds) (vs.mapM g) := by
  induction ds generalizing vs with
  | nil =>
    cases h
    exact .refl _
  | cons d ds ih =>
    cases h with
    | cons hd hs =>
      rw [List.mapM_cons, asItems]
      exact (hf hd).bind fun x => (ih hs).bind fun xs => .refl _

lemma sameDecoder_asListOf (hf : SameDecoder f g) :
    SameDecoder (asListOf f) (Json.asListOf g) := by
  intro d v h
  have hw := h
  cases h with
  | array hs => exact asItems_agree hf hs
  | _ => exact mismatch_agree hw _

lemma sameDecoder_asRange : SameDecoder asRange Json.asRange := by
  intro d v h
  have hw := h
  cases h with
  | array hs =>
    match hs with
    | .nil => exact .errors _ _
    | .cons ha .nil => exact (sameDecoder_asDouble ha).bind fun _ => .errors _ _
    | .cons ha (.cons hb .nil) =>
      exact (sameDecoder_asDouble ha).bind fun _ => (sameDecoder_asDouble hb).bind fun _ => .refl _
    | .cons ha (.cons hb (.cons _ _)) =>
      exact (sameDecoder_asDouble ha).bind fun _ =>
        (sameDecoder_asDouble hb).bind fun _ => .errors _ _
  | _ => exact mismatch_agree hw _

/-! ### Fields -/

lemma sameDecoder_asAttribute (a : Attribute) (field : FieldDecl) :
    SameDecoder (asAttribute a field) (Json.asAttribute a field) := by
  intro d v h
  cases a with
  | type => exact (sameDecoder_asString h).map _
  | required => exact (sameDecoder_asBool h).map _
  | values => exact (sameDecoder_asOptional (sameDecoder_asListOf sameDecoder_asString) h).map _
  | range => exact (sameDecoder_asOptional sameDecoder_asRange h).map _
  | isUrl => exact (sameDecoder_asBool h).map _
  | startsWith => exact (sameDecoder_asOptional sameDecoder_asString h).map _
  | length => exact (sameDecoder_asOptional sameDecoder_asSize h).map _
  | arrayLengths => exact (sameDecoder_asOptional (sameDecoder_asListOf sameDecoder_asSize) h).map _

lemma literalText_eq {l : StringLiteral} {k : String} (h : l.value = .ok k) :
    literalText l = .ok k := by
  rw [literalText, h]
  rfl

lemma asAttributes_agree {ds : List (StringLiteral × Draft)} {ms : List (String × Json)}
    (h : WritesMembers ds ms) (p : PartialField) :
    Agree (asAttributes none p ds) (Json.asAttributes p ms) := by
  induction ds generalizing ms p with
  | nil =>
    cases h
    exact .refl _
  | cons d ds ih =>
    cases h with
    | @cons l k d v _ _ hk hd hs =>
      rw [asAttributes, Json.asAttributes, literalText_eq hk]
      exact (Agree.refl (p.claim k)).bind fun a =>
        (sameDecoder_asAttribute a p.field hd).bind fun f => ih hs (p.give a f)

lemma asAttributeList_agree {ds : List Draft} {vs : List Json} (h : WritesItems ds vs)
    (field : FieldDecl) (as : List Attribute) :
    Agree (asAttributeList field as ds)
      ((·, ds.drop as.length) <$> Json.asAttributeList field as vs) := by
  induction ds generalizing vs field as with
  | nil =>
    cases h
    cases as <;> exact .refl _
  | cons d ds ih =>
    cases h with
    | @cons _ v _ vs hd hs =>
      cases as with
      | nil => exact .refl _
      | cons a as =>
        have hmap : (·, (d :: ds).drop (a :: as).length)
            <$> Json.asAttributeList field (a :: as) (v :: vs)
            = Json.asAttribute a field v >>= fun f =>
              (·, ds.drop as.length) <$> Json.asAttributeList f as vs := by
          simp [Json.asAttributeList]
        rw [hmap, asAttributeList]
        exact (sameDecoder_asAttribute a field hd).bind fun f => ih hs f as

/-- A list that should have at most `n` items goes on after them exactly when it is too long. -/
lemma closing_agree {n : Nat} {ds : List Draft} {vs : List Json} (hlen : ds.length = vs.length)
    (field : FieldDecl) :
    Agree (do
      if ds.length < n then ending none else closing (ds.drop n) none
      return field)
      (if vs.length ≤ n then return field else .error (.tooLong vs.length)) := by
  rw [hlen]
  by_cases hlt : vs.length < n
  · rw [if_pos hlt, if_pos (by omega)]
    exact .refl _
  · rw [if_neg hlt]
    by_cases hle : vs.length ≤ n
    · rw [if_pos hle, List.drop_eq_nil_of_le (by omega)]
      exact .refl _
    · obtain ⟨d, more, hmore⟩ : ∃ d more, ds.drop n = d :: more := by
        apply List.exists_cons_of_ne_nil
        rw [Ne, List.drop_eq_nil_iff]
        omega
      rw [if_neg hle, hmore]
      exact .errors _ _

lemma asField_list_agree {ds : List Draft} {vs : List Json} (h : WritesItems ds vs) :
    Agree (asField (.array ds none)) (Json.asField (.array vs)) := by
  have hlen := h.length_eq
  have hlist := asAttributeList_agree h (FieldDecl.ofType "") Attribute.all
  cases h with
  | nil => exact .errors _ _
  | cons hd hs =>
    refine (hlist.bind fun p => .refl _).trans ?_
    rw [bind_map_left]
    exact (Agree.refl _).bind fun field => closing_agree hlen field

lemma sameDecoder_asField : SameDecoder asField Json.asField := by
  intro d v h
  have hw := h
  cases h with
  | array hs => exact asField_list_agree hs
  | object hs => exact (asAttributes_agree hs PartialField.start).bind fun p => .refl _
  | _ => exact mismatch_agree hw _

/-! ### Types and schemas -/

lemma asMapOf_agree (hf : SameDecoder f g) {ds : List (StringLiteral × Draft)}
    {ms : List (String × Json)} (h : WritesMembers ds ms) (m : OrderedMap α) :
    Agree (asMapOf f none m ds) (Json.asMapOf g m ms) := by
  induction ds generalizing ms m with
  | nil =>
    cases h
    exact .refl _
  | cons d ds ih =>
    cases h with
    | @cons l k d v _ _ hk hd hs =>
      rw [asMapOf, Json.asMapOf, literalText_eq hk]
      exact (hf hd).bind fun x => ih hs (m.insert k x)

lemma sameDecoder_asType : SameDecoder asType Json.asType := by
  intro d v h
  have hw := h
  cases h with
  | object hs => exact asMapOf_agree sameDecoder_asField hs _
  | _ => exact mismatch_agree hw _

lemma sameDecoder_asTypes : SameDecoder asTypes Json.asTypes := by
  intro d v h
  have hw := h
  cases h with
  | object hs => exact asMapOf_agree sameDecoder_asType hs _
  | _ => exact mismatch_agree hw _

/-- What stands under another key is only passed over, and has a value all the same. -/
lemma asSchemaMembers_agree {ds : List (StringLiteral × Draft)} {ms : List (String × Json)}
    (h : WritesMembers ds ms) (seen : Bool) (s : SchemaDecl) :
    Agree (asSchemaMembers none seen s ds) (Json.asSchemaMembers seen s ms) := by
  induction ds generalizing ms seen s with
  | nil =>
    cases h
    exact .refl _
  | cons d ds ih =>
    cases h with
    | @cons l k d v _ _ hk hd hs =>
      have hskip : d.skip = .ok () := by rw [skip, hd.skipFault_eq_none]
      rw [asSchemaMembers, Json.asSchemaMembers, literalText_eq hk]
      -- the text decoder has read the key by now
      show Agree (if k = "types" then _ else _) _
      split
      · split
        · exact .errors _ _
        · exact (sameDecoder_asTypes hd).bind fun types => ih hs true ⟨types⟩
      · rw [hskip]
        exact ih hs seen s

lemma sameDecoder_asSchemaDecl : SameDecoder asSchemaDecl Json.asSchemaDecl := by
  intro d v h
  have hw := h
  cases h with
  | array hs =>
    match hs with
    | .nil => exact .refl _
    | .cons hd .nil => exact (sameDecoder_asTypes hd).bind fun _ => .refl _
    | .cons hd (.cons _ _) => exact (sameDecoder_asTypes hd).bind fun _ => .errors _ _
  | object hs => exact asSchemaMembers_agree hs _ _
  | _ => exact mismatch_agree hw _

end Json.Draft

/-! ### The two ways -/

lemma SchemaDecl.ofText_agree {text : String} {v : Json} (hv : Json.ofText text = .ok v)
    (hk : (Json.Document.ofText text).draft.DistinctKeys) :
    Agree (SchemaDecl.ofText text) v.asSchemaDecl := by
  obtain ⟨w, hread, hv⟩ := bind_eq_ok_iff.mp hv
  obtain ⟨_, hend, hv⟩ := bind_eq_ok_iff.mp hv
  cases hv
  have hdecl := Json.Draft.sameDecoder_asSchemaDecl (Json.Draft.writes_of_read hk hread)
  have hending : Json.Draft.ending (Json.Document.ofText text).ending = .ok () := by
    rw [Json.Draft.ending, hend]
    rfl
  rw [ofText, hending]
  show Agree (_ >>= pure) _
  rw [bind_pure]
  exact hdecl

/-- Decoding a text and decoding the value that it writes fail together, each with one problem of
decoding, or give the same declaration, and so the same schema or the same problems. -/
theorem Schema.ofText_ofJson_agree {text : String} {v : Json} (hv : Json.ofText text = .ok v)
    (hk : (Json.Document.ofText text).draft.DistinctKeys) :
    (∃ d, SchemaDecl.ofText text = .ok d ∧ v.asSchemaDecl = .ok d ∧
      Schema.ofText text = d.resolve ∧ Schema.ofJson v = d.resolve) ∨
    (∃ m m', SchemaDecl.ofText text = .error m ∧ v.asSchemaDecl = .error m' ∧
      Schema.ofText text = .error (.single (.undecodable m.message)) ∧
      Schema.ofJson v = .error (.single (.undecodable m'.message))) := by
  have hagree := SchemaDecl.ofText_agree hv hk
  cases ht : SchemaDecl.ofText text with
  | ok d =>
    have hj := (hagree d).mp ht
    refine .inl ⟨d, rfl, hj, ?_, ?_⟩
    · rw [Schema.ofText, ht]
    · rw [Schema.ofJson, hj]
  | error m =>
    cases hj : v.asSchemaDecl with
    | ok d =>
      rw [(hagree d).mpr hj] at ht
      cases ht
    | error m' =>
      refine .inr ⟨m, m', rfl, rfl, ?_, ?_⟩
      · rw [Schema.ofText, ht]
      · rw [Schema.ofJson, hj]
        rfl

/-! ### A declaration written in an unusual way -/

namespace Orchard

def half : Double := ⟨false, 4602678819172646912, by decide⟩

lemma value_half (negative : Bool) : Json.NumberLiteral.value ⟨negative, [0], some [5], none⟩
    = .ok (.real (if negative then -half else half)) := by
  have hrank : (Double.ofNat 5 / Json.powerOfTen 1).rank = half.rank := by decide +kernel
  have hsign : (Double.ofNat 5 / Json.powerOfTen 1).negative = half.negative := by decide +kernel
  have hdiv : Double.ofNat 5 / Json.powerOfTen 1 = half := by
    generalize Double.ofNat 5 / Json.powerOfTen 1 = x at hrank hsign
    obtain ⟨negative, rank, _⟩ := x
    subst hrank hsign
    rfl
  have hshrink : Json.shrink (.ofNat 5) 1 = half := by rw [Json.shrink, if_pos (by decide), hdiv]
  show Except.ok (Json.Number.real
    (if negative then -Json.shrink (.ofNat 5) 1 else Json.shrink (.ofNat 5) 1)) = _
  rw [hshrink]

lemma ofText_half : Json.ofText (half.text .json) = .ok (.number (.real half)) := by
  have htext : half.text .json = "0.5" := by decide +kernel
  have hcuts : Json.Cuts "0.5".toList (.number ⟨false, [0], some [5], none⟩) [] :=
    (Json.Cuts.number_iff (c := '0') (r := ['.', '5']) rfl).mpr ⟨rfl, rfl⟩
  rw [htext, Json.ofText, Json.Document.ofText_eq hcuts rfl, Json.Document.read, Json.Draft.read,
    value_half]
  rfl

/-- Fields are written as a list and as an object, and a comment is passed over. -/
def remarks : Json := .object [
  ("comment", .array [.object []]),
  ("types", .object [("body", .object [
    ("weight", .array [.string "number", .bool true, .null,
      .array [.number (.integer 0), .number (.real half)]]),
    ("site", .object [("isUrl", .bool true), ("length", .null), ("type", .string "string")])])])]

lemma distinctKeys_remarks : remarks.DistinctKeys := by
  simp [remarks, Json.DistinctKeys, Json.DistinctKeysItems, Json.DistinctKeysMembers]

lemma numbersReadBack_remarks : remarks.NumbersReadBack := by
  have hzero : (Json.Number.integer 0).ReadsBack :=
    Json.Number.readsBack_integer (n := 0) (by decide)
  have hhalf : (Json.Number.real half).ReadsBack := by
    apply Json.Number.readsBack_of_ofText
    rw [Json.Number.render, String.ofList_toList]
    exact ofText_half
  simp [remarks, Json.NumbersReadBack, Json.NumbersReadBackItems, Json.NumbersReadBackMembers,
    hzero, hhalf]

lemma distinctKeys_draft_remarks : (Json.Document.ofText remarks.render).draft.DistinctKeys := by
  obtain ⟨d, hdoc, hw⟩ := Json.document_ofText_render numbersReadBack_remarks
  rw [hdoc]
  exact hw.distinctKeys distinctKeys_remarks

/-- The two ways agree on a text with a list for an object, `null`, the second key for URLs, a
comment, an integer and a fraction. -/
theorem ofText_ofJson_agree_remarks : Json.ofText remarks.render = .ok remarks ∧
    (Json.Document.ofText remarks.render).draft.DistinctKeys ∧
    ((∃ d, SchemaDecl.ofText remarks.render = .ok d ∧ remarks.asSchemaDecl = .ok d ∧
      Schema.ofText remarks.render = d.resolve ∧ Schema.ofJson remarks = d.resolve) ∨
    (∃ m m', SchemaDecl.ofText remarks.render = .error m ∧ remarks.asSchemaDecl = .error m' ∧
      Schema.ofText remarks.render = .error (.single (.undecodable m.message)) ∧
      Schema.ofJson remarks = .error (.single (.undecodable m'.message)))) := by
  have hv := Json.ofText_render_eq numbersReadBack_remarks distinctKeys_remarks
  exact ⟨hv, distinctKeys_draft_remarks, Schema.ofText_ofJson_agree hv distinctKeys_draft_remarks⟩

end Orchard

end RequestContract
