import RequestContract.Proofs.Reordering.Declaration
import RequestContract.Proofs.Validator

/-!
# Requests in another order

The members of an object come in some order, and so do the types of a schema and their fields. What
is reported does not depend on it: `Validator.findings_perm`.

The two checks take members in different orders, so the two runs are not compared step by step. Each
reports what it sees at the spots that it reaches, once; and the same spots are reached, up to the
order of what they hold.
-/

namespace RequestContract

/-! ### Values in another order -/

/-- The same value but for the order of the members of its objects, at any depth. -/
inductive Json.Reordered : Json → Json → Prop
  | null : Reordered .null .null
  | bool (b : Bool) : Reordered (.bool b) (.bool b)
  | number (n : Json.Number) : Reordered (.number n) (.number n)
  | string (t : String) : Reordered (.string t) (.string t)
  | array {vs ws : List Json} (hl : vs.length = ws.length)
      (h : ∀ (i : Nat) v w, vs[i]? = some v → ws[i]? = some w → Reordered v w) :
      Reordered (.array vs) (.array ws)
  | object {ms ns : List (String × Json)} (hk : (ms.map Prod.fst).Perm (ns.map Prod.fst))
      (h : ∀ k v w, (k, v) ∈ ms → (k, w) ∈ ns → Reordered v w) :
      Reordered (.object ms) (.object ns)

namespace Json.Reordered

variable {v w : Json} {vs ws : List Json} {ms ns : List (String × Json)}

lemma symm (h : v.Reordered w) : w.Reordered v := by
  induction h with
  | null => exact .null
  | bool b => exact .bool b
  | number n => exact .number n
  | string t => exact .string t
  | array hl _ ih => exact .array hl.symm fun i v w hv hw => ih i w v hw hv
  | object hk _ ih => exact .object hk.symm fun k v w hv hw => ih k w v hw hv

lemma exists_item (h : (Json.array vs).Reordered (.array ws)) {i : Nat} (hv : vs[i]? = some v) :
    ∃ w, ws[i]? = some w ∧ v.Reordered w := by
  cases h with
  | array hl h =>
    obtain ⟨hi, _⟩ := List.getElem?_eq_some_iff.mp hv
    obtain ⟨w, hw⟩ : ∃ w, ws[i]? = some w := ⟨_, List.getElem?_eq_getElem (hl ▸ hi)⟩
    exact ⟨w, hw, h i v w hv hw⟩

lemma keys_perm (h : (Json.object ms).Reordered (.object ns)) :
    (ms.map Prod.fst).Perm (ns.map Prod.fst) := by
  cases h with
  | object hk _ => exact hk

lemma exists_member (h : (Json.object ms).Reordered (.object ns)) {k : String} (hv : (k, v) ∈ ms) :
    ∃ w, (k, w) ∈ ns ∧ v.Reordered w := by
  cases h with
  | object hk h =>
    obtain ⟨⟨_, w⟩, hw, rfl⟩ := List.mem_map.mp (hk.subset (List.mem_map_of_mem hv))
    exact ⟨w, hw, h _ v w hv hw⟩

lemma distinctKeys (h : v.Reordered w) (hv : v.DistinctKeys) : w.DistinctKeys := by
  induction h with
  | null | bool | number | string => trivial
  | @array vs ws hl _ ih =>
    rw [DistinctKeys, distinctKeysItems_iff] at hv ⊢
    intro w hw
    obtain ⟨i, hi⟩ := List.mem_iff_getElem?.mp hw
    obtain ⟨hlt, _⟩ := List.getElem?_eq_some_iff.mp hi
    have hget : vs[i]? = some vs[i] := List.getElem?_eq_getElem (hl ▸ hlt)
    exact ih i _ w hget hi (hv _ (List.mem_of_getElem? hget))
  | @object ms ns hk _ ih =>
    rw [distinctKeys_object_iff] at hv ⊢
    refine ⟨hk.nodup_iff.mp hv.1, ?_⟩
    rintro ⟨k, w⟩ hw
    obtain ⟨⟨_, v⟩, hm, rfl⟩ := List.mem_map.mp (hk.symm.subset (List.mem_map_of_mem hw))
    exact ih _ v w hm hw (hv.2 _ hm)

end Json.Reordered

def Request.Reordered (request request' : Request) : Prop := ∀ c,
  (request.part c = none ∧ request'.part c = none) ∨
  ∃ ms ns, request.part c = some ms ∧ request'.part c = some ns ∧
    (Json.object ms).Reordered (.object ns)

/-! ### Spots in another order -/

lemma Schema.SameTypes.symm {s s' : Schema} (h : s.SameTypes s') : s'.SameTypes s := by
  intro n
  rcases h n with ⟨hr, hr'⟩ | ⟨r, r', hr, hr', hrr⟩
  · exact .inl ⟨hr', hr⟩
  · exact .inr ⟨r', r, hr', hr, fun k => (hrr k).symm⟩

lemma Schema.SameTypes.exists_type? {s s' : Schema} (h : s.SameTypes s') {n : String}
    {r : RecordType} (hr : s.type? n = some r) :
    ∃ r', s'.type? n = some r' ∧ r.SameFields r' := by
  rcases h n with ⟨hn, _⟩ | ⟨r₁, r', hr₁, hr', hrr⟩
  · rw [hr] at hn
    cases hn
  · rw [hr, Option.some.injEq] at hr₁
    subst hr₁
    exact ⟨r', hr', hrr⟩

/-- The same spot with the value in another order. -/
def Spot.Reordered (a b : Spot) : Prop := ∃ w, b = { a with value := w } ∧ a.value.Reordered w

variable {s s' : Schema} {r r' : RecordType} {ms ns : List (String × Json)}

lemma Spot.Reordered.symm {a b : Spot} (h : a.Reordered b) : b.Reordered a := by
  obtain ⟨w, rfl, hw⟩ := h
  exact ⟨a.value, rfl, hw.symm⟩

/-- Each step has its like. -/
lemma Schema.Step.reordered {a b a' : Spot} {c : Path.Component} (h : s.Step a c b)
    (hs : s.SameTypes s') (ha : a.Reordered a') : ∃ b', s'.Step a' c b' ∧ b.Reordered b' := by
  obtain ⟨w, rfl, hw⟩ := ha
  cases h with
  | @element t items i v ht hv hi =>
    rw [hv] at hw
    have hitems := hw
    cases hw with
    | array =>
      obtain ⟨u, hu, hvu⟩ := hitems.exists_item hi
      exact ⟨Spot.element _ t i u, .element ht rfl hu, u, rfl, hvu⟩
  | @member n r ms k f v ht hr hv hk hf =>
    rw [hv] at hw
    have hmembers := hw
    cases hw with
    | object =>
      obtain ⟨u, hu, hvu⟩ := hmembers.exists_member hk
      obtain ⟨r', hr', hrr⟩ := hs.exists_type? hr
      exact ⟨.ofField k f u, .member ht hr' rfl hu (hrr k ▸ hf), u, rfl, hvu⟩

/-- So has each spot that is reached. -/
lemma Schema.Reached.reordered {q : List Path.Component} {a : Spot} (h : s.Reached r ms q a)
    (hs : s.SameTypes s') (hr : r.SameFields r')
    (hm : (Json.object ms).Reordered (.object ns)) :
    ∃ a', s'.Reached r' ns q a' ∧ a.Reordered a' := by
  induction h with
  | @field k f v hk hf =>
    obtain ⟨w, hw, hvw⟩ := hm.exists_member hk
    exact ⟨.ofField k f w, .field hw (hr k ▸ hf), w, rfl, hvw⟩
  | step _ hstep ih =>
    obtain ⟨a', ha', haa⟩ := ih
    obtain ⟨b', hb', hbb⟩ := hstep.reordered hs haa
    exact ⟨b', .step ha' hb', hbb⟩

/-! ### What is seen -/

/-- Coverage is a matter of keys. -/
lemma RecordType.Uncovered.reordered {k : String} {v : Violation} (h : r.Uncovered ms k v)
    (hr : r.SameFields r') (hm : (Json.object ms).Reordered (.object ns)) :
    r'.Uncovered ns k v := by
  cases h with
  | missing hf hq hk => exact .missing (hr k ▸ hf) hq (hm.keys_perm.mem_iff.not.mp hk)
  | unexpected hk hn =>
    refine .unexpected (hm.keys_perm.mem_iff.mp hk) ?_
    rw [← OrderedMap.get?_eq_none_iff] at hn ⊢
    exact hr k ▸ hn

lemma Coverage.mem_breaches_reordered {coverage : Coverage} {b : Breach}
    (hb : b ∈ coverage.breaches r ms) (hr : r.SameFields r')
    (hm : (Json.object ms).Reordered (.object ns)) : b ∈ coverage.breaches r' ns := by
  obtain ⟨hc, k, v, h, rfl⟩ := mem_breaches.mp hb
  exact mem_breaches.mpr ⟨hc, k, v, h.reordered hr hm, rfl⟩

lemma Coverage.breaches_perm {coverage : Coverage} (hd : (Json.object ms).DistinctKeys)
    (hr : r.SameFields r') (hm : (Json.object ms).Reordered (.object ns)) :
    (coverage.breaches r ms).Perm (coverage.breaches r' ns) := by
  have hd' := hm.distinctKeys hd
  rw [List.perm_ext_iff_of_nodup (nodup_breaches hd.keys).of_map (nodup_breaches hd'.keys).of_map]
  intro b
  exact ⟨fun hb => mem_breaches_reordered hb hr hm,
    fun hb => mem_breaches_reordered hb (fun k => (hr k).symm) hm.symm⟩

lemma FieldType.Fits.reordered {t : FieldType} {v w : Json} (h : t.Fits v) (hw : v.Reordered w) :
    t.Fits w := by
  cases h with
  | any => exact .any w
  | string t =>
    cases hw
    exact .string t
  | number n =>
    cases hw
    exact .number n
  | boolean b =>
    cases hw
    exact .boolean b
  | enum t =>
    cases hw
    exact .enum t
  | array t items =>
    cases hw
    exact .array t _
  | named n ms =>
    cases hw
    exact .named n _

lemma Spot.Breaks.reordered {a a' : Spot} {v : Violation} (h : a.Breaks v)
    (ha : a.Reordered a') : a'.Breaks v := by
  -- all but the last are about values without other values inside, which stay the same
  obtain ⟨w, rfl, hw⟩ := ha
  cases h with
  | length ht hv hn h =>
    rw [hv] at hw
    cases hw
    exact .length ht rfl hn h
  | start ht hv hs h =>
    rw [hv] at hw
    cases hw
    exact .start ht rfl hs h
  | url ht hv hu h =>
    rw [hv] at hw
    cases hw
    exact .url ht rfl hu h
  | range ht hv hr h =>
    rw [hv] at hw
    cases hw
    exact .range ht rfl hr h
  | enum ht hv h =>
    rw [hv] at hw
    cases hw
    exact .enum ht rfl h
  | size ht hv hn h =>
    rw [hv] at hw
    cases hw with
    | array hl _ =>
      rw [hl] at h ⊢
      exact .size ht rfl hn h

/-- The second walk sees all that the first one sees, whatever the order. -/
def Walk.SeenBy (w w' : Walk) : Prop := ∀ a a' b, a.Reordered a' → b ∈ w.look a → b ∈ w'.look a'

lemma seenBy_shapeWalk (hs : s.SameTypes s') (nested : Coverage) :
    (shapeWalk s nested).SeenBy (shapeWalk s' nested) := by
  intro a a' b ha hb
  obtain ⟨w, rfl, hw⟩ := ha
  refine Spot.mem_shapeBreaches.mpr ?_
  rcases Spot.mem_shapeBreaches.mp hb with
    ⟨hf, rfl⟩ | ⟨t, ht, hv, hm, rfl⟩ | ⟨n, r, ms, ht, hv, hr, hb⟩
  · exact .inl ⟨fun hf' => hf (hf'.reordered hw.symm), rfl⟩
  · rw [hv] at hw
    cases hw
    exact .inr (.inl ⟨t, ht, rfl, hm, rfl⟩)
  · obtain ⟨r', hr', hrr⟩ := hs.exists_type? hr
    rw [hv] at hw
    have hmembers := hw
    cases hw with
    | object =>
      have hb' := Coverage.mem_breaches_reordered hb hrr hmembers
      exact .inr (.inr ⟨n, r', _, ht, rfl, hr', hb'⟩)

lemma seenBy_contentWalk : contentWalk.SeenBy contentWalk := by
  intro a a' b ha hb
  obtain ⟨v, hv, rfl⟩ := List.mem_map.mp hb
  have hbreaks := (Spot.mem_contentViolations.mp hv).reordered ha
  exact List.mem_map_of_mem (Spot.mem_contentViolations.mpr hbreaks)

/-! ### What is reported -/

namespace Walk

variable {w w' : Walk} {o : MemberOrder}

lemma mem_reportsAfter_reordered (hd : (Json.object ms).DistinctKeys) (hs : s.SameTypes s')
    (hr : r.SameFields r') (hm : (Json.object ms).Reordered (.object ns)) (hw : w.SeenBy w')
    {b : Breach} (hb : b ∈ w.reportsAfter s (o.spots r ms)) :
    b ∈ w'.reportsAfter s' (o.spots r' ns) := by
  obtain ⟨q, e, x, he, hx, rfl⟩ := (mem_reportsAfter_spots_iff hd).mp hb
  obtain ⟨e', he', hee⟩ := he.reordered hs hr hm
  rw [mem_reportsAfter_spots_iff (hm.distinctKeys hd)]
  exact ⟨q, e', x, he', hw e e' x hee hx, rfl⟩

/-- Two walks that see the same report the same, up to order. -/
theorem reportsAfter_perm (hd : (Json.object ms).DistinctKeys) (hs : s.SameTypes s')
    (hr : r.SameFields r') (hm : (Json.object ms).Reordered (.object ns)) (hw : w.IsNeat s)
    (hw' : w'.IsNeat s') (hww : w.SeenBy w') (hww' : w'.SeenBy w) :
    (w.reportsAfter s (o.spots r ms)).Perm (w'.reportsAfter s' (o.spots r' ns)) := by
  have hd' := hm.distinctKeys hd
  rw [List.perm_ext_iff_of_nodup (nodup_reportsAfter_spots hd hw).of_map
    (nodup_reportsAfter_spots hd' hw').of_map]
  exact fun b => ⟨mem_reportsAfter_reordered hd hs hr hm hww,
    mem_reportsAfter_reordered hd' hs.symm (fun k => (hr k).symm) hm.symm hww'⟩

end Walk

namespace Validator

variable {v v' : Validator} {request request' : Request}

lemma partBreaches_perm (ho : v.options = v'.options) (hd : (Json.object ms).DistinctKeys)
    (hs : v.schema.SameTypes v'.schema) (hr : r.SameFields r')
    (hm : (Json.object ms).Reordered (.object ns)) :
    (v.partBreaches r ms).Perm (v'.partBreaches r' ns) := by
  have hshape := Walk.reportsAfter_perm (o := .declared) hd hs hr hm shapeWalk_isNeat
    shapeWalk_isNeat (seenBy_shapeWalk hs v.options.nestedCoverage)
    (seenBy_shapeWalk hs.symm v.options.nestedCoverage)
  have hcontent := Walk.reportsAfter_perm (o := .declared) hd hs hr hm contentWalk_isNeat
    contentWalk_isNeat seenBy_contentWalk seenBy_contentWalk
  rw [partBreaches, partBreaches, ← ho]
  refine .append (.append (Coverage.breaches_perm hd hr hm) hshape) ?_
  split
  · exact hcontent
  · exact .refl _

lemma categoryFindings_perm (ho : v.options = v'.options) (hd : request.DistinctKeys)
    (hs : v.schema.SameTypes v'.schema) (hr : r.SameFields r')
    (hq : request.Reordered request') (c : Category) :
    (v.categoryFindings request c r).Perm (v'.categoryFindings request' c r') := by
  rw [categoryFindings, categoryFindings]
  rcases hq c with ⟨hc, hc'⟩ | ⟨ms, ns, hc, hc', hm⟩
  · rw [hc, hc']
  · rw [hc, hc']
    exact (partBreaches_perm ho (hd c ms hc) hs hr hm).map _

/-- Categories are taken in an order that no declaration changes. -/
lemma findings_validate_perm (ho : v.options = v'.options) (hd : request.DistinctKeys)
    (hs : v.schema.SameTypes v'.schema) (hq : request.Reordered request') :
    (v.validate request).findings.Perm (v'.validate request').findings := by
  rw [findings_validate, findings_validate, Schema.roots, Schema.roots]
  induction Category.all with
  | nil => exact .nil
  | cons c cs ih =>
    rw [List.filterMap_cons, List.filterMap_cons, Schema.root?, Schema.root?]
    rcases hs c.name with ⟨hr, hr'⟩ | ⟨r, r', hr, hr', hrr⟩
    · rw [hr, hr']
      exact ih
    · rw [hr, hr']
      exact (categoryFindings_perm ho hd hs hrr hq c).append ih

/-- Neither the order of types and fields in a declaration nor that of the members of objects in a
request changes what is reported, but for the order of the reports. -/
theorem findings_perm {d d' : SchemaDecl} (h : d.Permuted d') :
    (∃ ps ps', d.resolve = .error ps ∧ d'.resolve = .error ps' ∧ ps.toList.Perm ps'.toList) ∨
    (∃ s s', d.resolve = .ok s ∧ d'.resolve = .ok s' ∧
      ∀ (options : Options) (request request' : Request),
        request.DistinctKeys → request.Reordered request' →
        ((Validator.mk s options).validate request).isValid
          = ((Validator.mk s' options).validate request').isValid ∧
        ((Validator.mk s options).validate request).findings.Perm
          ((Validator.mk s' options).validate request').findings) := by
  rcases h.resolve with hps | ⟨s, s', hr, hr', hs⟩
  · exact .inl hps
  · refine .inr ⟨s, s', hr, hr', fun options request request' hd hq => ?_⟩
    have hp : ((Validator.mk s options).validate request).findings.Perm
        ((Validator.mk s' options).validate request').findings :=
      findings_validate_perm rfl hd hs hq
    refine ⟨?_, hp⟩
    rw [Bool.eq_iff_iff, Report.isValid_iff, Report.isValid_iff]
    exact ⟨fun hnil => (hnil ▸ hp).nil_eq.symm, fun hnil => (hnil ▸ hp).eq_nil⟩

end Validator

/-! ### An orchard in another order -/

namespace Json.Reordered

variable {k l : String} {v v' w w' : Json}

lemma items {vs ws : List Json} (h : List.Forall₂ Reordered vs ws) :
    (Json.array vs).Reordered (.array ws) := by
  refine .array h.length_eq fun i v w hv hw => ?_
  obtain ⟨hi, rfl⟩ := List.getElem?_eq_some_iff.mp hv
  obtain ⟨hi', rfl⟩ := List.getElem?_eq_some_iff.mp hw
  exact h.get hi hi'

lemma member (h : v.Reordered v') :
    (Json.object [(k, v)]).Reordered (.object [(k, v')]) := by
  refine .object (.refl _) fun j x y hx hy => ?_
  rw [List.mem_singleton, Prod.mk.injEq] at hx hy
  rw [hx.2, hy.2]
  exact h

lemma swap (hk : k ≠ l) (hv : v.Reordered v') (hw : w.Reordered w') :
    (Json.object [(k, v), (l, w)]).Reordered (.object [(l, w'), (k, v')]) := by
  refine .object (.swap _ _ _) fun j x y hx hy => ?_
  simp only [List.mem_cons, Prod.mk.injEq, List.not_mem_nil, or_false] at hx hy
  rcases hx with ⟨rfl, rfl⟩ | ⟨rfl, rfl⟩ <;> rcases hy with ⟨hj, rfl⟩ | ⟨hj, rfl⟩
  · exact absurd hj hk
  · exact hv
  · exact hw
  · exact absurd hj.symm hk

end Json.Reordered

namespace Orchard

/-- The orchard declared from the branches up. -/
def shuffledDecl : SchemaDecl := ⟨.ofList [
  ("Branch", .ofList [("name", name), ("tree", tree)]),
  ("body", .ofList [("rows", rows)]),
  ("Tree", .ofList [("branches", branches), ("kind", kind)])]⟩

/-- The members of the orchard with the owner in front, and a tree with its branches in front. -/
def shuffledMembers : List (String × Json) :=
  [("owner", .null),
    ("rows", .array [.array [
      .object [("branches", .array [.object [("name", .string "leaf")]]), ("kind", .string "plum")],
      .number (.integer 7)]])]

def shuffledRequest : Request := Request.empty.withMembers .body shuffledMembers

lemma permuted_decl : decl.Permuted shuffledDecl := by
  refine ⟨by decide, fun n t t' ht ht' => ?_⟩
  have hmem : (n, t) ∈ [("body", OrderedMap.ofList [("rows", rows)]),
      ("Tree", .ofList [("kind", kind), ("branches", branches)]),
      ("Branch", .ofList [("tree", tree), ("name", name)])] := OrderedMap.get?_eq_some_iff.mp ht
  simp only [List.mem_cons, Prod.mk.injEq, List.not_mem_nil, or_false] at hmem
  rcases hmem with ⟨rfl, rfl⟩ | ⟨rfl, rfl⟩ | ⟨rfl, rfl⟩
  · cases ht'
    exact .of_perm (.refl _)
  · cases ht'
    exact .of_perm (.swap _ _ _)
  · cases ht'
    exact .of_perm (.swap _ _ _)

lemma reordered_request : request.Reordered shuffledRequest := by
  have hbranch := Json.Reordered.member (k := "name") (.string "leaf")
  have hbranches := Json.Reordered.items (.cons hbranch .nil)
  have htree := Json.Reordered.swap (k := "kind") (l := "branches") (by decide) (.string "plum")
    hbranches
  have hrow := Json.Reordered.items (.cons htree (.cons (.number (.integer 7)) .nil))
  have hrows := Json.Reordered.items (.cons hrow .nil)
  intro c
  cases c with
  | body => exact .inr ⟨members, shuffledMembers, rfl, rfl, .swap (by decide) hrows .null⟩
  | _ => exact .inl ⟨rfl, rfl⟩

/-- What is reported of the orchard is reported of it in the other order, for all options. -/
theorem findings_perm_shuffled :
    decl.Permuted shuffledDecl ∧ request.DistinctKeys ∧ request.Reordered shuffledRequest ∧
    ∃ s', shuffledDecl.resolve = .ok s' ∧ ∀ options : Options,
      ((Validator.mk schema options).validate request).isValid
        = ((Validator.mk s' options).validate shuffledRequest).isValid ∧
      ((Validator.mk schema options).validate request).findings.Perm
        ((Validator.mk s' options).validate shuffledRequest).findings := by
  refine ⟨permuted_decl, distinctKeys_request, reordered_request, ?_⟩
  rcases Validator.findings_perm permuted_decl with ⟨ps, _, hps, _⟩ | ⟨s, s', hs, hs', h⟩
  · rw [resolve_decl] at hps
    cases hps
  · rw [resolve_decl, Except.ok.injEq] at hs
    subst hs
    exact ⟨s', hs', fun options => h options _ _ distinctKeys_request reordered_request⟩

end Orchard

end RequestContract
