import Mathlib.Data.List.Infix
import Mathlib.Data.List.Perm.Basic
import RequestContract.Proofs.Categories

/-!
# Values of the wrong shape

A value of the wrong shape is reported and not looked into. Steps lead on only from values that have
the shape of their type, and for values of the wrong shape the content check has nothing to say. So
at such a value and further in there is one finding, as `Validator.filter_isBelow_incorrectType`
says, namely that its shape is wrong.
-/

namespace RequestContract

variable {s : Schema} {r : RecordType} {ms : List (String × Json)} {a b e : Spot}
  {q q' : List Path.Component}

/-! ### One spot at the end of a way -/

namespace Schema

lemma Step.fits {c : Path.Component} (h : s.Step a c b) : a.type.Fits a.value := by
  cases h with
  | element ht hv _ =>
    rw [ht, hv]
    exact .array _ _
  | member ht _ hv _ _ =>
    rw [ht, hv]
    exact .named _ _

lemma Step.unique {c : Path.Component} (hd : a.value.DistinctKeys) (h : s.Step a c b)
    (h' : s.Step a c e) : b = e := by
  have hmem := Spot.mem_next (o := .given) hd h
  have hmem' := Spot.mem_next (o := .given) hd h'
  exact (Prod.mk.inj (List.inj_on_of_nodup_map (Spot.nodup_next hd) hmem hmem' rfl)).2

/-- A way that begins with the way to a spot goes on from that spot. -/
lemma Reaches.rest (hd : a.value.DistinctKeys) (h : s.Reaches a q b)
    (h' : s.Reaches a (q ++ q') e) : s.Reaches b q' e := by
  induction h with
  | here a => exact h'
  | step hs _ ih =>
    cases h' with
    | step hs' h' =>
      obtain rfl := hs.unique hd hs'
      exact ih (hs.distinctKeys hd) h'

lemma Reaches.unique (hd : a.value.DistinctKeys) (h : s.Reaches a q b) (h' : s.Reaches a q e) :
    b = e := by
  rw [← List.append_nil q] at h'
  cases h.rest hd h'
  rfl

lemma Reached.rest (hd : (Json.object ms).DistinctKeys) (ha : s.Reached r ms q a)
    (he : s.Reached r ms (q ++ q') e) : s.Reaches a q' e := by
  obtain ⟨k, f, v, p, hk, hf, rfl, h⟩ := reached_iff.mp ha
  obtain ⟨k', f', v', p', hk', hf', hq, h'⟩ := reached_iff.mp he
  obtain ⟨rfl, rfl⟩ : k = k' ∧ p ++ q' = p' := by simpa using hq
  obtain rfl : f = f' := Option.some.inj (hf ▸ hf')
  obtain rfl : v = v' := (Prod.mk.inj (List.inj_on_of_nodup_map hd.keys hk hk' rfl)).2
  exact h.rest (hd.member hk) h'

lemma Reaches.eq_of_not_fits (h : s.Reaches a q e) (hf : ¬ a.type.Fits a.value) :
    q = [] ∧ e = a := by
  cases h with
  | here => exact ⟨rfl, rfl⟩
  | step hs _ => exact absurd hs.fits hf

/-- Through a value of the wrong shape nothing is reached but the value itself. -/
lemma Reached.eq_of_not_fits (hd : (Json.object ms).DistinctKeys) (h : s.Reached r ms q a)
    (hf : ¬ a.type.Fits a.value) (h' : s.Reached r ms q' e) (hq : q <+: q') : q' = q ∧ e = a := by
  obtain ⟨p, rfl⟩ := hq
  obtain ⟨rfl, rfl⟩ := (h.rest hd h').eq_of_not_fits hf
  exact ⟨List.append_nil q, rfl⟩

end Schema

/-! ### What is reported at a value of the wrong shape -/

variable {b : Breach} {nested : Coverage} {o : MemberOrder}

/-- Whether a finding was made at a path or further in. -/
def Finding.isBelow (p : Path) (x : Finding) : Bool :=
  match x.location with
  | .within q => p.components.isPrefixOf q.components
  | _ => false

namespace Breach

lemma findingAt_injective (p : Path) : Function.Injective (findingAt p) := by
  rintro ⟨q, u⟩ ⟨q', u'⟩ h
  obtain ⟨hq, hu⟩ := Finding.mk.inj h
  exact congrArg₂ mk (p.pushMany_injective (Location.within.inj hq)) hu

/-- Categories have different names, so a finding in the one is not below a path into the other. -/
lemma isBelow_findingAt_iff {c c' : Category} {b : Breach} :
    (b.findingAt (Path.root.push (.property c'.name))).isBelow
        ((Path.root.push (.property c.name)).pushMany q) = true ↔ c = c' ∧ q <+: b.way := by
  have hname : c.name = c'.name ↔ c = c' := ⟨Category.name_injective, congrArg Category.name⟩
  simp [Finding.isBelow, findingAt, Path.root, hname]

end Breach

lemma Spot.Breaks.fits {v : Violation} (h : a.Breaks v) : a.type.Fits a.value := by
  cases h with
  | length ht hv _ _ | start ht hv _ _ | url ht hv _ _ =>
    rw [ht, hv]
    exact .string _
  | range ht hv _ _ =>
    rw [ht, hv]
    exact .number _
  | enum ht hv _ =>
    rw [ht, hv]
    exact .enum _
  | size ht hv _ _ =>
    rw [ht, hv]
    exact .array _ _

/-- A key that is missing or undeclared is that of no value that is reached. -/
lemma RecordType.Uncovered.not_isPrefix {k : String} {v : Violation} (h : r.Uncovered ms k v)
    (ha : s.Reached r ms q a) : ¬ q <+: [.property k] := by
  obtain ⟨k', f, w, p, hk, hf, rfl, -⟩ := Schema.reached_iff.mp ha
  intro hq
  obtain ⟨rfl, -⟩ : k' = k ∧ p = [] := by simpa using hq
  exact h.not_mem hf hk

lemma eq_of_mem_shapeWalk (hd : (Json.object ms).DistinctKeys) (ha : s.Reached r ms q a)
    (hf : ¬ a.type.Fits a.value) (hb : b ∈ (shapeWalk s nested).reportsAfter s (o.spots r ms))
    (hq : q <+: b.way) : b = ⟨q, a.incorrectType⟩ := by
  obtain ⟨q', e, x, he, hx, rfl⟩ := Walk.exists_of_mem_reportsAfter_spots hb
  rcases Spot.mem_shapeBreaches.mp hx with
    ⟨-, rfl⟩ | ⟨t, ht, hv, -, rfl⟩ | ⟨n, r', ms', ht, hv, hr, hx⟩
  · rw [Breach.along_here] at hq ⊢
    obtain ⟨rfl, rfl⟩ := ha.eq_of_not_fits hd hf he hq
    rfl
  · rw [Breach.along_here] at hq
    obtain ⟨-, rfl⟩ := ha.eq_of_not_fits hd hf he hq
    rw [ht, hv] at hf
    exact absurd (.enum t) hf
  · -- the key lies one step below the object, so the value may be at the key or at the object
    obtain ⟨-, k, v, hu, rfl⟩ := Coverage.mem_breaches.mp hx
    rcases List.prefix_concat_iff.mp hq with rfl | hq
    · cases he.rest hd ha with
      | step hs _ =>
        cases hs with
        | member ht' hr' hv' hk hf' =>
          obtain rfl := FieldType.named.inj (ht.symm.trans ht')
          obtain rfl := Json.object.inj (hv.symm.trans hv')
          obtain rfl := Option.some.inj (hr.symm.trans hr')
          exact absurd hk (hu.not_mem hf')
    · obtain ⟨-, rfl⟩ := ha.eq_of_not_fits hd hf he hq
      rw [ht, hv] at hf
      exact absurd (.named n ms') hf

lemma not_isPrefix_of_mem_contentWalk (hd : (Json.object ms).DistinctKeys)
    (ha : s.Reached r ms q a) (hf : ¬ a.type.Fits a.value)
    (hb : b ∈ contentWalk.reportsAfter s (o.spots r ms)) : ¬ q <+: b.way := by
  intro hq
  obtain ⟨q', e, x, he, hx, rfl⟩ := Walk.exists_of_mem_reportsAfter_spots hb
  obtain ⟨v, hv, rfl⟩ := List.mem_map.mp hx
  rw [Breach.along_here] at hq
  obtain ⟨-, rfl⟩ := ha.eq_of_not_fits hd hf he hq
  exact hf (Spot.mem_contentViolations.mp hv).fits

namespace Validator

variable {v : Validator}

lemma eq_of_mem_partBreaches (hd : (Json.object ms).DistinctKeys)
    (ha : v.schema.Reached r ms q a) (hf : ¬ a.type.Fits a.value) (hb : b ∈ v.partBreaches r ms)
    (hq : q <+: b.way) : b = ⟨q, a.incorrectType⟩ := by
  rcases mem_partBreaches_iff.mp hb with hb | hb | ⟨-, hb⟩
  · obtain ⟨-, k, u, hu, rfl⟩ := Coverage.mem_breaches.mp hb
    exact absurd hq (hu.not_isPrefix ha)
  · exact eq_of_mem_shapeWalk hd ha hf hb hq
  · exact absurd hq (not_isPrefix_of_mem_contentWalk hd ha hf hb)

/-- Only of values of the wrong shape it is said that their shape is wrong. -/
lemma exists_not_fits (hb : b ∈ v.partBreaches r ms) (hc : b.violation.code = "incorrect_type") :
    ∃ q a, v.schema.Reached r ms q a ∧ ¬ a.type.Fits a.value ∧ b = ⟨q, a.incorrectType⟩ := by
  rcases mem_partBreaches_iff.mp hb with hb | hb | ⟨-, hb⟩
  · exact absurd (hc ▸ Coverage.code_mem_coverageCodes hb) (by decide)
  · obtain ⟨q, a, x, ha, hx, rfl⟩ := Walk.exists_of_mem_reportsAfter_spots hb
    rcases Spot.mem_shapeBreaches.mp hx with
      ⟨hf, rfl⟩ | ⟨t, -, -, -, rfl⟩ | ⟨n, r', ms', -, -, -, hx⟩
    · exact ⟨q, a, ha, hf, Breach.along_here _ _⟩
    · exact absurd hc (by simp [Breach.along, Breach.here, Violation.code])
    · have hcode : x.violation.code = "incorrect_type" := hc
      exact absurd (hcode ▸ Coverage.code_mem_coverageCodes hx) (by decide)
  · exact absurd (hc ▸ code_mem_of_mem_contentWalk hb) (by decide)

/-! ### No finding is made twice -/

lemma nodup_partBreaches (hd : (Json.object ms).DistinctKeys) : (v.partBreaches r ms).Nodup := by
  rw [partBreaches, List.nodup_append, List.nodup_append]
  refine ⟨⟨(Coverage.nodup_breaches hd.keys).of_map,
    (Walk.nodup_reportsAfter_spots hd shapeWalk_isNeat).of_map, ?_⟩, ?_, ?_⟩
  · rintro b hb _ hb' rfl
    obtain ⟨-, k, u, hu, rfl⟩ := Coverage.mem_breaches.mp hb
    obtain ⟨c, e, hn, x, -, hx⟩ := Walk.mem_reportsAfter.mp hb'
    have hk : .property k = c := (List.cons.inj (congrArg Breach.way hx)).1
    exact hu.not_mem_spots hn hk.symm
  · split
    · exact (Walk.nodup_reportsAfter_spots hd contentWalk_isNeat).of_map
    · exact List.nodup_nil
  · rintro b hb _ hb' rfl
    have hshape : b.violation.code ∈ Violation.shapeCodes := by
      rcases List.mem_append.mp hb with hb | hb
      · exact Coverage.code_mem_of_mem_breaches hb
      · exact code_mem_of_mem_shapeWalk hb
    split at hb'
    · exact Violation.not_mem_contentCodes_of_mem_shapeCodes hshape
        (code_mem_of_mem_contentWalk hb')
    · cases hb'

variable {request : Request} {c c' : Category} {x : Finding}

lemma mem_block_iff : x ∈ v.block request c ↔ ∃ r, v.schema.root? c = some r ∧
    ((request.part c = none ∧ x = ⟨.request, .rootMissing c⟩) ∨
      ∃ ms, request.part c = some ms ∧ ∃ b ∈ v.partBreaches r ms,
        x = b.findingAt (Path.root.push (.property c.name))) := by
  cases hr : v.schema.root? c with
  | none => simp [block_of_undeclared hr]
  | some r =>
    rw [block_of_declared hr]
    cases hp : request.part c <;> simp [categoryFindings, hp, eq_comm]

/-- A finding tells the category it is about. -/
lemma eq_of_mem_block (hx : x ∈ v.block request c) (hx' : x ∈ v.block request c') : c = c' := by
  obtain ⟨r, -, ⟨-, rfl⟩ | ⟨ms, -, b, -, rfl⟩⟩ := mem_block_iff.mp hx
  · obtain ⟨r', -, ⟨-, h⟩ | ⟨ms', -, b', -, h⟩⟩ := mem_block_iff.mp hx'
    · exact Violation.rootMissing.inj (congrArg Finding.violation h)
    · cases h
  · obtain ⟨r', -, ⟨-, h⟩ | ⟨ms', -, b', -, h⟩⟩ := mem_block_iff.mp hx'
    · cases h
    · have hlocation := Location.within.inj (congrArg Finding.location h)
      have hname := (List.cons.inj (congrArg Path.components hlocation)).1
      exact Category.name_injective (Path.Component.property.inj hname)

/-- No finding is made twice. -/
theorem nodup_findings (hd : request.DistinctKeys) : (v.validate request).findings.Nodup := by
  rw [findings_validate_eq_flatMap_block, List.nodup_flatMap]
  constructor
  · intro c _
    cases hr : v.schema.root? c with
    | none =>
      rw [block_of_undeclared hr]
      exact List.nodup_nil
    | some r =>
      rw [block_of_declared hr, categoryFindings]
      cases hp : request.part c with
      | none => exact List.nodup_singleton _
      | some ms => exact (nodup_partBreaches (hd c ms hp)).map (Breach.findingAt_injective _)
  · refine (by decide : Category.all.Nodup).imp fun hne x hx hx' => ?_
    exact hne (eq_of_mem_block hx hx')

/-! ### The main result -/

lemma eq_of_isBelow (hd : request.DistinctKeys) (hr : v.schema.root? c = some r)
    (hp : request.part c = some ms) (ha : v.schema.Reached r ms q a)
    (hf : ¬ a.type.Fits a.value) (hx : x ∈ (v.validate request).findings)
    (hxq : x.isBelow ((Path.root.push (.property c.name)).pushMany q) = true) :
    x = Breach.findingAt (Path.root.push (.property c.name)) ⟨q, a.incorrectType⟩ := by
  obtain ⟨c', r', hr', ⟨-, rfl⟩ | ⟨ms', hp', b, hb, rfl⟩⟩ := mem_findings_validate_iff.mp hx
  · cases hxq
  · obtain ⟨rfl, hq⟩ := Breach.isBelow_findingAt_iff.mp hxq
    obtain rfl := Option.some.inj (hr.symm.trans hr')
    obtain rfl := Option.some.inj (hp.symm.trans hp')
    rw [eq_of_mem_partBreaches (hd c ms hp) ha hf hb hq]

/-- Where a shape is said to be wrong, and further in, nothing else is found. -/
theorem filter_isBelow_incorrectType (hd : request.DistinctKeys)
    (hx : x ∈ (v.validate request).findings) (hc : x.code = "incorrect_type") :
    ∃ p, x.location = .within p ∧
      (v.validate request).findings.filter (Finding.isBelow p) = [x] := by
  obtain ⟨c, r, hr, ⟨-, rfl⟩ | ⟨ms, hp, b, hb, rfl⟩⟩ := mem_findings_validate_iff.mp hx
  · exact absurd hc (by simp [Finding.code, Violation.code])
  · obtain ⟨q, a, ha, hf, rfl⟩ := exists_not_fits hb hc
    refine ⟨_, rfl, ?_⟩
    rw [← List.perm_singleton, List.perm_ext_iff_of_nodup ((nodup_findings hd).filter _)
      (List.nodup_singleton _)]
    intro y
    rw [List.mem_filter, List.mem_singleton]
    constructor
    · rintro ⟨hy, hyq⟩
      exact eq_of_isBelow hd hr hp ha hf hy hyq
    · rintro rfl
      exact ⟨hx, Breach.isBelow_findingAt_iff.mpr ⟨rfl, List.prefix_refl q⟩⟩

end Validator

/-! ### A tree in a box -/

namespace Orchard

/-- In place of a tree there is a box with a tree, which is of a kind that is not known. -/
def boxedRequest : Request := Request.empty.withMembers .body
  [("rows", .array [.array [.array [.object [("kind", .string "plum")]]]])]

lemma distinctKeys_boxedRequest : boxedRequest.DistinctKeys := by
  refine Request.distinctKeys_empty.withMembers .body ?_
  simp [Json.DistinctKeys, Json.DistinctKeysItems, Json.DistinctKeysMembers]

/-- Where the box stands. -/
def atBox : Path := ⟨[.property "body", .property "rows", .index 0, .index 0]⟩

lemma findings_boxed : (validator.validate boxedRequest).findings = [
    ⟨.within atBox, .incorrectType "rows" "[0][0]" "Tree"⟩,
    ⟨.within ⟨[.property "body", .property "rows"]⟩, .illegalArrayLength "rows" 1 2⟩] := by
  with_unfolding_all rfl

/-- The box is no tree, and nothing is said of what is in it. -/
theorem filter_isBelow_incorrectType_boxed :
    boxedRequest.DistinctKeys ∧
    ∃ x ∈ (validator.validate boxedRequest).findings, x.code = "incorrect_type" ∧
      x.location = .within atBox ∧
      (validator.validate boxedRequest).findings.filter (Finding.isBelow atBox) = [x] := by
  have hx : ⟨.within atBox, .incorrectType "rows" "[0][0]" "Tree"⟩
      ∈ (validator.validate boxedRequest).findings := by
    rw [findings_boxed]
    exact List.mem_cons_self
  obtain ⟨p, hp, h⟩ := Validator.filter_isBelow_incorrectType distinctKeys_boxedRequest hx rfl
  cases hp
  exact ⟨distinctKeys_boxedRequest, _, hx, rfl, rfl, h⟩

end Orchard

end RequestContract
