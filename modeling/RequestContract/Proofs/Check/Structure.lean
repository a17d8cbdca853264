import RequestContract.Proofs.Check.Walk

/-!
# What the structural check reports

The structural check is the walk `shapeWalk`. `Schema.ShapeBreach` says what is wrong with the
structure of an object without going through it in any order: the fields that are missing and the
keys that are not declared, here and, if nested objects are covered too, in each object reached, and
the values reached that have the wrong shape or are strings outside their enum.
`checkObject_reports_shapeBreaches` says that the check reports just that, each breach once.
-/

namespace RequestContract

/-! ### What is to be reported -/

/-- A value has the outer shape that a type asks for. -/
inductive FieldType.Fits : FieldType → Json → Prop
  | any (v : Json) : Fits .any v
  | string (t : String) : Fits (.primitive .string) (.string t)
  | number (n : Json.Number) : Fits (.primitive .number) (.number n)
  | boolean (b : Bool) : Fits (.primitive .boolean) (.bool b)
  | enum (t : String) : Fits .enum (.string t)
  | array (t : FieldType) (items : List Json) : Fits (.array t) (.array items)
  | named (n : String) (ms : List (String × Json)) : Fits (.named n) (.object ms)

/-- Whether a value has the outer shape that a type asks for. -/
def FieldType.fits : FieldType → Json → Bool
  | .any, _ => true
  | .primitive p, v => p.accepts v
  | .enum, .string _ => true
  | .array _, .array _ => true
  | .named _, .object _ => true
  | _, _ => false

lemma FieldType.fits_iff {t : FieldType} {v : Json} : t.fits v = true ↔ t.Fits v := by
  constructor
  · intro h
    rw [fits.eq_def] at h
    split at h
    · exact .any _
    · next p v =>
      rw [Primitive.accepts.eq_def] at h
      split at h
      · exact .string _
      · exact .number _
      · exact .boolean _
      · cases h
    · exact .enum _
    · exact .array _ _
    · exact .named _ _
    · cases h
  · rintro (_ | _ | _ | _ | _ | _ | _) <;> rfl

/-- A key at which the keys of an object and those of its type disagree. -/
inductive RecordType.Uncovered (r : RecordType) (ms : List (String × Json)) :
    String → Violation → Prop
  | missing {k : String} {f : Field} (hf : r.get? k = some f) (hq : f.required = true)
      (hk : k ∉ ms.map Prod.fst) : Uncovered r ms k (.missingField k)
  | unexpected {k : String} (hk : k ∈ ms.map Prod.fst) (hr : k ∉ r.keys) :
      Uncovered r ms k (.unexpectedField k)

/-- A value of the wrong shape. -/
def Spot.incorrectType (a : Spot) : Violation :=
  .incorrectType a.name a.suffix a.type.render

/-- What is wrong with the structure of an object of the type `r`. -/
inductive Schema.ShapeBreach (s : Schema) (nested : Coverage) (r : RecordType)
    (ms : List (String × Json)) : Breach → Prop
  | coverage {k : String} {v : Violation} (h : r.Uncovered ms k v) :
      ShapeBreach s nested r ms ⟨[.property k], v⟩
  | nestedCoverage {q : List Path.Component} {a : Spot} {n : String} {r' : RecordType}
      {ms' : List (String × Json)} {k : String} {v : Violation} (hn : nested = .strict)
      (ha : s.Reached r ms q a) (ht : a.type = .named n) (hr : s.type? n = some r')
      (hv : a.value = .object ms') (h : r'.Uncovered ms' k v) :
      ShapeBreach s nested r ms ⟨q ++ [.property k], v⟩
  | shape {q : List Path.Component} {a : Spot} (ha : s.Reached r ms q a)
      (h : ¬ a.type.Fits a.value) : ShapeBreach s nested r ms ⟨q, a.incorrectType⟩
  | enum {q : List Path.Component} {a : Spot} {t : String} (ha : s.Reached r ms q a)
      (ht : a.type = .enum) (hv : a.value = .string t) (h : t ∉ a.field.allowedValues) :
      ShapeBreach s nested r ms ⟨q, .enumValueNotAllowed a.name a.field.allowedValues⟩

variable {s : Schema} {nested coverage : Coverage} {r : RecordType} {ms : List (String × Json)}

/-! ### Coverage -/

/-- The breaches of coverage, in the order in which they are reported. -/
def RecordType.uncovered (r : RecordType) (ms : List (String × Json)) : List Breach :=
  (r.requiredNames.filter fun n => (ms.lookup n).isNone).map (fun n =>
      ⟨[.property n], .missingField n⟩)
    ++ ((ms.map Prod.fst).filter fun k => !r.contains k).map fun k =>
      ⟨[.property k], .unexpectedField k⟩

/-- The breaches of coverage that are asked for. -/
def Coverage.breaches (coverage : Coverage) (r : RecordType) (ms : List (String × Json)) :
    List Breach :=
  match coverage with
  | strict => r.uncovered ms
  | lenient => []

lemma RecordType.mem_requiredNames {k : String} :
    k ∈ r.requiredNames ↔ ∃ f, r.get? k = some f ∧ f.required = true := by
  rw [requiredNames, List.mem_map]
  constructor
  · rintro ⟨⟨k, f⟩, he, rfl⟩
    obtain ⟨he, hq⟩ := List.mem_filter.mp he
    exact ⟨f, OrderedMap.get?_eq_some_iff.mpr he, hq⟩
  · rintro ⟨f, hf, hq⟩
    exact ⟨(k, f), List.mem_filter.mpr ⟨OrderedMap.get?_eq_some_iff.mp hf, hq⟩, rfl⟩

lemma RecordType.mem_uncovered {b : Breach} :
    b ∈ r.uncovered ms ↔ ∃ k v, r.Uncovered ms k v ∧ b = ⟨[.property k], v⟩ := by
  simp only [uncovered, List.mem_append, List.mem_map, List.mem_filter, lookup_isNone_iff,
    mem_requiredNames, Bool.not_eq_true', Bool.eq_false_iff, Ne, OrderedMap.contains_iff]
  constructor
  · rintro (⟨k, ⟨⟨f, hf, hq⟩, hk⟩, rfl⟩ | ⟨k, ⟨hk, hr⟩, rfl⟩)
    · exact ⟨k, _, .missing hf hq (by simpa using hk), rfl⟩
    · exact ⟨k, _, .unexpected (List.mem_map.mpr hk) hr, rfl⟩
  · rintro ⟨k, v, h, rfl⟩
    cases h with
    | missing hf hq hk => exact .inl ⟨k, ⟨⟨_, hf, hq⟩, by simpa using hk⟩, rfl⟩
    | unexpected hk hr => exact .inr ⟨k, ⟨List.mem_map.mp hk, hr⟩, rfl⟩

lemma RecordType.nodup_uncovered (h : (ms.map Prod.fst).Nodup) :
    ((r.uncovered ms).map Breach.key).Nodup := by
  have property_injective (code : String) :
      Function.Injective fun k : String => ([Path.Component.property k], code) := by
    intro k l hk
    simpa using hk
  have hr : r.requiredNames.Nodup := (List.filter_sublist.map Prod.fst).nodup r.nodup
  rw [uncovered, List.map_append, List.map_map, List.map_map, List.nodup_append]
  refine ⟨(hr.filter _).map (property_injective "missing_field"),
    (h.filter _).map (property_injective "unexpected_field"), ?_⟩
  rintro x hx y hy rfl
  obtain ⟨k, _, rfl⟩ := List.mem_map.mp hx
  obtain ⟨l, _, hl⟩ := List.mem_map.mp hy
  simp [Breach.key, Violation.code] at hl

lemma reports_coverageCheck (coverage : Coverage) (p : Path) :
    (Schema.coverageCheck coverage r ms).Reports p (coverage.breaches r ms) := by
  cases coverage with
  | lenient => exact .idle p
  | strict =>
    rw [Schema.coverageCheck, Coverage.breaches, RecordType.uncovered, List.map_eq_flatMap,
      List.map_eq_flatMap]
    exact .inOrder_append (.inOrder fun k _ => (Check.Reports.single _ (.missingField k)).inside)
      (.inOrder fun k _ => (Check.Reports.single _ (.unexpectedField k)).inside)

/-! ### The walk -/

/-- What the structural check reports at a spot. -/
def Spot.shapeBreaches (s : Schema) (nested : Coverage) (a : Spot) : List Breach :=
  if a.type.fits a.value then
    match a.type, a.value with
    | .enum, .string t =>
      if a.field.allowedValues.contains t then []
      else [.here (.enumValueNotAllowed a.name a.field.allowedValues)]
    | .named n, .object ms =>
      match s.type? n with
      | some r => nested.breaches r ms
      | none => []
    | _, _ => []
  else [.here a.incorrectType]

/-- The structural check as a walk: an object is taken as it is given. -/
def shapeWalk (s : Schema) (nested : Coverage) : Walk := ⟨Spot.shapeBreaches s nested, .given⟩

namespace Schema

/-- The structural check of a spot. -/
def checkSpot (s : Schema) (nested : Coverage) (a : Spot) : Check :=
  s.checkValue nested a.name a.config a.value

/-- What the structural check does before it goes further in. -/
def lookAtShape (s : Schema) (nested : Coverage) (a : Spot) : Check :=
  match a.type, a.value with
  | .array _, .array _ => id
  | .named n, .object ms =>
    match s.type? n with
    | some r => coverageCheck nested r ms
    | none => id
  | _, _ => s.checkSpot nested a

lemma checkItems_eq (name : String) (e : Field) (vs : List Json) :
    s.checkItems nested name e 0 vs = Check.inOrder (vs.zipIdx.map fun x =>
      Check.inside (.index x.2) (s.checkValue nested name e x.1)) :=
  Check.eq_inOrder_items (fun i => by rw [checkItems]) (fun i v vs => by rw [checkItems]) 0 vs

lemma checkMembers_eq : s.checkMembers nested r ms = Check.members (s.checkSpot nested) r ms := by
  refine Check.eq_members ?_ (fun k v ms f hf => ?_) (fun k v ms hf => ?_)
  · rw [checkMembers]
  · simp [checkMembers, checkSpot, hf]
  · simp [checkMembers, hf]

end Schema

lemma Schema.checkSpot_eq (a : Spot) : s.checkSpot nested a = fun ctx =>
    Check.inOrder ((a.next s .given).map fun n => Check.inside n.1 (s.checkSpot nested n.2))
      (s.lookAtShape nested a ctx) := by
  rcases a.list_or_object_or_leaf with ⟨t, items, ht, hv⟩ | ⟨n, ms, ht, hv⟩ | ⟨ha, ho⟩
  · have hl : s.lookAtShape nested a = id := by simp only [lookAtShape, ht, hv]
    have hc : a.config.type = .array t := ht
    obtain ⟨e, he, hconfig⟩ := Spot.exists_element? ht
    have hcheck (x : Json × Nat) : s.checkSpot nested (a.element t x.2 x.1)
        = s.checkValue nested a.name e x.1 := by
      rw [checkSpot, hconfig, Spot.name_element, Spot.value_element]
    rw [hl, Spot.next_of_list ht hv, List.map_map, checkSpot, hv, checkValue, hc]
    simp only [he, checkItems_eq]
    simp only [Function.comp_def, hcheck]
    rfl
  · have hc : a.config.type = .named n := ht
    rw [checkSpot, hv, checkValue, hc, lookAtShape, ht, hv]
    cases hr : s.type? n with
    | none =>
      simp only [Spot.next, ht, hv, hr]
      rfl
    | some r =>
      simp only [Spot.next_of_object ht hv hr, checkMembers_eq, Check.map_snd_members, hr]
  · have hl : s.lookAtShape nested a = s.checkSpot nested a := by
      rw [lookAtShape]
      split
      · next ht hv => exact absurd hv (ha _ _ ht)
      · next ht hv => exact absurd hv (ho _ _ ht)
      · rfl
    rw [hl, Spot.next_eq_nil ha ho]
    rfl

lemma Schema.lookAtShape_of_not_fits {a : Spot} (h : ¬ a.type.Fits a.value) :
    s.lookAtShape nested a = reportIncorrectType a.name a.type := by
  rw [← FieldType.fits_iff] at h
  obtain ⟨name, f, t, is, v⟩ := a
  cases v <;> rcases t with _ | (_ | _ | _) | _ | _ | _ <;>
    simp_all [lookAtShape, checkSpot, checkValue, checkValue.checkScalar, Spot.config,
      FieldType.fits, Primitive.accepts]

/-- What the check does at a spot is what the walk reports there. -/
lemma reports_lookAtShape {a : Spot} {p : Path} (h : a.At p) :
    (s.lookAtShape nested a).Reports p (a.shapeBreaches s nested) := by
  by_cases hf : a.type.Fits a.value
  · have hfit := FieldType.fits_iff.mpr hf
    rw [Spot.shapeBreaches, if_pos hfit]
    obtain ⟨name, f, t, is, v⟩ := a
    cases hf with
    | any v => cases v <;> exact .idle p
    | string t => exact .idle p
    | number n => exact .idle p
    | boolean b => exact .idle p
    | enum t =>
      show Check.Reports (if f.allowedValues.contains t then id
        else Check.report (.enumValueNotAllowed name f.allowedValues)) p
        (if f.allowedValues.contains t then []
          else [.here (.enumValueNotAllowed name f.allowedValues)])
      split
      · exact .idle p
      · exact .single p _
    | array t items => exact .idle p
    | named n ms =>
      simp only [Schema.lookAtShape]
      cases s.type? n with
      | none => exact .idle p
      | some r => exact reports_coverageCheck nested p
  · rw [Schema.lookAtShape_of_not_fits hf, Spot.shapeBreaches, if_neg (hf ∘ FieldType.fits_iff.mp)]
    intro fs
    rw [Schema.reportIncorrectType, Context.indexSuffix, h.suffix_eq]
    exact Check.Reports.single p a.incorrectType fs

theorem shapeWalk_isRunBy :
    (shapeWalk s nested).IsRunBy s (s.checkSpot nested) (s.lookAtShape nested) :=
  ⟨fun _ _ h => reports_lookAtShape h, Schema.checkSpot_eq⟩

theorem reports_checkObject (p : Path) : (s.checkObject nested coverage r ms).Reports p
    (coverage.breaches r ms
      ++ (shapeWalk s nested).reportsAfter s (MemberOrder.declared.spots r ms)) := by
  unfold Schema.checkObject
  rw [Schema.checkMembers_eq, Check.forKeys_members]
  exact (reports_coverageCheck coverage p).andThen (shapeWalk_isRunBy.reports_spots .declared p)

/-- Inside a request the members of an object are taken as they are given. -/
theorem reports_checkValue_object {n name : String} {f : Field} (ht : f.type = .named n)
    (hr : s.type? n = some r) (p : Path) : (s.checkValue nested name f (.object ms)).Reports p
    (nested.breaches r ms
      ++ (shapeWalk s nested).reportsAfter s (MemberOrder.given.spots r ms)) := by
  rw [Schema.checkValue, ht]
  simp only [hr, Schema.checkMembers_eq, Check.map_snd_members]
  exact (reports_coverageCheck nested p).andThen (shapeWalk_isRunBy.reports_spots .given p)

/-! ### Nothing is reported twice -/

/-- A key that is declared and there is not uncovered. -/
lemma RecordType.Uncovered.not_mem {k : String} {v : Violation} {f : Field} {w : Json}
    (h : r.Uncovered ms k v) (hf : r.get? k = some f) : (k, w) ∉ ms := by
  intro hm
  cases h with
  | missing _ _ hk => exact hk (List.mem_map_of_mem hm)
  | unexpected _ hr => exact hr (OrderedMap.mem_keys_iff.mpr ⟨f, hf⟩)

lemma RecordType.Uncovered.not_mem_spots {o : MemberOrder} {k : String} {v : Violation}
    (h : r.Uncovered ms k v) {n : Path.Component × Spot} (hn : n ∈ o.spots r ms) :
    n.1 ≠ .property k := by
  obtain ⟨k', f', v', hk', hf', hc, _⟩ := MemberOrder.of_mem_spots hn
  rintro h'
  rw [hc, Path.Component.property.injEq] at h'
  subst h'
  exact h.not_mem hf' hk'

lemma Coverage.nodup_breaches (h : (ms.map Prod.fst).Nodup) :
    ((coverage.breaches r ms).map Breach.key).Nodup := by
  cases coverage with
  | strict => exact RecordType.nodup_uncovered h
  | lenient => exact List.nodup_nil

lemma Coverage.mem_breaches {b : Breach} : b ∈ coverage.breaches r ms ↔
    coverage = .strict ∧ ∃ k v, r.Uncovered ms k v ∧ b = ⟨[.property k], v⟩ := by
  cases coverage with
  | strict => simp [breaches, RecordType.mem_uncovered]
  | lenient => simp [breaches]

/-- At a spot a wrong shape is reported, a string outside its enum, or breaches of coverage. -/
lemma Spot.mem_shapeBreaches {a : Spot} {b : Breach} : b ∈ a.shapeBreaches s nested ↔
    (¬ a.type.Fits a.value ∧ b = .here a.incorrectType) ∨
    (∃ t, a.type = .enum ∧ a.value = .string t ∧ t ∉ a.field.allowedValues ∧
      b = .here (.enumValueNotAllowed a.name a.field.allowedValues)) ∨
    (∃ n r ms, a.type = .named n ∧ a.value = .object ms ∧ s.type? n = some r ∧
      b ∈ nested.breaches r ms) := by
  by_cases hf : a.type.Fits a.value
  · rw [shapeBreaches, if_pos (FieldType.fits_iff.mpr hf)]
    simp only [hf, not_true_eq_false, false_and, false_or]
    split
    · next t ht hv => by_cases hc : t ∈ a.field.allowedValues <;> simp [ht, hv, hc]
    · next n ms ht hv => cases hr : s.type? n <;> simp [ht, hv, hr]
    · next he hn => simp_all
  · rw [shapeBreaches, if_neg (hf ∘ FieldType.fits_iff.mp), List.mem_singleton]
    constructor
    · exact fun hb => .inl ⟨hf, hb⟩
    · rintro (⟨_, hb⟩ | ⟨t, ht, hv, _⟩ | ⟨n, r, ms, ht, hv, _⟩)
      · exact hb
      · exact absurd (by rw [ht, hv]; exact .enum t) hf
      · exact absurd (by rw [ht, hv]; exact .named n ms) hf

lemma shapeWalk_isNeat : (shapeWalk s nested).IsNeat s := by
  constructor
  · intro a hd
    show ((a.shapeBreaches s nested).map Breach.key).Nodup
    rw [Spot.shapeBreaches]
    split
    · split
      · split <;> simp
      · next n ms _ hv =>
        rw [hv] at hd
        split
        · exact Coverage.nodup_breaches hd.keys
        · exact List.nodup_nil
      · exact List.nodup_nil
    · exact List.nodup_singleton _
  · intro a b hb n hn hway
    rcases Spot.mem_shapeBreaches.mp hb with
      ⟨_, rfl⟩ | ⟨_, _, _, _, rfl⟩ | ⟨m, r, ms, ht, hv, hr, hb⟩
    · cases hway
    · cases hway
    · obtain ⟨_, k, v, hu, rfl⟩ := Coverage.mem_breaches.mp hb
      rw [Spot.next_of_object ht hv hr] at hn
      exact hu.not_mem_spots hn (Option.some.inj hway).symm

/-! ### The main result -/

lemma mem_reports_iff_shapeBreach (hd : (Json.object ms).DistinctKeys) {b : Breach} :
    b ∈ r.uncovered ms
        ++ (shapeWalk s nested).reportsAfter s (MemberOrder.declared.spots r ms) ↔
      s.ShapeBreach nested r ms b := by
  rw [List.mem_append, RecordType.mem_uncovered, Walk.mem_reportsAfter_spots_iff hd]
  constructor
  · rintro (⟨k, v, h, rfl⟩ | ⟨q, a, x, ha, hx, rfl⟩)
    · exact .coverage h
    · rcases Spot.mem_shapeBreaches.mp hx with
        ⟨hf, rfl⟩ | ⟨t, ht, hv, hm, rfl⟩ | ⟨n, r', ms', ht, hv, hr, hx⟩
      · rw [Breach.along_here]
        exact .shape ha hf
      · rw [Breach.along_here]
        exact .enum ha ht hv hm
      · obtain ⟨hn, k, v, hu, rfl⟩ := Coverage.mem_breaches.mp hx
        exact .nestedCoverage hn ha ht hr hv hu
  · rintro (⟨h⟩ | ⟨hn, ha, ht, hr, hv, hu⟩ | ⟨ha, hf⟩ | ⟨ha, ht, hv, hm⟩)
    · exact .inl ⟨_, _, h, rfl⟩
    · exact .inr ⟨_, _, _, ha, Spot.mem_shapeBreaches.mpr (.inr (.inr ⟨_, _, _, ht, hv, hr,
        Coverage.mem_breaches.mpr ⟨hn, _, _, hu, rfl⟩⟩)), rfl⟩
    · exact .inr ⟨_, _, _, ha, Spot.mem_shapeBreaches.mpr (.inl ⟨hf, rfl⟩),
        (Breach.along_here _ _).symm⟩
    · exact .inr ⟨_, _, _, ha,
        Spot.mem_shapeBreaches.mpr (.inr (.inl ⟨_, ht, hv, hm, rfl⟩)),
        (Breach.along_here _ _).symm⟩

/-- The structural check of a category reports what is wrong with the structure of its members, each
breach once and nothing else. -/
theorem checkObject_reports_shapeBreaches (hd : (Json.object ms).DistinctKeys) (ctx : Context) :
    (s.checkObject nested .strict r ms).ReportsExactly ctx (s.ShapeBreach nested r ms) := by
  refine (reports_checkObject ctx.path).exactly ?_ fun b => mem_reports_iff_shapeBreach hd
  refine Walk.nodup_append_reportsAfter (RecordType.nodup_uncovered hd.keys)
    (MemberOrder.nodup_steps hd.keys) (fun n hn => ?_) fun b hb n hn hway => ?_
  · obtain ⟨k, f, v, hk, _, _, ha⟩ := MemberOrder.of_mem_spots hn
    rw [ha]
    exact Walk.nodup_reports shapeWalk_isNeat (hd.member hk)
  · obtain ⟨k, v, hu, rfl⟩ := RecordType.mem_uncovered.mp hb
    exact hu.not_mem_spots hn (Option.some.inj hway).symm

/-- The breaches in an orchard are reported, whatever has been found before. -/
theorem checkObject_reports_shapeBreaches_orchard : (Json.object Orchard.members).DistinctKeys ∧
    (Orchard.schema.checkObject .strict .strict Orchard.body Orchard.members).ReportsExactly
      ⟨Path.root.push (.property "body"), [⟨.request, .rootMissing .query⟩]⟩
      (Orchard.schema.ShapeBreach .strict Orchard.body Orchard.members) :=
  ⟨Orchard.distinctKeys_members, checkObject_reports_shapeBreaches Orchard.distinctKeys_members _⟩

end RequestContract
