import RequestContract.Proofs.Check.Walk

/-!
# What the content check reports

The content check is the walk `contentWalk`, which takes the members of an object as they are
declared. `Spot.Breaks` says which constraints of its field a value breaks. The constraints of a
string, a number and an enum concern the values at the bottom of the field's lists; the numbers of
elements concern the lists themselves, the list inside `d` others being held against the entry at
`d`. `sanitizeObject_reports_contentBreaches` says that the check reports each constraint that is
broken at a spot reached, once, and nothing else.
-/

namespace RequestContract

/-! ### What is to be reported -/

/-- A value breaks a constraint of its field. -/
inductive Spot.Breaks (a : Spot) : Violation → Prop
  | length {t : String} {n : UInt64} (ht : a.type = .primitive .string) (hv : a.value = .string t)
      (hn : a.field.length = some n) (h : t.length ≠ n.toNat) :
      Breaks a (.illegalLength a.name t.length n.toNat)
  | start {t start : String} (ht : a.type = .primitive .string) (hv : a.value = .string t)
      (hs : a.field.startsWith = some start) (h : ¬ start.toList <+: t.toList) :
      Breaks a (.doesNotStartWith t start)
  | url {t : String} (ht : a.type = .primitive .string) (hv : a.value = .string t)
      (hu : a.field.isUrl = true) (h : Url.isUrl t = false) : Breaks a (.notUrl t)
  | range {n : Json.Number} {r : Range} (ht : a.type = .primitive .number)
      (hv : a.value = .number n) (hr : a.field.range = some r)
      (h : ¬ (r.min.le n.toDouble = true ∧ n.toDouble.le r.max = true)) :
      Breaks a (.outOfRange (n.toDouble.text .message) r)
  | enum {t : String} (ht : a.type = .enum) (hv : a.value = .string t)
      (h : t ∉ a.field.allowedValues) : Breaks a (.illegalEnumValue t a.field.allowedValues)
  | size {t : FieldType} {items : List Json} {n : UInt64} (ht : a.type = .array t)
      (hv : a.value = .array items) (hn : a.field.arrayLengths[a.depth]? = some n)
      (h : items.length ≠ n.toNat) :
      Breaks a (.illegalArrayLength (a.name ++ a.suffix) items.length n.toNat)

/-- A constraint that is broken at a spot inside an object of the type `r`. -/
def Schema.ContentBreach (s : Schema) (r : RecordType) (ms : List (String × Json)) (b : Breach) :
    Prop :=
  ∃ a, s.Reached r ms b.way a ∧ a.Breaks b.violation

variable {s : Schema} {r : RecordType} {ms : List (String × Json)}

/-! ### The walk -/

/-- What the content check reports at a spot. -/
def Spot.contentViolations (a : Spot) : List Violation :=
  match a.type, a.value with
  | .primitive .string, .string t => a.field.stringViolations a.name t
  | .primitive .number, .number n => a.field.numberViolations n
  | .enum, .string t => a.field.enumViolations t
  | .array _, .array items => a.field.sizeViolations (a.name ++ a.suffix) a.depth items.length
  | _, _ => []

/-- The content check as a walk. -/
def contentWalk : Walk := ⟨fun a => a.contentViolations.map .here, .declared⟩

namespace Schema

/-- The content check of a spot. -/
def sanitizeSpot (s : Schema) (a : Spot) : Check := s.sanitizeAt a.name a.config a.depth a.value

/-- What the content check does before it goes further in. -/
def lookAtContent (s : Schema) (a : Spot) : Check :=
  match a.type, a.value with
  | .array _, .array items => fun ctx =>
    Check.reportAll (a.field.sizeViolations (a.name ++ ctx.indexSuffix) a.depth items.length) ctx
  | .named _, .object _ => id
  | _, _ => s.sanitizeSpot a

lemma sanitizeSpot_ofField (k : String) (f : Field) (v : Json) :
    s.sanitizeSpot (.ofField k f v) = s.sanitizeValue k f v := by
  rw [sanitizeSpot, Spot.config_ofField]
  rfl

lemma sanitizeItems_eq (name : String) (e : Field) (depth : Nat) (vs : List Json) :
    s.sanitizeItems name e depth 0 vs = Check.inOrder (vs.zipIdx.map fun x =>
      Check.inside (.index x.2) (s.sanitizeAt name e depth x.1)) :=
  Check.eq_inOrder_items (fun i => by rw [sanitizeItems]) (fun i v vs => by rw [sanitizeItems]) 0 vs

lemma sanitizeMembers_eq : s.sanitizeMembers r ms = Check.members s.sanitizeSpot r ms := by
  refine Check.eq_members ?_ (fun k v ms f hf => ?_) (fun k v ms hf => ?_)
  · rw [sanitizeMembers]
  · simp [sanitizeMembers, sanitizeSpot, hf]
  · simp [sanitizeMembers, hf]

lemma sanitizeSpot_eq (a : Spot) : s.sanitizeSpot a = fun ctx =>
    Check.inOrder ((a.next s .declared).map fun n => Check.inside n.1 (s.sanitizeSpot n.2))
      (s.lookAtContent a ctx) := by
  rcases a.list_or_object_or_leaf with ⟨t, items, ht, hv⟩ | ⟨n, ms, ht, hv⟩ | ⟨ha, ho⟩
  · have hc : a.config.type = .array t := ht
    obtain ⟨e, he, hconfig⟩ := Spot.exists_element? ht
    have hcheck (x : Json × Nat) : s.sanitizeSpot (a.element t x.2 x.1)
        = s.sanitizeAt a.name e (a.depth + 1) x.1 := by
      rw [sanitizeSpot, hconfig, Spot.name_element, Spot.value_element, Spot.depth_element]
    rw [lookAtContent, ht, hv, Spot.next_of_list ht hv, List.map_map, sanitizeSpot, hv, sanitizeAt,
      hc]
    simp only [he, sanitizeItems_eq]
    simp only [Function.comp_def, hcheck]
    rfl
  · have hc : a.config.type = .named n := ht
    rw [sanitizeSpot, hv, sanitizeAt, hc, lookAtContent, ht, hv]
    cases hr : s.type? n with
    | none =>
      simp only [Spot.next, ht, hv, hr]
      rfl
    | some r =>
      simp only [Spot.next_of_object ht hv hr, sanitizeMembers_eq, Check.forKeys_members, hr]
      rfl
  · have hl : s.lookAtContent a = s.sanitizeSpot a := by
      rw [lookAtContent]
      split
      · next ht hv => exact absurd hv (ha _ _ ht)
      · next ht hv => exact absurd hv (ho _ _ ht)
      · rfl
    rw [hl, Spot.next_eq_nil ha ho]
    rfl

lemma lookAtContent_eq_of_not_list {a : Spot} {ctx : Context}
    (h : ¬ ∃ t items, a.type = .array t ∧ a.value = .array items) :
    s.lookAtContent a ctx = Check.reportAll a.contentViolations ctx := by
  obtain ⟨name, f, t, is, v⟩ := a
  cases v <;> rcases t with _ | (_ | _ | _) | _ | _ | _
  case array.array => exact absurd ⟨_, _, rfl, rfl⟩ h
  all_goals rfl

lemma lookAtContent_eq {a : Spot} {ctx : Context} (h : a.At ctx.path) :
    s.lookAtContent a ctx = Check.reportAll a.contentViolations ctx := by
  by_cases hl : ∃ t items, a.type = .array t ∧ a.value = .array items
  · obtain ⟨t, items, ht, hv⟩ := hl
    simp only [lookAtContent, Spot.contentViolations, ht, hv]
    rw [Context.indexSuffix, h.suffix_eq]
  · exact lookAtContent_eq_of_not_list hl

end Schema

theorem contentWalk_isRunBy : contentWalk.IsRunBy s s.sanitizeSpot s.lookAtContent := by
  refine ⟨fun a p h fs => ?_, Schema.sanitizeSpot_eq⟩
  rw [Schema.lookAtContent_eq h]
  exact Check.Reports.all p _ fs

theorem reports_sanitizeObject (p : Path) : (s.sanitizeObject r ms).Reports p
    (contentWalk.reportsAfter s (MemberOrder.declared.spots r ms)) := by
  rw [Schema.sanitizeObject, Schema.sanitizeMembers_eq, Check.forKeys_members]
  exact contentWalk_isRunBy.reports_spots .declared p

/-! ### At any path -/

namespace Schema

/-- At a path that does not end in the positions of the spot only texts that name them differ. -/
lemma exists_reports_lookAtContent (a : Spot) (p : Path) :
    ∃ vs : List Violation, (s.lookAtContent a).Reports p (vs.map .here) ∧
      vs.map Violation.code = a.contentViolations.map Violation.code := by
  by_cases hl : ∃ t items, a.type = .array t ∧ a.value = .array items
  · obtain ⟨t, items, ht, hv⟩ := hl
    refine ⟨a.field.sizeViolations (a.name ++ p.indexSuffix.render) a.depth items.length,
      fun fs => ?_, ?_⟩
    · simp only [lookAtContent, ht, hv]
      exact Check.Reports.all p _ fs
    · simp only [Spot.contentViolations, ht, hv, Field.sizeViolations]
      split
      · split <;> rfl
      · rfl
  · refine ⟨a.contentViolations, fun fs => ?_, rfl⟩
    rw [lookAtContent_eq_of_not_list hl]
    exact Check.Reports.all p _ fs

/-- At whatever path a value is checked, the ways and the codes of what is reported are those of the
walk. -/
theorem exists_reports_sanitizeSpot (s : Schema) (a : Spot) (p : Path) :
    ∃ bs, (s.sanitizeSpot a).Reports p bs ∧
      bs.map Breach.key = (contentWalk.reports s a).map Breach.key := by
  have hnext : ∀ n ∈ a.next s .declared, ∃ bs, (s.sanitizeSpot n.2).Reports (p.push n.1) bs ∧
      bs.map Breach.key = (contentWalk.reports s n.2).map Breach.key := fun n hn =>
    have := (Spot.step_of_mem_next hn).value_lt
    exists_reports_sanitizeSpot s n.2 (p.push n.1)
  choose! bs hbs hkeys using hnext
  obtain ⟨vs, hvs, hcodes⟩ := s.exists_reports_lookAtContent a p
  have hlook : (vs.map Breach.here).map Breach.key = (contentWalk.look a).map Breach.key := by
    rw [contentWalk, Breach.map_key_here, Breach.map_key_here, hcodes]
  have hafter : ((a.next s .declared).flatMap fun n => (bs n).map (Breach.under n.1)).map Breach.key
      = (contentWalk.reportsAfter s (a.next s .declared)).map Breach.key := by
    rw [Walk.reportsAfter, List.map_flatMap, List.map_flatMap]
    refine List.flatMap_congr fun n hn => ?_
    rw [Breach.map_key_under, Breach.map_key_under, hkeys n hn]
  rw [sanitizeSpot_eq, Walk.reports_eq, List.map_append]
  refine ⟨_, hvs.andThen (.inOrder fun n hn => (hbs n hn).inside), ?_⟩
  rw [List.map_append]
  exact congrArg₂ _ hlook hafter
termination_by sizeOf a.value

end Schema

/-! ### The constraints of one spot -/

namespace Field

variable {f : Field} {v : Violation}

lemma mem_stringViolations {name t : String} : v ∈ f.stringViolations name t ↔
    (∃ n, f.length = some n ∧ t.length ≠ n.toNat ∧ v = .illegalLength name t.length n.toNat) ∨
    (∃ start, f.startsWith = some start ∧ ¬ start.toList <+: t.toList ∧
      v = .doesNotStartWith t start) ∨
    (f.isUrl = true ∧ Url.isUrl t = false ∧ v = .notUrl t) := by
  rw [stringViolations, List.mem_append, List.mem_append, or_assoc]
  refine or_congr ?_ (or_congr ?_ ?_)
  · cases f.length with
    | none => simp
    | some n => by_cases h : t.length = n.toNat <;> simp [h]
  · cases f.startsWith with
    | none => simp
    | some start => by_cases h : start.toList <+: t.toList <;> simp [h]
  · cases f.isUrl <;> cases Url.isUrl t <;> simp

lemma mem_numberViolations {n : Json.Number} : v ∈ f.numberViolations n ↔
    ∃ r, f.range = some r ∧ ¬ (r.min.le n.toDouble = true ∧ n.toDouble.le r.max = true) ∧
      v = .outOfRange (n.toDouble.text .message) r := by
  rw [numberViolations]
  cases f.range with
  | none => simp
  | some r =>
    simp only [Range.contains, Bool.and_eq_true, Option.some.injEq, exists_eq_left']
    by_cases h : r.min.le n.toDouble = true ∧ n.toDouble.le r.max = true <;> simp [h]

lemma mem_enumViolations {t : String} : v ∈ f.enumViolations t ↔
    t ∉ f.allowedValues ∧ v = .illegalEnumValue t f.allowedValues := by
  rw [enumViolations]
  by_cases h : t ∈ f.allowedValues <;> simp [h]

lemma mem_sizeViolations {place : String} {depth size : Nat} :
    v ∈ f.sizeViolations place depth size ↔ ∃ n, f.arrayLengths[depth]? = some n ∧
      size ≠ n.toNat ∧ v = .illegalArrayLength place size n.toNat := by
  rw [sizeViolations]
  cases f.arrayLengths[depth]? with
  | none => simp
  | some n => by_cases h : size = n.toNat <;> simp [h]

/-- The three constraints of a string have different codes. -/
lemma nodup_stringViolations (name t : String) :
    ((f.stringViolations name t).map Violation.code).Nodup := by
  have hs : ((f.stringViolations name t).map Violation.code).Sublist
      (["illegal_length"] ++ ["does_not_start_with"] ++ ["not_url"]) := by
    rw [stringViolations, List.map_append, List.map_append]
    refine .append (.append ?_ ?_) ?_
    · split
      · split <;> simp [Violation.code]
      · simp
    · split
      · split <;> simp [Violation.code]
      · simp
    · split <;> simp [Violation.code]
  exact hs.nodup (by decide)

end Field

namespace Spot

variable {a : Spot} {v : Violation}

lemma mem_contentViolations : v ∈ a.contentViolations ↔ a.Breaks v := by
  constructor
  · intro h
    rw [contentViolations] at h
    split at h
    · next t ht hv =>
      rcases Field.mem_stringViolations.mp h with
        ⟨n, hn, hl, rfl⟩ | ⟨start, hs, hp, rfl⟩ | ⟨hu, hf, rfl⟩
      · exact .length ht hv hn hl
      · exact .start ht hv hs hp
      · exact .url ht hv hu hf
    · next n ht hv =>
      obtain ⟨r, hr, hc, rfl⟩ := Field.mem_numberViolations.mp h
      exact .range ht hv hr hc
    · next t ht hv =>
      obtain ⟨hm, rfl⟩ := Field.mem_enumViolations.mp h
      exact .enum ht hv hm
    · next t items ht hv =>
      obtain ⟨n, hn, hl, rfl⟩ := Field.mem_sizeViolations.mp h
      exact .size ht hv hn hl
    · cases h
  · intro h
    cases h with
    | length ht hv hn h =>
      simp only [contentViolations, ht, hv]
      exact Field.mem_stringViolations.mpr (.inl ⟨_, hn, h, rfl⟩)
    | start ht hv hs h =>
      simp only [contentViolations, ht, hv]
      exact Field.mem_stringViolations.mpr (.inr (.inl ⟨_, hs, h, rfl⟩))
    | url ht hv hu h =>
      simp only [contentViolations, ht, hv]
      exact Field.mem_stringViolations.mpr (.inr (.inr ⟨hu, h, rfl⟩))
    | range ht hv hr h =>
      simp only [contentViolations, ht, hv]
      exact Field.mem_numberViolations.mpr ⟨_, hr, h, rfl⟩
    | enum ht hv h =>
      simp only [contentViolations, ht, hv]
      exact Field.mem_enumViolations.mpr ⟨h, rfl⟩
    | size ht hv hn h =>
      simp only [contentViolations, ht, hv]
      exact Field.mem_sizeViolations.mpr ⟨_, hn, h, rfl⟩

lemma nodup_contentViolations (a : Spot) : (a.contentViolations.map Violation.code).Nodup := by
  rw [contentViolations]
  split
  · exact Field.nodup_stringViolations _ _
  · rw [Field.numberViolations]
    split
    · split <;> simp
    · simp
  · rw [Field.enumViolations]
    split <;> simp
  · rw [Field.sizeViolations]
    split
    · split <;> simp
    · simp
  · exact List.nodup_nil

end Spot

lemma contentWalk_isNeat : contentWalk.IsNeat s := by
  constructor
  · intro a _
    have here_injective : Function.Injective fun c : String => (([] : List Path.Component), c) :=
      fun _ _ h => (Prod.mk.inj h).2
    rw [contentWalk, Breach.map_key_here]
    exact a.nodup_contentViolations.map here_injective
  · intro a b hb n _ hway
    obtain ⟨v, _, rfl⟩ := List.mem_map.mp hb
    cases hway

/-! ### The main result -/

/-- The content check of a category reports each constraint that is broken inside it, once, and
nothing else. -/
theorem sanitizeObject_reports_contentBreaches (hd : (Json.object ms).DistinctKeys)
    (ctx : Context) : (s.sanitizeObject r ms).ReportsExactly ctx (s.ContentBreach r ms) := by
  refine (reports_sanitizeObject ctx.path).exactly ?_ fun b => ?_
  · apply Walk.nodup_reportsAfter (MemberOrder.nodup_steps hd.keys)
    intro n hn
    obtain ⟨k, f, v, hk, _, _, ha⟩ := MemberOrder.of_mem_spots hn
    rw [ha]
    exact Walk.nodup_reports contentWalk_isNeat (hd.member hk)
  · rw [Walk.mem_reportsAfter_spots_iff hd]
    constructor
    · rintro ⟨q, a, x, ha, hx, rfl⟩
      obtain ⟨v, hv, rfl⟩ := List.mem_map.mp hx
      rw [Breach.along_here]
      exact ⟨a, ha, Spot.mem_contentViolations.mp hv⟩
    · rintro ⟨a, ha, hv⟩
      exact ⟨b.way, a, .here b.violation, ha,
        List.mem_map_of_mem (Spot.mem_contentViolations.mpr hv), (Breach.along_here _ _).symm⟩

/-- The constraints broken in an orchard are reported, whatever has been found before. -/
theorem sanitizeObject_reports_contentBreaches_orchard :
    (Json.object Orchard.members).DistinctKeys ∧
    (Orchard.schema.sanitizeObject Orchard.body Orchard.members).ReportsExactly
      ⟨Path.root.push (.property "body"), [⟨.request, .rootMissing .query⟩]⟩
      (Orchard.schema.ContentBreach Orchard.body Orchard.members) :=
  ⟨Orchard.distinctKeys_members,
    sanitizeObject_reports_contentBreaches Orchard.distinctKeys_members _⟩

end RequestContract
