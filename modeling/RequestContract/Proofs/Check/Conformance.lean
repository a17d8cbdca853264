import RequestContract.Options
import RequestContract.Proofs.Check.Content
import RequestContract.Proofs.Check.Structure
import RequestContract.Proofs.Schema.Resolution

/-!
# Values that conform

`Schema.Conforms` says, by the structure of the value, when a value is as its field asks: it has the
shape of the type at every level, and a string of an enum is one of its values. Strict options ask
of each object inside that its keys be those of its type, and options that look at contents ask for
the constraints of the field.

`Spot.conforms_iff_reports_eq_nil` says that in a closed schema the conforming values are those of
which the two walks report nothing.
-/

namespace RequestContract

/-! ### What conforms -/

namespace Field

/-- A string is as the field asks. -/
structure AdmitsString (f : Field) (t : String) : Prop where
  length : ∀ n, f.length = some n → t.length = n.toNat
  start : ∀ start, f.startsWith = some start → start.toList <+: t.toList
  url : f.isUrl = true → Url.isUrl t = true

/-- A number is in the range of the field. -/
def AdmitsNumber (f : Field) (n : Json.Number) : Prop :=
  ∀ r, f.range = some r → r.min.le n.toDouble = true ∧ n.toDouble.le r.max = true

/-- A list with `depth` lists of the field around it may have `size` elements. -/
def AdmitsSize (f : Field) (depth size : Nat) : Prop :=
  ∀ n, f.arrayLengths[depth]? = some n → size = n.toNat

end Field

/-- An object has all required keys of a type and no others than its keys. -/
structure RecordType.Covers (r : RecordType) (ms : List (String × Json)) : Prop where
  required : ∀ k f, r.get? k = some f → f.required = true → k ∈ ms.map Prod.fst
  declared : ∀ k ∈ ms.map Prod.fst, k ∈ r.keys

/-- A value conforms to what is left of a field's type when `d` lists of the field are around it. -/
inductive Schema.Conforms (s : Schema) (o : Options) : Field → Nat → FieldType → Json → Prop
  | any (f : Field) (d : Nat) (v : Json) : Conforms s o f d .any v
  | string {f : Field} {d : Nat} {t : String} (h : o.sanitize = true → f.AdmitsString t) :
      Conforms s o f d (.primitive .string) (.string t)
  | number {f : Field} {d : Nat} {n : Json.Number} (h : o.sanitize = true → f.AdmitsNumber n) :
      Conforms s o f d (.primitive .number) (.number n)
  | boolean (f : Field) (d : Nat) (b : Bool) : Conforms s o f d (.primitive .boolean) (.bool b)
  | enum {f : Field} {d : Nat} {t : String} (h : t ∈ f.allowedValues) :
      Conforms s o f d .enum (.string t)
  | array {f : Field} {d : Nat} {t : FieldType} {items : List Json}
      (hl : o.sanitize = true → f.AdmitsSize d items.length)
      (h : ∀ v ∈ items, Conforms s o f (d + 1) t v) : Conforms s o f d (.array t) (.array items)
  | named {f : Field} {d : Nat} {n : String} {r : RecordType} {ms : List (String × Json)}
      (hr : s.type? n = some r) (hc : o.strictNestedTypes = true → r.Covers ms)
      (h : ∀ k g v, (k, v) ∈ ms → r.get? k = some g → Conforms s o g 0 g.type v) :
      Conforms s o f d (.named n) (.object ms)

/-- An object conforms to the type of a category, which always covers its keys. -/
structure Schema.ConformsTo (s : Schema) (o : Options) (r : RecordType)
    (ms : List (String × Json)) : Prop where
  covers : r.Covers ms
  members : ∀ k f v, (k, v) ∈ ms → r.get? k = some f → s.Conforms o f 0 f.type v

variable {s : Schema} {o : Options} {r : RecordType} {ms : List (String × Json)} {a : Spot}

/-! ### What is not reported at a spot -/

lemma RecordType.covers_iff : r.Covers ms ↔ r.uncovered ms = [] := by
  rw [List.eq_nil_iff_forall_not_mem]
  simp only [mem_uncovered]
  constructor
  · rintro h b ⟨k, v, hu, -⟩
    cases hu with
    | missing hf hq hk => exact hk (h.required _ _ hf hq)
    | unexpected hk hr => exact hr (h.declared _ hk)
  · intro h
    constructor
    · intro k f hf hq
      by_contra hk
      exact h _ ⟨k, _, .missing hf hq hk, rfl⟩
    · intro k hk
      by_contra hr
      exact h _ ⟨k, _, .unexpected hk hr, rfl⟩

lemma Options.breaches_eq_nil_iff : o.nestedCoverage.breaches r ms = [] ↔
    (o.strictNestedTypes = true → r.Covers ms) := by
  rw [RecordType.covers_iff, nestedCoverage]
  cases o.strictNestedTypes <;> simp [Coverage.breaches]

namespace Field

variable {f : Field}

lemma stringViolations_eq_nil_iff {name t : String} :
    f.stringViolations name t = [] ↔ f.AdmitsString t := by
  rw [List.eq_nil_iff_forall_not_mem]
  constructor
  · intro h
    constructor
    · intro n hn
      by_contra hl
      exact h _ (mem_stringViolations.mpr (.inl ⟨n, hn, hl, rfl⟩))
    · intro start hs
      by_contra hp
      exact h _ (mem_stringViolations.mpr (.inr (.inl ⟨start, hs, hp, rfl⟩)))
    · intro hu
      by_contra hn
      rw [Bool.not_eq_true] at hn
      exact h _ (mem_stringViolations.mpr (.inr (.inr ⟨hu, hn, rfl⟩)))
  · intro h w hw
    rcases mem_stringViolations.mp hw with ⟨n, hn, hl, -⟩ | ⟨start, hs, hp, -⟩ | ⟨hu, hn, -⟩
    · exact hl (h.length n hn)
    · exact hp (h.start start hs)
    · rw [h.url hu] at hn
      cases hn

lemma numberViolations_eq_nil_iff {n : Json.Number} :
    f.numberViolations n = [] ↔ f.AdmitsNumber n := by
  rw [numberViolations, AdmitsNumber]
  cases f.range <;> simp [Range.contains]

lemma sizeViolations_eq_nil_iff {place : String} {depth size : Nat} :
    f.sizeViolations place depth size = [] ↔ f.AdmitsSize depth size := by
  rw [sizeViolations, AdmitsSize]
  cases f.arrayLengths[depth]? <;> simp

end Field

/-! ### Conforming values and walks -/

lemma Schema.Step.resolvesIn {b : Spot} {c : Path.Component} (hs : s.Closed) (h : s.Step a c b)
    (ha : a.type.ResolvesIn s) : b.type.ResolvesIn s := by
  cases h with
  | element ht hv hi =>
    rw [ht] at ha
    exact ha
  | member ht hr hv hk hf => exact hs _ _ _ _ hr hf

/-- What is left of a field's type at a spot is what its value conforms to. -/
def Spot.Conforms (s : Schema) (o : Options) (a : Spot) : Prop :=
  s.Conforms o a.field a.depth a.type a.value

namespace Spot

/-- A value that has its shape conforms if nothing is reported at it and all values one step further
in conform. -/
lemma Conforms.of_steps (ha : a.type.ResolvesIn s)
    (hshape : a.shapeBreaches s o.nestedCoverage = [])
    (hcontent : o.sanitize = true → a.contentViolations = [])
    (hsteps : ∀ c b, s.Step a c b → b.Conforms s o) : a.Conforms s o := by
  have hfits : a.type.Fits a.value := by
    by_contra h
    rw [shapeBreaches, if_neg (h ∘ FieldType.fits_iff.mp)] at hshape
    cases hshape
  rw [shapeBreaches, if_pos (FieldType.fits_iff.mpr hfits)] at hshape
  obtain ⟨name, f, t, is, v⟩ := a
  cases hfits with
  | any v => exact .any _ _ v
  | string t =>
    apply Schema.Conforms.string
    intro ho
    exact Field.stringViolations_eq_nil_iff.mp (hcontent ho)
  | number n =>
    apply Schema.Conforms.number
    intro ho
    exact Field.numberViolations_eq_nil_iff.mp (hcontent ho)
  | boolean b => exact .boolean _ _ b
  | enum t =>
    apply Schema.Conforms.enum
    by_contra ht
    simp [ht] at hshape
  | array t items =>
    apply Schema.Conforms.array
    · intro ho
      exact Field.sizeViolations_eq_nil_iff.mp (hcontent ho)
    · intro w hw
      obtain ⟨i, hi⟩ := List.mem_iff_getElem?.mp hw
      have := hsteps _ _ (.element rfl rfl hi)
      rwa [Conforms, depth_element] at this
  | named n ms =>
    obtain ⟨r, hr⟩ := ha n rfl
    simp only [hr] at hshape
    apply Schema.Conforms.named hr (Options.breaches_eq_nil_iff.mp hshape)
    intro k g w hk hg
    exact hsteps _ _ (.member rfl hr rfl hk hg)

lemma Conforms.shapeBreaches_eq_nil (h : a.Conforms s o) :
    a.shapeBreaches s o.nestedCoverage = [] := by
  obtain ⟨name, f, t, is, v⟩ := a
  cases h with
  | any f d v => cases v <;> rfl
  | string _ => rfl
  | number _ => rfl
  | boolean f d b => rfl
  | enum ht => simp [shapeBreaches, FieldType.fits, ht]
  | array _ _ => rfl
  | @named _ _ n r ms hr hc _ =>
    have hb := Options.breaches_eq_nil_iff.mpr hc
    simp [shapeBreaches, FieldType.fits, hr, hb]

lemma Conforms.contentViolations_eq_nil (h : a.Conforms s o) (ho : o.sanitize = true) :
    a.contentViolations = [] := by
  obtain ⟨name, f, t, is, v⟩ := a
  cases h with
  | any f d v => cases v <;> rfl
  | string h => exact Field.stringViolations_eq_nil_iff.mpr (h ho)
  | number h => exact Field.numberViolations_eq_nil_iff.mpr (h ho)
  | boolean f d b => rfl
  | enum ht => exact if_pos (List.contains_iff_mem.mpr ht)
  | array hl _ => exact Field.sizeViolations_eq_nil_iff.mpr (hl ho)
  | named _ _ _ => rfl

lemma Conforms.step {b : Spot} {c : Path.Component} (h : a.Conforms s o) (hs : s.Step a c b) :
    b.Conforms s o := by
  rw [Conforms] at h
  cases hs with
  | element ht hv hi =>
    rw [ht, hv] at h
    cases h with
    | array _ hitems =>
      rw [Conforms, depth_element]
      exact hitems _ (List.mem_of_getElem? hi)
  | member ht hr hv hk hf =>
    rw [ht, hv] at h
    cases h with
    | named hr' _ hmembers =>
      rw [hr, Option.some.injEq] at hr'
      exact hmembers _ _ _ hk (hr' ▸ hf)

/-- Conforming values are those of which the walks report nothing. -/
theorem conforms_iff_reports_eq_nil {a : Spot} (hs : s.Closed) (hd : a.value.DistinctKeys)
    (ha : a.type.ResolvesIn s) : a.Conforms s o ↔
      (shapeWalk s o.nestedCoverage).reports s a = [] ∧
      (o.sanitize = true → contentWalk.reports s a = []) := by
  have ih : ∀ c b, s.Step a c b → (b.Conforms s o ↔
      (shapeWalk s o.nestedCoverage).reports s b = [] ∧
      (o.sanitize = true → contentWalk.reports s b = [])) := by
    intro c b hab
    have := hab.value_lt
    exact conforms_iff_reports_eq_nil hs (hab.distinctKeys hd) (hab.resolvesIn hs ha)
  -- both sides hold at a spot if something holds there and they hold one step further in
  have hlook : contentWalk.look a = [] ↔ a.contentViolations = [] := List.map_eq_nil_iff
  rw [Walk.reports_eq_nil_iff hd, Walk.reports_eq_nil_iff hd, hlook]
  constructor
  · intro h
    have hsteps := fun c b (hab : s.Step a c b) => (ih c b hab).mp (h.step hab)
    refine ⟨⟨h.shapeBreaches_eq_nil, fun c b hab => (hsteps c b hab).1⟩, ?_⟩
    intro ho
    exact ⟨h.contentViolations_eq_nil ho, fun c b hab => (hsteps c b hab).2 ho⟩
  · rintro ⟨⟨hshape, hsteps⟩, hcontent⟩
    apply Conforms.of_steps ha hshape
    · intro ho
      exact (hcontent ho).1
    · intro c b hab
      exact (ih c b hab).mpr ⟨hsteps c b hab, fun ho => (hcontent ho).2 c b hab⟩
termination_by sizeOf a.value

end Spot

end RequestContract
