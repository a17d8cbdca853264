import Mathlib.Data.List.Induction
import RequestContract.Proofs.Validator

/-!
# Requests put together call by call

A request can be put together by calls that each say what a category holds, or be read from a JSON
object with the categories as keys. `validate_build` says that this makes no difference to a
validation, if the object has under the name of each category the value of the last call for it, in
any order and with any other keys between. A category whose last value is no object counts as one
that was never named.

A request is all in its parts, and for both sides a part comes from the last value of the category
(`part_build`, `lookup_eq_lastValue?`).
-/

namespace RequestContract

namespace Request

/-- A call that says what a category holds: any value, or the members of an object. -/
inductive Call where
  | value (c : Category) (v : Json)
  | members (c : Category) (ms : List (String × Json))

/-- The category that a call is about. -/
def Call.category : Call → Category
  | value c _ => c
  | members c _ => c

/-- The value that a call gives to the category. -/
def Call.given : Call → Json
  | value _ v => v
  | members _ ms => .object ms

/-- The request after a call: a value goes to the setter of its category. -/
def Call.apply (r : Request) : Call → Request
  | value .body v => r.withBody v
  | value .cookies v => r.withCookies v
  | value .headers v => r.withHeaders v
  | value .params v => r.withParams v
  | value .query v => r.withQuery v
  | members c ms => r.withMembers c ms

/-- The request that calls make, one after the other. -/
def build (calls : List Call) : Request := calls.foldl Call.apply empty

/-- The value that the last call for a category gives to it, if there is one. -/
def lastValue? (calls : List Call) (c : Category) : Option Json :=
  ((calls.filter fun k => k.category = c).getLast?).map Call.given

/-- The members of a JSON object that has the last values under the names of their categories. -/
def lastMembers (calls : List Call) : List (String × Json) :=
  Category.all.filterMap fun c => (lastValue? calls c).map (c.name, ·)

variable {calls : List Call} {ms others : List (String × Json)} {r r' : Request}

lemma eq_of_part_eq (h : ∀ c, r.part c = r'.part c) : r = r' := by
  cases r
  cases r'
  exact congrArg mk (funext h)

/-! ### Calls -/

/-- What a call gives becomes the part of its category, whichever member it is. -/
lemma apply_eq_withPart (r : Request) (k : Call) :
    k.apply r = r.withPart k.category k.given.members? := by
  cases k with
  | value c v => cases c <;> rfl
  | members c ms => rfl

lemma part_apply (r : Request) (k : Call) (c : Category) :
    (k.apply r).part c = if k.category = c then k.given.members? else r.part c := by
  rw [apply_eq_withPart]
  by_cases h : k.category = c
  · subst h
    rw [if_pos rfl, part_withPart_self]
  · rw [if_neg h, part_withPart_of_ne (Ne.symm h)]

lemma lastValue?_concat (calls : List Call) (k : Call) (c : Category) :
    lastValue? (calls ++ [k]) c = if k.category = c then some k.given else lastValue? calls c := by
  by_cases h : k.category = c <;> simp [lastValue?, h]

/-- A part is what the last call for the category makes of it. -/
lemma part_build (calls : List Call) (c : Category) :
    (build calls).part c = (lastValue? calls c).bind Json.members? := by
  induction calls using List.reverseRecOn with
  | nil => rfl
  | append_singleton calls k ih =>
    rw [lastValue?_concat, build, List.foldl_append, List.foldl_cons, List.foldl_nil, part_apply]
    split
    · rfl
    · exact ih

lemma lastValue?_filter_ne_self (calls : List Call) (c : Category) :
    lastValue? (calls.filter fun k => k.category ≠ c) c = none := by
  simp [lastValue?, List.filter_filter]

lemma lastValue?_filter_ne {c d : Category} (h : d ≠ c) (calls : List Call) :
    lastValue? (calls.filter fun k => k.category ≠ c) d = lastValue? calls d := by
  have hfilter : (calls.filter fun k => k.category ≠ c).filter (fun k => k.category = d)
      = calls.filter fun k => k.category = d := by
    rw [List.filter_filter]
    apply List.filter_congr
    intro k _
    by_cases hk : k.category = d <;> simp [hk, h]
  rw [lastValue?, hfilter, lastValue?]

/-! ### The object -/

lemma part_ofJson_object (ms : List (String × Json)) (c : Category) :
    (ofJson (.object ms)).part c = (ms.lookup c.name).bind Json.members? := rfl

lemma mem_lastMembers_iff {c : Category} {w : Json} :
    (c.name, w) ∈ lastMembers calls ↔ lastValue? calls c = some w := by
  simp only [lastMembers, List.mem_filterMap, Option.map_eq_some_iff, Prod.mk.injEq]
  constructor
  · rintro ⟨d, -, w', hw, hd, rfl⟩
    rwa [Category.name_injective hd] at hw
  · intro hw
    exact ⟨c, c.mem_all, w, hw, rfl, rfl⟩

/-- The members that hold the last values, in any order and among members of other names. -/
lemma lookup_eq_lastValue? (hms : ms.Perm (lastMembers calls ++ others))
    (hothers : ∀ e ∈ others, ∀ c : Category, e.1 ≠ c.name) (c : Category) :
    ms.lookup c.name = lastValue? calls c := by
  have hmem (w : Json) : (c.name, w) ∈ ms ↔ lastValue? calls c = some w := by
    rw [hms.mem_iff, List.mem_append, mem_lastMembers_iff]
    refine or_iff_left fun h => ?_
    exact hothers _ h c rfl
  cases hw : ms.lookup c.name with
  | some w => exact ((hmem w).mp (mem_of_lookup_eq_some hw)).symm
  | none =>
    have hkey := lookup_isNone_iff.mp (Option.isNone_iff_eq_none.mpr hw)
    refine (Option.eq_none_iff_forall_ne_some.mpr fun w h => hkey ?_).symm
    exact List.mem_map_of_mem (f := Prod.fst) ((hmem w).mpr h)

lemma lookup_filter_ne_self (ms : List (String × Json)) (k : String) :
    (ms.filter fun e => e.1 ≠ k).lookup k = none := by
  rw [← Option.isNone_iff_eq_none, lookup_isNone_iff]
  simp

lemma lookup_filter_ne {k l : String} (h : l ≠ k) (ms : List (String × Json)) :
    (ms.filter fun e => e.1 ≠ k).lookup l = ms.lookup l := by
  induction ms with
  | nil => rfl
  | cons e ms ih =>
    obtain ⟨m, w⟩ := e
    by_cases hm : m = k
    · have hlm : (l == m) = false := by simpa [hm] using h
      rw [List.filter_cons_of_neg (by simpa using hm), ih, List.lookup_cons, hlm]
    · rw [List.filter_cons_of_pos (by simpa using hm), List.lookup_cons, List.lookup_cons, ih]

/-! ### Validation -/

/-- A category whose last value is no object is missing, whatever was said of it before. -/
lemma build_filter_ne {c : Category} {w : Json} (hw : lastValue? calls c = some w)
    (hobject : w.members? = none) : build (calls.filter fun k => k.category ≠ c) = build calls := by
  apply eq_of_part_eq
  intro d
  rw [part_build, part_build]
  by_cases h : d = c
  · rw [h, lastValue?_filter_ne_self, hw, Option.bind_none, Option.bind_some, hobject]
  · rw [lastValue?_filter_ne h]

/-- So is a category under whose name an object has a value that is no object. -/
lemma ofJson_filter_ne {c : Category} {w : Json} (hw : ms.lookup c.name = some w)
    (hobject : w.members? = none) :
    ofJson (.object (ms.filter fun e => e.1 ≠ c.name)) = ofJson (.object ms) := by
  apply eq_of_part_eq
  intro d
  rw [part_ofJson_object, part_ofJson_object]
  by_cases h : d = c
  · rw [h, lookup_filter_ne_self, hw, Option.bind_none, Option.bind_some, hobject]
  · rw [lookup_filter_ne fun hd => h (Category.name_injective hd)]

/-- It makes no difference whether a request is put together by calls or read from an object with
the last values; and a last value that is no object is as good as none. -/
theorem validate_build (v : Validator) (hms : ms.Perm (lastMembers calls ++ others))
    (hothers : ∀ e ∈ others, ∀ c : Category, e.1 ≠ c.name) :
    v.validate (build calls) = v.validate (ofJson (.object ms)) ∧
    ∀ c w, lastValue? calls c = some w → w.members? = none →
      v.validate (build calls) = v.validate (build (calls.filter fun k => k.category ≠ c)) ∧
      v.validate (ofJson (.object ms))
        = v.validate (ofJson (.object (ms.filter fun e => e.1 ≠ c.name))) := by
  have hlookup := lookup_eq_lastValue? hms hothers
  constructor
  · have heq : build calls = ofJson (.object ms) := by
      apply eq_of_part_eq
      intro c
      rw [part_build, part_ofJson_object, hlookup]
    rw [heq]
  · intro c w hw hobject
    rw [build_filter_ne hw hobject, ofJson_filter_ne ((hlookup c).trans hw) hobject]
    exact ⟨rfl, rfl⟩

end Request

/-! ### An orchard that is taken back -/

namespace Orchard

/-- The body is an orchard at first and no object in the end. -/
def calls : List Request.Call :=
  [.members .body members, .value .query .null, .value .body (.array []), .members .query []]

/-- A member that is of no category. -/
def host : String × Json := ("host", .string "orchard")

/-- The last values with another member between them. -/
def document : List (String × Json) := [("query", .object []), host, ("body", .array [])]

lemma lastMembers_calls :
    Request.lastMembers calls = [("body", .array []), ("query", .object [])] := rfl

lemma document_perm : document.Perm (Request.lastMembers calls ++ [host]) := by
  rw [lastMembers_calls]
  exact @List.perm_append_comm _ [("query", .object []), host] [("body", .array [])]

lemma host_ne_name : ∀ e ∈ [host], ∀ c : Category, e.1 ≠ c.name := by
  intro e he c
  rw [List.mem_singleton.mp he]
  cases c <;> decide

/-- No body is found in either, as if there had never been one. -/
theorem validate_build_document :
    document.Perm (Request.lastMembers calls ++ [host]) ∧
    (∀ e ∈ [host], ∀ c : Category, e.1 ≠ c.name) ∧
    validator.validate (Request.build calls) = validator.validate (.ofJson (.object document)) ∧
    Request.lastValue? calls .body = some (.array []) ∧
    validator.validate (Request.build calls)
      = validator.validate (Request.build (calls.filter fun k => k.category ≠ .body)) ∧
    validator.validate (.ofJson (.object document))
      = validator.validate
        (.ofJson (.object (document.filter fun e => e.1 ≠ Category.body.name))) := by
  obtain ⟨heq, habsent⟩ := Request.validate_build validator document_perm host_ne_name
  exact ⟨document_perm, host_ne_name, heq, rfl, habsent .body (.array []) rfl rfl⟩

end Orchard

end RequestContract
