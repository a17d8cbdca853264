import RequestContract.Proofs.Validator

/-!
# No check is skipped

Both checks have branches for what should not happen: a name that has no type, a list type without
elements, an enum without values. There they do nothing, or compare with no values at all. The
guarded checks of this module are the same checks, but they stop at such a branch and say so.

For a schema that has been resolved they never stop: `Validator.guardedValidate_eq`. The schema
makes the promise once for each declared field, `Schema.Sound`; it is kept by the elements of a list
and by following names, so it holds at any depth.
-/

namespace RequestContract

/-! ### What checks rely on -/

/-- What the checks rely on in a configuration is there: a name has a type, a list type has elements
and an enum has values. -/
structure Field.Supported (s : Schema) (f : Field) : Prop where
  named : ∀ n, f.type = .named n → ∃ r, s.type? n = some r
  element : ∀ t, f.type = .array t → ∃ e, f.element? = some e
  values : f.type = .enum → ∃ vs, f.values = some vs ∧ vs ≠ []

/-- The configurations of a field, of its elements, of their elements and so on. -/
inductive Field.Derives : Field → Field → Prop
  | refl (f : Field) : Derives f f
  | element {f g e : Field} (h : Derives f g) (he : g.element? = some e) : Derives f e

/-- What is said of a field holds at the bottom of its lists. -/
structure Field.Sound (s : Schema) (f : Field) : Prop where
  type : f.type.ResolvesIn s
  values : f.type.innermost = .enum → ∃ vs, f.values = some vs ∧ vs ≠ []

def Schema.Sound (s : Schema) : Prop :=
  ∀ n r k f, s.type? n = some r → r.get? k = some f → f.Sound s

variable {s : Schema} {f e : Field} {r : RecordType} {ms : List (String × Json)}
  {nested : Coverage} {name : String}

lemma Field.element?_eq_some_iff : f.element? = some e ↔
    ∃ t, f.type = .array t ∧ e = { f with type := t, required := false } := by
  rw [element?]
  cases f.type <;> simp [FieldType.element?, eq_comm]

namespace Field.Sound

lemma supported (h : f.Sound s) : f.Supported s where
  named n hn := h.type n (by rw [hn]; rfl)
  element t ht := ⟨_, element?_eq_some_iff.mpr ⟨t, ht, rfl⟩⟩
  values he := h.values (by rw [he]; rfl)

/-- The elements have the same values and the same type at the bottom. -/
lemma element (h : f.Sound s) (he : f.element? = some e) : e.Sound s := by
  obtain ⟨t, ht, rfl⟩ := element?_eq_some_iff.mp he
  have hinner : f.type.innermost = t.innermost := by rw [ht, FieldType.innermost_array]
  refine ⟨fun n hn => h.type n (hinner.trans hn), fun hn => h.values (hinner.trans hn)⟩

lemma derives (h : f.Sound s) (he : f.Derives e) : e.Sound s := by
  induction he with
  | refl => exact h
  | element _ he ih => exact ih.element he

end Field.Sound

theorem SchemaDecl.sound_of_resolve {d : SchemaDecl} (h : d.resolve = .ok s) : s.Sound := by
  intro n r k f hr hf
  obtain ⟨g, hg, hgf⟩ := exists_fieldDecl_of_resolve h hr hf
  obtain ⟨t, ht, -, henum⟩ := hg.type
  rw [hgf.type, Option.some.injEq] at ht
  refine ⟨closed_of_resolve h n r k f hr hf, fun he => ?_⟩
  rw [hgf.values]
  exact henum (ht ▸ he)

/-! ### Checks that may stop -/

/-- What a check relies on and does not find. -/
inductive Gap where
  | unknownType (name : String)
  | noElements (t : FieldType)
  | noValues
deriving DecidableEq

/-- A check that stops at a gap. -/
abbrev GuardedCheck := Context → Except Gap Context

/-- A check without gaps. -/
def Check.guarded (check : Check) : GuardedCheck := fun ctx => .ok (check ctx)

namespace GuardedCheck

def stop (g : Gap) : GuardedCheck := fun _ => .error g

def inside (c : Path.Component) (check : GuardedCheck) : GuardedCheck := fun ctx => do
  let inner ← check { ctx with path := ctx.path.push c }
  return { inner with path := inner.path.truncate ctx.path.length }

def inOrder (checks : List GuardedCheck) : GuardedCheck := fun ctx =>
  checks.foldlM (fun ctx check => check ctx) ctx

def forKeys (keys : List String) (checks : List (String × GuardedCheck)) : GuardedCheck :=
  inOrder (keys.filterMap fun k => checks.lookup k)

lemma inside_guarded (c : Path.Component) (check : Check) :
    inside c check.guarded = (Check.inside c check).guarded := rfl

lemma inOrder_guarded (checks : List Check) :
    inOrder (checks.map Check.guarded) = (Check.inOrder checks).guarded := by
  funext ctx
  induction checks generalizing ctx with
  | nil => rfl
  | cons check checks ih => exact ih (check ctx)

lemma forKeys_guarded (keys : List String) (checks : List (String × Check)) :
    forKeys keys (checks.map fun e => (e.1, e.2.guarded))
      = (Check.forKeys keys checks).guarded := by
  have hlookup (k : String) : (checks.map fun e => (e.1, e.2.guarded)).lookup k
      = (checks.lookup k).map Check.guarded := by
    induction checks with
    | nil => rfl
    | cons e checks ih =>
      obtain ⟨l, check⟩ := e
      rw [List.map_cons, List.lookup_cons, List.lookup_cons, ih]
      cases k == l <;> rfl
  rw [forKeys, Check.forKeys, ← inOrder_guarded, List.map_filterMap]
  simp only [hlookup]

end GuardedCheck

/-! ### The structural check

Each definition is the one without `guarded` in its name, branch by branch; only the branches that
stop are different.
-/

namespace Schema

mutual

def guardedCheckValue (s : Schema) (nested : Coverage) (name : String) (f : Field) :
    Json → GuardedCheck
  | .null => guardedScalar name f .null
  | .bool b => guardedScalar name f (.bool b)
  | .number n => guardedScalar name f (.number n)
  | .string t => guardedScalar name f (.string t)
  | .array items =>
    match f.type with
    | .any => Check.guarded id
    | .array _ =>
      match f.element? with
      | some e => guardedCheckItems s nested name e 0 items
      -- `checkValue` accepts the list here, whatever is in it
      | none => .stop (.noElements f.type)
    | t => (reportIncorrectType name t).guarded
  | .object ms =>
    match f.type with
    | .any => Check.guarded id
    | .named n =>
      match s.type? n with
      | some r => fun ctx =>
        GuardedCheck.inOrder ((guardedCheckMembers s nested r ms).map Prod.snd)
          (coverageCheck nested r ms ctx)
      | none => .stop (.unknownType n)
    | t => (reportIncorrectType name t).guarded
where
  guardedScalar (name : String) (f : Field) (v : Json) : GuardedCheck :=
    match f.type, v with
    | .any, _ => Check.guarded id
    | .primitive p, v =>
      (if p.accepts v then id else reportIncorrectType name f.type : Check).guarded
    | .enum, .string t =>
      match f.values with
      | some (w :: ws) =>
        (if (w :: ws).contains t then id
          else Check.report (.enumValueNotAllowed name (w :: ws)) : Check).guarded
      -- `checkValue` compares with no values here
      | _ => .stop .noValues
    | t, _ => (reportIncorrectType name t).guarded

def guardedCheckItems (s : Schema) (nested : Coverage) (name : String) (e : Field) (i : Nat) :
    List Json → GuardedCheck
  | [] => Check.guarded id
  | v :: vs => fun ctx => do
    let ctx ← GuardedCheck.inside (.index i) (guardedCheckValue s nested name e v) ctx
    guardedCheckItems s nested name e (i + 1) vs ctx

def guardedCheckMembers (s : Schema) (nested : Coverage) (r : RecordType) :
    List (String × Json) → List (String × GuardedCheck)
  | [] => []
  | (k, v) :: ms =>
    match r.get? k with
    | some f =>
      (k, .inside (.property k) (guardedCheckValue s nested k f v))
        :: guardedCheckMembers s nested r ms
    | none => guardedCheckMembers s nested r ms

end

def guardedCheckObject (s : Schema) (nested coverage : Coverage) (r : RecordType)
    (ms : List (String × Json)) : GuardedCheck := fun ctx =>
  GuardedCheck.forKeys r.keys (guardedCheckMembers s nested r ms) (coverageCheck coverage r ms ctx)

lemma guardedScalar_eq (hf : f.Supported s) (v : Json) :
    guardedCheckValue.guardedScalar name f v = (checkValue.checkScalar name f v).guarded := by
  rw [guardedCheckValue.guardedScalar.eq_def, checkValue.checkScalar.eq_def]
  cases ht : f.type with
  | enum =>
    cases v with
    | string t =>
      obtain ⟨vs, hvs, hne⟩ := hf.values ht
      obtain ⟨w, ws, rfl⟩ := List.exists_cons_of_ne_nil hne
      simp only [hvs, Field.allowedValues, Option.getD_some]
    | _ => rfl
  | _ => rfl

mutual

lemma guardedCheckValue_eq {s : Schema} (hs : s.Sound) (nested : Coverage) (name : String)
    {f : Field} (hf : f.Sound s) (v : Json) :
    s.guardedCheckValue nested name f v = (s.checkValue nested name f v).guarded := by
  -- by recursion on the value, since names may lead around in a circle
  match v with
  | .null | .bool _ | .number _ | .string _ =>
    rw [guardedCheckValue, checkValue]
    exact guardedScalar_eq hf.supported _
  | .array items =>
    rw [guardedCheckValue, checkValue]
    cases ht : f.type with
    | array t =>
      obtain ⟨e, he⟩ := hf.supported.element t ht
      simp only [he]
      exact guardedCheckItems_eq hs nested name (hf.element he) 0 items
    | _ => rfl
  | .object ms =>
    rw [guardedCheckValue, checkValue]
    cases ht : f.type with
    | named n =>
      obtain ⟨r, hr⟩ := hf.supported.named n ht
      have hms := guardedCheckMembers_eq hs nested (fun k f hf => hs n r k f hr hf) ms
      have hsnd : ((s.checkMembers nested r ms).map fun e => (e.1, e.2.guarded)).map Prod.snd
          = ((s.checkMembers nested r ms).map Prod.snd).map Check.guarded := by
        rw [List.map_map, List.map_map]
        rfl
      simp only [hr, hms, hsnd, GuardedCheck.inOrder_guarded]
      rfl
    | _ => rfl

lemma guardedCheckItems_eq {s : Schema} (hs : s.Sound) (nested : Coverage) (name : String)
    {e : Field} (he : e.Sound s) (i : Nat) (vs : List Json) :
    s.guardedCheckItems nested name e i vs = (s.checkItems nested name e i vs).guarded := by
  match vs with
  | [] => rw [guardedCheckItems, checkItems]
  | v :: vs =>
    funext ctx
    rw [guardedCheckItems, guardedCheckValue_eq hs nested name he v, GuardedCheck.inside_guarded,
      checkItems]
    exact congrFun (guardedCheckItems_eq hs nested name he (i + 1) vs) _

lemma guardedCheckMembers_eq {s : Schema} (hs : s.Sound) (nested : Coverage) {r : RecordType}
    (hr : ∀ k f, r.get? k = some f → f.Sound s)
    (ms : List (String × Json)) : s.guardedCheckMembers nested r ms
      = (s.checkMembers nested r ms).map fun e => (e.1, e.2.guarded) := by
  match ms with
  | [] => rw [guardedCheckMembers, checkMembers, List.map_nil]
  | (k, v) :: ms =>
    rw [guardedCheckMembers, checkMembers]
    cases hf : r.get? k with
    | none => exact guardedCheckMembers_eq hs nested hr ms
    | some f =>
      simp only [guardedCheckValue_eq hs nested k (hr k f hf) v, GuardedCheck.inside_guarded,
        List.map_cons, guardedCheckMembers_eq hs nested hr ms]

end

lemma guardedCheckObject_eq (hs : s.Sound) (coverage : Coverage)
    (hr : ∀ k f, r.get? k = some f → f.Sound s) (ms : List (String × Json)) :
    s.guardedCheckObject nested coverage r ms = (s.checkObject nested coverage r ms).guarded := by
  funext ctx
  rw [guardedCheckObject, guardedCheckMembers_eq hs nested hr, GuardedCheck.forKeys_guarded]
  rfl

/-! ### The content check -/

mutual

def guardedSanitizeAt (s : Schema) (name : String) (f : Field) (depth : Nat) : Json → GuardedCheck
  | .null => Check.guarded id
  | .bool _ => Check.guarded id
  | .number n =>
    match f.type with
    | .primitive .number => (Check.reportAll (f.numberViolations n)).guarded
    | _ => Check.guarded id
  | .string t =>
    match f.type with
    | .primitive .string => (Check.reportAll (f.stringViolations name t)).guarded
    | .enum =>
      match f.values with
      | some (w :: ws) =>
        (Check.reportAll
          (if (w :: ws).contains t then [] else [.illegalEnumValue t (w :: ws)])).guarded
      | _ => .stop .noValues
    | _ => Check.guarded id
  | .array items =>
    match f.type with
    | .array _ => fun ctx =>
      let sized := Check.reportAll
        (f.sizeViolations (name ++ ctx.indexSuffix) depth items.length) ctx
      match f.element? with
      | some e => guardedSanitizeItems s name e (depth + 1) 0 items sized
      | none => .error (.noElements f.type)
    | _ => Check.guarded id
  | .object ms =>
    match f.type with
    | .named n =>
      match s.type? n with
      | some r => .forKeys r.keys (guardedSanitizeMembers s r ms)
      | none => .stop (.unknownType n)
    | _ => Check.guarded id

def guardedSanitizeItems (s : Schema) (name : String) (e : Field) (depth i : Nat) :
    List Json → GuardedCheck
  | [] => Check.guarded id
  | v :: vs => fun ctx => do
    let ctx ← GuardedCheck.inside (.index i) (guardedSanitizeAt s name e depth v) ctx
    guardedSanitizeItems s name e depth (i + 1) vs ctx

def guardedSanitizeMembers (s : Schema) (r : RecordType) :
    List (String × Json) → List (String × GuardedCheck)
  | [] => []
  | (k, v) :: ms =>
    match r.get? k with
    | some f =>
      (k, .inside (.property k) (guardedSanitizeAt s k f 0 v)) :: guardedSanitizeMembers s r ms
    | none => guardedSanitizeMembers s r ms

end

def guardedSanitizeObject (s : Schema) (r : RecordType) (ms : List (String × Json)) :
    GuardedCheck :=
  .forKeys r.keys (guardedSanitizeMembers s r ms)

mutual

lemma guardedSanitizeAt_eq {s : Schema} (hs : s.Sound) (name : String) {f : Field}
    (hf : f.Sound s) (depth : Nat) (v : Json) :
    s.guardedSanitizeAt name f depth v = (s.sanitizeAt name f depth v).guarded := by
  match v with
  | .null | .bool _ => rw [guardedSanitizeAt, sanitizeAt]
  | .number n =>
    rw [guardedSanitizeAt, sanitizeAt]
    rcases f.type with _ | (_ | _ | _) | _ | _ | _ <;> rfl
  | .string t =>
    rw [guardedSanitizeAt, sanitizeAt]
    cases ht : f.type with
    | enum =>
      obtain ⟨vs, hvs, hne⟩ := hf.supported.values ht
      obtain ⟨w, ws, rfl⟩ := List.exists_cons_of_ne_nil hne
      simp only [hvs, Field.enumViolations, Field.allowedValues, Option.getD_some]
    | primitive p => cases p <;> rfl
    | _ => rfl
  | .array items =>
    rw [guardedSanitizeAt, sanitizeAt]
    cases ht : f.type with
    | array t =>
      obtain ⟨e, he⟩ := hf.supported.element t ht
      simp only [he, guardedSanitizeItems_eq hs name (hf.element he) (depth + 1) 0 items]
      rfl
    | _ => rfl
  | .object ms =>
    rw [guardedSanitizeAt, sanitizeAt]
    cases ht : f.type with
    | named n =>
      obtain ⟨r, hr⟩ := hf.supported.named n ht
      have hms := guardedSanitizeMembers_eq hs (fun k f hf => hs n r k f hr hf) ms
      simp only [hr, hms, GuardedCheck.forKeys_guarded]
    | _ => rfl

lemma guardedSanitizeItems_eq {s : Schema} (hs : s.Sound) (name : String) {e : Field}
    (he : e.Sound s) (depth i : Nat) (vs : List Json) :
    s.guardedSanitizeItems name e depth i vs = (s.sanitizeItems name e depth i vs).guarded := by
  match vs with
  | [] => rw [guardedSanitizeItems, sanitizeItems]
  | v :: vs =>
    funext ctx
    rw [guardedSanitizeItems, guardedSanitizeAt_eq hs name he depth v,
      GuardedCheck.inside_guarded, sanitizeItems]
    exact congrFun (guardedSanitizeItems_eq hs name he depth (i + 1) vs) _

lemma guardedSanitizeMembers_eq {s : Schema} (hs : s.Sound) {r : RecordType}
    (hr : ∀ k f, r.get? k = some f → f.Sound s) (ms : List (String × Json)) :
    s.guardedSanitizeMembers r ms
      = (s.sanitizeMembers r ms).map fun e => (e.1, e.2.guarded) := by
  match ms with
  | [] => rw [guardedSanitizeMembers, sanitizeMembers, List.map_nil]
  | (k, v) :: ms =>
    rw [guardedSanitizeMembers, sanitizeMembers]
    cases hf : r.get? k with
    | none => exact guardedSanitizeMembers_eq hs hr ms
    | some f =>
      simp only [guardedSanitizeAt_eq hs k (hr k f hf) 0 v, GuardedCheck.inside_guarded,
        List.map_cons, guardedSanitizeMembers_eq hs hr ms]

end

lemma guardedSanitizeObject_eq (hs : s.Sound) (hr : ∀ k f, r.get? k = some f → f.Sound s)
    (ms : List (String × Json)) :
    s.guardedSanitizeObject r ms = (s.sanitizeObject r ms).guarded := by
  rw [guardedSanitizeObject, guardedSanitizeMembers_eq hs hr, GuardedCheck.forKeys_guarded]
  rfl

end Schema

/-! ### Validation -/

namespace Validator

def guardedCheckPart (v : Validator) (r : RecordType) (ms : List (String × Json)) :
    GuardedCheck := fun ctx => do
  let checked ← v.schema.guardedCheckObject v.options.nestedCoverage .strict r ms ctx
  if v.options.sanitize then
    let branch ← v.schema.guardedSanitizeObject r ms checked.branch
    return checked.join branch
  else return checked

def guardedCheckCategory (v : Validator) (request : Request) (c : Category) (r : RecordType) :
    GuardedCheck :=
  .inside (.property c.name) fun ctx =>
    match request.category c with
    | some ms => v.guardedCheckPart r ms ctx
    | none => .ok (ctx.reportAt .request (.rootMissing c))

/-- A validation that says so if there is a gap, and otherwise reports. -/
def guardedValidate (v : Validator) (request : Request) : Except Gap Report := do
  let ctx ← GuardedCheck.inOrder
    (v.schema.roots.map fun e => v.guardedCheckCategory request e.1 e.2) Context.start
  return ctx.toReport

variable {v : Validator}

lemma guardedCheckPart_eq (hs : v.schema.Sound)
    (hr : ∀ k f, r.get? k = some f → f.Sound v.schema) (ms : List (String × Json)) :
    v.guardedCheckPart r ms = (v.checkPart r ms).guarded := by
  funext ctx
  rw [guardedCheckPart, Schema.guardedCheckObject_eq hs _ hr, Schema.guardedSanitizeObject_eq hs hr]
  simp only [Check.guarded, checkPart]
  cases v.options.sanitize <;> rfl

lemma guardedCheckCategory_eq (hs : v.schema.Sound)
    (hr : ∀ k f, r.get? k = some f → f.Sound v.schema) (request : Request) (c : Category) :
    v.guardedCheckCategory request c r = (v.checkCategory request c r).guarded := by
  rw [guardedCheckCategory, checkCategory, ← GuardedCheck.inside_guarded]
  cases request.category c with
  | none => rfl
  | some ms =>
    simp only [guardedCheckPart_eq hs hr]

/-- With a resolved schema all that the checks rely on is there, in each configuration of a declared
field and of its elements, and no check of a request stops. -/
theorem guardedValidate_eq {d : SchemaDecl} (hv : d.resolve = .ok v.schema) :
    (∀ n r k f e, v.schema.type? n = some r → r.get? k = some f → f.Derives e →
      e.Supported v.schema) ∧
    ∀ request, v.guardedValidate request = .ok (v.validate request) := by
  have hs := SchemaDecl.sound_of_resolve hv
  refine ⟨fun n r k f e hr hf he => ((hs n r k f hr hf).derives he).supported, fun request => ?_⟩
  have hroots : (v.schema.roots.map fun e => v.guardedCheckCategory request e.1 e.2)
      = (v.schema.roots.map fun e => v.checkCategory request e.1 e.2).map Check.guarded := by
    rw [List.map_map]
    apply List.map_congr_left
    rintro ⟨c, r⟩ he
    exact guardedCheckCategory_eq hs (fun k f hf => hs _ r k f (mem_roots_iff.mp he) hf) request c
  rw [guardedValidate, hroots, GuardedCheck.inOrder_guarded]
  rfl

end Validator

namespace Orchard

/-- Trees and branches refer to one another, and no check of an orchard stops. -/
theorem guardedValidate_request : decl.resolve = .ok validator.schema ∧
    ((∀ n r k f e, validator.schema.type? n = some r → r.get? k = some f → f.Derives e →
      e.Supported validator.schema) ∧
    ∀ request, validator.guardedValidate request = .ok (validator.validate request)) :=
  ⟨resolve_decl, Validator.guardedValidate_eq resolve_decl⟩

-- without the types of trees and branches there would be a gap
example : Validator.guardedValidate ⟨⟨.ofList [("body", body)]⟩, ⟨true, true⟩⟩ request
    = .error (.unknownType "Tree") := rfl

end Orchard

end RequestContract
