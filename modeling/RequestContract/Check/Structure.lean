import RequestContract.Context

/-!
# The structural check

A value is walked together with the type of its field: a list with the type of its elements, an
object with the record type that its name refers to. A value of the wrong shape is reported and not
looked into. Of an object, the keys are also held against the record type if the coverage is strict:
first the required fields that are missing, in the order of declaration, then the keys that are not
declared, in the order of the object.

The members of an object are prepared as checks, each under its key. An object inside a request runs
them in its own order, a category in the order of declaration.
-/

namespace RequestContract

/-- Whether missing and undeclared keys of an object are reported. -/
inductive Coverage where
  | strict
  | lenient
deriving DecidableEq

/-- What a check does to its context. -/
abbrev Check := Context → Context

namespace Check

/-- A check one step further in. -/
def inside (c : Path.Component) (check : Check) : Check := fun ctx => ctx.within c check

/-- The report of a violation at the value at hand. -/
def report (v : Violation) : Check := fun ctx => ctx.report v

/-- Checks one after the other. -/
def inOrder (checks : List Check) : Check := fun ctx => checks.foldl (fun ctx check => check ctx) ctx

/-- The checks under the keys of a list, in the order of that list. -/
def forKeys (keys : List String) (checks : List (String × Check)) : Check :=
  inOrder (keys.filterMap fun k => checks.lookup k)

@[simp] theorem inOrder_nil (ctx : Context) : inOrder [] ctx = ctx := rfl

@[simp] theorem inOrder_cons (check : Check) (checks : List Check) (ctx : Context) :
    inOrder (check :: checks) ctx = inOrder checks (check ctx) := rfl

end Check

namespace Schema

/-- The report of a value of the wrong shape. -/
def reportIncorrectType (name : String) (t : FieldType) : Check := fun ctx =>
  ctx.report (.incorrectType name ctx.indexSuffix t.render)

/-- Reports the required fields that an object has not and the keys that its type has not. -/
def checkCoverage (r : RecordType) (ms : List (String × Json)) : Check :=
  Check.inOrder
    ((r.requiredNames.filter fun n => (ms.lookup n).isNone).map (fun n =>
        Check.inside (.property n) (Check.report (.missingField n)))
      ++ ((ms.map Prod.fst).filter fun k => !r.contains k).map fun k =>
        Check.inside (.property k) (Check.report (.unexpectedField k)))

/-- The coverage check, if it is asked for. -/
def coverageCheck (coverage : Coverage) (r : RecordType) (ms : List (String × Json)) : Check :=
  match coverage with
  | .strict => checkCoverage r ms
  | .lenient => id

mutual

/-- Checks a value against a field. `name` is the name used in messages, and `nested` says how the
objects inside are covered. -/
def checkValue (s : Schema) (nested : Coverage) (name : String) (f : Field) : Json → Check
  | .null => checkScalar name f .null
  | .bool b => checkScalar name f (.bool b)
  | .number n => checkScalar name f (.number n)
  | .string t => checkScalar name f (.string t)
  | .array items =>
    match f.type with
    | .any => id
    | .array _ =>
      match f.element? with
      | some e => checkItems s nested name e 0 items
      | none => id
    | t => reportIncorrectType name t
  | .object ms =>
    match f.type with
    | .any => id
    | .named n =>
      match s.type? n with
      | some r => fun ctx =>
        Check.inOrder ((checkMembers s nested r ms).map Prod.snd) (coverageCheck nested r ms ctx)
      | none => id
    | t => reportIncorrectType name t
where
  /-- Checks a value that has no values inside. -/
  checkScalar (name : String) (f : Field) (v : Json) : Check :=
    match f.type, v with
    | .any, _ => id
    | .primitive p, v => if p.accepts v then id else reportIncorrectType name f.type
    | .enum, .string t =>
      if f.allowedValues.contains t then id
      else Check.report (.enumValueNotAllowed name f.allowedValues)
    | t, _ => reportIncorrectType name t

/-- Checks the elements of a list from position `i` on. -/
def checkItems (s : Schema) (nested : Coverage) (name : String) (e : Field) (i : Nat) :
    List Json → Check
  | [] => id
  | v :: vs => fun ctx =>
    checkItems s nested name e (i + 1) vs
      (ctx.within (.index i) (checkValue s nested name e v))

/-- The checks of the declared members of an object, in its order. -/
def checkMembers (s : Schema) (nested : Coverage) (r : RecordType) :
    List (String × Json) → List (String × Check)
  | [] => []
  | (k, v) :: ms =>
    match r.get? k with
    | some f =>
      (k, Check.inside (.property k) (checkValue s nested k f v)) :: checkMembers s nested r ms
    | none => checkMembers s nested r ms

end

/-- Checks the members of a category against its type: the coverage, then the declared fields in
the order of declaration. -/
def checkObject (s : Schema) (nested coverage : Coverage) (r : RecordType)
    (ms : List (String × Json)) : Check := fun ctx =>
  Check.forKeys r.keys (checkMembers s nested r ms) (coverageCheck coverage r ms ctx)

end Schema

end RequestContract
