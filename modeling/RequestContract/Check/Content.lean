import RequestContract.Check.Structure
import RequestContract.Url

/-!
# The content check

The content check walks like the structural one but looks only at values of the right shape: at a
string's length, start and form, at a number's range, at a string's place among the values of an
enum, and at the number of elements of a list at each depth. The depth counts the lists between the
field and the list at hand; inside an object it starts again. Fields are taken in the order of
declaration, at every level.
-/

namespace RequestContract

namespace Field

/-- The violations of a string. -/
def stringViolations (f : Field) (name text : String) : List Violation :=
  (match f.length with
    | some n => if text.length = n.toNat then [] else [.illegalLength name text.length n.toNat]
    | none => [])
  ++ (match f.startsWith with
    | some start =>
      if start.toList.isPrefixOf text.toList then [] else [.doesNotStartWith text start]
    | none => [])
  ++ (if f.isUrl && !Url.isUrl text then [.notUrl text] else [])

/-- The violations of a number. -/
def numberViolations (f : Field) (n : Json.Number) : List Violation :=
  match f.range with
  | some r => if r.contains n.toDouble then [] else [.outOfRange (n.toDouble.text .message) r]
  | none => []

/-- The violations of an enum string. -/
def enumViolations (f : Field) (text : String) : List Violation :=
  if f.allowedValues.contains text then [] else [.illegalEnumValue text f.allowedValues]

/-- The violations of the size of a list at a depth; `place` is the name of the list. -/
def sizeViolations (f : Field) (place : String) (depth size : Nat) : List Violation :=
  match f.arrayLengths[depth]? with
  | some n => if size = n.toNat then [] else [.illegalArrayLength place size n.toNat]
  | none => []

end Field

namespace Check

/-- The report of several violations at the value at hand. -/
def reportAll (vs : List Violation) : Check := inOrder (vs.map report)

end Check

namespace Schema

mutual

/-- Checks the content of a value that `depth` lists lie around. -/
def sanitizeAt (s : Schema) (name : String) (f : Field) (depth : Nat) : Json → Check
  | .null => id
  | .bool _ => id
  | .number n =>
    match f.type with
    | .primitive .number => Check.reportAll (f.numberViolations n)
    | _ => id
  | .string t =>
    match f.type with
    | .primitive .string => Check.reportAll (f.stringViolations name t)
    | .enum => Check.reportAll (f.enumViolations t)
    | _ => id
  | .array items =>
    match f.type with
    | .array _ => fun ctx =>
      let sized := Check.reportAll
        (f.sizeViolations (name ++ ctx.indexSuffix) depth items.length) ctx
      match f.element? with
      | some e => sanitizeItems s name e (depth + 1) 0 items sized
      | none => sized
    | _ => id
  | .object ms =>
    match f.type with
    | .named n =>
      match s.type? n with
      | some r => Check.forKeys r.keys (sanitizeMembers s r ms)
      | none => id
    | _ => id

/-- Checks the content of the elements of a list from position `i` on. -/
def sanitizeItems (s : Schema) (name : String) (e : Field) (depth i : Nat) : List Json → Check
  | [] => id
  | v :: vs => fun ctx =>
    sanitizeItems s name e depth (i + 1) vs
      (ctx.within (.index i) (sanitizeAt s name e depth v))

/-- The content checks of the declared members of an object, in its order. -/
def sanitizeMembers (s : Schema) (r : RecordType) :
    List (String × Json) → List (String × Check)
  | [] => []
  | (k, v) :: ms =>
    match r.get? k with
    | some f => (k, Check.inside (.property k) (sanitizeAt s k f 0 v)) :: sanitizeMembers s r ms
    | none => sanitizeMembers s r ms

end

/-- Checks the content of a value of a field. -/
def sanitizeValue (s : Schema) (name : String) (f : Field) (v : Json) : Check :=
  sanitizeAt s name f 0 v

/-- Checks the content of the declared members of an object, in the order of declaration. -/
def sanitizeObject (s : Schema) (r : RecordType) (ms : List (String × Json)) : Check :=
  Check.forKeys r.keys (sanitizeMembers s r ms)

end Schema

end RequestContract
