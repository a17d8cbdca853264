import RequestContract.Check.Structure
import RequestContract.Schema.Decoding.OfJson

/-!
# Options of a validator

Two choices, neither made unless asked for. As JSON they are an object, in which unknown keys are
passed over, or the list of the two.
-/

namespace RequestContract

/-- The choices of a validator. -/
structure Options where
  /-- Whether contents are checked too. -/
  sanitize : Bool
  /-- Whether missing and undeclared keys are reported of the objects inside a category. -/
  strictNestedTypes : Bool
deriving DecidableEq

namespace Options

/-- Neither choice is made. -/
def standard : Options := ⟨false, false⟩

instance : Inhabited Options := ⟨standard⟩

/-- How the objects inside a category are covered. -/
def nestedCoverage (o : Options) : Coverage :=
  if o.strictNestedTypes then .strict else .lenient

end Options

namespace Json

/-- The options with the members of an object. `seen` are the keys that have been there. -/
def asOptionMembers (seen : List String) (o : Options) :
    List (String × Json) → Except Mismatch Options
  | [] => .ok o
  | (k, v) :: ms =>
    if k = "sanitize" ∨ k = "strictNestedTypes" then
      if seen.contains k then .error (.duplicateKey k)
      else do
        let b ← v.asBool
        let o := if k = "sanitize" then { o with sanitize := b } else { o with strictNestedTypes := b }
        asOptionMembers (k :: seen) o ms
    else asOptionMembers seen o ms

/-- The options of a validator. -/
def asOptions : Json → Except Mismatch Options
  | .object ms => asOptionMembers [] Options.standard ms
  | .array [] => .ok Options.standard
  | .array [a] => do
    let sanitize ← a.asBool
    return ⟨sanitize, false⟩
  | .array (a :: b :: more) => do
    let sanitize ← a.asBool
    let strict ← b.asBool
    if more.isEmpty then return ⟨sanitize, strict⟩ else .error (.tooLong (more.length + 2))
  | v => v.mismatch .options

end Json

end RequestContract
