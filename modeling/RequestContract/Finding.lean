import RequestContract.NonEmptyList
import RequestContract.Path
import RequestContract.Text.Numbered
import RequestContract.Schema.Basic
import RequestContract.Json.Writer

/-!
# Findings

A finding is a violation of a schema and the location where it was found. A violation is a cause;
its code and its wording are functions of it. Findings keep the order in which they were made.
-/

namespace RequestContract

/-! ### Violations -/

/-- A way in which a request can fail. -/
inductive Violation where
  /-- A declared category is not in the request. -/
  | rootMissing (category : Category)
  /-- A required field is not there. -/
  | missingField (field : String)
  /-- A key is not declared. -/
  | unexpectedField (field : String)
  /-- A value has not the shape that its type asks for. -/
  | incorrectType (field indexSuffix declaredType : String)
  /-- A string is not among the values of its enum, by the structural check. -/
  | enumValueNotAllowed (field : String) (values : List String)
  /-- A string has another number of characters. -/
  | illegalLength (field : String) (actual expected : Nat)
  /-- A list has another number of elements. -/
  | illegalArrayLength (path : String) (actual expected : Nat)
  /-- A number lies outside its range. -/
  | outOfRange (value : String) (range : Range)
  /-- A string is no absolute URL. -/
  | notUrl (value : String)
  /-- A string starts otherwise. -/
  | doesNotStartWith (value start : String)
  /-- A string is not among the values of its enum, by the content check. -/
  | illegalEnumValue (value : String) (values : List String)

namespace Violation

/-- The code of a violation. -/
def code : Violation → String
  | rootMissing _ => "root_missing"
  | missingField _ => "missing_field"
  | unexpectedField _ => "unexpected_field"
  | incorrectType .. => "incorrect_type"
  | enumValueNotAllowed .. => "enum_value_not_allowed"
  | illegalLength .. => "illegal_length"
  | illegalArrayLength .. => "illegal_array_length"
  | outOfRange .. => "out_of_range"
  | notUrl _ => "not_url"
  | doesNotStartWith .. => "does_not_start_with"
  | illegalEnumValue .. => "illegal_enum_value"

/-- The wording of a violation. -/
def message : Violation → String
  | rootMissing c => "Request is missing '" ++ c.name ++ "'"
  | missingField f => "Missing property '" ++ f ++ "'"
  | unexpectedField f => "Unexpected property '" ++ f ++ "'"
  | incorrectType f suffix t => "Property '" ++ f ++ suffix ++ "' should be type '" ++ t ++ "'"
  | enumValueNotAllowed f vs =>
    "Enum '" ++ f ++ "' must have one of these values '" ++ ", ".intercalate vs ++ "'"
  | illegalLength f actual expected =>
    "Length of '" ++ f ++ "' is " ++ toString actual ++ " when it should be " ++ toString expected
  | illegalArrayLength p actual expected =>
    "Array length of '" ++ p ++ "' is " ++ toString actual ++ " when it should be "
      ++ toString expected
  | outOfRange v r =>
    "Value '" ++ v ++ "' is outside of the range [" ++ r.min.text .message ++ ", "
      ++ r.max.text .message ++ "]"
  | notUrl v => "Value '" ++ v ++ "' is not a valid URL"
  | doesNotStartWith v start => "Value '" ++ v ++ "' does not start with '" ++ start ++ "'"
  | illegalEnumValue v vs =>
    "Illegal enum value '" ++ v ++ "', acceptable values are '" ++ ", ".intercalate vs ++ "'"

end Violation

/-! ### Locations -/

/-- Where something was found. -/
inductive Location where
  /-- The request as a whole. -/
  | request
  /-- A value within the request. -/
  | within (path : Path)
  /-- A place that the caller names. -/
  | called (text : String)
deriving DecidableEq

/-- The text of a location. -/
def Location.render : Location → String
  | .request => "[Request]"
  | .within p => p.render
  | .called t => t

/-! ### Findings -/

/-- A violation and where it was found. -/
structure Finding where
  /-- Where it was found. -/
  location : Location
  /-- What is wrong there. -/
  violation : Violation

namespace Finding

/-- The code of the violation. -/
def code (f : Finding) : String := f.violation.code

/-- The wording of the violation. -/
def message (f : Finding) : String := f.violation.message

/-- The finding on one line. -/
def line (f : Finding) : String := f.location.render ++ ": " ++ f.message

/-- The finding as JSON. -/
def toJson (f : Finding) : Json :=
  .object [("message", .string f.message), ("location", .string f.location.render)]

end Finding

/-- What a failed check has found: at least one finding. -/
abbrev Findings := NonEmptyList Finding

namespace Findings

/-- The wording of all findings. -/
def message (fs : Findings) : String :=
  "Request failed validation with " ++ toString fs.size ++ " error(s):\n"
    ++ Text.numberedLines 1 (fs.toList.map Finding.line)

/-- The findings at a location. -/
def atLocation (fs : Findings) (location : String) : List Finding :=
  fs.toList.filter fun f => f.location.render == location

/-- The findings with a code. -/
def withCode (fs : Findings) (code : String) : List Finding :=
  fs.toList.filter fun f => f.code == code

end Findings

end RequestContract
