import RequestContract.Json.Draft
import RequestContract.Double.Layout
import RequestContract.Text.Quoted

/-!
# Why decoding fails

Decoding stops at the first thing that does not fit, in the order of the source. A fault of the text
and a value that is not what is wanted are both such things.
-/

namespace RequestContract

/-- What decoding wants at a place. -/
inductive Wanted where
  | schemaDecl
  | fieldDecl
  | options
  | map
  | string
  | boolean
  | sequence
  | pair
  | number
  | size
deriving DecidableEq

/-- The wording of what is wanted. -/
def Wanted.text : Wanted → String
  | schemaDecl => "struct SchemaDefinition"
  | fieldDecl => "struct FieldDefinition"
  | options => "struct ValidatorOptions"
  | map => "a map"
  | string => "a string"
  | boolean => "a boolean"
  | sequence => "a sequence"
  | pair => "an array of length 2"
  | number => "f64"
  | size => "usize"

/-- What decoding has found instead. -/
inductive Found where
  | null
  | boolean (b : Bool)
  | integer (i : Int)
  | real (x : Double)
  | string (s : String)
  | sequence
  | map

namespace Found

/-- The wording of what is found. -/
def text : Found → String
  | null => "null"
  | boolean b => "boolean `" ++ (if b then "true" else "false") ++ "`"
  | integer i => "integer `" ++ toString i ++ "`"
  | real x => "floating point `" ++ x.text .json ++ "`"
  | string s => "string " ++ Text.showText s
  | sequence => "sequence"
  | map => "map"

/-- What a number is found to be. -/
def ofNumber : Json.Number → Found
  | .integer i => integer i
  | .real x => real x

/-- What a value is found to be. -/
def ofJson : Json → Found
  | .null => null
  | .bool b => boolean b
  | .number n => ofNumber n
  | .string s => string s
  | .array _ => sequence
  | .object _ => map

end Found

/-- A reason why decoding fails. -/
inductive Mismatch where
  /-- A fault of the text. -/
  | fault (f : Json.Fault)
  /-- A fault of the text in a value that is passed over. -/
  | skippedFault (f : Json.Fault)
  /-- A value of another kind. -/
  | wrongKind (found : Found) (wanted : Wanted)
  /-- An integer out of bounds. -/
  | wrongInteger (i : Int) (wanted : Wanted)
  /-- An object without a key that it needs. -/
  | missingKey (key : String)
  /-- An object with a key twice. -/
  | duplicateKey (key : String)
  /-- An object with a key that nobody knows; `known` are the keys that it may have. -/
  | unknownKey (key : String) (known : List String)
  /-- A list that ends too soon. -/
  | tooShort (length : Nat) (wanted : String)
  /-- A list that goes on too long. -/
  | tooLong (length : Nat)

namespace Mismatch

/-- A word between backquotes. -/
def ticked (word : String) : String := "`" ++ word ++ "`"

/-- The wording of a mismatch. -/
def message : Mismatch → String
  | fault f => f.message
  | skippedFault f => f.skippedMessage
  | wrongKind found wanted => "invalid type: " ++ found.text ++ ", expected " ++ wanted.text
  | wrongInteger i wanted =>
    "invalid value: integer " ++ ticked (toString i) ++ ", expected " ++ wanted.text
  | missingKey k => "missing field " ++ ticked k
  | duplicateKey k => "duplicate field " ++ ticked k
  | unknownKey k known =>
    "unknown field " ++ ticked k ++ ", expected one of " ++ ", ".intercalate (known.map ticked)
  | tooShort n wanted => "invalid length " ++ toString n ++ ", expected " ++ wanted
  | tooLong n => "invalid length " ++ toString n ++ ", expected fewer elements in array"

end Mismatch

end RequestContract
