import RequestContract.NonEmptyList
import RequestContract.Double.Layout
import RequestContract.Text.Numbered
import RequestContract.Schema.Declaration

/-!
# Problems of a schema

What can be wrong with a declaration, each with a code and a wording. A declaration that does not
do is rejected with all its problems.
-/

namespace RequestContract

/-- A problem of a declaration. -/
inductive SchemaProblem where
  /-- A field refers to a type that is not declared. -/
  | unknownType (owner field typeName : String)
  /-- The text of a field's type is no type text. -/
  | malformedType (owner field typeText : String)
  /-- An enum field gives no values. -/
  | missingEnumValues (owner field : String)
  /-- The lower end of a range lies above the upper end. -/
  | emptyRange (owner field : String) (range : Range)
  /-- A declared type has the name of a built-in type. -/
  | reservedTypeName (typeName : String)
  /-- The declaration could not be decoded. -/
  | undecodable (reason : String)
deriving BEq

namespace SchemaProblem

/-- The code of a problem. -/
def code : SchemaProblem → String
  | unknownType .. => "unknown_type"
  | malformedType .. => "malformed_type"
  | missingEnumValues .. => "missing_enum_values"
  | emptyRange .. => "invalid_range"
  | reservedTypeName _ => "reserved_type_name"
  | undecodable _ => "decode"

/-- The wording of a problem. -/
def message : SchemaProblem → String
  | unknownType o f t => "field '" ++ o ++ "." ++ f ++ "' references unknown type '" ++ t ++ "'"
  | malformedType o f t => "field '" ++ o ++ "." ++ f ++ "' has malformed type '" ++ t ++ "'"
  | missingEnumValues o f => "enum field '" ++ o ++ "." ++ f ++ "' must declare at least one value"
  | emptyRange o f r =>
    "field '" ++ o ++ "." ++ f ++ "' has an empty range [" ++ r.min.text .message ++ ", "
      ++ r.max.text .message ++ "]"
  | reservedTypeName t => "type name '" ++ t ++ "' is reserved"
  | undecodable r => "invalid schema definition: " ++ r

end SchemaProblem

/-- All problems of a declaration, of which there is at least one. -/
abbrev SchemaProblems := NonEmptyList SchemaProblem

namespace SchemaProblems

/-- The wording of all problems. -/
def message (ps : SchemaProblems) : String :=
  "Schema is invalid (" ++ toString ps.size ++ " error(s)):\n"
    ++ Text.numberedLines 1 (ps.toList.map SchemaProblem.message)

/-- The problems with a code. -/
def withCode (ps : SchemaProblems) (code : String) : List SchemaProblem :=
  ps.toList.filter fun p => p.code == code

end SchemaProblems

end RequestContract
