import RequestContract.Schema.Decoding.Attribute
import RequestContract.Json.Writer

/-!
# Encoding declarations

A declaration as JSON: a schema is an object with `types`, a type an object of fields, a field an
object of attributes in their order, without those that have not been given.
-/

namespace RequestContract

namespace FieldDecl

/-- The value of an attribute, if it is written. -/
def attribute? (f : FieldDecl) : Attribute → Option Json
  | .type => some (.string f.typeText)
  | .required => some (.bool f.required)
  | .values => f.values.map fun vs => .array (vs.map .string)
  | .range => f.range.map fun r => .array [.number (.real r.min), .number (.real r.max)]
  | .isUrl => some (.bool f.isUrl)
  | .startsWith => f.startsWith.map .string
  | .length => f.length.map fun n => .number (.integer n.toNat)
  | .arrayLengths => f.arrayLengths.map fun ns => .array (ns.map fun n => .number (.integer n.toNat))

/-- The declaration as JSON. -/
def toJson (f : FieldDecl) : Json :=
  .object (Attribute.all.filterMap fun a => (f.attribute? a).map (a.key, ·))

end FieldDecl

/-- The declaration of a type as JSON. -/
def TypeDecl.toJson (t : TypeDecl) : Json :=
  .object (t.entries.map fun e => (e.1, e.2.toJson))

/-- The declaration of a schema as JSON. -/
def SchemaDecl.toJson (d : SchemaDecl) : Json :=
  .object [("types", .object (d.types.entries.map fun e => (e.1, TypeDecl.toJson e.2)))]

/-- The declaration of a schema as JSON text. -/
def SchemaDecl.render (d : SchemaDecl) : String := d.toJson.render

end RequestContract
