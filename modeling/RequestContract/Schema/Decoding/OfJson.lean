import RequestContract.Schema.Decoding.Attribute
import RequestContract.Schema.Resolution

/-!
# Decoding JSON values

A declaration is decoded from a JSON value: a schema is an object with `types`, a type an object of
fields, a field an object of attributes. A schema and a field may also be written as the list of what
they consist of. An unknown key of a schema is passed over, one of a field is refused. `null` leaves
an optional attribute out.
-/

namespace RequestContract

/-! ### Plain values -/

namespace Json

/-- The value is not what is wanted. -/
def mismatch {α : Type} (v : Json) (w : Wanted) : Except Mismatch α :=
  .error (.wrongKind (.ofJson v) w)

/-- A string. -/
def asString : Json → Except Mismatch String
  | .string s => .ok s
  | v => v.mismatch .string

/-- A boolean. -/
def asBool : Json → Except Mismatch Bool
  | .bool b => .ok b
  | v => v.mismatch .boolean

/-- A number. -/
def asDouble : Json → Except Mismatch Double
  | .number n => .ok n.toDouble
  | v => v.mismatch .number

/-- A size. -/
def asSize : Json → Except Mismatch UInt64
  | .number n => sizeOfNumber n
  | v => v.mismatch .size

/-- A list of values that `f` decodes. -/
def asListOf {α : Type} (f : Json → Except Mismatch α) : Json → Except Mismatch (List α)
  | .array items => items.mapM f
  | v => v.mismatch .sequence

/-- A value that `f` decodes, or `null`. -/
def asOptional {α : Type} (f : Json → Except Mismatch α) : Json → Except Mismatch (Option α)
  | .null => .ok none
  | v => some <$> f v

/-- A list of the two ends of a range. -/
def asRange : Json → Except Mismatch Range
  | .array [] => .error (.tooShort 0 Wanted.pair.text)
  | .array [a] => do
    let _ ← a.asDouble
    .error (.tooShort 1 Wanted.pair.text)
  | .array (a :: b :: more) => do
    let min ← a.asDouble
    let max ← b.asDouble
    if more.isEmpty then return ⟨min, max⟩
    else .error (.tooLong (more.length + 2))
  | v => v.mismatch .pair

/-! ### Declarations -/

/-- A field declaration with the value of an attribute. -/
def asAttribute (a : Attribute) (f : FieldDecl) (v : Json) : Except Mismatch FieldDecl :=
  match a with
  | .type => (fun x => { f with typeText := x }) <$> v.asString
  | .required => (fun x => { f with required := x }) <$> v.asBool
  | .values => (fun x => { f with values := x }) <$> v.asOptional (asListOf asString)
  | .range => (fun x => { f with range := x }) <$> v.asOptional asRange
  | .isUrl => (fun x => { f with isUrl := x }) <$> v.asBool
  | .startsWith => (fun x => { f with startsWith := x }) <$> v.asOptional asString
  | .length => (fun x => { f with length := x }) <$> v.asOptional asSize
  | .arrayLengths => (fun x => { f with arrayLengths := x }) <$> v.asOptional (asListOf asSize)

/-- A field declaration with the attributes of an object. -/
def asAttributes (p : PartialField) : List (String × Json) → Except Mismatch PartialField
  | [] => .ok p
  | (k, v) :: ms => do
    let a ← p.claim k
    let f ← asAttribute a p.field v
    asAttributes (p.give a f) ms

/-- A field declaration with the values of attributes in order. -/
def asAttributeList (f : FieldDecl) : List Attribute → List Json → Except Mismatch FieldDecl
  | _, [] => .ok f
  | [], _ :: _ => .ok f
  | a :: as, v :: vs => do
    let f ← asAttribute a f v
    asAttributeList f as vs

/-- A field declaration. -/
def asField : Json → Except Mismatch FieldDecl
  | .object ms => do
    let p ← asAttributes PartialField.start ms
    p.finish
  | .array [] => .error (.tooShort 0 fieldListWanted)
  | .array items => do
    let f ← asAttributeList (FieldDecl.ofType "") Attribute.all items
    if items.length ≤ Attribute.all.length then return f else .error (.tooLong items.length)
  | v => v.mismatch .fieldDecl

/-- The map of the members, each decoded by `f`. -/
def asMapOf {α : Type} (f : Json → Except Mismatch α) (m : OrderedMap α) :
    List (String × Json) → Except Mismatch (OrderedMap α)
  | [] => .ok m
  | (k, v) :: ms => do
    let x ← f v
    asMapOf f (m.insert k x) ms

/-- A type declaration. -/
def asType : Json → Except Mismatch TypeDecl
  | .object ms => asMapOf asField OrderedMap.empty ms
  | v => v.mismatch .map

/-- The declared types of a schema. -/
def asTypes : Json → Except Mismatch (OrderedMap TypeDecl)
  | .object ms => asMapOf asType OrderedMap.empty ms
  | v => v.mismatch .map

/-- A schema declaration with the members of an object. -/
def asSchemaMembers (seen : Bool) (d : SchemaDecl) :
    List (String × Json) → Except Mismatch SchemaDecl
  | [] => .ok d
  | (k, v) :: ms =>
    if k = "types" then
      if seen then .error (.duplicateKey "types")
      else do
        let types ← v.asTypes
        asSchemaMembers true ⟨types⟩ ms
    else asSchemaMembers seen d ms

/-- A schema declaration. -/
def asSchemaDecl : Json → Except Mismatch SchemaDecl
  | .object ms => asSchemaMembers false SchemaDecl.empty ms
  | .array [] => .ok SchemaDecl.empty
  | .array (v :: more) => do
    let types ← v.asTypes
    if more.isEmpty then return ⟨types⟩ else .error (.tooLong (more.length + 1))
  | v => v.mismatch .schemaDecl

end Json

/-- The problem that a mismatch is. -/
def SchemaProblem.ofMismatch (m : Mismatch) : SchemaProblem := .undecodable m.message

/-- The schema that a JSON value declares. -/
def Schema.ofJson (v : Json) : Except SchemaProblems Schema :=
  match v.asSchemaDecl with
  | .ok d => d.resolve
  | .error m => .error (.single (.ofMismatch m))

end RequestContract
