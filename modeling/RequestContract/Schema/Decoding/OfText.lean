import RequestContract.Json.Cut
import RequestContract.Schema.Decoding.Attribute
import RequestContract.Schema.Resolution

/-!
# Decoding JSON texts

A declaration is decoded from a text while the text is read: what does not fit is reported before a
fault further on. The walk goes over the draft of the text in its order. A list that is over before
its text says so, because it should have had no more elements, ends with `trailing characters`.
-/

namespace RequestContract

namespace Json.Draft

/-! ### Plain values -/

/-- The draft is not what is wanted: a fault of its own comes first. -/
def mismatch {α : Type} (d : Draft) (w : Wanted) : Except Mismatch α :=
  match d with
  | .null => .error (.wrongKind .null w)
  | .bool b => .error (.wrongKind (.boolean b) w)
  | .number l =>
    match l.value with
    | .ok n => .error (.wrongKind (.ofNumber n) w)
    | .error f => .error (.fault f)
  | .string l =>
    match l.value with
    | .ok s => .error (.wrongKind (.string s) w)
    | .error f => .error (.fault f)
  | .array _ _ => .error (.wrongKind .sequence w)
  | .object _ _ => .error (.wrongKind .map w)
  | .fault f => .error (.fault f)

/-- The value of a string literal. -/
def literalText (l : StringLiteral) : Except Mismatch String := l.value.mapError .fault

/-- The value of a number literal. -/
def literalNumber (l : NumberLiteral) : Except Mismatch Number := l.value.mapError .fault

/-- The end of what is decoded to its end. -/
def ending (e : Option Fault) : Except Mismatch Unit := (endOk e).mapError .fault

/-- The end of a list of which nothing more is wanted. -/
def closing (more : List Draft) (e : Option Fault) : Except Mismatch Unit :=
  match more, e with
  | [], none => .ok ()
  | [], some .expectedCommaOrBracket => .error (.fault .trailingCharacters)
  | [], some f => .error (.fault f)
  | _ :: _, _ => .error (.fault .trailingCharacters)

/-- A string. -/
def asString : Draft → Except Mismatch String
  | .string l => literalText l
  | d => d.mismatch .string

/-- A boolean. -/
def asBool : Draft → Except Mismatch Bool
  | .bool b => .ok b
  | d => d.mismatch .boolean

/-- A number. -/
def asDouble : Draft → Except Mismatch Double
  | .number l => Number.toDouble <$> literalNumber l
  | d => d.mismatch .number

/-- A size. -/
def asSize : Draft → Except Mismatch UInt64
  | .number l => do
    let n ← literalNumber l
    sizeOfNumber n
  | d => d.mismatch .size

/-- The values of items up to the end of the list. -/
def asItems {α : Type} (f : Draft → Except Mismatch α) (e : Option Fault) :
    List Draft → Except Mismatch (List α)
  | [] => (fun _ => []) <$> ending e
  | d :: ds => do
    let x ← f d
    let xs ← asItems f e ds
    return x :: xs

/-- A list of values that `f` decodes. -/
def asListOf {α : Type} (f : Draft → Except Mismatch α) : Draft → Except Mismatch (List α)
  | .array items e => asItems f e items
  | d => d.mismatch .sequence

/-- A value that `f` decodes, or `null`. -/
def asOptional {α : Type} (f : Draft → Except Mismatch α) : Draft → Except Mismatch (Option α)
  | .null => .ok none
  | d => some <$> f d

/-- A list of the two ends of a range. -/
def asRange : Draft → Except Mismatch Range
  | .array [] e => do
    ending e
    .error (.tooShort 0 Wanted.pair.text)
  | .array [a] e => do
    let _ ← a.asDouble
    ending e
    .error (.tooShort 1 Wanted.pair.text)
  | .array (a :: b :: more) e => do
    let min ← a.asDouble
    let max ← b.asDouble
    closing more e
    return ⟨min, max⟩
  | d => d.mismatch .pair

/-! ### Declarations -/

/-- A field declaration with the value of an attribute. -/
def asAttribute (a : Attribute) (f : FieldDecl) (d : Draft) : Except Mismatch FieldDecl :=
  match a with
  | .type => (fun x => { f with typeText := x }) <$> d.asString
  | .required => (fun x => { f with required := x }) <$> d.asBool
  | .values => (fun x => { f with values := x }) <$> d.asOptional (asListOf asString)
  | .range => (fun x => { f with range := x }) <$> d.asOptional asRange
  | .isUrl => (fun x => { f with isUrl := x }) <$> d.asBool
  | .startsWith => (fun x => { f with startsWith := x }) <$> d.asOptional asString
  | .length => (fun x => { f with length := x }) <$> d.asOptional asSize
  | .arrayLengths => (fun x => { f with arrayLengths := x }) <$> d.asOptional (asListOf asSize)

/-- A field declaration with the attributes of an object. -/
def asAttributes (e : Option Fault) (p : PartialField) :
    List (StringLiteral × Draft) → Except Mismatch PartialField
  | [] => (fun _ => p) <$> ending e
  | (l, d) :: ms => do
    let k ← literalText l
    let a ← p.claim k
    let f ← asAttribute a p.field d
    asAttributes e (p.give a f) ms

/-- A field declaration with the values of attributes in order, and the items left over. -/
def asAttributeList (f : FieldDecl) :
    List Attribute → List Draft → Except Mismatch (FieldDecl × List Draft)
  | _, [] => .ok (f, [])
  | [], d :: ds => .ok (f, d :: ds)
  | a :: as, d :: ds => do
    let f ← asAttribute a f d
    asAttributeList f as ds

/-- A field declaration. -/
def asField : Draft → Except Mismatch FieldDecl
  | .object ms e => do
    let p ← asAttributes e PartialField.start ms
    p.finish
  | .array [] e => do
    ending e
    .error (.tooShort 0 fieldListWanted)
  | .array items e => do
    let (f, more) ← asAttributeList (FieldDecl.ofType "") Attribute.all items
    if items.length < Attribute.all.length then ending e else closing more e
    return f
  | d => d.mismatch .fieldDecl

/-- The map of the members, each decoded by `f`; of the values under one key the last counts. -/
def asMapOf {α : Type} (f : Draft → Except Mismatch α) (e : Option Fault) (m : OrderedMap α) :
    List (StringLiteral × Draft) → Except Mismatch (OrderedMap α)
  | [] => (fun _ => m) <$> ending e
  | (l, d) :: ms => do
    let k ← literalText l
    let x ← f d
    asMapOf f e (m.insert k x) ms

/-- A type declaration. -/
def asType : Draft → Except Mismatch TypeDecl
  | .object ms e => asMapOf asField e OrderedMap.empty ms
  | d => d.mismatch .map

/-- The declared types of a schema. -/
def asTypes : Draft → Except Mismatch (OrderedMap TypeDecl)
  | .object ms e => asMapOf asType e OrderedMap.empty ms
  | d => d.mismatch .map

/-- Passes over a value. -/
def skip (d : Draft) : Except Mismatch Unit :=
  match d.skipFault with
  | none => .ok ()
  | some f => .error (.skippedFault f)

/-- A schema declaration with the members of an object. -/
def asSchemaMembers (e : Option Fault) (seen : Bool) (s : SchemaDecl) :
    List (StringLiteral × Draft) → Except Mismatch SchemaDecl
  | [] => (fun _ => s) <$> ending e
  | (l, d) :: ms => do
    let k ← literalText l
    if k = "types" then
      if seen then .error (.duplicateKey "types")
      else
        let types ← d.asTypes
        asSchemaMembers e true ⟨types⟩ ms
    else
      d.skip
      asSchemaMembers e seen s ms

/-- A schema declaration. -/
def asSchemaDecl : Draft → Except Mismatch SchemaDecl
  | .object ms e => asSchemaMembers e false SchemaDecl.empty ms
  | .array [] e => (fun _ => SchemaDecl.empty) <$> ending e
  | .array (d :: more) e => do
    let types ← d.asTypes
    closing more e
    return ⟨types⟩
  | d => d.mismatch .schemaDecl

end Json.Draft

/-- The declaration that a text writes. -/
def SchemaDecl.ofText (text : String) : Except Mismatch SchemaDecl := do
  let doc := Json.Document.ofText text
  let d ← doc.draft.asSchemaDecl
  Json.Draft.ending doc.ending
  return d

/-- The schema that a text declares. -/
def Schema.ofText (text : String) : Except SchemaProblems Schema :=
  match SchemaDecl.ofText text with
  | .ok d => d.resolve
  | .error m => .error (.single (.undecodable m.message))

end RequestContract
