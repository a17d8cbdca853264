import RequestContract.Schema.Declaration
import RequestContract.Schema.Decoding.Mismatch

/-!
# Attributes of a declared field

The attributes that a field declaration can give, their keys in JSON and their order. While a
declaration is decoded, the attributes seen so far are kept, so that none is given twice and the
type is not left out.
-/

namespace RequestContract

/-- An attribute of a field declaration. -/
inductive Attribute where
  | type
  | required
  | values
  | range
  | isUrl
  | startsWith
  | length
  | arrayLengths
deriving DecidableEq

namespace Attribute

/-- The attributes in order. A field written as a list gives them in this order. -/
def all : List Attribute :=
  [type, required, values, range, isUrl, startsWith, length, arrayLengths]

/-- The key of an attribute. -/
def key : Attribute → String
  | type => "type"
  | required => "required"
  | values => "values"
  | range => "range"
  | isUrl => "isURL"
  | startsWith => "startsWith"
  | length => "length"
  | arrayLengths => "arrayLengths"

/-- The keys of an attribute, the one that is written first. -/
def keys : Attribute → List String
  | isUrl => ["isURL", "isUrl"]
  | a => [a.key]

/-- All keys in order. -/
def allKeys : List String := all.flatMap keys

/-- The attribute of a key. -/
def ofKey? (k : String) : Option Attribute := all.find? fun a => a.keys.contains k

theorem mem_all (a : Attribute) : a ∈ all := by cases a <;> decide

@[simp] theorem ofKey?_key (a : Attribute) : ofKey? a.key = some a := by cases a <;> decide

end Attribute

/-- A field declaration that is being decoded. -/
structure PartialField where
  /-- The attributes given so far. -/
  seen : List Attribute
  /-- The declaration that they make; what has not been given has its default. -/
  field : FieldDecl

namespace PartialField

/-- Nothing given yet. -/
def start : PartialField := ⟨[], FieldDecl.ofType ""⟩

/-- The attribute of a key, unless it is unknown or has been given. -/
def claim (p : PartialField) (key : String) : Except Mismatch Attribute :=
  match Attribute.ofKey? key with
  | none => .error (.unknownKey key Attribute.allKeys)
  | some a => if p.seen.contains a then .error (.duplicateKey a.key) else .ok a

/-- Adds an attribute with the declaration that it leads to. -/
def give (p : PartialField) (a : Attribute) (field : FieldDecl) : PartialField :=
  ⟨a :: p.seen, field⟩

/-- The whole declaration, if the type has been given. -/
def finish (p : PartialField) : Except Mismatch FieldDecl :=
  if p.seen.contains .type then .ok p.field else .error (.missingKey Attribute.type.key)

end PartialField

/-- The wording of what a list with the attributes of a field is short of. -/
def fieldListWanted : String := Wanted.fieldDecl.text ++ " with 8 elements"

/-- The size that a number gives. -/
def sizeOfNumber (n : Json.Number) : Except Mismatch UInt64 :=
  match n with
  | .integer i =>
    if 0 ≤ i ∧ i < UInt64.size then .ok (UInt64.ofNat i.toNat) else .error (.wrongInteger i .size)
  | .real x => .error (.wrongKind (.real x) .size)

end RequestContract
