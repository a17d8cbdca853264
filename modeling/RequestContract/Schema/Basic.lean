import RequestContract.Schema.FieldType
import RequestContract.Schema.Declaration

/-!
# Schemas

A schema is a set of record types by name; each field of a record has a resolved type and its
constraints. A constraint counts only for the values that it is about, so it does no harm on a field
of another type. Five names are those of the parts of a request, its categories.
-/

namespace RequestContract

/-- The parts of a request. -/
inductive Category where
  | body
  | cookies
  | headers
  | params
  | query
deriving DecidableEq

namespace Category

/-- The categories in the order in which they are checked. -/
def all : List Category := [body, cookies, headers, params, query]

/-- The name of a category, which is also that of its type. -/
def name : Category → String
  | body => "body"
  | cookies => "cookies"
  | headers => "headers"
  | params => "params"
  | query => "query"

theorem mem_all (c : Category) : c ∈ all := by cases c <;> decide

theorem name_injective {c d : Category} (h : c.name = d.name) : c = d := by
  cases c <;> cases d <;> simp_all [name]

end Category

/-- A field of a record type. -/
structure Field where
  /-- The type. -/
  type : FieldType
  /-- Whether the field has to be there. -/
  required : Bool
  /-- The values of an enum. -/
  values : Option (List String)
  /-- The interval of a number. -/
  range : Option Range
  /-- Whether a string has to be an absolute URL. -/
  isUrl : Bool
  /-- The start of a string. -/
  startsWith : Option String
  /-- The number of characters of a string. -/
  length : Option UInt64
  /-- The number of elements of a list, the outermost list first. -/
  arrayLengths : List UInt64
deriving BEq

namespace Field

/-- The field that a declaration describes, its type text being that of `type`. -/
def ofDecl (type : FieldType) (d : FieldDecl) : Field where
  type := type
  required := d.required
  values := d.values
  range := d.range
  isUrl := d.isUrl
  startsWith := d.startsWith
  length := d.length
  arrayLengths := d.arrayLengths.getD []

/-- What is asked of the elements of a list field: all that is asked of the list, at one list type
less. An element is never required. -/
def element? (f : Field) : Option Field :=
  f.type.element?.map fun t => { f with type := t, required := false }

/-- The values of an enum; none if none are given. -/
def allowedValues (f : Field) : List String := f.values.getD []

end Field

/-- The fields of a record, in the order of declaration. -/
abbrev RecordType := OrderedMap Field

namespace RecordType

/-- The names of the required fields in the order of declaration. -/
def requiredNames (r : RecordType) : List String :=
  (r.entries.filter fun e => e.2.required).map Prod.fst

end RecordType

/-- Record types by name. -/
structure Schema where
  /-- The types, in the order of declaration. -/
  types : OrderedMap RecordType
deriving BEq, Inhabited

namespace Schema

/-- The schema without types. -/
def empty : Schema := ⟨OrderedMap.empty⟩

/-- The type of a name. -/
def type? (s : Schema) (name : String) : Option RecordType := s.types.get? name

/-- The type of a category. -/
def root? (s : Schema) (c : Category) : Option RecordType := s.type? c.name

/-- The declared categories with their types, in the order in which they are checked. -/
def roots (s : Schema) : List (Category × RecordType) :=
  Category.all.filterMap fun c => (s.root? c).map (c, ·)

end Schema

end RequestContract
