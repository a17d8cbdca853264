import RequestContract.OrderedMap
import RequestContract.Double.Basic

/-!
# Schema declarations

A schema as it is declared: named types, and for each their fields with a type text and what else
is asked of the values. Nothing is checked yet. Declarations are decoded from JSON or put together
step by step with the functions of this module.
-/

namespace RequestContract

/-- An interval of numbers, ends included. -/
structure Range where
  /-- The lower end. -/
  min : Double
  /-- The upper end. -/
  max : Double
deriving BEq

namespace Range

/-- Whether a number lies in the interval. -/
def contains (r : Range) (x : Double) : Bool := r.min.le x && x.le r.max

/-- Whether the lower end lies above the upper end. -/
def isInverted (r : Range) : Bool := r.max.lt r.min

end Range

/-- A field as it is declared. What is `none` has not been said. -/
structure FieldDecl where
  /-- The text of the type. -/
  typeText : String
  /-- Whether the field has to be there. -/
  required : Bool
  /-- The values of an enum. -/
  values : Option (List String)
  /-- The interval of a number. -/
  range : Option Range
  /-- Whether a string has to be an absolute URL. -/
  isUrl : Bool
  /-- The start of a string. -/
  startsWith : Option String
  /-- The number of characters of a string. -/
  length : Option UInt64
  /-- The number of elements of a list, the outermost list first. -/
  arrayLengths : Option (List UInt64)
deriving BEq, Inhabited

namespace FieldDecl

/-- An optional field of a type, with nothing else asked. -/
def ofType (typeText : String) : FieldDecl :=
  ⟨typeText, false, none, none, false, none, none, none⟩

/-- Makes the field required. -/
def require (f : FieldDecl) : FieldDecl := { f with required := true }

/-- Sets the values of an enum. -/
def withValues (f : FieldDecl) (values : List String) : FieldDecl :=
  { f with values := some values }

/-- Sets the interval of a number. -/
def withRange (f : FieldDecl) (min max : Double) : FieldDecl :=
  { f with range := some ⟨min, max⟩ }

/-- Asks for an absolute URL. -/
def requireUrl (f : FieldDecl) : FieldDecl := { f with isUrl := true }

/-- Sets the start of a string. -/
def withStart (f : FieldDecl) (start : String) : FieldDecl := { f with startsWith := some start }

/-- Sets the number of characters of a string. -/
def withLength (f : FieldDecl) (n : UInt64) : FieldDecl := { f with length := some n }

/-- Sets the numbers of elements of a list, depth by depth. -/
def withArrayLengths (f : FieldDecl) (ns : List UInt64) : FieldDecl :=
  { f with arrayLengths := some ns }

end FieldDecl

/-- The declared fields of a type, in order. -/
abbrev TypeDecl := OrderedMap FieldDecl

/-- The declared types, in order. -/
structure SchemaDecl where
  /-- The types by name. -/
  types : OrderedMap TypeDecl
deriving BEq, Inhabited

namespace SchemaDecl

/-- The declaration of no type. -/
def empty : SchemaDecl := ⟨OrderedMap.empty⟩

/-- Declares a type, in place of an earlier one of the name. -/
def withType (d : SchemaDecl) (name : String) (type : TypeDecl) : SchemaDecl :=
  ⟨d.types.insert name type⟩

end SchemaDecl

end RequestContract
