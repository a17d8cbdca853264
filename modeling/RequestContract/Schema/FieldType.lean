import RequestContract.Text.Blank
import RequestContract.Json.Basic

/-!
# Field types

The type of a field is one of the built-in types, a list of a type, or a reference to a type by its
name. It is written as a type text: a keyword, `array[...]` around a type text, or a name, with
blanks allowed around each of them. `FieldType.render` gives the canonical text, which has none.
-/

namespace RequestContract

/-- The built-in types of plain values. -/
inductive Primitive where
  | string
  | number
  | boolean
deriving DecidableEq

namespace Primitive

/-- The keyword of a primitive type. -/
def keyword : Primitive → String
  | string => "string"
  | number => "number"
  | boolean => "boolean"

/-- All primitive types. -/
def all : List Primitive := [string, number, boolean]

/-- Whether a value is of a primitive type. -/
def accepts : Primitive → Json → Bool
  | string, .string _ => true
  | number, .number _ => true
  | boolean, .bool _ => true
  | _, _ => false

end Primitive

/-- The type of a field. -/
inductive FieldType where
  /-- Any value. -/
  | any
  | primitive (p : Primitive)
  /-- A string out of a list of values. -/
  | enum
  /-- A list of values of one type. -/
  | array (element : FieldType)
  /-- An object of a declared type. -/
  | named (name : String)
deriving DecidableEq

namespace FieldType

/-! ### Structure -/

/-- Whether the type is a list type. -/
def isArray : FieldType → Bool
  | array _ => true
  | _ => false

/-- Whether the type is the enum type. -/
def isEnum : FieldType → Bool
  | enum => true
  | _ => false

/-- Whether the type is a primitive type. -/
def isPrimitive : FieldType → Bool
  | primitive _ => true
  | _ => false

/-- The type of the elements of a list type. -/
def element? : FieldType → Option FieldType
  | array t => some t
  | _ => none

/-- The type below all list types. -/
def innermost : FieldType → FieldType
  | array t => t.innermost
  | t => t

/-- How many list types are around the innermost type. -/
def depth : FieldType → Nat
  | array t => t.depth + 1
  | _ => 0

/-- The name that the type refers to. -/
def reference? (t : FieldType) : Option String :=
  match t.innermost with
  | named n => some n
  | _ => none

@[simp] theorem innermost_array (t : FieldType) : (array t).innermost = t.innermost := rfl

@[simp] theorem depth_array (t : FieldType) : (array t).depth = t.depth + 1 := rfl

@[simp] theorem reference?_array (t : FieldType) : (array t).reference? = t.reference? := rfl

@[simp] theorem reference?_named (n : String) : (named n).reference? = some n := rfl

/-! ### Type texts -/

/-- The names that no declared type may have. -/
def reservedNames : List String := ["any", "enum", "string", "number", "boolean", "array"]

/-- The start of the text of a list type. -/
def arrayOpening : List Char := ['a', 'r', 'r', 'a', 'y', '[']

/-- The built-in types that have a keyword, with it. -/
def keywords : List (List Char × FieldType) :=
  [("any".toList, any), ("string".toList, primitive .string), ("number".toList, primitive .number),
   ("boolean".toList, primitive .boolean), ("enum".toList, enum)]

/-- The characters of the canonical text. -/
def chars : FieldType → List Char
  | any => "any".toList
  | primitive p => p.keyword.toList
  | enum => "enum".toList
  | array t => arrayOpening ++ t.chars ++ [']']
  | named n => n.toList

/-- The canonical text. -/
def render (t : FieldType) : String := String.ofList t.chars

/-- Whether a text without blanks around it can be the name of a declared type. -/
def isName (cs : List Char) : Bool :=
  !cs.isEmpty && cs != "array".toList && !cs.contains '[' && !cs.contains ']'

/-- The text after a start, if it has that start. -/
def afterStart? : List Char → List Char → Option (List Char)
  | [], cs => some cs
  | _ :: _, [] => none
  | w :: ws, c :: cs => if c = w then afterStart? ws cs else none

theorem afterStart?_eq_some_iff {ws cs r : List Char} :
    afterStart? ws cs = some r ↔ cs = ws ++ r := by
  induction ws generalizing cs with
  | nil => simp [afterStart?]
  | cons w ws ih =>
    cases cs with
    | nil => simp [afterStart?]
    | cons c cs => by_cases h : c = w <;> simp [afterStart?, h, ih]

/-- The text between `array[` and `]`, if the first is there; `some none` if only the first is. -/
def arrayInside? (cs : List Char) : Option (Option (List Char)) :=
  (afterStart? arrayOpening cs).map fun r =>
    if r.getLast? = some ']' then some r.dropLast else none

theorem length_lt_of_arrayInside? {cs inner : List Char}
    (h : arrayInside? cs = some (some inner)) : inner.length < cs.length := by
  simp only [arrayInside?, Option.map_eq_some_iff] at h
  obtain ⟨r, hr, h⟩ := h
  split at h
  · cases h
    rw [afterStart?_eq_some_iff.1 hr]
    simp only [arrayOpening, List.length_dropLast, List.length_append, List.length_cons]
    omega
  · cases h

/-- The type that a text writes. -/
def ofChars? (cs : List Char) : Option FieldType :=
  let t := Text.trim cs
  match keywords.lookup t with
  | some k => some k
  | none =>
    match _h : arrayInside? t with
    | some (some inner) => (ofChars? inner).map array
    | some none => none
    | none => if isName t then some (named (String.ofList t)) else none
termination_by cs.length
decreasing_by exact Nat.lt_of_lt_of_le (length_lt_of_arrayInside? _h) (Text.length_trim_le cs)

/-- The type that a text writes. -/
def ofText? (text : String) : Option FieldType := ofChars? text.toList

end FieldType

end RequestContract
