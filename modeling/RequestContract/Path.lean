/-!
# Paths into a request

A path says where a value stands: a sequence of steps from the outside in, each the name of a
property or the position in a list. It is used as a stack, growing and shrinking at its inner end.
Written out, a name is set off by a point and a position stands in brackets; a name with a point in
it is put between quotes, and the point in front of the first name is dropped.
-/

namespace RequestContract

namespace Path

/-- One step of a path. -/
inductive Component where
  /-- Into the property of an object. -/
  | property (name : String)
  /-- To an element of a list. -/
  | index (i : Nat)
deriving DecidableEq

namespace Component

/-- Whether the step is a position. -/
def isIndex : Component → Bool
  | .property _ => false
  | .index _ => true

/-- The characters of a step. -/
def chars : Component → List Char
  | .property name =>
    if '.' ∈ name.toList then '.' :: '"' :: name.toList ++ ['"'] else '.' :: name.toList
  | .index i => '[' :: (toString i).toList ++ [']']

/-- The text of a step. -/
def render (c : Component) : String := String.ofList c.chars

@[simp] theorem isIndex_property (name : String) : (property name).isIndex = false := rfl

@[simp] theorem isIndex_index (i : Nat) : (index i).isIndex = true := rfl

end Component

end Path

/-- A sequence of steps from the outside in. -/
structure Path where
  /-- The steps, the outermost first. -/
  components : List Path.Component
deriving DecidableEq

/-- Taking more steps off a path than it has. -/
structure PathUnderflow where
  /-- How many steps were to be taken off. -/
  requested : Nat
  /-- How many there are. -/
  length : Nat
deriving DecidableEq

/-- The wording of an underflow. -/
def PathUnderflow.message (e : PathUnderflow) : String :=
  s!"cannot pop {e.requested} component(s) from a path of length {e.length}"

namespace Path

/-- The path without steps. -/
def root : Path := ⟨[]⟩

instance : Inhabited Path := ⟨root⟩

/-- The path of one property. -/
def ofProperty (name : String) : Path := ⟨[.property name]⟩

/-- The number of steps. -/
def length (p : Path) : Nat := p.components.length

/-- Whether there is no step. -/
def isEmpty (p : Path) : Bool := p.components.isEmpty

/-- The innermost step. -/
def last? (p : Path) : Option Component := p.components.getLast?

/-! ### As a stack -/

/-- One step further in. -/
def push (p : Path) (c : Component) : Path := ⟨p.components ++ [c]⟩

/-- Several steps further in. -/
def pushMany (p : Path) (cs : List Component) : Path := ⟨p.components ++ cs⟩

/-- At most the `n` outermost steps. -/
def truncate (p : Path) (n : Nat) : Path := ⟨p.components.take n⟩

/-- Takes the innermost step off: the step, and the path after that. -/
def pop (p : Path) : Except PathUnderflow Component × Path :=
  match p.components.getLast? with
  | some c => (.ok c, ⟨p.components.dropLast⟩)
  | none => (.error ⟨1, 0⟩, p)

/-- Takes the `n` innermost steps off: the steps, from the inside out, and the path after that. A
path with fewer steps keeps all of them. -/
def popMany (p : Path) (n : Nat) : Except PathUnderflow (List Component) × Path :=
  if p.length < n then (.error ⟨n, p.length⟩, p)
  else
    let kept := p.length - n
    (.ok (p.components.drop kept).reverse, p.truncate kept)

/-- Runs `act` one step further in, and comes back to where the path was before. -/
def within {α : Type} (p : Path) (c : Component) (act : Path → α × Path) : α × Path :=
  let (a, q) := act (p.push c)
  (a, q.truncate p.length)

/-- The positions at the inner end of a path, back to its last property. -/
def indexSuffix (p : Path) : Path :=
  ⟨(p.components.reverse.takeWhile Component.isIndex).reverse⟩

/-! ### As text -/

/-- A text without its first character if that is a point. -/
def dropPoint : List Char → List Char
  | '.' :: cs => cs
  | cs => cs

/-- The characters of a path. -/
def chars (p : Path) : List Char := dropPoint (p.components.flatMap Component.chars)

/-- The text of a path. -/
def render (p : Path) : String := String.ofList p.chars

/-! ### Laws -/

@[simp] theorem components_push (p : Path) (c : Component) :
    (p.push c).components = p.components ++ [c] := rfl

@[simp] theorem components_pushMany (p : Path) (cs : List Component) :
    (p.pushMany cs).components = p.components ++ cs := rfl

@[simp] theorem components_truncate (p : Path) (n : Nat) :
    (p.truncate n).components = p.components.take n := rfl

@[simp] theorem length_push (p : Path) (c : Component) : (p.push c).length = p.length + 1 := by
  simp [length]

@[simp] theorem truncate_push (p : Path) (c : Component) :
    (p.push c).truncate p.length = p := by
  simp [truncate, length]

end Path

end RequestContract
