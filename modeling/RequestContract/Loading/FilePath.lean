import RequestContract.Text.Utf8

/-!
# File paths

A file path is a sequence of bytes. What it names are its parts, the pieces between slashes: empty
pieces do not count, and a single point counts only in front. Paths are ordered by their parts, not
by their bytes, so that what lies in a directory stands together.
-/

namespace RequestContract

/-- Compares lists element by element; a list comes before its continuations. -/
def compareLists {α : Type} (cmp : α → α → Ordering) : List α → List α → Ordering
  | [], [] => .eq
  | [], _ :: _ => .lt
  | _ :: _, [] => .gt
  | a :: as, b :: bs => (cmp a b).then (compareLists cmp as bs)

/-- A part of a path. -/
inductive FilePath.Part where
  /-- The slash in front. -/
  | root
  /-- A point in front: the directory at hand. -/
  | current
  /-- Two points: the directory above. -/
  | parent
  | name (bytes : List UInt8)
deriving DecidableEq

namespace FilePath.Part

/-- The place of the kind of a part in the order. -/
def rank : Part → Nat
  | root => 0
  | current => 1
  | parent => 2
  | name _ => 3

/-- The order of parts: by kind, and names by their bytes. -/
def cmp : Part → Part → Ordering
  | name a, name b => compareLists compare a b
  | a, b => compare a.rank b.rank

end FilePath.Part

/-- A path of a file. -/
structure FilePath where
  /-- The bytes of the path. -/
  bytes : List UInt8
deriving DecidableEq

namespace FilePath

/-- The byte between parts. -/
def slash : UInt8 := 47

/-- The byte in front of an extension. -/
def point : UInt8 := 46

/-- The path that a text writes. -/
def ofText (text : String) : FilePath := ⟨Text.toUtf8 text⟩

/-- The path as a text. -/
def render (p : FilePath) : String := Text.ofUtf8Lossy p.bytes

/-- The pieces of bytes between slashes. -/
def splitSlashes : List UInt8 → List (List UInt8)
  | [] => [[]]
  | b :: bs =>
    if b = slash then [] :: splitSlashes bs
    else match splitSlashes bs with
      | [] => [[b]]
      | p :: ps => (b :: p) :: ps

/-- The part in front of the others that is no name. -/
def leadingParts (p : FilePath) : List Part :=
  if p.bytes.head? = some slash then [.root]
  else if (splitSlashes p.bytes).head? = some [point] then [.current]
  else []

/-- The parts of a path. -/
def parts (p : FilePath) : List Part :=
  p.leadingParts ++ (splitSlashes p.bytes).filterMap fun piece =>
    if piece = [] ∨ piece = [point] then none
    else if piece = [point, point] then some .parent
    else some (.name piece)

/-- The order of paths. -/
def cmp (p q : FilePath) : Ordering := compareLists Part.cmp p.parts q.parts

/-- The name of the file, if the path ends in a name. -/
def fileName? (p : FilePath) : Option (List UInt8) :=
  match p.parts.getLast? with
  | some (.name n) => some n
  | _ => none

/-- What stands in front of the last point of a name and what stands after it. Nothing is split off
when the only point stands in front. -/
def splitName (name : List UInt8) : List UInt8 × Option (List UInt8) :=
  let after := (name.reverse.takeWhile (· != point)).reverse
  let before := name.take (name.length - after.length - 1)
  if after.length = name.length ∨ before = [] then (name, none) else (before, some after)

/-- The name of the file without its extension. -/
def stem? (p : FilePath) : Option (List UInt8) := p.fileName?.map fun n => (splitName n).1

/-- The extension of the file. -/
def extension? (p : FilePath) : Option (List UInt8) := p.fileName?.bind fun n => (splitName n).2

/-- The path of a file in a directory. -/
def join (p : FilePath) (name : List UInt8) : FilePath :=
  if p.bytes = [] ∨ p.bytes.getLast? = some slash then ⟨p.bytes ++ name⟩
  else ⟨p.bytes ++ slash :: name⟩

end FilePath

end RequestContract
