import RequestContract.Loading.FileSystem

/-!
# Disks

A disk holds files and directories at places. A path leads from the outermost directory to a place,
name by name; two points lead one directory back. Writing a file first makes the directories along
its path, those that the path leaves again too. Where a file stands in the way of a directory, or a
directory in the way of a file, what stands there stays.
-/

namespace RequestContract

/-- What a place of a disk holds. -/
inductive DiskEntry where
  /-- A file with its bytes. -/
  | file (bytes : List UInt8)
  /-- A directory. -/
  | directory
deriving DecidableEq

/-- A place on a disk: the names that lead to it, the outermost first. -/
abbrev Place := List (List UInt8)

/-- The place that a part of a path leads to from another place. -/
def FilePath.Part.next (origin : Place) : FilePath.Part → Place
  | .root => []
  | .current => origin
  | .parent => origin.dropLast
  | .name n => origin ++ [n]

/-- The place that a path leads to. -/
def FilePath.place (p : FilePath) : Place := p.parts.foldl FilePath.Part.next []

/-- Files and directories at their places. -/
structure Disk where
  /-- What the places hold; of two entries for a place the first counts. -/
  entries : List (Place × DiskEntry)

namespace Disk

/-- The disk with the outermost directory only. -/
def empty : Disk := ⟨[([], .directory)]⟩

/-- What a place holds. -/
def get? (d : Disk) (place : Place) : Option DiskEntry := d.entries.lookup place

/-- Puts an entry at a place. -/
def put (d : Disk) (place : Place) (e : DiskEntry) : Disk :=
  ⟨(place, e) :: d.entries.filter fun x => x.1 != place⟩

/-! ### Writing -/

/-- Makes the directories that parts of a path lead to from a place, and gives the last of them,
unless a file stands in the way. -/
def makeDirectories (d : Disk) (origin : Place) : List FilePath.Part → Disk × Option Place
  | [] => (d, some origin)
  | part :: parts =>
    match d.get? (part.next origin) with
    | some .directory => d.makeDirectories (part.next origin) parts
    | some (.file _) => (d, none)
    | none => (d.put (part.next origin) .directory).makeDirectories (part.next origin) parts

/-- Makes the directory that a path leads to. -/
def makeDirectory (d : Disk) (p : FilePath) : Disk := (d.makeDirectories [] p.parts).1

/-- Writes a file, unless its path does not end in a name. -/
def writeFile (d : Disk) (p : FilePath) (bytes : List UInt8) : Disk :=
  match p.fileName? with
  | none => d
  | some n =>
    match d.makeDirectories [] p.parts.dropLast with
    | (d, none) => d
    | (d, some place) =>
      if d.get? (place ++ [n]) = some .directory then d else d.put (place ++ [n]) (.file bytes)

/-! ### Reading -/

/-- The message for a path that does not lead anywhere. -/
def notFoundText : String := "No such file or directory (os error 2)"

/-- The message for listing a file. -/
def notDirectoryText : String := "Not a directory (os error 20)"

/-- The message for reading a directory. -/
def isDirectoryText : String := "Is a directory (os error 21)"

/-- The message for a file that is no text. -/
def notUtf8Text : String := "stream did not contain valid UTF-8"

/-- What a path leads to; the path without bytes leads nowhere. -/
def find? (d : Disk) (p : FilePath) : Option DiskEntry :=
  if p.bytes = [] then none else d.get? p.place

/-- The names of what a directory holds. -/
def namesIn (d : Disk) (place : Place) : List (List UInt8) :=
  d.entries.filterMap fun x =>
    match x.1.getLast? with
    | some n => if x.1.dropLast = place then some n else none
    | none => none

/-- The disk as a file system. -/
def fileSystem (d : Disk) : FileSystem where
  list p :=
    match d.find? p with
    | some .directory => .ok ((d.namesIn p.place).map p.join)
    | some (.file _) => .error notDirectoryText
    | none => .error notFoundText
  read p :=
    match d.find? p with
    | some (.file bytes) =>
      match Text.ofUtf8? bytes with
      | some t => .ok t
      | none => .error notUtf8Text
    | some .directory => .error isDirectoryText
    | none => .error notFoundText

/-! ### Laws -/

@[simp] theorem get?_put_self (d : Disk) (place : Place) (e : DiskEntry) :
    (d.put place e).get? place = some e := by
  simp [get?, put]

end Disk

end RequestContract
