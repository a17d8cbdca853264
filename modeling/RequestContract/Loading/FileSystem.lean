import RequestContract.Loading.FilePath

/-!
# File systems

All that loading asks of a file system: the files of a directory and the text of a file, or the
reason why there is none.
-/

namespace RequestContract

/-- Access to files. -/
structure FileSystem where
  /-- The paths of a directory, in any order. -/
  list : FilePath → Except String (List FilePath)
  /-- The text of a file. -/
  read : FilePath → Except String String

/-- A file with what reading it gives. -/
structure ListedFile where
  /-- The path of the file. -/
  path : FilePath
  /-- The text, or why it cannot be read. -/
  content : Except String String

/-- The file system whose directories all hold the same files. Of files with one path the first is
read. -/
def FileSystem.ofFiles (files : List ListedFile) : FileSystem where
  list _ := .ok (files.map ListedFile.path)
  read p :=
    match files.find? fun f => f.path = p with
    | some f => f.content
    | none => .error ("File not found: " ++ p.render)

/-- The file system whose directories cannot be listed. -/
def FileSystem.unlistable (reason : String) (files : List ListedFile) : FileSystem :=
  { FileSystem.ofFiles files with list := fun _ => .error reason }

end RequestContract
