import RequestContract.Loading.FileSystem
import RequestContract.Registry.Shared
import RequestContract.Schema.Decoding.OfText

/-!
# Loading schemas from files

Each file of a directory with the extension `json` holds a schema, which is registered under the
name of the file without the extension. The files are taken in the order of their paths. A file that
fails does not keep the others from loading; all failures are reported together, each with the first
stage at which the file failed.
-/

namespace RequestContract

/-- Why a file has not been loaded. -/
inductive FailureCause where
  /-- The name of the file is no text. -/
  | fileName
  /-- The file cannot be read. -/
  | unreadable (reason : String)
  /-- The text does not decode to a declaration. -/
  | undecodable (mismatch : Mismatch)
  /-- The declaration makes no schema. -/
  | rejected (problems : SchemaProblems)
  /-- The schema cannot be registered. -/
  | unregistered (problem : RegistryProblem)

/-- A file that has not been loaded. -/
structure FileFailure where
  /-- The path of the file. -/
  path : FilePath
  /-- Why it has not been loaded. -/
  cause : FailureCause

/-- The wording of a failure. -/
def FileFailure.message (f : FileFailure) : String :=
  match f.cause with
  | .fileName => "Invalid filename: " ++ f.path.render
  | .unreadable r => "IO error reading " ++ f.path.render ++ ": " ++ r
  | .undecodable m => "Parse error in " ++ f.path.render ++ ": " ++ m.message
  | .rejected ps => "Schema error in " ++ f.path.render ++ ": " ++ SchemaProblems.message ps
  | .unregistered p => "Registry error in " ++ f.path.render ++ ": " ++ p.message

/-- Why loading a directory fails. -/
inductive LoadError where
  /-- The directory cannot be listed. -/
  | unlisted (dir : FilePath) (reason : String)
  /-- Some files have not been loaded. -/
  | failed (failures : NonEmptyList FileFailure)

/-- The wording of an error. -/
def LoadError.message : LoadError → String
  | unlisted dir r => "IO error reading " ++ dir.render ++ ": " ++ r
  | failed fs => toString fs.size ++ " schema file(s) failed to load"

/-- Whether a file is to be loaded. -/
def isSchemaFile (p : FilePath) : Bool := p.extension? = some (Text.toUtf8 "json")

/-- The files to be loaded, in the order of their paths. -/
def schemaFiles (files : List FilePath) : List FilePath :=
  (files.filter isSchemaFile).mergeSort fun p q => p.cmp q != .gt

/-- The name and the schema of a file. -/
def readSchemaFile (fs : FileSystem) (p : FilePath) : Except FailureCause (String × Schema) :=
  match p.stem?.bind Text.ofUtf8? with
  | none => .error .fileName
  | some name =>
    match fs.read p with
    | .error r => .error (.unreadable r)
    | .ok text =>
      match SchemaDecl.ofText text with
      | .error m => .error (.undecodable m)
      | .ok d =>
        match d.resolve with
        | .error ps => .error (.rejected ps)
        | .ok s => .ok (name, s)

/-- What has come of files. -/
structure Tally where
  /-- How many have been loaded. -/
  loaded : Nat
  /-- The failures of the others, in order. -/
  failures : List FileFailure

/-- Counts a file in front of the others. -/
def Tally.count (t : Tally) (p : FilePath) : Except FailureCause Unit → Tally
  | .ok () => { t with loaded := t.loaded + 1 }
  | .error c => { t with failures := ⟨p, c⟩ :: t.failures }

namespace Registry

/-- Loads a file, and gives the registry after that. -/
def loadFile (r : Registry) (o : Options) (fs : FileSystem) (p : FilePath) :
    Except FailureCause Unit × Registry :=
  match readSchemaFile fs p with
  | .error c => (.error c, r)
  | .ok (name, s) =>
    let (result, r') := r.register name ⟨s, o⟩
    (result.mapError .unregistered, r')

/-- Loads files one after the other: what has come of them, and the registry after them. -/
def loadFiles (r : Registry) (o : Options) (fs : FileSystem) : List FilePath → Tally × Registry
  | [] => (⟨0, []⟩, r)
  | p :: ps =>
    let (result, r') := r.loadFile o fs p
    let (tally, r'') := r'.loadFiles o fs ps
    (tally.count p result, r'')

/-- Loads a directory: the number of schemas or what has failed, and the registry after it. -/
def loadDirectory (r : Registry) (o : Options) (fs : FileSystem) (dir : FilePath) :
    Except LoadError Nat × Registry :=
  match fs.list dir with
  | .error reason => (.error (.unlisted dir reason), r)
  | .ok files =>
    let (tally, r') := r.loadFiles o fs (schemaFiles files)
    match NonEmptyList.ofList? tally.failures with
    | some failures => (.error (.failed failures), r')
    | none => (.ok tally.loaded, r')

end Registry

/-- Loads a directory through a handle, whose options the schemas get. -/
def SharedRegistry.loadDirectory (s : SharedRegistry) (handle : Nat) (fs : FileSystem)
    (dir : FilePath) : Except LoadError Nat × SharedRegistry :=
  let (result, r) := s.registry.loadDirectory (s.options handle) fs dir
  (result, { s with registry := r })

end RequestContract
