import FixBindings.Document.Display
import FixBindings.Files.Path
import FixBindings.Text.Utf8

/-!
# File trees

A file tree maps locations, which are lists of names from the root, to files and directories.
Paths are looked up from a working directory, name by name, so `..` needs a directory to leave.
Reading, writing and making directories fail as an operating system lets them fail, and a failure
leaves the tree as it is.
-/

set_option autoImplicit false

namespace FixBindings

/-- The names on the way from the root. -/
abbrev Location := List String

/-- What lies at a location. -/
inductive Entry where
  | directory
  | file (octets : List UInt8)
deriving Repr, DecidableEq, Inhabited

/-- Files and directories.  The root is always there. -/
structure FileTree where
  /-- The directory that relative paths start from. -/
  working : Location
  entries : List (Location × Entry)
deriving Repr, DecidableEq, Inhabited

/-- Why a file operation fails. -/
inductive FileFault where
  | notFound (path : String)
  | exists (path : String)
  | notDirectory (path : String)
  | isDirectory (path : String)
  | nameTooLong (path : String)
  /-- A path to a directory holds the character NUL. -/
  | nulInDirectory
  /-- A path to a file holds the character NUL. -/
  | nulInFile
deriving Repr, DecidableEq

/-- The text of a fault. -/
def FileFault.message : FileFault → String
  | .notFound path => "[Errno 2] No such file or directory: " ++ Quoted.text path
  | .exists path => "[Errno 17] File exists: " ++ Quoted.text path
  | .notDirectory path => "[Errno 20] Not a directory: " ++ Quoted.text path
  | .isDirectory path => "[Errno 21] Is a directory: " ++ Quoted.text path
  | .nameTooLong path => "[Errno 36] File name too long: " ++ Quoted.text path
  | .nulInDirectory => "embedded null character in path"
  | .nulInFile => "embedded null byte"

namespace FileTree

/-- The most octets of a name. -/
def maxName : Nat := 255

/-- The number of octets that no path reaches. -/
def maxPath : Nat := 4096

/-- What lies at a location. -/
def entry? (t : FileTree) (location : Location) : Option Entry :=
  if location.isEmpty then some .directory else t.entries.lookup location

/-- Puts something at a location. -/
def put (t : FileTree) (location : Location) (entry : Entry) : FileTree :=
  if t.entries.any (·.1 == location) then
    { t with entries := t.entries.map fun e => if e.1 == location then (e.1, entry) else e }
  else { t with entries := t.entries ++ [(location, entry)] }

/-- The location that a name leads to from a directory. -/
def enter (location : Location) (name : String) : Location :=
  if name == ".." then location.dropLast else location ++ [name]

/-- The tree that holds a working directory, with the directories on the way to it. -/
def ofWorking (working : Location) : FileTree :=
  let depths := List.range working.length
  { working, entries := depths.map fun n => (working.take (n + 1), .directory) }

/-- Puts something at the end of a path, with directories on the way where nothing lies. -/
def plant (t : FileTree) (p : Path) (entry : Entry) : FileTree :=
  let (t, location) := p.names.foldl
    (fun (t, location) name =>
      let t := if (t.entry? location).isNone then t.put location .directory else t
      (t, enter location name)) (t, if p.isAbsolute then [] else t.working)
  t.put location entry

/-- Follows names from a location, all of which have to lead to directories but for the last,
which may lead anywhere. -/
def follow (t : FileTree) (path : String) : Location → List String → Except FileFault Location
  | location, [] => .ok location
  | location, name :: rest =>
    match t.entry? location with
    | none => .error (.notFound path)
    | some (.file _) => .error (.notDirectory path)
    | some .directory =>
      if maxName < name.utf8ByteSize then .error (.nameTooLong path)
      else follow t path (enter location name) rest

/-- The location of a path. -/
def locate (t : FileTree) (p : Path) : Except FileFault Location :=
  if maxPath ≤ p.text.utf8ByteSize then .error (.nameTooLong p.text)
  else t.follow p.text (if p.isAbsolute then [] else t.working) p.names

/-- Whether a path holds the character NUL. -/
def holdsNul (p : Path) : Bool := p.text.toList.contains '\x00'

/-- The content of a file. -/
def read (t : FileTree) (p : Path) : Except FileFault (List UInt8) := do
  if holdsNul p then throw .nulInFile
  match t.entry? (← t.locate p) with
  | none => throw (.notFound p.text)
  | some .directory => throw (.isDirectory p.text)
  | some (.file octets) => return octets

/-- Writes a file, in the place of one that is there. -/
def write (t : FileTree) (p : Path) (octets : List UInt8) : Except FileFault FileTree := do
  if holdsNul p then throw .nulInFile
  let location ← t.locate p
  match t.entry? location with
  | some .directory => throw (.isDirectory p.text)
  | _ => return t.put location (.file octets)

/-- Makes one directory. -/
def makeDirectory (t : FileTree) (p : Path) : Except FileFault FileTree := do
  if holdsNul p then throw .nulInDirectory
  let location ← t.locate p
  match t.entry? location with
  | some _ => throw (.exists p.text)
  | none => return t.put location .directory

/-- Whether a path leads to a directory; a name that is too long is a fault. -/
def isDirectory (t : FileTree) (p : Path) : Except FileFault Bool :=
  match t.locate p with
  | .ok location => .ok (t.entry? location == some .directory)
  | .error (.nameTooLong path) => .error (.nameTooLong path)
  | .error _ => .ok false

/-- Makes a directory unless it is there. -/
def ensureOne (t : FileTree) (p : Path) : Except FileFault FileTree :=
  match t.makeDirectory p with
  | .ok t => .ok t
  | .error .nulInDirectory => .error .nulInDirectory
  | .error (.notFound path) => .error (.notFound path)
  | .error fault =>
    match t.isDirectory p with
    | .ok true => .ok t
    | .ok false => .error fault
    | .error other => .error other

/-- Makes a directory with the directories on the way to it, as far as they are missing.  What was
made before a fault stays. -/
def ensureDirectory (t : FileTree) (p : Path) : FileTree × Option FileFault :=
  match t.ensureOne p with
  | .ok t => (t, none)
  | .error (.notFound path) =>
    if 0 < p.names.length then
      match t.ensureDirectory p.parent with
      | (t, some fault) => (t, some fault)
      | (t, none) =>
        match t.ensureOne p with
        | .ok t => (t, none)
        | .error fault => (t, some fault)
    else (t, some (.notFound path))
  | .error fault => (t, some fault)
termination_by p.names.length
decreasing_by simp [Path.parent]; omega

/-- All files with their content, without the directories. -/
def files (t : FileTree) : List (Location × List UInt8) :=
  t.entries.filterMap fun e =>
    match e.2 with
    | .file octets => some (e.1, octets)
    | .directory => none

end FileTree
end FixBindings
