import FixBindings.CommandLine.Run

/-!
# The program

Reads the repository file that the arguments name, runs the program on it, and writes the files
that it made and what it tells.
-/

set_option autoImplicit false

open FixBindings

/-- The tree of the working directory with the file at a path, as far as it can be read. -/
def surroundings (source : Path) : IO FileTree := do
  let directory ← IO.currentDir
  let t := FileTree.ofWorking (Path.ofText directory.toString).names
  try
    return t.plant source (.file (← IO.FS.readBinFile source.text).toList)
  catch _ =>
    try
      let _ ← (directory / source.text).readDir
      return t.plant source .directory
    catch _ => return t

/-- Writes the files of a tree that were not there before. -/
def writeNew (before after : FileTree) : IO Unit := do
  for (location, octets) in after.files do
    if !before.files.contains (location, octets) then
      IO.FS.createDirAll ("/" ++ "/".intercalate location.dropLast)
      IO.FS.writeBinFile ("/" ++ "/".intercalate location) (ByteArray.mk octets.toArray)

/-- Runs the program. -/
def main (arguments : List String) : IO UInt32 := do
  let source :=
    match CommandLine.readArguments arguments with
    | .ok (source, _) => source
    | .error _ => {}
  let before ← surroundings source
  let (after, result) := CommandLine.run before arguments
  writeNew before after
  match result with
  | .ok outcome =>
    IO.print outcome.output
    IO.eprint outcome.errors
    return UInt32.ofNat outcome.status
  | .error failure =>
    IO.eprintln failure.message
    return UInt32.ofNat CommandLine.faultStatus
