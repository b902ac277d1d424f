import FixBindings.Artifact.Description
import FixBindings.Files.Tree
import FixBindings.Java.Source

/-!
# Generation runs

A run describes the classes of a repository, writes one file for each under the output directory,
in order, and sums up what it did.  A fault of a file ends the run and leaves what was written
before.
-/

set_option autoImplicit false

namespace FixBindings

/-- The summary of a generation run. -/
structure Report where
  repositoryName : Document
  version : String
  output : Path
  /-- The number of artifacts of each kind. -/
  counts : List (String × Nat) := []
  written : List Path := []
  applicationFields : Nat := 0
  sessionFields : Nat := 0
  warnings : List String := []
deriving Inhabited

namespace Report

/-- Adds a warning that is not there yet. -/
def warn (r : Report) (text : String) : Report :=
  { r with warnings := Ledger.add r.warnings text }

/-- Counts one more of a kind. -/
def countOne (kind : String) : List (String × Nat) → List (String × Nat)
  | [] => [(kind, 1)]
  | (k, n) :: rest => if k == kind then (k, n + 1) :: rest else (k, n) :: countOne kind rest

/-- Records a written file. -/
def wrote (r : Report) (kind : String) (path : Path) : Report :=
  { r with counts := countOne kind r.counts, written := r.written ++ [path] }

/-- The number of written files. -/
def total (r : Report) : Nat := r.written.length

end Report

/-- Why a generation run ends early. -/
inductive RunFault where
  /-- A name of the repository is no name. -/
  | naming (fault : DocumentFault)
  | file (fault : FileFault)
  | source (fault : Java.RenderFault)
deriving Repr, DecidableEq

/-- The text of a fault. -/
def RunFault.message : RunFault → String
  | .naming fault => fault.message
  | .file fault => fault.message
  | .source fault => fault.message

namespace Generation

/-- Writes the file of an artifact, with the directories on the way to it. -/
def writeFile (t : FileTree) (path : Path) (a : Artifact) : FileTree × Option RunFault :=
  match t.ensureDirectory path.parent with
  | (t, some fault) => (t, some (.file fault))
  | (t, none) =>
    match Java.render a with
    | .error fault => (t, some (.source fault))
    | .ok source =>
      match t.write path (Utf8.encode source) with
      | .error fault => (t, some (.file fault))
      | .ok t => (t, none)

/-- Writes the files of artifacts, in order. -/
def writeAll (output : Path) :
    FileTree → Report → List Artifact → FileTree × Except RunFault Report
  | t, report, [] => (t, .ok report)
  | t, report, a :: rest =>
    let path := a.path output
    match writeFile t path a with
    | (t, some fault) => (t, .error fault)
    | (t, none) => writeAll output t (report.wrote a.kindName path) rest

/-- Generates the classes of a repository. -/
def run (t : FileTree) (r : Repository) (output : Path) (options : Options)
    (layer : SessionLayer) : FileTree × Except RunFault Report :=
  match (describe options layer r).run [] with
  | (.error fault, _) => (t, .error (.naming fault))
  | (.ok description, diagnostics) =>
    let report : Report :=
      { repositoryName := r.name
        version := r.version
        output
        applicationFields := description.usage.application.length
        sessionFields := description.usage.session.length }
    match writeAll output t report description.artifacts with
    | (t, .error fault) => (t, .error fault)
    | (t, .ok report) => (t, .ok (diagnostics.foldl Report.warn report))

end Generation
end FixBindings
