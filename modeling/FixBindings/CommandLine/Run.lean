import FixBindings.CommandLine.Arguments
import FixBindings.Generation
import FixBindings.Loading

/-!
# Runs of the program

A run of the program reads its arguments, loads the repository, generates its classes, and tells
what it wrote.  What is wrong with the arguments, the options or the source is told to the user.
Other faults are those of the system, or of a document beyond what is checked.
-/

set_option autoImplicit false

namespace FixBindings
namespace CommandLine

/-- What a run of the program tells, and the status it ends with. -/
structure Outcome where
  status : Nat := 0
  output : String := ""
  errors : String := ""
deriving Repr, DecidableEq, Inhabited

/-- A fault that the program does not handle. -/
inductive Failure where
  /-- The separator is joined to an option as its value. -/
  | separatorValue
  | load (fault : LoadFault)
  | generation (fault : RunFault)

/-- The text of a failure. -/
def Failure.message : Failure → String
  | .separatorValue => "not enough values to unpack (expected 1, got 0)"
  | .load fault => fault.message
  | .generation fault => fault.message

/-- The status of a run that a fault ends. -/
def faultStatus : Nat := 1

/-- The status of a run whose arguments are refused. -/
def usageStatus : Nat := 2

/-- The outcome of a fault that is told to the user. -/
def Outcome.ofFault (message : String) : Outcome :=
  { status := faultStatus, errors := "error: " ++ message ++ "\n" }

/-- Whether a fault of a source is told to the user. -/
def isToldSource : SourceFault → Bool
  | .xml _ => true
  | .orchestra (.document _) => false
  | .orchestra _ => true
  | .yaml (.malformed _) => true
  | .yaml _ => false
  | .json (.malformed ..) => true
  | .json _ => false
  | .document (.format _) => true
  | .document (.document _) => false

/-- Whether a fault of loading is told to the user. -/
def isToldLoad : LoadFault → Bool
  | .notFound _ => true
  | .file (.notFound _) => true
  | .file _ => false
  | .encoding _ => false
  | .unsupported _ => true
  | .source _ fault => isToldSource fault

/-- Lines of a text, each with its end. -/
def lines (ls : List String) : String := String.join (ls.map (· ++ "\n"))

/-- The numbers of artifacts, in order of their kinds. -/
def sortedCounts (r : Report) : List (String × Nat) :=
  r.counts.mergeSort fun a b => !decide (b.1 < a.1)

/-- The name of what is generated: the version of the repository, or its name if it has none. -/
def subject (r : Report) : String :=
  if r.version.isEmpty then r.repositoryName.display else r.version

/-- The text of a report. -/
def reportText (r : Report) : String :=
  lines <|
    ["Generated " ++ toString r.total ++ " files for " ++ subject r ++ " into " ++ r.output.text]
      ++ (sortedCounts r).map (fun (kind, n) => "  " ++ kind ++ ": " ++ toString n)
      ++ (if r.warnings.isEmpty then []
        else ("Warnings (" ++ toString r.warnings.length ++ "):")
          :: r.warnings.map fun warning => "  - " ++ warning)

/-- How to use the program. -/
def helpText : String :=
  lines <|
    ["usage: " ++ programName ++ " [options]", "",
      "Generate QuickFIX/J message classes from a FIX Orchestra repository", "", "options:"]
      ++ Setting.all.flatMap fun s =>
        ["  " ++ ", ".intercalate s.names, "      " ++ s.description]

/-- Generates the classes of the repository that the arguments name. -/
def generate (t : FileTree) (source : Path) (a : Arguments) :
    FileTree × Except Failure Outcome :=
  match Options.ofSwitches a.switches with
  | .error fault => (t, .ok (.ofFault fault.message))
  | .ok options =>
    match Repository.load t source with
    | .error fault =>
      (t, if isToldLoad fault then .ok (.ofFault fault.message) else .error (.load fault))
    | .ok repository =>
      match Generation.run t repository a.output options {} with
      | (t, .error fault) => (t, .error (.generation fault))
      | (t, .ok report) => (t, .ok { output := reportText report })

/-- Runs the program. -/
def run (t : FileTree) (arguments : List String) : FileTree × Except Failure Outcome :=
  match readArguments arguments with
  | .error .help => (t, .ok { output := helpText })
  | .error .separatorValue => (t, .error .separatorValue)
  | .error (.usage fault) =>
    (t, .ok { status := usageStatus, errors := programName ++ ": error: " ++ fault.message ++ "\n" })
  | .ok (source, a) => generate t source a

end CommandLine
end FixBindings
