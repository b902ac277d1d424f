import FixBindings.Generation
import FixBindings.Schema.Codec
import FixBindings.Schema.Sample
import FixBindings.Yaml.Writer

/-!
# A walk through the stages

The sample repository on its way to generated classes, with a text that tells what each stage
yields: the repository, which is saved as YAML, the use of its fields, the layout of packages, and
the files generated under two sets of options.
-/

set_option autoImplicit false

namespace FixBindings
namespace Walkthrough

/-- The options of the walk, with their labels. -/
def settings : List (String × Options) :=
  [("default", default),
    ("exclude_session",
      ⟨{ excludeSession := true, dedicatedSession := false }, rfl⟩)]

/-- A heading between lines. -/
def heading (text : String) : List String :=
  let line := String.ofList (List.replicate 80 '=')
  [line, text, line]

/-- Names as a list. -/
def namesText (messages : List Message) : String :=
  (Document.seq (messages.map Message.name)).quoted

/-- Ids as a list. -/
def idsText (ids : List Int) : String := (Document.seq (ids.map .int)).quoted

/-- What is told of the repository. -/
def repositoryLines (r : Repository) : List String :=
  ["", "1. BUILDING REPOSITORY...",
    "   ✓ Repository: " ++ r.name.display ++ " (" ++ r.version ++ ")",
    "   ✓ Fields: " ++ toString r.fields.length,
    "   ✓ Components: " ++ toString r.components.length,
    "   ✓ Groups: " ++ toString r.groups.length,
    "   ✓ Messages: " ++ toString r.messages.length]

/-- What is told of the use of fields. -/
def usageLines (r : Repository) : Traced (List String) := do
  let index ← Index.ofRepository r
  let layer : SessionLayer := {}
  let (application, session) := layer.splitMessages r.messages
  let usage ← index.usage layer false application session
  return ["", "2. ANALYZING FIELD USAGE...",
    "   ✓ Application messages: " ++ namesText application,
    "   ✓ Session messages: " ++ namesText session,
    "   ✓ Application fields: " ++ idsText usage.application,
    "   ✓ Session fields: " ++ idsText usage.session]

/-- What is told of the layout of packages. -/
def layoutLines (r : Repository) : List String :=
  ["", "3. PLANNING OUTPUT..."] ++ settings.flatMap fun (label, options) =>
    let layout := Layout.ofVersion options r.version
    ["   " ++ label ++ ":",
      "      messages → " ++ layout.messagesPackage,
      "      components → " ++ layout.componentsPackage,
      "      session messages → " ++ layout.sessionMessagesPackage]

/-- What is told of generated files. -/
def reportLines (label : String) (report : Report) : List String :=
  ["   ✓ " ++ label ++ ": " ++ toString report.total ++ " files in " ++ report.output.text]
    ++ (report.counts.mergeSort fun a b => !decide (b.1 < a.1)).map
      (fun (kind, n) => "      " ++ kind ++ ": " ++ toString n)
    ++ report.warnings.map fun warning => "      ! " ++ warning

/-- Generates the classes under some sets of options, one after the other. -/
def generateAll (r : Repository) (root : Path) :
    FileTree → List (String × Options) → FileTree × Except RunFault (List String)
  | t, [] => (t, .ok [])
  | t, (label, options) :: rest =>
    match Generation.run t r (root.join label) options {} with
    | (t, .error fault) => (t, .error fault)
    | (t, .ok report) =>
      match generateAll r root t rest with
      | (t, .error fault) => (t, .error fault)
      | (t, .ok told) => (t, .ok (reportLines label report ++ told))

/-- Saves a repository as YAML, with the directories on the way to the file. -/
def save (t : FileTree) (r : Repository) (path : Path) : FileTree × Option FileFault :=
  match t.ensureDirectory path.parent with
  | (t, some fault) => (t, some fault)
  | (t, none) =>
    match t.write path (Utf8.encode (Yaml.write r.toDocument)) with
    | .error fault => (t, some fault)
    | .ok t => (t, none)

/-- Walks through the stages below a directory, and tells what they yield. -/
def run (t : FileTree) (root : Path) : FileTree × Except RunFault String :=
  let r := Sample.repository
  let path := root.join "repository.yaml"
  match save t r path with
  | (t, some fault) => (t, .error (.file fault))
  | (t, none) =>
    match ((usageLines r).run []).1 with
    | .error fault => (t, .error (.naming fault))
    | .ok told =>
      match generateAll r root t settings with
      | (t, .error fault) => (t, .error fault)
      | (t, .ok generated) =>
        let ls :=
          heading "COMPLETE PIPELINE DEMO: Repository → Analysis → QuickFIX/J"
            ++ repositoryLines r ++ ["   ✓ Saved YAML: " ++ path.text] ++ told ++ layoutLines r
            ++ ["", "4. GENERATING SOURCES..."] ++ generated ++ [""] ++ heading "DEMO COMPLETE"
        (t, .ok (String.join (ls.map (· ++ "\n"))))

end Walkthrough
end FixBindings
