import FixBindings.Files.Tree
import FixBindings.Json.Reader
import FixBindings.Schema.Codec
import FixBindings.Schema.Orchestra
import FixBindings.Unicode.Case
import FixBindings.Xml.Encoding
import FixBindings.Yaml.Reader

/-!
# Loading repositories

A repository is read from a text in one of three formats: Orchestra, which is XML, YAML and JSON.
The format of a file is told by the suffix of its name, in capital or small letters.  A malformed
file of a known format is told apart from a file that does not fit what the format says.
-/

set_option autoImplicit false

namespace FixBindings

/-- Why a text is no repository. -/
inductive SourceFault where
  | xml (fault : Xml.Fault)
  | orchestra (fault : Orchestra.Fault)
  | yaml (fault : Yaml.Fault)
  | json (fault : Json.Fault)
  | document (fault : DecodeFault)
deriving Repr

/-- Why a file is not loaded. -/
inductive LoadFault where
  /-- There is no Orchestra file at a path. -/
  | notFound (path : Path)
  | file (fault : FileFault)
  | encoding (fault : Utf8.Fault)
  /-- The suffix of a name tells no format. -/
  | unsupported (name : String)
  | source (path : Path) (fault : SourceFault)
deriving Repr

/-- The text of a fault, where the place is the file that is read. -/
def SourceFault.message (place : String) : SourceFault → String
  | .xml _ => "Malformed Orchestra XML" ++ place
  | .orchestra fault => fault.message
  | .yaml (.malformed _) => "Invalid YAML" ++ place
  | .yaml fault => fault.message
  | .json fault =>
    match fault with
    | .malformed .. =>
      if place.isEmpty then fault.message else "Invalid JSON" ++ place ++ ": " ++ fault.message
    | .integerTooLong _ => fault.message
  | .document fault => fault.message

/-- The text of a fault. -/
def LoadFault.message : LoadFault → String
  | .notFound path => "Orchestra file not found: " ++ path.text
  | .file fault => fault.message
  | .encoding fault => fault.message
  | .unsupported name => "Unsupported repository file type: " ++ name
  | .source path fault => fault.message (" in " ++ path.text)

namespace Repository

/-- Reads an Orchestra repository from a tree of elements. -/
def ofElement (root : Xml.Element) : Except SourceFault Repository :=
  (Orchestra.repository root).mapError .orchestra

/-- Reads an Orchestra repository. -/
def ofXml (text : String) : Except SourceFault Repository := do
  ofElement (← (Xml.read text).mapError .xml)

/-- Reads a repository as YAML. -/
def ofYaml (text : String) : Except SourceFault Repository := do
  (Repository.ofDocument (← (Yaml.read text).mapError .yaml)).mapError .document

/-- Reads a repository as JSON. -/
def ofJson (text : String) : Except SourceFault Repository := do
  (Repository.ofDocument (← (Json.read text).mapError .json)).mapError .document

end Repository

/-- Loads a file that is XML. -/
def Repository.loadXml (t : FileTree) (path : Path) : Except LoadFault Repository :=
  match t.read path with
  | .error (.notFound _) => .error (.notFound path)
  | .error fault => .error (.file fault)
  | .ok octets =>
    match Xml.readOctets octets with
    | .error fault => .error (.source path (.xml fault))
    | .ok root => (Repository.ofElement root).mapError (.source path)

/-- Loads the repository of a file. -/
def Repository.load (t : FileTree) (path : Path) : Except LoadFault Repository := do
  let suffix := Unicode.toLower path.suffix
  if suffix == ".xml" then Repository.loadXml t path
  else
    let octets ← (t.read path).mapError .file
    let text ← (Utf8.decodeLines octets).mapError .encoding
    if suffix == ".yaml" || suffix == ".yml" then
      (Repository.ofYaml text).mapError (.source path)
    else if suffix == ".json" then (Repository.ofJson text).mapError (.source path)
    else throw (.unsupported path.name)

end FixBindings
