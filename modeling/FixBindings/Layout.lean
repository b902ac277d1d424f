import FixBindings.Files.Path
import FixBindings.Options
import FixBindings.Unicode.Case

/-!
# The layout of the generated packages

Fields share one package.  Messages and components have packages named for the version of the
repository, and the session layer may have packages of its own.  The package of a class decides
the directory of its file.
-/

set_option autoImplicit false

namespace FixBindings

/-- The package of the library that generated classes build on. -/
def libraryPackage : String := "quickfix"

/-- The package of all fields. -/
def fieldsPackage : String := libraryPackage ++ ".field"

/-- The part of a version before the first underscore. -/
def baseVersion (version : String) : String :=
  String.ofList (version.toList.takeWhile (· != '_'))

/-- The segment of package names for a version: its part before the first underscore, without
points and in lower case. -/
def segmentOf (version : String) : String :=
  Unicode.toLower (String.ofList ((baseVersion version).toList.filter (· != '.')))

/-- The packages of one generation run. -/
structure Layout where
  options : Options
  /-- The segment for the version of the repository. -/
  segment : String
deriving Inhabited

namespace Layout

/-- The packages for a version under some options. -/
def ofVersion (options : Options) (version : String) : Layout :=
  ⟨options, segmentOf version⟩

/-- The package of messages. -/
def messagesPackage (l : Layout) : String := libraryPackage ++ "." ++ l.segment

/-- The package of components and groups. -/
def componentsPackage (l : Layout) : String := l.messagesPackage ++ ".component"

/-- The package of session messages, where they have their own. -/
def ownSessionPackage : String := libraryPackage ++ ".fixt11"

/-- The package of groups of the session layer, where they have their own. -/
def ownSessionComponentsPackage : String := ownSessionPackage ++ ".component"

/-- The package of session messages. -/
def sessionMessagesPackage (l : Layout) : String :=
  if l.options.separatesSession then ownSessionPackage else l.messagesPackage

/-- The package of groups of the session layer. -/
def sessionComponentsPackage (l : Layout) : String :=
  if l.options.separatesSession then ownSessionComponentsPackage else l.componentsPackage

/-- The directory of a package. -/
def directoryOf (output : Path) (package : String) : Path :=
  (Path.splitText '.' package).foldl Path.join output

/-- The file of a class. -/
def fileOf (output : Path) (package className : String) (extension : String := ".java") :
    Path :=
  (directoryOf output package).join (className ++ extension)

end Layout
end FixBindings
