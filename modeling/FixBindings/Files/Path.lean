/-!
# Paths

A path is a root, which is empty for relative paths, and the names that follow.  Empty names and
the name `.` vanish, `..` stays, and joining an absolute path replaces what precedes it.  Exactly
two slashes in front make a root of their own; any other number of them is one slash.
-/

set_option autoImplicit false

namespace FixBindings

/-- The place of a file. -/
structure Path where
  root : String := ""
  names : List String := []
deriving Repr, DecidableEq, Inhabited

namespace Path

/-- Splits characters at every separator. -/
def splitAt (separator : Char) : List Char → List (List Char)
  | [] => [[]]
  | c :: rest =>
    if c == separator then [] :: splitAt separator rest
    else
      match splitAt separator rest with
      | [] => [[c]]
      | part :: parts => (c :: part) :: parts

/-- Splits a text at every separator. -/
def splitText (separator : Char) (s : String) : List String :=
  (splitAt separator s.toList).map String.ofList

/-- The root that slashes in front of a path make. -/
def rootOf (s : String) : String :=
  match s.toList with
  | '/' :: '/' :: '/' :: _ => "/"
  | '/' :: '/' :: _ => "//"
  | '/' :: _ => "/"
  | _ => ""

/-- Reads a path. -/
def ofText (s : String) : Path :=
  ⟨rootOf s, (splitText '/' s).filter fun name => name != "" && name != "."⟩

/-- A path followed from another one. -/
def append (base next : Path) : Path :=
  if next.root == "" then ⟨base.root, base.names ++ next.names⟩ else next

instance : Append Path := ⟨append⟩

/-- A path followed from another one, given as a text. -/
def join (base : Path) (s : String) : Path := base ++ ofText s

/-- Whether a path starts at a root. -/
def isAbsolute (p : Path) : Bool := p.root != ""

/-- The text of a path. -/
def text (p : Path) : String :=
  if p.root == "" && p.names.isEmpty then "." else p.root ++ String.intercalate "/" p.names

/-- The path without its last name. -/
def parent (p : Path) : Path := ⟨p.root, p.names.dropLast⟩

/-- The last name. -/
def name (p : Path) : String := p.names.getLast?.getD ""

/-- The part of the last name from its last point on, if something stands on both sides of it. -/
def suffix (p : Path) : String :=
  let reversed := p.name.toList.reverse
  let extension := reversed.takeWhile (· != '.')
  let stem := reversed.drop (extension.length + 1)
  if extension.isEmpty || stem.isEmpty then "" else String.ofList ('.' :: extension.reverse)

end Path
end FixBindings
