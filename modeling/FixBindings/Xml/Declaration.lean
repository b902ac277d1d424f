import FixBindings.Xml.Lexeme

/-!
# Declarations of XML documents

The declaration in front of a document tells the version of XML, and may tell the encoding and
whether the document stands alone.
-/

set_option autoImplicit false

namespace FixBindings
namespace Xml

/-- What a declaration tells. -/
structure Declaration where
  encoding : Option String := none
  standalone : Option Bool := none
deriving Repr, DecidableEq, Inhabited

/-- Whether a character may stand in a value of a declaration. -/
def isDeclarationChar (c : Char) : Bool := c.isAlphanum || c == '.' || c == '-' || c == '_'

/-- Reads an item of a declaration: its name, its value and the text after it.  There is none at
the end. -/
def declarationItem? (cs : List Char) : Reading (Option (String × String × List Char)) := do
  let rest := skipBlanks cs
  if rest.isEmpty then return none
  if !cs.head?.any isBlank then throw .declaration
  let isPart (c : Char) : Bool := c != '=' && !isBlank c
  match skipBlanks (rest.dropWhile isPart) with
  | '=' :: after =>
    match skipBlanks after with
    | q :: after =>
      let value := after.takeWhile isDeclarationChar
      if (q == '\x22' || q == '\'') && (after.dropWhile isDeclarationChar).head? == some q then
        return some (String.ofList (rest.takeWhile isPart), String.ofList value,
          (after.dropWhile isDeclarationChar).drop 1)
      else throw .declaration
    | [] => throw .declaration
  | _ => throw .declaration

/-- Reads the end of a declaration, which may tell whether the document stands alone. -/
def standaloneItem (encoding : Option String) :
    Option (String × String × List Char) → Reading Declaration
  | none => .ok { encoding }
  | some (name, value, rest) =>
    if name != "standalone" || !(skipBlanks rest).isEmpty then .error .declaration
    else if value == "yes" then .ok { encoding, standalone := some true }
    else if value == "no" then .ok { encoding, standalone := some false }
    else .error .declaration

/-- Reads what stands between the marks of a declaration. -/
def declarationBody (cs : List Char) : Reading Declaration := do
  match ← declarationItem? cs with
  | some ("version", _, rest) =>
    match ← declarationItem? rest with
    | some ("encoding", value, rest) =>
      if value.toList.head?.any Char.isAlpha then
        standaloneItem (some value) (← declarationItem? rest)
      else throw .declaration
    | item => standaloneItem none item
  | _ => throw .declaration

/-- Reads the declaration of a document if it has one. -/
def declarationOf (cs : List Char) : Reading (Declaration × List Char) := do
  match after? "<?xml".toList cs with
  | none => return ({}, cs)
  | some rest =>
    if rest.head?.any fun c => isBlank c || c == '?' then
      match upTo "?>".toList rest with
      | some (body, rest) => return (← declarationBody body, rest)
      | none => throw .declaration
    else return ({}, cs)

end Xml
end FixBindings
