import FixBindings.Xml.Markup

/-!
# Entities of XML texts

An entity is a text that references stand for: as markup within content, and as characters within
the value of an attribute.  What an entity refers to is put in its place where it is used.  No
entity may refer to itself, so references are followed to no greater depth than there are entities.
The characters put in the place of references are counted, so a short document that would grow out
of proportion is refused.
-/

set_option autoImplicit false

namespace FixBindings
namespace Xml

/-- The entities that a document declares. -/
structure Entities where
  /-- The texts of the entities, in order of declaration; an entity outside of the document has
  none. -/
  declared : List (String × Option (List Char)) := []
  /-- Whether declarations may stand where they are not read, so that an unknown entity vanishes
  from the value of an attribute. -/
  incomplete : Bool := false
deriving Repr, Inhabited

namespace Entities

/-- Declares an entity, unless it is declared before or needs no declaration. -/
def declare (e : Entities) (name : String) (text : Option (List Char)) : Entities :=
  if (predefined? name).isSome || e.declared.any (·.1 == name) then e
  else { e with declared := e.declared ++ [(name, text)] }

/-- The depth to which references are followed. -/
def depth (e : Entities) : Nat := e.declared.length + 1

end Entities

/-! ## Counting -/

/-- The number of characters that may take the place of references in any document. -/
def freeGrowth : Nat := 8 * 1024 * 1024 - 1

/-- How many times its own length a longer document may grow to. -/
def maxGrowth : Nat := 100

/-- The number of characters that may take the place of references in a document of some length. -/
def growthOf (length : Nat) : Nat := max freeGrowth (maxGrowth * length) - length

/-- The result of a reading that takes from a number of characters. -/
abbrev Expansion (α : Type) := StateT Nat (Except Fault) α

/-- Takes from the number of characters. -/
def spend (n : Nat) : Expansion Unit := do
  if (← get) < n then throw .expansion
  modify (· - n)

/-! ## Values of attributes -/

/-- The characters and references of a value as it is written.  White space stands for spaces. -/
def valueParts : Nat → List Reference → List Char → Reading (List Reference)
  | _, found, [] => .ok found.reverse
  | 0, _, _ => .error .reference
  | _, _, '<' :: _ => .error .tag
  | fuel + 1, found, '&' :: cs => do
    match ← reference cs with
    | (.entity name, cs) =>
      let part :=
        match predefined? name with
        | some c => .char c
        | none => .entity name
      valueParts fuel (part :: found) cs
    | (part, cs) => valueParts fuel (part :: found) cs
  | fuel + 1, found, '\r' :: '\n' :: cs => valueParts fuel (.char ' ' :: found) cs
  | fuel + 1, found, c :: cs => valueParts fuel (.char (if isBlank c then ' ' else c) :: found) cs

/-- The value that a text writes, where references are followed to a depth. -/
def valueOf (e : Entities) : Nat → List Char → Expansion (List Char)
  | 0, _ => throw .expansion
  | depth + 1, cs => do
    let parts ← (← valueParts (cs.length + 1) [] cs).mapM fun part =>
      match part with
      | .char c => pure [c]
      | .entity name =>
        match e.declared.lookup name with
        | some (some text) => do
          spend text.length
          valueOf e depth text
        | some none => throw .reference
        | none => if e.incomplete then pure [] else throw .reference
    return parts.flatten

/-- A value without spaces at its ends, and with single spaces between words. -/
def collapseSpaces (cs : List Char) : List Char :=
  let (found, _) := cs.foldl
    (fun (found, spaced) c =>
      if c == ' ' then (found, true)
      else (c :: (if spaced && !found.isEmpty then ' ' :: found else found), false)) ([], false)
  found.reverse

/-! ## Content -/

/-- Content with the markup of entities in the place of references, which are followed to a
depth.  A reference leaves characters that are not blank in its place as well, since it may only
stand where those may. -/
def expand (e : Entities) : Nat → List Markup → Expansion (List Markup)
  | 0, _ => throw .expansion
  | depth + 1, markup => do
    let parts ← markup.mapM fun m =>
      match m with
      | .reference name =>
        match e.declared.lookup name with
        | some (some text) => do
          spend text.length
          let found ← content text
          if pairsUp 0 found then return .characters false :: (← expand e depth found)
          else throw .unbalanced
        | _ => throw .reference
      | m => pure [m]
    return parts.flatten

end Xml
end FixBindings
