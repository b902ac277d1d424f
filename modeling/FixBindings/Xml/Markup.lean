import FixBindings.Xml.Lexeme

/-!
# Markup in XML texts

The content of a document as a list of tags, references and runs of characters.  Comments and
instructions vanish, and of characters only matters whether they are blank.  An empty element is a
tag that opens it and one that closes it.
-/

set_option autoImplicit false

namespace FixBindings
namespace Xml

/-- A part of a content. -/
inductive Markup where
  /-- A tag that opens an element, with its attributes as they are written. -/
  | opening (name : String) (attributes : List (String × List Char))
  | closing (name : String)
  | reference (name : String)
  | characters (blank : Bool)
deriving Repr, DecidableEq

/-! ## Comments and instructions -/

/-- The text after a comment whose first mark is read.  Two hyphens only stand at its end. -/
def comment (cs : List Char) : Reading (List Char) :=
  match upTo ['-', '-'] cs with
  | some (_, '>' :: rest) => .ok rest
  | _ => .error .unterminated

/-- Whether a name is reserved for declarations, in capital or small letters. -/
def isReservedTarget (name : List Char) : Bool := name.map Char.toLower == ['x', 'm', 'l']

/-- The text after an instruction whose first mark is read. -/
def instruction (cs : List Char) : Reading (List Char) := do
  let (target, rest) ← name cs
  if isReservedTarget target then throw .declaration
  match rest with
  | '?' :: '>' :: rest => return rest
  | c :: rest =>
    if isBlank c then
      match upTo ['?', '>'] rest with
      | some (_, rest) => return rest
      | none => throw .unterminated
    else throw .unterminated
  | [] => throw .unterminated

/-! ## Tags -/

/-- Reads the value of an attribute from the sign of equality on. -/
def attributeValue (cs : List Char) : Reading (List Char × List Char) :=
  match skipBlanks cs with
  | '=' :: cs =>
    match skipBlanks cs with
    | q :: cs =>
      if q == '\x22' || q == '\'' then
        match upTo [q] cs with
        | some found => .ok found
        | none => .error .tag
      else .error .tag
    | [] => .error .tag
  | _ => .error .tag

/-- Reads the rest of a tag that opens an element, where `found` holds the attributes before in
reverse: the attributes, whether the element is empty, and the text after the tag. -/
def tagRest : Nat → List (String × List Char) → List Char →
    Reading (List (String × List Char) × Bool × List Char)
  | 0, _, _ => .error .tag
  | fuel + 1, found, cs =>
    match cs with
    | '>' :: rest => .ok (found.reverse, false, rest)
    | '/' :: '>' :: rest => .ok (found.reverse, true, rest)
    | c :: _ =>
      if isBlank c then
        match skipBlanks cs with
        | '>' :: rest => .ok (found.reverse, false, rest)
        | '/' :: '>' :: rest => .ok (found.reverse, true, rest)
        | cs => do
          let (name, cs) ← qualifiedName cs
          let (value, cs) ← attributeValue cs
          tagRest fuel ((name, value) :: found) cs
      else .error .tag
    | [] => .error .tag

/-- Reads a tag that closes an element after its slash. -/
def closingTag (cs : List Char) : Reading (String × List Char) := do
  let (name, cs) ← qualifiedName cs
  match skipBlanks cs with
  | '>' :: rest => return (name, rest)
  | _ => throw .tag

/-! ## Content -/

/-- Reads content, where `found` holds the markup before in reverse. -/
def contentFrom : Nat → List Markup → List Char → Reading (List Markup)
  | _, found, [] => .ok found.reverse
  | 0, _, _ => .error .tag
  | fuel + 1, found, '<' :: '/' :: cs => do
    let (name, cs) ← closingTag cs
    contentFrom fuel (.closing name :: found) cs
  | fuel + 1, found, '<' :: '?' :: cs => do
    contentFrom fuel found (← instruction cs)
  | fuel + 1, found, '<' :: '!' :: cs =>
    match after? "--".toList cs with
    | some cs => do contentFrom fuel found (← comment cs)
    | none =>
      match (after? "[CDATA[".toList cs).bind (upTo "]]>".toList) with
      | some (_, cs) => contentFrom fuel (.characters false :: found) cs
      | none => .error .unterminated
  | fuel + 1, found, '<' :: cs => do
    let (name, cs) ← qualifiedName cs
    let (attributes, empty, cs) ← tagRest (cs.length + 1) [] cs
    let found := .opening name attributes :: found
    contentFrom fuel (if empty then .closing name :: found else found) cs
  | fuel + 1, found, '&' :: cs => do
    match ← reference cs with
    | (.char _, cs) => contentFrom fuel (.characters false :: found) cs
    | (.entity name, cs) =>
      match predefined? name with
      | some _ => contentFrom fuel (.characters false :: found) cs
      | none => contentFrom fuel (.reference name :: found) cs
  | fuel + 1, found, cs =>
    let isPlain (c : Char) : Bool := c != '<' && c != '&'
    let run := cs.takeWhile isPlain
    if (upTo "]]>".toList run).isSome then .error .sectionEnd
    else contentFrom fuel (.characters (run.all isBlank) :: found) (cs.dropWhile isPlain)

/-- Reads content. -/
def content (cs : List Char) : Reading (List Markup) := contentFrom (cs.length + 1) [] cs

/-- Whether every tag that opens an element has one that closes it, and the other way round, where
some elements are open in front. -/
def pairsUp : Nat → List Markup → Bool
  | depth, [] => depth == 0
  | depth, .opening .. :: rest => pairsUp (depth + 1) rest
  | 0, .closing _ :: _ => false
  | depth + 1, .closing _ :: rest => pairsUp depth rest
  | depth, _ :: rest => pairsUp depth rest

end Xml
end FixBindings
