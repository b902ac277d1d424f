import FixBindings.Yaml.Tag
import FixBindings.Yaml.Token

/-!
# Nodes of YAML texts

The structure that the tokens of a text make: scalars, sequences and mappings with their tags.
Anchors and aliases are resolved here, so one node may stand in several places; a node that
contains itself is refused.  A text holds at most one document.
-/

set_option autoImplicit false

namespace FixBindings
namespace Yaml

/-- A node. -/
inductive Node where
  | scalar (tag text : String)
  | sequence (tag : String) (items : List Node)
  | mapping (tag : String) (entries : List (Node × Node))
deriving Inhabited

namespace Node

/-- The tag of a node. -/
def tag : Node → String
  | .scalar tag _ => tag
  | .sequence tag _ => tag
  | .mapping tag _ => tag

/-- The node that stands where nothing is written. -/
def empty : Node := .scalar (commonTag "null") ""

end Node

/-- What is left of the tokens, and what the nodes so far have made known. -/
structure Composition where
  tokens : List Token
  /-- The fault after the last token. -/
  fault : Option Fault
  /-- The tags that handles stand for. -/
  handles : List (String × String) := []
  /-- The nodes of anchors, where those of open nodes are not known yet. -/
  anchors : List (String × Option Node) := []

/-- The result of reading a node. -/
abbrev Composed := Reading (Node × Composition)

namespace Composition

/-- The next token. -/
def peek (s : Composition) : Reading Token :=
  match s.tokens with
  | t :: _ => .ok t
  | [] => .error (s.fault.getD (.malformed .content))

/-- Passes over the next token. -/
def skip (s : Composition) : Composition := { s with tokens := s.tokens.drop 1 }

/-- Whether the next token is one of some. -/
def at? (s : Composition) (tokens : List Token) : Reading Bool :=
  return tokens.contains (← s.peek)

/-- The handles that are known without a directive. -/
def standardHandles : List (String × String) := [("!", "!"), ("!!", commonTag "")]

/-- Opens an anchor. -/
def openAnchor (s : Composition) (name? : Option String) : Reading Composition :=
  match name? with
  | none => .ok s
  | some name =>
    if (s.anchors.lookup name).isSome then refuse .repeatedAnchor
    else .ok { s with anchors := (name, none) :: s.anchors }

/-- Gives an anchor its node. -/
def closeAnchor (s : Composition) (name? : Option String) (node : Node) : Composition :=
  match name? with
  | none => s
  | some name => { s with anchors := (name, some node) :: s.anchors }

/-- The node of an alias. -/
def aliased (s : Composition) (name : String) : Reading Node :=
  match s.anchors.lookup name with
  | some (some node) => .ok node
  | _ => refuse .unknownAlias

/-- The anchor and the tag in front of a node, in either order. -/
structure Properties where
  anchor : Option String := none
  /-- The tag with its handle resolved. -/
  tag : Option String := none

/-- Resolves the handle of a tag. -/
def resolveTag (s : Composition) (handle? : Option String) (suffix : String) : Reading String :=
  match handle? with
  | none => .ok suffix
  | some handle =>
    match s.handles.lookup handle with
    | some stem => .ok (stem ++ suffix)
    | none => refuse .unknownHandle

/-- Reads the properties of a node. -/
def properties (s : Composition) : Reading (Properties × Composition) := do
  match ← s.peek with
  | .anchor name =>
    let s := s.skip
    match ← s.peek with
    | .tag handle? suffix =>
      return ({ anchor := some name, tag := some (← s.resolveTag handle? suffix) }, s.skip)
    | _ => return ({ anchor := some name }, s)
  | .tag handle? suffix =>
    let s := s.skip
    match ← s.peek with
    | .anchor name =>
      return ({ anchor := some name, tag := some (← s.resolveTag handle? suffix) }, s.skip)
    | _ => return ({ tag := some (← s.resolveTag handle? suffix) }, s)
  | _ => return ({}, s)

/-- The tag of a scalar. -/
def Properties.scalarTag (p : Properties) (plain : Bool) (text : String) : String :=
  match p.tag with
  | none => if plain then plainTag text else commonTag "str"
  | some tag => if tag == "!" then plainTag text else tag

/-- The tag of a collection, given the common one of its kind. -/
def Properties.collectionTag (p : Properties) (common : String) : String :=
  match p.tag with
  | none => commonTag common
  | some tag => if tag == "!" then commonTag common else tag

/-- What stands where a node is expected. -/
inductive Content where
  | scalar (text : String) (plain : Bool)
  | blockSequence
  | indentlessSequence
  | blockMapping
  | flowSequence
  | flowMapping
  | empty

/-- The content that begins at a token, where block collections, and block sequences without an
indentation of their own, are allowed or not. -/
def contentAt (block indentless : Bool) (p : Properties) (t : Token) : Reading Content :=
  match t with
  | .scalar text plain => .ok (.scalar text plain)
  | .flowSequenceStart => .ok .flowSequence
  | .flowMappingStart => .ok .flowMapping
  | .blockEntry =>
    if indentless then .ok .indentlessSequence
    else if p.anchor.isSome || p.tag.isSome then .ok .empty
    else refuse .content
  | .blockSequenceStart =>
    if block then .ok .blockSequence
    else if p.anchor.isSome || p.tag.isSome then .ok .empty
    else refuse .content
  | .blockMappingStart =>
    if block then .ok .blockMapping
    else if p.anchor.isSome || p.tag.isSome then .ok .empty
    else refuse .content
  | _ => if p.anchor.isSome || p.tag.isSome then .ok .empty else refuse .content

mutual

/-- Reads a node. -/
def node (block indentless : Bool) : Nat → Composition → Composed
  | 0, _ => refuse .content
  | fuel + 1, s => do
    match ← s.peek with
    | .alias name => return (← s.aliased name, s.skip)
    | _ =>
      let (p, s) ← s.properties
      let content ← contentAt block indentless p (← s.peek)
      let s ← s.openAnchor p.anchor
      let (made, s) ←
        match content with
        | .scalar text plain => pure (Node.scalar (p.scalarTag plain text) text, s.skip)
        | .empty => pure (Node.scalar (p.scalarTag true "") "", s)
        | .blockSequence => do
          let (items, s) ← blockItems fuel s.skip
          pure (Node.sequence (p.collectionTag "seq") items, s)
        | .indentlessSequence => do
          let (items, s) ← indentlessItems fuel s
          pure (Node.sequence (p.collectionTag "seq") items, s)
        | .blockMapping => do
          let (entries, s) ← blockEntries fuel s.skip
          pure (Node.mapping (p.collectionTag "map") entries, s)
        | .flowSequence => do
          let (items, s) ← flowItems fuel true s.skip
          pure (Node.sequence (p.collectionTag "seq") items, s)
        | .flowMapping => do
          let (entries, s) ← flowEntries fuel true s.skip
          pure (Node.mapping (p.collectionTag "map") entries, s)
      return (made, s.closeAnchor p.anchor made)

/-- Reads a node, or nothing if one of some tokens comes next. -/
def nodeUnless (block indentless : Bool) (ends : List Token) : Nat → Composition → Composed
  | 0, _ => refuse .content
  | fuel + 1, s => do
    if ← s.at? ends then return (Node.empty, s) else node block indentless fuel s

/-- Reads the value after a key: nothing unless its mark comes next. -/
def valueUnless (block indentless : Bool) (ends : List Token) : Nat → Composition → Composed
  | 0, _ => refuse .content
  | fuel + 1, s => do
    if ← s.at? [.value] then nodeUnless block indentless ends fuel s.skip
    else return (Node.empty, s)

/-- Reads the items of a block sequence and its end. -/
def blockItems : Nat → Composition → Reading (List Node × Composition)
  | 0, _ => refuse .content
  | fuel + 1, s => do
    match ← s.peek with
    | .blockEntry =>
      let (item, s) ← nodeUnless true false [.blockEntry, .blockEnd] fuel s.skip
      let (items, s) ← blockItems fuel s
      return (item :: items, s)
    | .blockEnd => return ([], s.skip)
    | _ => refuse .collectionEnd

/-- Reads the items of a block sequence that has no indentation of its own. -/
def indentlessItems : Nat → Composition → Reading (List Node × Composition)
  | 0, _ => refuse .content
  | fuel + 1, s => do
    match ← s.peek with
    | .blockEntry =>
      let (item, s) ← nodeUnless true false [.blockEntry, .key, .value, .blockEnd] fuel s.skip
      let (items, s) ← indentlessItems fuel s
      return (item :: items, s)
    | _ => return ([], s)

/-- Reads the entries of a block mapping and its end. -/
def blockEntries : Nat → Composition → Reading (List (Node × Node) × Composition)
  | 0, _ => refuse .content
  | fuel + 1, s => do
    match ← s.peek with
    | .key =>
      let (key, s) ← nodeUnless true true [.key, .value, .blockEnd] fuel s.skip
      let (value, s) ← valueUnless true true [.key, .value, .blockEnd] fuel s
      let (entries, s) ← blockEntries fuel s
      return ((key, value) :: entries, s)
    | .blockEnd => return ([], s.skip)
    | _ => refuse .collectionEnd

/-- Reads the items of a flow sequence and its end.  A key among them is a mapping of one entry. -/
def flowItems : Nat → Bool → Composition → Reading (List Node × Composition)
  | 0, _, _ => refuse .content
  | fuel + 1, first, s => do
    if ← s.at? [.flowSequenceEnd] then return ([], s.skip)
    else do
      let s ←
        if first then pure s
        else if ← s.at? [.flowEntry] then pure s.skip
        else refuse .collectionEnd
      match ← s.peek with
      | .flowSequenceEnd => return ([], s.skip)
      | .key =>
        let (key, s) ← nodeUnless false false [.value, .flowEntry, .flowSequenceEnd] fuel s.skip
        let (value, s) ← valueUnless false false [.flowEntry, .flowSequenceEnd] fuel s
        let (items, s) ← flowItems fuel false s
        return (Node.mapping (commonTag "map") [(key, value)] :: items, s)
      | _ =>
        let (item, s) ← node false false fuel s
        let (items, s) ← flowItems fuel false s
        return (item :: items, s)

/-- Reads the entries of a flow mapping and its end. -/
def flowEntries : Nat → Bool → Composition → Reading (List (Node × Node) × Composition)
  | 0, _, _ => refuse .content
  | fuel + 1, first, s => do
    if ← s.at? [.flowMappingEnd] then return ([], s.skip)
    else do
      let s ←
        if first then pure s
        else if ← s.at? [.flowEntry] then pure s.skip
        else refuse .collectionEnd
      match ← s.peek with
      | .flowMappingEnd => return ([], s.skip)
      | .key =>
        let (key, s) ← nodeUnless false false [.value, .flowEntry, .flowMappingEnd] fuel s.skip
        let (value, s) ← valueUnless false false [.flowEntry, .flowMappingEnd] fuel s
        let (entries, s) ← flowEntries fuel false s
        return ((key, value) :: entries, s)
      | _ =>
        let (key, s) ← node false false fuel s
        let (entries, s) ← flowEntries fuel false s
        return ((key, Node.empty) :: entries, s)

end

/-- Reads the directives in front of a document. -/
def directives : List Token → Bool → List (String × String) →
    Reading (List (String × String) × List Token)
  | .versionDirective major :: rest, versioned, handles =>
    if versioned || major != 1 then refuse .directive else directives rest true handles
  | .tagDirective handle stem :: rest, versioned, handles =>
    if (handles.lookup handle).isSome then refuse .directive
    else directives rest versioned (handles ++ [(handle, stem)])
  | .otherDirective :: rest, versioned, handles => directives rest versioned handles
  | tokens, _, handles => .ok (handles ++ standardHandles, tokens)

/-- Whether a token is a directive. -/
def isDirective : Token → Bool
  | .versionDirective _ | .tagDirective _ _ | .otherDirective => true
  | _ => false

/-- Whether a token cannot begin the content of a document. -/
def endsDocument (t : Token) : Bool :=
  isDirective t || t == .documentStart || t == .documentEnd || t == .streamEnd

/-- Passes over the ends of documents. -/
def skipEnds (s : Composition) : Composition :=
  { s with tokens := s.tokens.dropWhile (· == .documentEnd) }

/-- Reads the only document of a text, if it has one. -/
def document (s : Composition) : Reading (Option Node) := do
  let fuel := 4 * s.tokens.length + 8
  let first ← s.peek
  if first == .streamEnd then return none
  else do
    let (root, s) ←
      if isDirective first || first == .documentStart then do
        let (handles, tokens) ← directives s.tokens false []
        let s := { s with handles, tokens }
        if (← s.peek) != .documentStart then refuse .documentStart
        else do
          let s := s.skip
          if endsDocument (← s.peek) then pure (Node.empty, s) else node true false fuel s
      else node true false fuel { s with handles := standardHandles }
    let s := s.skipEnds
    if (← s.peek) == .streamEnd then return some root else refuse .severalDocuments

end Composition

/-- The root node of a text, if the text holds a document. -/
def root? (s : String) : Reading (Option Node) :=
  let (tokens, fault) := tokens s
  Composition.document { tokens, fault }

end Yaml
end FixBindings
