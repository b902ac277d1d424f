import FixBindings.Xml.Entity

/-!
# Document types

What stands in front of the root element: a declaration of the version, and a document type that
declares entities, attributes, elements and notations.  Only entities and the default values of
attributes matter to what follows, but all declarations have to be well formed.  Declarations
outside of the document are not read.  Where one of them is referred to, the ones after it are
passed over, unless the document stands alone.
-/

set_option autoImplicit false

namespace FixBindings
namespace Xml

/-! ## Tokens -/

/-- A part of a document type. -/
inductive DoctypeToken where
  /-- The opening of a declaration, with its keyword. -/
  | opening (keyword : String)
  /-- The end of a declaration. -/
  | closing
  | name (text : String)
  /-- A name with a colon in it. -/
  | qualified (text : String)
  /-- Characters of names that make no name. -/
  | word
  /-- A name with a mark of repetition. -/
  | repeated
  | literal (text : List Char)
  /-- A keyword after a number sign. -/
  | keyword (text : String)
  | openParen
  /-- A closing parenthesis, with a mark of repetition if there is one. -/
  | closeParen (mark : Option Char)
  | bar
  | comma
  | openBracket
  | closeBracket
  | percent
  /-- A reference to declarations. -/
  | reference
  /-- A comment or an instruction. -/
  | remark
deriving Repr, DecidableEq

/-- Whether a text is at its end or goes on with white space or one of some characters. -/
def goesOnWith (marks : String) : List Char → Bool
  | [] => true
  | c :: _ => isBlank c || marks.toList.contains c

/-- Whether a character is a mark of repetition. -/
def isRepetition (c : Char) : Bool := c == '?' || c == '*' || c == '+'

/-- Whether a character may begin a keyword of a declaration. -/
def isKeywordChar (c : Char) : Bool := c.isAlpha || c == '_'

/-- The token of characters of names and colons. -/
def nameToken (cs : List Char) : DoctypeToken :=
  let text := String.ofList cs
  if !cs.head?.any isNameStart then .word
  else
    match cs.count ':' with
    | 0 => .name text
    | 1 => if cs.getLast? == some ':' then .word else .qualified text
    | _ => .word

/-- Reads a token of characters of names. -/
def nameLike (cs : List Char) : Reading (DoctypeToken × List Char) :=
  let belongs (c : Char) : Bool := isNameChar c || c == ':'
  let token := nameToken (cs.takeWhile belongs)
  let rest := cs.dropWhile belongs
  match rest with
  | c :: after =>
    if isRepetition c then
      if token == .word then .error .doctype else .ok (.repeated, after)
    else if goesOnWith ">),|[%" rest then .ok (token, rest)
    else .error .doctype
  | [] => .ok (token, rest)

/-- Reads the token that begins with an angle. -/
def angled (cs : List Char) : Reading (DoctypeToken × List Char) := do
  match cs with
  | '?' :: cs => return (.remark, ← instruction cs)
  | '!' :: '-' :: '-' :: cs => return (.remark, ← comment cs)
  | '!' :: cs =>
    let keyword := cs.takeWhile isKeywordChar
    let rest := cs.dropWhile isKeywordChar
    let goesOn :=
      match rest with
      | '%' :: c :: _ => !isBlank c && c != '%'
      | c :: _ => isBlank c
      | [] => false
    if keyword.isEmpty || !goesOn then throw .doctype
    return (.opening (String.ofList keyword), rest)
  | _ => throw .doctype

/-- Reads a token that is no white space. -/
def doctypeToken (c : Char) (cs : List Char) : Reading (DoctypeToken × List Char) :=
  match c with
  | '<' => angled cs
  | '>' => .ok (.closing, cs)
  | '[' => .ok (.openBracket, cs)
  | ']' =>
    match cs with
    | ']' :: '>' :: _ => .error .doctype
    | cs => .ok (.closeBracket, cs)
  | '(' => .ok (.openParen, cs)
  | '|' => .ok (.bar, cs)
  | ',' => .ok (.comma, cs)
  | ')' =>
    match cs with
    | m :: rest =>
      if isRepetition m then .ok (.closeParen (some m), rest)
      else if goesOnWith ">,|)" cs then .ok (.closeParen none, cs)
      else .error .doctype
    | [] => .error .doctype
  | '#' => do
    let (found, rest) ← name cs
    if goesOnWith ")>%|" rest then return (.keyword (String.ofList found), rest)
    else throw .doctype
  | '%' =>
    match cs with
    | [] => .error .doctype
    | d :: _ =>
      if isBlank d || d == '%' then .ok (.percent, cs)
      else do
        match ← name cs with
        | (_, ';' :: rest) => return (.reference, rest)
        | _ => throw .doctype
  | _ =>
    if c == '\x22' || c == '\'' then
      match upTo [c] cs with
      | some (text, rest) =>
        if goesOnWith ">%[" rest then .ok (.literal text, rest) else .error .doctype
      | none => .error .doctype
    else if isNameChar c || c == ':' then nameLike (c :: cs)
    else .error .doctype

/-- Reads the tokens of a document type up to its end, where `depth` declarations are open within
it and `found` holds the tokens before in reverse. -/
def doctypeTokens : Nat → Nat → List DoctypeToken → List Char →
    Reading (List DoctypeToken × List Char)
  | 0, _, _, _ => .error .doctype
  | fuel + 1, depth, found, cs => do
    match skipBlanks cs with
    | [] => throw .doctype
    | c :: cs =>
      let (token, cs) ← doctypeToken c cs
      match token, depth with
      | .closing, 0 => return (found.reverse, cs)
      | .closing, depth + 1 => doctypeTokens fuel depth (token :: found) cs
      | .opening _, depth => doctypeTokens fuel (depth + 1) (token :: found) cs
      | _, depth => doctypeTokens fuel depth (token :: found) cs

/-! ## Declarations -/

/-- What a document type says of an attribute of an element. -/
structure AttributeRule where
  element : String
  name : String
  /-- Whether values keep their spaces. -/
  keepsSpaces : Bool
  /-- The value of a missing attribute. -/
  value : Option String := none
deriving Repr, DecidableEq

/-- What the declarations of a document say. -/
structure Doctype where
  /-- Whether the document stands alone. -/
  standalone : Bool := false
  /-- Whether declarations are passed over. -/
  skipping : Bool := false
  entities : Entities := {}
  rules : List AttributeRule := []
deriving Repr, Inhabited

namespace Doctype

/-- Notes that there are declarations which are not read. -/
def notePart (d : Doctype) : Doctype :=
  { d with entities := { d.entities with incomplete := !d.standalone } }

/-- What is said of the attributes of an element, in order. -/
def rulesOf (d : Doctype) (element : String) : List AttributeRule :=
  d.rules.filter (·.element == element)

/-- Adds what is said of an attribute.  A value counts for an attribute that is not yet known. -/
def addRule (d : Doctype) (rule : AttributeRule) : Doctype :=
  if rule.value.isSome && (d.rulesOf rule.element).any (·.name == rule.name) then d
  else { d with rules := d.rules ++ [rule] }

end Doctype

/-- The text of an entity as a literal writes it: characters are put in the place of their numbers,
and other references stay. -/
def entityText : Nat → List Char → List Char → Reading (List Char)
  | _, found, [] => .ok found.reverse
  | 0, _, _ => .error .reference
  | _, _, '%' :: _ => .error .reference
  | fuel + 1, found, '&' :: cs => do
    match ← reference cs with
    | (.char c, cs) => entityText fuel (c :: found) cs
    | (.entity name, cs) =>
      entityText fuel (('&' :: name.toList ++ [';']).reverse ++ found) cs
  | fuel + 1, found, c :: cs => entityText fuel (c :: found) cs

/-- Whether a public identifier may hold a character. -/
def isPublicChar (c : Char) : Bool :=
  c.isAlphanum || c == '\n' || c == '\r' || " -'()+,./:=?;!*#@$_%".toList.contains c

/-- Checks a public identifier. -/
def publicId (text : List Char) : Reading Unit :=
  if text.all isPublicChar then .ok () else .error .doctype

/-- Declares an entity. -/
def declareEntity (d : Doctype) (tokens : List DoctypeToken) : Reading Doctype := do
  let value (text : List Char) : Reading (Option (List Char)) :=
    if d.skipping then .ok none else (entityText (text.length + 1) [] text).map some
  let known (name : String) (text : Option (List Char)) : Doctype :=
    if d.skipping then d else { d with entities := d.entities.declare name text }
  match tokens with
  | [.name name, .literal text] => return known name (← value text)
  | [.name name, .name "SYSTEM", .literal _] => return known name none
  | [.name name, .name "SYSTEM", .literal _, .name "NDATA", .name _] => return known name none
  | [.name name, .name "PUBLIC", .literal p, .literal _] =>
    publicId p
    return known name none
  | [.name name, .name "PUBLIC", .literal p, .literal _, .name "NDATA", .name _] =>
    publicId p
    return known name none
  | [.percent, .name _, .literal text] =>
    let _ ← value text
    return d
  | [.percent, .name _, .name "SYSTEM", .literal _] => return d
  | [.percent, .name _, .name "PUBLIC", .literal p, .literal _] =>
    publicId p
    return d
  | _ => throw .doctype

/-- Checks the declaration of a notation. -/
def checkNotation : List DoctypeToken → Reading Unit
  | [.name _, .name "SYSTEM", .literal _] => .ok ()
  | [.name _, .name "PUBLIC", .literal p] => publicId p
  | [.name _, .name "PUBLIC", .literal p, .literal _] => publicId p
  | _ => .error .doctype

/-- Whether tokens are the rest of a model of characters mixed with elements. -/
def isMixedRest : List DoctypeToken → Bool
  | [.closeParen (some '*')] => true
  | .bar :: .name _ :: rest => isMixedRest rest
  | .bar :: .qualified _ :: rest => isMixedRest rest
  | _ => false

/-- Whether tokens are the rest of a model of elements.  The first argument holds the connectors of
the open groups, as far as they are known, and the second one says whether an item comes next. -/
def isModelRest : List (Option DoctypeToken) → Bool → List DoctypeToken → Bool
  | [], _, tokens => tokens.isEmpty
  | groups, true, .openParen :: rest => isModelRest (none :: groups) true rest
  | groups, true, .name _ :: rest => isModelRest groups false rest
  | groups, true, .qualified _ :: rest => isModelRest groups false rest
  | groups, true, .repeated :: rest => isModelRest groups false rest
  | _ :: groups, false, .closeParen _ :: rest => isModelRest groups false rest
  | group :: groups, false, token :: rest =>
    (token == .bar || token == .comma) && group.all (· == token)
      && isModelRest (some token :: groups) true rest
  | _, _, _ => false

/-- Checks the declaration of an element. -/
def checkElement (tokens : List DoctypeToken) : Reading Unit :=
  let check (holds : Bool) : Reading Unit := if holds then .ok () else .error .doctype
  let model : List DoctypeToken → Reading Unit
    | [.name word] => check (word == "EMPTY" || word == "ANY")
    | .openParen :: .keyword word :: rest =>
      check (word == "PCDATA" && (rest == [.closeParen none] || isMixedRest rest))
    | .openParen :: rest => check (isModelRest [none] true rest)
    | _ => .error .doctype
  match tokens with
  | .name _ :: rest => model rest
  | .qualified _ :: rest => model rest
  | _ => .error .doctype

/-- Reads the choices of an attribute up to the closing parenthesis. -/
def choices (isChoice : DoctypeToken → Bool) : List DoctypeToken → Reading (List DoctypeToken)
  | choice :: .closeParen none :: rest => if isChoice choice then .ok rest else .error .doctype
  | choice :: .bar :: rest =>
    if isChoice choice then choices isChoice rest else .error .doctype
  | _ => .error .doctype

/-- The types of attributes that are words. -/
def attributeTypes : List String :=
  ["CDATA", "ID", "IDREF", "IDREFS", "ENTITY", "ENTITIES", "NMTOKEN", "NMTOKENS"]

/-- Reads the type of an attribute: whether values keep their spaces, and the tokens after it. -/
def attributeType : List DoctypeToken → Reading (Bool × List DoctypeToken)
  | .openParen :: rest =>
    let isChoice (t : DoctypeToken) : Bool :=
      match t with
      | .name _ | .qualified _ | .word => true
      | _ => false
    (choices isChoice rest).map fun rest => (false, rest)
  | .name "NOTATION" :: .openParen :: rest =>
    let isChoice (t : DoctypeToken) : Bool :=
      match t with
      | .name _ => true
      | _ => false
    (choices isChoice rest).map fun rest => (false, rest)
  | .name type :: rest =>
    if attributeTypes.contains type then .ok (type == "CDATA", rest) else .error .doctype
  | _ => .error .doctype

/-- Reads what is said of the attributes of an element. -/
def declareAttributes (element : String) :
    Nat → Doctype → List DoctypeToken → Expansion Doctype
  | _, d, [] => pure d
  | 0, _, _ => throw .doctype
  | fuel + 1, d, token :: tokens => do
    let name ←
      match token with
      | .name text | .qualified text => pure text
      | _ => throw .doctype
    let (keepsSpaces, tokens) ← attributeType tokens
    let define (value : Option String) : Doctype :=
      if d.skipping then d else d.addRule { element, name, keepsSpaces, value }
    let defaultValue (text : List Char) : Expansion Doctype := do
      if d.skipping then return d
      let value ← valueOf d.entities d.entities.depth text
      return define (some (String.ofList (if keepsSpaces then value else collapseSpaces value)))
    match tokens with
    | .keyword "IMPLIED" :: rest => declareAttributes element fuel (define none) rest
    | .keyword "REQUIRED" :: rest => declareAttributes element fuel (define none) rest
    | .keyword "FIXED" :: .literal text :: rest => do
      declareAttributes element fuel (← defaultValue text) rest
    | .literal text :: rest => do declareAttributes element fuel (← defaultValue text) rest
    | _ => throw .doctype

/-- Takes in a declaration. -/
def declare (d : Doctype) (keyword : String) (tokens : List DoctypeToken) :
    Expansion Doctype := do
  match keyword, tokens with
  | "ENTITY", tokens => declareEntity d tokens
  | "NOTATION", tokens => do
    checkNotation tokens
    return d
  | "ELEMENT", tokens => do
    checkElement tokens
    return d
  | "ATTLIST", .name element :: tokens => declareAttributes element tokens.length d tokens
  | "ATTLIST", .qualified element :: tokens => declareAttributes element tokens.length d tokens
  | _, _ => throw .doctype

/-- Takes in the declarations between brackets. -/
def declareAll : Nat → Doctype → List DoctypeToken → Expansion Doctype
  | 0, _, _ => throw .doctype
  | _ + 1, d, [.closeBracket] => pure d
  | fuel + 1, d, .remark :: rest => declareAll fuel d rest
  | fuel + 1, d, .reference :: rest =>
    declareAll fuel { d.notePart with skipping := !d.standalone } rest
  | fuel + 1, d, .opening keyword :: rest => do
    let isEnd (t : DoctypeToken) : Bool := t == .closing
    let d ← declare d keyword (rest.takeWhile (!isEnd ·))
    declareAll fuel d ((rest.dropWhile (!isEnd ·)).drop 1)
  | _, _, _ => throw .doctype

/-- Takes in a document type. -/
def declareDoctype (d : Doctype) (tokens : List DoctypeToken) : Expansion Doctype := do
  let tokens ←
    match tokens with
    | .name _ :: rest => pure rest
    | .qualified _ :: rest => pure rest
    | _ => throw .doctype
  let (d, tokens) ←
    match tokens with
    | .name "SYSTEM" :: .literal _ :: rest => pure (d.notePart, rest)
    | .name "PUBLIC" :: .literal p :: .literal _ :: rest => do
      publicId p
      pure (d.notePart, rest)
    | rest => pure (d, rest)
  match tokens with
  | [] => return d
  | .openBracket :: rest => declareAll (rest.length + 1) d rest
  | _ => throw .doctype

/-! ## The front of a document -/

/-- Reads what stands in front of the root element. -/
def prologue : Nat → Bool → Doctype → List Char → Expansion (Doctype × List Char)
  | 0, _, _, _ => throw .doctype
  | fuel + 1, typed, d, cs => do
    match skipBlanks cs with
    | '<' :: '?' :: cs => do prologue fuel typed d (← instruction cs)
    | '<' :: '!' :: '-' :: '-' :: cs => do prologue fuel typed d (← comment cs)
    | '<' :: '!' :: cs =>
      match after? "DOCTYPE".toList cs with
      | some (c :: cs) =>
        if typed || !isBlank c then throw .doctype
        else do
          let (tokens, cs) ← doctypeTokens (cs.length + 1) 0 [] cs
          prologue fuel true (← declareDoctype d tokens) cs
      | _ => throw .doctype
    | cs => return (d, cs)

end Xml
end FixBindings
