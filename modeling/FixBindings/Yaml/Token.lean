import FixBindings.Text.Utf8
import FixBindings.Yaml.Text

/-!
# Tokens of YAML texts

A YAML text as a list of tokens.  Indentation opens and closes block collections.  A key need not
be marked: whatever may be a key is remembered by the place of its token, and a colon on the same
line, at most 1024 characters on, makes it one.
-/

set_option autoImplicit false

namespace FixBindings
namespace Yaml

/-- The tokens of a text. -/
inductive Token where
  | versionDirective (major : Nat)
  | tagDirective (handle stem : String)
  | otherDirective
  | documentStart
  | documentEnd
  | blockSequenceStart
  | blockMappingStart
  | blockEnd
  | flowSequenceStart
  | flowMappingStart
  | flowSequenceEnd
  | flowMappingEnd
  | key
  | value
  | blockEntry
  | flowEntry
  | alias (name : String)
  | anchor (name : String)
  | tag (handle : Option String) (suffix : String)
  | scalar (text : String) (plain : Bool)
  | streamEnd
deriving Repr, DecidableEq, Inhabited

/-- A token that may turn out to be a key. -/
structure SimpleKey where
  /-- The number of tokens before it. -/
  position : Nat
  /-- Whether it has to be a key, standing where only keys may. -/
  required : Bool
  place : Cursor
deriving Inhabited

/-- What is known while a text is taken apart. -/
structure Scan where
  cursor : Cursor
  /-- The tokens so far, the last one first. -/
  tokens : List Token := []
  count : Nat := 0
  /-- The number of open flow collections. -/
  flowLevel : Nat := 0
  /-- The column of the innermost block collection, or -1. -/
  indent : Int := -1
  /-- The columns of the block collections around it. -/
  indents : List Int := []
  /-- Whether a key may begin here. -/
  keyAllowed : Bool := true
  /-- The possible keys by flow level. -/
  keys : List (Nat × SimpleKey) := []
  finished : Bool := false

namespace Scan

/-- Adds a token. -/
def emit (s : Scan) (t : Token) : Scan := { s with tokens := t :: s.tokens, count := s.count + 1 }

/-- Adds a token at a position among the tokens. -/
def insert (s : Scan) (position : Nat) (t : Token) : Scan :=
  let later := s.count - position
  { s with tokens := s.tokens.take later ++ t :: s.tokens.drop later, count := s.count + 1 }

/-- Whether a flow collection is open. -/
def inFlow (s : Scan) : Bool := s.flowLevel != 0

/-- Goes on at another place. -/
def moveTo (s : Scan) (c : Cursor) : Scan := { s with cursor := c }

/-- Forbids or allows a key here. -/
def allowKey (s : Scan) (allowed : Bool) : Scan := { s with keyAllowed := allowed }

/-- Forgets possible keys that are too far back. -/
def dropStaleKeys (s : Scan) : Reading Scan :=
  let stale (k : Nat × SimpleKey) : Bool :=
    k.2.place.line != s.cursor.line || decide (1024 < s.cursor.index - k.2.place.index)
  if s.keys.any fun k => stale k && k.2.required then refuse .simpleKey
  else .ok { s with keys := s.keys.filter fun k => !stale k }

/-- Forgets the possible key of this flow level. -/
def dropKey (s : Scan) : Reading Scan :=
  match s.keys.lookup s.flowLevel with
  | none => .ok s
  | some key =>
    if key.required then refuse .simpleKey
    else .ok { s with keys := s.keys.filter fun k => k.1 != s.flowLevel }

/-- Remembers that the next token may be a key. -/
def saveKey (s : Scan) : Reading Scan :=
  if s.keyAllowed then do
    let s ← s.dropKey
    let key : SimpleKey :=
      { position := s.count
        required := !s.inFlow && s.indent == s.cursor.column
        place := s.cursor }
    return { s with keys := (s.flowLevel, key) :: s.keys }
  else .ok s

/-- Closes the block collections to the right of a column. -/
def unwind (s : Scan) (column : Int) : Scan :=
  if s.inFlow then s
  else
    let rec close (s : Scan) : List Int → Scan
      | [] => s
      | outer :: rest =>
        if column < s.indent then
          close { s.emit .blockEnd with indent := outer, indents := rest } rest
        else s
    close s s.indents

/-- Opens a block collection at a column, unless one is open there. -/
def openAt (s : Scan) (column : Int) : Option Scan :=
  if s.indent < column then some { s with indents := s.indent :: s.indents, indent := column }
  else none

/-- Adds the token that opens a block collection here, if that is due. -/
def openBlock (s : Scan) (t : Token) : Scan :=
  match s.openAt s.cursor.column with
  | some s => s.emit t
  | none => s

/-- Goes on to the next token, past white space and comments. -/
def skipBlanks : Nat → Scan → Scan
  | 0, s => s
  | fuel + 1, s =>
    let c := s.cursor.skipSpaces.skipComment
    match c.lineBreak with
    | ([], _) => s.moveTo c
    | (_, c) => skipBlanks fuel ((s.moveTo c).allowKey (s.keyAllowed || !s.inFlow))

/-! ## Directives, anchors and tags -/

/-- Reads a number of a directive. -/
def directiveNumber (c : Cursor) : Reading (Nat × Cursor) :=
  let digits := c.run Char.isDigit
  if digits.isEmpty then refuse .directive
  else
    match Number.readInteger 10 (String.ofList digits) with
    | .ok n => .ok (n.toNat, c.advance digits.length)
    | .error (.tooLong n) => .error (.integerTooLong n)
    | .error .notLiteral => refuse .directive

/-- Refuses a text that does not go on with a blank or end here. -/
def expectBlank (c : Cursor) (cause : Malformation) : Reading Unit :=
  if c.endsOr fun x => x == ' ' || isBreak x then .ok () else refuse cause

/-- Reads the octets of a tag that are given by their numbers. -/
def tagOctets : Nat → List UInt8 → Cursor → Reading (List UInt8 × Cursor)
  | 0, octets, c => .ok (octets, c)
  | fuel + 1, octets, c =>
    match c.rest with
    | '%' :: x :: y :: _ =>
      match hexValue? x, hexValue? y with
      | some m, some n => tagOctets fuel (octets ++ [UInt8.ofNat (16 * m + n)]) (c.advance 3)
      | _, _ => refuse .tag
    | '%' :: _ => refuse .tag
    | _ => .ok (octets, c)

/-- Whether a character may stand in a tag. -/
def isTagChar (x : Char) : Bool :=
  x.isAlphanum || "-;/?:@&=+$,_.!~*'()[]".toList.contains x

/-- Reads the characters of a tag. -/
def tagChars : Nat → List Char → Cursor → Reading (String × Cursor)
  | 0, text, c => .ok (String.ofList text, c)
  | fuel + 1, text, c =>
    match c.peek with
    | none => .ok (String.ofList text, c)
    | some x =>
      if isTagChar x then tagChars fuel (text ++ [x]) c.next
      else if x == '%' then do
        let (octets, c) ← tagOctets (fuel + 1) [] c
        match Utf8.decode octets with
        | .ok decoded => tagChars fuel (text ++ decoded.toList) c
        | .error _ => refuse .tag
      else .ok (String.ofList text, c)

/-- Reads the characters of a tag, of which there has to be one. -/
def tagUri (fuel : Nat) (c : Cursor) : Reading (String × Cursor) := do
  let (text, c') ← tagChars fuel [] c
  if c'.index == c.index then refuse .tag else return (text, c')

/-- Reads a tag handle: an exclamation mark, alone or with another one after a word. -/
def tagHandle (c : Cursor) : Reading (String × Cursor) :=
  match c.rest with
  | '!' :: ' ' :: _ => .ok ("!", c.next)
  | '!' :: rest =>
    let word := rest.takeWhile isWordChar
    match rest.drop word.length with
    | '!' :: _ => .ok (String.ofList ('!' :: (word ++ ['!'])), c.advance (word.length + 2))
    | _ => refuse .tag
  | _ => refuse .tag

/-- Reads a directive. -/
def directive (fuel : Nat) (c : Cursor) : Reading (Token × Cursor) := do
  let c := c.next
  let name := c.run isWordChar
  if name.isEmpty then refuse .directive
  else do
    let c := c.advance name.length
    expectBlank c .directive
    let (token, c) ←
      if name == ['Y', 'A', 'M', 'L'] then do
        let (major, c) ← directiveNumber c.skipSpaces
        if c.peek != some '.' then refuse .directive
        else do
          let (_, c) ← directiveNumber c.next
          expectBlank c .directive
          pure (Token.versionDirective major, c)
      else if name == ['T', 'A', 'G'] then do
        let (handle, c) ← tagHandle c.skipSpaces
        if c.peek != some ' ' then refuse .directive
        else do
          let (stem, c) ← tagUri fuel c.skipSpaces
          expectBlank c .directive
          pure (Token.tagDirective handle stem, c)
      else pure (Token.otherDirective, c.skipWhile (!isBreak ·))
    return (token, ← c.skipRestOfLine .directive)

/-- Reads the name of an anchor or alias after its mark. -/
def anchorName (c : Cursor) : Reading (String × Cursor) :=
  let name := c.next.run isWordChar
  let c := c.next.advance name.length
  let ends := c.endsOr fun x =>
    x == ' ' || x == '\t' || isBreak x || "?:,]\x7d%@".toList.contains x || x == '\x60'
  if name.isEmpty || !ends then refuse .anchor else .ok (String.ofList name, c)

/-- Whether a tag has a handle: an exclamation mark stands in it before the next blank. -/
def hasHandle (rest : List Char) : Bool :=
  (rest.takeWhile fun x => !(x == ' ' || isBreak x)).contains '!'

/-- Reads a tag. -/
def tagToken (fuel : Nat) (c : Cursor) : Reading (Token × Cursor) := do
  let (token, c) ←
    if c.peekAt 1 == some '<' then do
      let (suffix, c) ← tagUri fuel (c.advance 2)
      if c.peek == some '>' then pure (Token.tag none suffix, c.next) else refuse .tag
    else if c.blankAt 1 then pure (Token.tag none "!", c.next)
    else do
      let (handle, c) ← if hasHandle c.next.rest then tagHandle c else pure ("!", c.next)
      let (suffix, c) ← tagUri fuel c
      pure (Token.tag (some handle) suffix, c)
  expectBlank c .tag
  return (token, c)

/-! ## Single tokens -/

/-- Ends the block collections and possible keys in front of something that ends a document. -/
def endContent (s : Scan) : Reading Scan := do
  return (← (s.unwind (-1)).dropKey).allowKey false

/-- Reads the end of the text. -/
def takeEnd (s : Scan) : Reading Scan := do
  let s ← s.endContent
  return { s.emit .streamEnd with finished := true, keys := [] }

/-- Reads a directive. -/
def takeDirective (fuel : Nat) (s : Scan) : Reading Scan := do
  let s ← s.endContent
  let (token, c) ← directive fuel s.cursor
  return (s.emit token).moveTo c

/-- Reads a separator of documents. -/
def takeSeparator (s : Scan) (t : Token) : Reading Scan := do
  let s ← s.endContent
  return (s.emit t).moveTo (s.cursor.advance 3)

/-- Reads the start of a flow collection. -/
def takeFlowStart (s : Scan) (t : Token) : Reading Scan := do
  let s ← s.saveKey
  return { s.emit t with
    flowLevel := s.flowLevel + 1, keyAllowed := true, cursor := s.cursor.next }

/-- Reads the end of a flow collection. -/
def takeFlowEnd (s : Scan) (t : Token) : Reading Scan := do
  let s ← s.dropKey
  if s.flowLevel = 0 then refuse .unbalanced
  else
    return { s.emit t with
      flowLevel := s.flowLevel - 1, keyAllowed := false, cursor := s.cursor.next }

/-- Reads the separator of the entries of a flow collection. -/
def takeFlowEntry (s : Scan) : Reading Scan := do
  let s ← (s.allowKey true).dropKey
  return (s.emit .flowEntry).moveTo s.cursor.next

/-- Opens a block collection in front of a mark, where one may stand. -/
def openForMark (s : Scan) (t : Token) : Reading Scan :=
  if s.inFlow then .ok s
  else if s.keyAllowed then .ok (s.openBlock t)
  else refuse .misplaced

/-- Reads the mark of an entry of a block sequence. -/
def takeBlockEntry (s : Scan) : Reading Scan := do
  let s ← s.openForMark .blockSequenceStart
  let s ← (s.allowKey true).dropKey
  return (s.emit .blockEntry).moveTo s.cursor.next

/-- Reads the mark of a key. -/
def takeKey (s : Scan) : Reading Scan := do
  let s ← s.openForMark .blockMappingStart
  let s ← (s.allowKey !s.inFlow).dropKey
  return (s.emit .key).moveTo s.cursor.next

/-- Reads the mark of a value, which makes a key of the possible key in front of it. -/
def takeValue (s : Scan) : Reading Scan := do
  match s.keys.lookup s.flowLevel with
  | some key =>
    let s := { s with keys := s.keys.filter fun k => k.1 != s.flowLevel }
    let s := s.insert key.position .key
    let s :=
      if s.inFlow then s
      else
        match s.openAt key.place.column with
        | some s => s.insert key.position .blockMappingStart
        | none => s
    return ((s.allowKey false).emit .value).moveTo s.cursor.next
  | none =>
    let s ← s.openForMark .blockMappingStart
    let s ← (s.allowKey !s.inFlow).dropKey
    return (s.emit .value).moveTo s.cursor.next

/-- Reads a token that may be a key. -/
def takeKeyPart (s : Scan) (read : Cursor → Reading (Token × Cursor)) : Reading Scan := do
  let s ← s.saveKey
  let (token, c) ← read s.cursor
  return ((s.allowKey false).emit token).moveTo c

/-- Reads a block scalar. -/
def takeBlock (fuel : Nat) (s : Scan) (folded : Bool) : Reading Scan := do
  let s ← (s.allowKey true).dropKey
  let (text, c) ← blockText fuel folded s.indent s.cursor.next
  return (s.emit (.scalar text false)).moveTo c

/-- Reads a plain scalar. -/
def takePlain (fuel : Nat) (s : Scan) : Reading Scan := do
  let s ← s.saveKey
  let (text, ended, c) := plainText fuel s.inFlow s.indent s.cursor
  return ((s.allowKey ended).emit (.scalar text true)).moveTo c

/-- Whether a plain scalar begins here. -/
def atPlain (s : Scan) : Bool :=
  match s.cursor.peek with
  | none => false
  | some x =>
    let marks := "-?:,[]\x7b\x7d#&*!|>'\x22%@\x60".toList
    !(x == ' ' || x == '\t' || isBreak x || marks.contains x)
      || (!s.cursor.blankAt 1 && (x == '-' || (!s.inFlow && (x == '?' || x == ':'))))

/-- Reads the token that begins with a character. -/
def takeFrom (fuel : Nat) (s : Scan) (x : Char) : Reading Scan :=
  let c := s.cursor
  let markAllowed := s.inFlow || c.blankAt 1
  if x == '%' && c.column == 0 then takeDirective fuel s
  else if c.column == 0 && c.atSeparator then
    s.takeSeparator (if x == '-' then .documentStart else .documentEnd)
  else if x == '[' then s.takeFlowStart .flowSequenceStart
  else if x == '\x7b' then s.takeFlowStart .flowMappingStart
  else if x == ']' then s.takeFlowEnd .flowSequenceEnd
  else if x == '\x7d' then s.takeFlowEnd .flowMappingEnd
  else if x == ',' then s.takeFlowEntry
  else if x == '-' && c.blankAt 1 then s.takeBlockEntry
  else if x == '?' && markAllowed then s.takeKey
  else if x == ':' && markAllowed then s.takeValue
  else if x == '*' then
    s.takeKeyPart fun c => do
      let (name, c) ← anchorName c
      return (.alias name, c)
  else if x == '&' then
    s.takeKeyPart fun c => do
      let (name, c) ← anchorName c
      return (.anchor name, c)
  else if x == '!' then s.takeKeyPart (tagToken fuel)
  else if x == '|' && !s.inFlow then takeBlock fuel s false
  else if x == '>' && !s.inFlow then takeBlock fuel s true
  else if x == '\'' || x == '\x22' then
    s.takeKeyPart fun c => do
      let (text, c) ← quotedText fuel (x == '\x22') c
      return (.scalar text false, c)
  else if s.atPlain then takePlain fuel s
  else refuse .token

/-- Reads the next token. -/
def take (fuel : Nat) (s : Scan) : Reading Scan := do
  let s ← (skipBlanks fuel s).dropStaleKeys
  let s := s.unwind s.cursor.column
  match s.cursor.peek with
  | none => s.takeEnd
  | some x => takeFrom fuel s x

/-- Reads tokens to the end of the text or to a fault. -/
def takeAll (fuel : Nat) : Nat → Scan → List Token × Option Fault
  | 0, s => (s.tokens.reverse, none)
  | steps + 1, s =>
    if s.finished then (s.tokens.reverse, none)
    else
      match take fuel s with
      | .ok s => takeAll fuel steps s
      | .error fault => (s.tokens.reverse, some fault)

end Scan

/-- The tokens of a text, up to its end or to the fault that comes after them. -/
def tokens (s : String) : List Token × Option Fault :=
  let cs := s.toList
  if !cs.all isPrintable then ([], some (.malformed .unprintable))
  else
    let start : Cursor := { rest := cs }
    let start := if start.peek == some '\uFEFF' then start.next else start
    let fuel := cs.length + 2
    Scan.takeAll fuel fuel { cursor := start }

end Yaml
end FixBindings
