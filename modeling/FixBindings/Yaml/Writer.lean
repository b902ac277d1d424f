import FixBindings.Text.Base64
import FixBindings.Yaml.Tag

/-!
# Writing YAML

A YAML text of a document in ASCII.  Collections are blocks but for empty ones, and a sequence
within a mapping has no indentation of its own.  A scalar is plain where its text and tag allow it,
in single quotation marks where all of its characters may stand there, and in double ones
otherwise.  Lines are broken at spaces beyond `width` columns.
-/

set_option autoImplicit false

namespace FixBindings
namespace Yaml

/-- The column beyond which lines are broken. -/
def width : Nat := 80

/-- The columns of one level of indentation. -/
def levelWidth : Nat := 2

/-! ## Scalars -/

/-- The forms of a scalar. -/
inductive ScalarStyle where
  | plain
  | single
  | double
  | literal
deriving Repr, DecidableEq

/-- A scalar to write. -/
structure Scalar where
  tag : String
  text : List Char
  /-- Whether the text is a block of lines where that is possible. -/
  block : Bool := false

/-- The lines of a block of base 64, each with its end. -/
def base64Lines : Nat → List Char → List Char
  | 0, _ => []
  | _ + 1, [] => []
  | fuel + 1, cs => cs.take 76 ++ '\n' :: base64Lines fuel (cs.drop 76)

/-- The text of a real number, which always has a point. -/
def realScalar (x : Float) : List Char :=
  match Number.realParts x with
  | .notANumber => ".nan".toList
  | .infinite negative => (if negative then "-.inf" else ".inf").toList
  | .finite _ _ _ =>
    let cs := (Number.realText x).toList
    if cs.contains '.' || !cs.contains 'e' then cs
    else cs.takeWhile (· != 'e') ++ ".0".toList ++ cs.dropWhile (· != 'e')

/-- The scalar of a document that holds no other documents. -/
def scalarOf : Document → Scalar
  | .null => ⟨"null", "null".toList, false⟩
  | .bool b => ⟨"bool", (if b then "true" else "false").toList, false⟩
  | .int n => ⟨"int", (toString n).toList, false⟩
  | .real x => ⟨"float", realScalar x, false⟩
  | .bytes octets =>
    let cs := Base64.encode octets
    ⟨"binary", base64Lines (cs.length + 1) cs, true⟩
  | .date d => ⟨"timestamp", d.text.toList, false⟩
  | .timestamp t => ⟨"timestamp", (t.text ' ').toList, false⟩
  | .text s => ⟨"str", s.toList, false⟩
  | d => ⟨"str", d.display.toList, false⟩

/-- A tag as it is written. -/
def shortTag (tag : String) : String := "!!" ++ tag

/-- Whether a plain scalar of this text has this tag. -/
def Scalar.isImplicit (s : Scalar) : Bool := plainTag (String.ofList s.text) == commonTag s.tag

/-- Whether a character is a line break within a scalar. -/
def isInnerBreak (c : Char) : Bool :=
  c == '\n' || c == '\u0085' || c == '\u2028' || c == '\u2029'

/-- Whether a character separates words. -/
def isInnerBlank (c : Char) : Bool :=
  c == ' ' || c == '\t' || c == '\x00' || c == '\r' || isInnerBreak c

/-- Whether a character may stand in a scalar that is not in double quotation marks. -/
def isUnescaped (c : Char) : Bool := c == '\n' || (decide (' ' ≤ c) && decide (c ≤ '~'))

/-- Whether a first character, with the one after it, keeps a scalar from being plain. -/
def isIndicatorStart (c : Char) (next : Option Char) : Bool :=
  "#,[]\x7b\x7d&*!|>'\x22%@\x60".toList.contains c
    || ((c == '?' || c == ':' || c == '-') && next.all isInnerBlank)

/-- Whether a later character keeps a scalar from being plain: a colon in front of a blank, or a
number sign after one. -/
def hasInnerIndicator : List Char → Bool
  | a :: b :: rest =>
    (b == ':' && rest.head?.all isInnerBlank) || (b == '#' && isInnerBlank a)
      || hasInnerIndicator (b :: rest)
  | _ => false

/-- Whether a character of one kind is followed by one of another. -/
def hasSequence (p q : Char → Bool) : List Char → Bool
  | a :: b :: rest => (p a && q b) || hasSequence p q (b :: rest)
  | _ => false

/-- Whether a text begins like a separator of documents. -/
def startsLikeSeparator (cs : List Char) : Bool :=
  cs.take 3 == ['-', '-', '-'] || cs.take 3 == ['.', '.', '.']

/-- Whether a text may be plain. -/
def allowsPlain (cs : List Char) : Bool :=
  let isEdge (c : Char) : Bool := c == ' ' || isInnerBreak c
  match cs with
  | [] => true
  | c :: rest =>
    !startsLikeSeparator cs && !isIndicatorStart c rest.head? && !hasInnerIndicator cs
      && !cs.any isInnerBreak && cs.all isUnescaped
      && !isEdge c && !cs.getLast?.any isEdge

/-- Whether a text may stand in single quotation marks. -/
def allowsSingle (cs : List Char) : Bool :=
  cs.all isUnescaped && !hasSequence isInnerBreak (· == ' ') cs
    && !hasSequence (· == ' ') isInnerBreak cs

/-- Whether a text may be a block of lines. -/
def allowsBlock (cs : List Char) : Bool :=
  !cs.isEmpty && cs.all isUnescaped && !hasSequence (· == ' ') isInnerBreak cs
    && cs.getLast? != some ' '

/-- The form of a scalar, where a key that is not marked has to stay on its line. -/
def Scalar.style (s : Scalar) (simpleKey : Bool) : ScalarStyle :=
  let multiline := s.text.any isInnerBreak
  if s.block then
    if !simpleKey && allowsBlock s.text then .literal else .double
  else if s.isImplicit && allowsPlain s.text && !(simpleKey && (s.text.isEmpty || multiline)) then
    .plain
  else if allowsSingle s.text && !(simpleKey && multiline) then .single
  else .double

/-- Whether a scalar of a form needs its tag. -/
def Scalar.needsTag (s : Scalar) (style : ScalarStyle) : Bool :=
  if style == .plain then !s.isImplicit else s.tag != "str"

/-! ## The written text -/

/-- A text while it is written. -/
structure Writer where
  text : String := ""
  column : Nat := 0
  /-- Whether white space was written last. -/
  blank : Bool := true
  /-- Whether the line holds nothing but indentation and marks of entries. -/
  indenting : Bool := true

namespace Writer

/-- Writes characters. -/
def put (w : Writer) (cs : List Char) : Writer :=
  { w with text := cs.foldl String.push w.text, column := w.column + cs.length }

/-- Ends a line. -/
def endLine (w : Writer) : Writer :=
  { text := w.text.push '\n', column := 0, blank := true, indenting := true }

/-- Goes to a column, on a new line if something stands in the way. -/
def indentTo (w : Writer) (indent : Nat) : Writer :=
  let w :=
    if !w.indenting || decide (indent < w.column) || (w.column == indent && !w.blank) then w.endLine
    else w
  if w.column < indent then
    { w.put (List.replicate (indent - w.column) ' ') with blank := true }
  else w

/-- Writes a mark, after a space if it needs one. -/
def mark (w : Writer) (mark : String) (spaced : Bool) (blankAfter : Bool := false)
    (indents : Bool := false) : Writer :=
  let cs := if w.blank || !spaced then mark.toList else ' ' :: mark.toList
  { w.put cs with blank := blankAfter, indenting := w.indenting && indents }

/-- Writes the rest of a plain scalar, where `spaces` counts the spaces in front of it. -/
def plainRest (indent : Nat) (split : Bool) :
    Writer → Nat → List Char → Writer
  | w, spaces, [] => w.put (List.replicate spaces ' ')
  | w, spaces, c :: rest =>
    if c == ' ' then plainRest indent split w (spaces + 1) rest
    else
      let w :=
        if spaces == 1 && decide (width < w.column) && split then
          { w.indentTo indent with blank := false, indenting := false }
        else w.put (List.replicate spaces ' ')
      plainRest indent split (w.put [c]) 0 rest

/-- Writes a plain scalar. -/
def plain (w : Writer) (indent : Nat) (split : Bool) (cs : List Char) : Writer :=
  if cs.isEmpty then w
  else
    let w := if w.blank then w else w.put [' ']
    plainRest indent split { w with blank := false, indenting := false } 0 cs

/-- Writes line breaks within a quoted scalar. -/
def innerBreaks (w : Writer) (indent : Nat) (breaks : Nat) : Writer :=
  ((List.replicate (breaks + 1) ()).foldl (fun w _ => w.endLine) w).indentTo indent

/-- Writes the rest of a scalar between single marks, where `start` says that nothing of it is
written yet, and `spaces` and `breaks` count the spaces or line breaks in front. -/
def singleRest (indent : Nat) (split : Bool) :
    Writer → Bool → Nat → Nat → List Char → Writer
  | w, _, spaces, breaks, [] =>
    if breaks = 0 then w.put (List.replicate spaces ' ') else w.innerBreaks indent breaks
  | w, start, spaces, breaks, c :: rest =>
    if c == ' ' && breaks == 0 then singleRest indent split w start (spaces + 1) 0 rest
    else if isInnerBreak c && spaces == 0 then singleRest indent split w start 0 (breaks + 1) rest
    else
      let w :=
        if breaks != 0 then w.innerBreaks indent breaks
        else if spaces == 1 && decide (width < w.column) && split && !start then w.indentTo indent
        else w.put (List.replicate spaces ' ')
      if c == ' ' then singleRest indent split w false 1 0 rest
      else if isInnerBreak c then singleRest indent split w false 0 1 rest
      else
        singleRest indent split (w.put (if c == '\'' then ['\'', '\''] else [c])) false 0 0 rest

/-- Writes a scalar between single marks. -/
def single (w : Writer) (indent : Nat) (split : Bool) (cs : List Char) : Writer :=
  (singleRest indent split (w.mark "'" true) true 0 0 cs).mark "'" false

/-- A number in capital hexadecimal digits. -/
def capitalHex (width n : Nat) : List Char := (Quoted.hex width n).map Char.toUpper

/-- The escape of a character, if it has to be escaped between double marks. -/
def doubleEscape? (c : Char) : Option (List Char) :=
  if c == '\x22' || c == '\\' then some ['\\', c]
  else if ' ' ≤ c ∧ c ≤ '~' then none
  else
    some <| '\\' ::
      match c with
      | '\x00' => ['0']
      | '\x07' => ['a']
      | '\x08' => ['b']
      | '\t' => ['t']
      | '\n' => ['n']
      | '\x0b' => ['v']
      | '\x0c' => ['f']
      | '\r' => ['r']
      | '\x1b' => ['e']
      | '\u0085' => ['N']
      | '\u00a0' => ['_']
      | '\u2028' => ['L']
      | '\u2029' => ['P']
      | _ =>
        if c.toNat ≤ 0xFF then 'x' :: capitalHex 2 c.toNat
        else if c.toNat ≤ 0xFFFF then 'u' :: capitalHex 4 c.toNat
        else 'U' :: capitalHex 8 c.toNat

/-- Breaks a line within double marks, in front of a character. -/
def doubleBreak (w : Writer) (indent : Nat) (next : Option Char) : Writer :=
  let w := { (w.put ['\\']).indentTo indent with blank := false, indenting := false }
  if next == some ' ' then w.put ['\\'] else w

/-- Writes the rest of a scalar between double marks, where `start` says that nothing of it is
written yet, and `pending` holds the characters in reverse that wait to be written. -/
def doubleRest (indent : Nat) (split : Bool) :
    Writer → Bool → List Char → List Char → Writer
  | w, _, pending, [] => w.put pending.reverse
  | w, start, pending, c :: rest =>
    let within := !start && !rest.isEmpty && split
    match doubleEscape? c with
    | some escape =>
      let w := (w.put pending.reverse).put escape
      let w :=
        if within && decide (width + 1 < w.column) then w.doubleBreak indent rest.head? else w
      doubleRest indent split w false [] rest
    | none =>
      if within && (c == ' ' || pending.isEmpty) && decide (width < w.column + pending.length) then
        doubleRest indent split ((w.put pending.reverse).doubleBreak indent (some c)) false [c] rest
      else doubleRest indent split w false (c :: pending) rest

/-- Writes a scalar between double marks. -/
def double (w : Writer) (indent : Nat) (split : Bool) (cs : List Char) : Writer :=
  (doubleRest indent split (w.mark "\x22" true) true [] cs).mark "\x22" false

/-- Writes the lines of a block, each of which ends in a line feed. -/
def literalLines (indent : Nat) : Writer → List Char → Writer
  | w, [] => w
  | w, c :: rest =>
    if c == '\n' then literalLines indent w.endLine rest
    else
      let w := if w.column = 0 then w.indentTo indent else w
      literalLines indent (w.put [c]) rest

/-- Writes a block of lines. -/
def literal (w : Writer) (indent : Nat) (cs : List Char) : Writer :=
  literalLines indent (w.mark "|" true).endLine cs

/-- Writes a scalar. -/
def scalar (w : Writer) (indent : Nat) (simpleKey : Bool) (s : Scalar) : Writer :=
  let style := s.style simpleKey
  let w := if s.needsTag style then w.mark (shortTag s.tag) true else w
  match style with
  | .plain => w.plain indent (!simpleKey) s.text
  | .single => w.single indent (!simpleKey) s.text
  | .double => w.double indent (!simpleKey) s.text
  | .literal => w.literal indent s.text

end Writer

/-! ## Documents -/

/-- The indentation of the collection within a collection. -/
def deeper (indent : Option Nat) : Nat := (indent.map (· + levelWidth)).getD 0

/-- The indentation of the lines of a scalar within a collection. -/
def scalarIndent (indent : Option Nat) : Nat := (indent.getD 0) + levelWidth

/-- Whether a key can stand on a line without a mark. -/
def isSimpleKey : Document → Bool
  | .seq items => items.isEmpty
  | .map entries => entries.isEmpty
  | .set members => members.isEmpty
  | .pair _ _ => false
  | d =>
    let s := scalarOf d
    decide ((shortTag s.tag).length + s.text.length < 128) && !s.text.isEmpty
      && !s.text.any isInnerBreak

mutual

/-- Writes a document, where `inMapping` says that it is a key or a value, and `simpleKey` that it
is a key without a mark. -/
def writeNode (indent : Option Nat) (inMapping simpleKey : Bool) (w : Writer) :
    Document → Writer
  | .seq items =>
    if items.isEmpty then (w.mark "[" true true).mark "]" false
    else writeItems (sequenceIndent indent inMapping w) w items
  | .pair k v =>
    let column := sequenceIndent indent inMapping w
    let w := writeNode (some column) false false ((w.indentTo column).mark "-" true false true) k
    writeNode (some column) false false ((w.indentTo column).mark "-" true false true) v
  | .map entries =>
    if entries.isEmpty then (w.mark "\x7b" true true).mark "\x7d" false
    else writeEntries (deeper indent) w entries
  | .set members =>
    let w := w.mark (shortTag "set") true
    if members.isEmpty then (w.mark "\x7b" true true).mark "\x7d" false
    else writeMembers (deeper indent) w members
  | .null => w.scalar (scalarIndent indent) simpleKey (scalarOf .null)
  | .bool b => w.scalar (scalarIndent indent) simpleKey (scalarOf (.bool b))
  | .int n => w.scalar (scalarIndent indent) simpleKey (scalarOf (.int n))
  | .real x => w.scalar (scalarIndent indent) simpleKey (scalarOf (.real x))
  | .text s => w.scalar (scalarIndent indent) simpleKey (scalarOf (.text s))
  | .bytes octets => w.scalar (scalarIndent indent) simpleKey (scalarOf (.bytes octets))
  | .date d => w.scalar (scalarIndent indent) simpleKey (scalarOf (.date d))
  | .timestamp t => w.scalar (scalarIndent indent) simpleKey (scalarOf (.timestamp t))
termination_by structural x => x

/-- Writes the items of a sequence at a column. -/
def writeItems (column : Nat) (w : Writer) : List Document → Writer
  | [] => w
  | d :: rest =>
    let w := (w.indentTo column).mark "-" true false true
    writeItems column (writeNode (some column) false false w d) rest
termination_by structural x => x

/-- Writes the entries of a mapping at a column. -/
def writeEntries (column : Nat) (w : Writer) : List (Document × Document) → Writer
  | [] => w
  | e :: rest => writeEntries column (writeEntry column w e) rest
termination_by structural x => x

/-- Writes an entry of a mapping at a column. -/
def writeEntry (column : Nat) (w : Writer) : Document × Document → Writer
  | (k, v) =>
    let w := w.indentTo column
    if isSimpleKey k then
      let w := (writeNode (some column) true true w k).mark ":" false
      writeNode (some column) true false w v
    else
      let w := writeNode (some column) true false (w.mark "?" true false true) k
      writeNode (some column) true false ((w.indentTo column).mark ":" true false true) v
termination_by structural x => x

/-- Writes the members of a set at a column, as keys without values. -/
def writeMembers (column : Nat) (w : Writer) : List Document → Writer
  | [] => w
  | d :: rest =>
    let w := w.indentTo column
    let w :=
      if isSimpleKey d then (writeNode (some column) true true w d).mark ":" false
      else
        let w := writeNode (some column) true false (w.mark "?" true false true) d
        (w.indentTo column).mark ":" true false true
    writeMembers column (w.scalar (column + levelWidth) false (scalarOf .null)) rest
termination_by structural x => x

/-- The column of a sequence: that of the mapping around it if it begins after a key. -/
def sequenceIndent (indent : Option Nat) (inMapping : Bool) (w : Writer) : Nat :=
  if inMapping && !w.indenting then indent.getD 0 else deeper indent

end

/-- Whether a document is a plain scalar by itself, which needs an end of the document. -/
def isOpenEnded : Document → Bool
  | .seq _ | .map _ | .set _ | .pair _ _ => false
  | d => (scalarOf d).style false == .plain

/-- A document as YAML. -/
def write (d : Document) : String :=
  let w := (writeNode none false false {} d).indentTo 0
  if isOpenEnded d then ((w.mark "..." true).indentTo 0).text else w.text

end Yaml
end FixBindings
