import FixBindings.Yaml.Cursor

/-!
# Scalars in YAML texts

The text of a scalar in each of its styles: as a block of lines, which may be folded; between
quotation marks; and plain.  A single line break between two lines of a folded, quoted or plain
scalar is a space, and of several breaks the first one vanishes.

Where a function takes a number `fuel`, it has to exceed the number of characters left.
-/

set_option autoImplicit false

namespace FixBindings
namespace Yaml

/-! ## Blocks of lines -/

/-- How the line breaks at the end of a block are kept. -/
inductive Chomping where
  | strip
  | clip
  | keep
deriving Repr, DecidableEq

/-- The chomping that a character stands for. -/
def chomping? : Option Char → Option Chomping
  | some '+' => some .keep
  | some '-' => some .strip
  | _ => none

/-- The indentation that a digit stands for. -/
def increment? (c : Option Char) : Option Nat :=
  match c with
  | some d => if d.isDigit then some (d.toNat - 0x30) else none
  | none => none

/-- Reads the indicators of a block: chomping and indentation, in either order. -/
def blockHeader (c : Cursor) : Reading (Chomping × Option Nat × Cursor) := do
  let (chomping, increment, c) :=
    match chomping? c.peek with
    | some chomping =>
      match increment? c.next.peek with
      | some n => (chomping, some n, c.advance 2)
      | none => (chomping, none, c.next)
    | none =>
      match increment? c.peek with
      | some n =>
        match chomping? c.next.peek with
        | some chomping => (chomping, some n, c.advance 2)
        | none => (.clip, some n, c.next)
      | none => (.clip, none, c)
  if increment == some 0 then refuse .blockHeader
  else if !c.endsOr (fun x => x == ' ' || isBreak x) then refuse .blockHeader
  else return (chomping, increment, ← c.skipRestOfLine .blockHeader)

/-- Reads the blank lines in front of a block whose indentation is not given: the breaks and the
greatest column. -/
def blockIndentation : Nat → Nat → List Char → Cursor → List Char × Nat × Cursor
  | 0, widest, breaks, c => (breaks, widest, c)
  | fuel + 1, widest, breaks, c =>
    match c.peek with
    | none => (breaks, widest, c)
    | some x =>
      if x == ' ' then blockIndentation fuel (max widest c.next.column) breaks c.next
      else if isBreak x then
        let (lineBreak, c) := c.lineBreak
        blockIndentation fuel widest (breaks ++ lineBreak) c
      else (breaks, widest, c)

/-- The place after the spaces in front, up to a column. -/
def skipIndentation (indent : Nat) (c : Cursor) : Cursor :=
  c.advance (min (indent - c.column) (c.run (· == ' ')).length)

/-- Reads blank lines within a block: the breaks, and the place after the indentation of the line
that follows. -/
def blockBreaks (indent : Nat) : Nat → List Char → Cursor → List Char × Cursor
  | 0, breaks, c => (breaks, c)
  | fuel + 1, breaks, c =>
    let c := skipIndentation indent c
    if c.peek.any isBreak then
      let (lineBreak, c) := c.lineBreak
      blockBreaks indent fuel (breaks ++ lineBreak) c
    else (breaks, c)

/-- Whether a character in front of a line keeps the line from being folded. -/
def isIndented (c : Cursor) : Bool := c.peek.any fun x => x == ' ' || x == '\t'

/-- Reads the lines of a block from the first one on: the text up to its last line, the break after
that line, and the breaks that follow.  `breaks` are those in front of the line. -/
def blockLines (folded : Bool) (indent : Nat) :
    Nat → List Char → List Char → Cursor → List Char × List Char × List Char × Cursor
  | 0, text, breaks, c => (text, [], breaks, c)
  | fuel + 1, text, breaks, c =>
    let content := c.run (!isBreak ·)
    let flush := !isIndented c
    let text := text ++ breaks ++ content
    let (lineBreak, c) := (c.advance content.length).lineBreak
    let (breaks, c) := blockBreaks indent fuel [] c
    if c.column == indent && c.peek.isSome then
      let joint :=
        if folded && lineBreak == ['\n'] && flush && !isIndented c then
          if breaks.isEmpty then [' '] else []
        else lineBreak
      blockLines folded indent fuel (text ++ joint) breaks c
    else (text, lineBreak, breaks, c)

/-- Reads a block after its indicator, where `indent` is the indentation around it. -/
def blockText (fuel : Nat) (folded : Bool) (indent : Int) (c : Cursor) :
    Reading (String × Cursor) := do
  let (chomping, increment, c) ← blockHeader c
  let least := max 1 (indent + 1).toNat
  let (indent, breaks, c) :=
    match increment with
    | none =>
      let (breaks, widest, c) := blockIndentation fuel 0 [] c
      (max least widest, breaks, c)
    | some n =>
      let (breaks, c) := blockBreaks (least + n - 1) fuel [] c
      (least + n - 1, breaks, c)
  let (text, lineBreak, breaks, c) :=
    if c.column == indent && c.peek.isSome then blockLines folded indent fuel [] breaks c
    else ([], [], breaks, c)
  let tail :=
    match chomping with
    | .strip => []
    | .clip => lineBreak
    | .keep => lineBreak ++ breaks
  return (String.ofList (text ++ tail), c)

/-! ## Quoted scalars -/

/-- The character that a letter after a backslash stands for. -/
def escape? : Char → Option Char
  | '0' => some '\x00'
  | 'a' => some '\x07'
  | 'b' => some '\x08'
  | 't' | '\t' => some '\t'
  | 'n' => some '\n'
  | 'v' => some '\x0b'
  | 'f' => some '\x0c'
  | 'r' => some '\r'
  | 'e' => some '\x1b'
  | ' ' => some ' '
  | '\x22' => some '\x22'
  | '\\' => some '\\'
  | '/' => some '/'
  | 'N' => some '\u0085'
  | '_' => some '\u00a0'
  | 'L' => some '\u2028'
  | 'P' => some '\u2029'
  | _ => none

/-- The number of hexadecimal digits that follow a letter after a backslash. -/
def escapeLength? : Char → Option Nat
  | 'x' => some 2
  | 'u' => some 4
  | 'U' => some 8
  | _ => none

/-- The character of a number.  A surrogate stands for no character. -/
def numberedChar (n : Nat) : Reading Char :=
  if 0x80000000 ≤ n then .error .hugeCharacter
  else if 0x110000 ≤ n then .error .character
  else if 0xD800 ≤ n ∧ n < 0xE000 then .ok '\uFFFD'
  else .ok (Char.ofNat n)

/-- Reads a hexadecimal number of a given length. -/
def hexNumber (length : Nat) (c : Cursor) : Reading Nat :=
  let digits := c.rest.take length
  match digits.mapM hexValue? with
  | some ds => if ds.length = length then .ok (Number.ofDigits 16 ds) else refuse .escape
  | none => refuse .escape

/-- Reads blank lines within a quoted scalar. -/
def quotedBreaks : Nat → List Char → Cursor → Reading (List Char × Cursor)
  | 0, breaks, c => .ok (breaks, c)
  | fuel + 1, breaks, c =>
    if c.atSeparator then refuse .unterminated
    else
      let c := c.skipWhile fun x => x == ' ' || x == '\t'
      if c.peek.any isBreak then
        let (lineBreak, c) := c.lineBreak
        quotedBreaks fuel (breaks ++ lineBreak) c
      else .ok (breaks, c)

/-- The text of line breaks of which the first is `lineBreak`. -/
def foldBreaks (lineBreak breaks : List Char) : List Char :=
  (if lineBreak != ['\n'] then lineBreak else if breaks.isEmpty then [' '] else []) ++ breaks

/-- Reads an escape after its backslash. -/
def quotedEscape (fuel : Nat) (c : Cursor) : Reading (List Char × Cursor) :=
  match c.peek with
  | none => refuse .escape
  | some x =>
    match escape? x, escapeLength? x with
    | some y, _ => .ok ([y], c.next)
    | none, some length => do
      let y ← numberedChar (← hexNumber length c.next)
      return ([y], c.next.advance length)
    | none, none =>
      if isBreak x then quotedBreaks fuel [] c.lineBreak.2
      else refuse .escape

/-- Reads white space within a quoted scalar. -/
def quotedBlanks (fuel : Nat) (c : Cursor) : Reading (List Char × Cursor) :=
  let blanks := c.run fun x => x == ' ' || x == '\t'
  let c := c.advance blanks.length
  match c.peek with
  | none => refuse .unterminated
  | some x =>
    if isBreak x then do
      let (lineBreak, c) := c.lineBreak
      let (breaks, c) ← quotedBreaks fuel [] c
      return (foldBreaks lineBreak breaks, c)
    else .ok (blanks, c)

/-- Whether a character within quotation marks stands for itself. -/
def isQuotedPlain (x : Char) : Bool :=
  !(x == '\'' || x == '\x22' || x == '\\' || x == ' ' || x == '\t' || isBreak x)

/-- Reads a quoted scalar after its opening mark, where `text` holds what was read. -/
def quotedRest (double : Bool) : Nat → List Char → Cursor → Reading (String × Cursor)
  | 0, _, _ => refuse .unterminated
  | fuel + 1, text, c =>
    let content := c.run isQuotedPlain
    let text := text ++ content
    let c := c.advance content.length
    match c.rest with
    | [] => refuse .unterminated
    | '\'' :: '\'' :: _ =>
      if double then quotedRest double fuel (text ++ ['\'']) c.next
      else quotedRest double fuel (text ++ ['\'']) (c.advance 2)
    | x :: _ =>
      if x == (if double then '\x22' else '\'') then .ok (String.ofList text, c.next)
      else if x == '\'' || x == '\x22' || (x == '\\' && !double) then
        quotedRest double fuel (text ++ [x]) c.next
      else if x == '\\' then do
        let (escaped, c) ← quotedEscape (fuel + 1) c.next
        quotedRest double fuel (text ++ escaped) c
      else do
        let (blanks, c) ← quotedBlanks (fuel + 1) c
        quotedRest double fuel (text ++ blanks) c

/-- Reads a quoted scalar from its opening mark on. -/
def quotedText (fuel : Nat) (double : Bool) (c : Cursor) : Reading (String × Cursor) :=
  quotedRest double fuel [] c.next

/-! ## Plain scalars -/

/-- Whether a character separates the parts of a flow collection. -/
def isFlowIndicator (x : Char) : Bool :=
  x == ',' || x == '[' || x == ']' || x == '{' || x == '}'

/-- The characters of a plain scalar up to the next white space or its end. -/
def plainChars (inFlow : Bool) : List Char → List Char
  | [] => []
  | x :: rest =>
    let colonEnds := rest.head?.all fun y =>
      y == ' ' || y == '\t' || isBreak y || (inFlow && isFlowIndicator y)
    if x == ' ' || x == '\t' || isBreak x || (x == ':' && colonEnds)
        || (inFlow && (x == '?' || isFlowIndicator x)) then []
    else x :: plainChars inFlow rest

/-- Reads blank lines after a line of a plain scalar; nothing if a separator of documents
follows. -/
def plainBreaks : Nat → List Char → Cursor → Option (List Char) × Cursor
  | 0, breaks, c => (some breaks, c)
  | fuel + 1, breaks, c =>
    match c.peek with
    | none => (some breaks, c)
    | some x =>
      if x == ' ' then plainBreaks fuel breaks c.next
      else if isBreak x then
        let (lineBreak, c) := c.lineBreak
        if c.atSeparator then (none, c) else plainBreaks fuel (breaks ++ lineBreak) c
      else (some breaks, c)

/-- Reads white space after a part of a plain scalar: its text, whether a line ended, and the place
after it. -/
def plainBlanks (fuel : Nat) (c : Cursor) : List Char × Bool × Cursor :=
  let blanks := c.run (· == ' ')
  let c := c.advance blanks.length
  if c.peek.any isBreak then
    let (lineBreak, c) := c.lineBreak
    if c.atSeparator then ([], true, c)
    else
      match plainBreaks fuel [] c with
      | (none, c) => ([], true, c)
      | (some breaks, c) => (foldBreaks lineBreak breaks, true, c)
  else (blanks, false, c)

/-- Reads a plain scalar, where `text` holds what was read and `blanks` the white space after it:
the text, whether a line ended after its last part, and the place after it. -/
def plainRest (inFlow : Bool) (indent : Int) :
    Nat → List Char → List Char → Bool → Cursor → String × Bool × Cursor
  | 0, text, _, ended, c => (String.ofList text, ended, c)
  | fuel + 1, text, blanks, ended, c =>
    let part := plainChars inFlow c.rest
    if c.peek == some '#' || part.isEmpty then (String.ofList text, ended, c)
    else
      let text := text ++ blanks ++ part
      let (blanks, ended, c) := plainBlanks (fuel + 1) (c.advance part.length)
      if blanks.isEmpty || c.peek == some '#' || (!inFlow && decide ((c.column : Int) < indent)) then
        (String.ofList text, ended, c)
      else plainRest inFlow indent fuel text blanks ended c

/-- Reads a plain scalar, where `indent` is the indentation around it: its text, whether a line
ended after its last part, and the place after it. -/
def plainText (fuel : Nat) (inFlow : Bool) (indent : Int) (c : Cursor) :
    String × Bool × Cursor :=
  plainRest inFlow (indent + 1) fuel [] [] false c

end Yaml
end FixBindings
