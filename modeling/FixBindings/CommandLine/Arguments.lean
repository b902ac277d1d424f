import FixBindings.Document.Display
import FixBindings.Files.Path
import FixBindings.Options
import FixBindings.Unicode.Class

/-!
# Command line arguments

The arguments name the file of a repository and the output directory, and move the switches of a
generation run.  Every word is classified first: as an option with its name written out, shortened
or joined to a value, as the separator after which nothing is an option, or as a plain word.  Then
the options take their values, and what is left over is refused.
-/

set_option autoImplicit false

namespace FixBindings
namespace CommandLine

/-- The name that the program goes by. -/
def programName : String := "qfjgen"

/-- The output directory where none is named. -/
def defaultOutput : String := "target/generated-sources"

/-! ## Options -/

/-- What the command line can set. -/
inductive Setting where
  | help
  | output
  | source
  | binaryDecimal
  | messageBase
  | excludeSession
  | dedicatedSession
deriving Repr, DecidableEq

namespace Setting

/-- All settings, in the order in which they are described. -/
def all : List Setting :=
  [.help, .output, .source, .binaryDecimal, .messageBase, .excludeSession, .dedicatedSession]

/-- The names of a setting. -/
def names : Setting → List String
  | .help => ["-h", "--help"]
  | .output => ["-o", "--output-dir"]
  | .source => ["-i", "--orchestra-file"]
  | .binaryDecimal => ["--disable-big-decimal"]
  | .messageBase => ["--generate-message-base-class"]
  | .excludeSession => ["--exclude-session"]
  | .dedicatedSession => ["--generate-fixt11-package", "--no-generate-fixt11-package"]

/-- All names of a setting. -/
def label (s : Setting) : String := "/".intercalate s.names

/-- Whether a setting takes a value. -/
def takesValue : Setting → Bool
  | .output | .source => true
  | _ => false

/-- What a setting does. -/
def description : Setting → String
  | .help => "show this help message and exit"
  | .output => "The output directory (default: " ++ defaultOutput ++ ")"
  | .source => "The path/name of the FIX Orchestra file (.xml, .yaml or .json)"
  | .binaryDecimal => "Use DoubleField instead of BigDecimal DecimalField for decimal fields"
  | .messageBase => "Generate the Message base class, StandardHeader and StandardTrailer"
  | .excludeSession =>
    "Exclude session messages, session-only groups and fields used by the session layer"
  | .dedicatedSession => "Generate session artifacts in the fixt11 package (default: true)"

end Setting

/-- All names of settings, with the settings. -/
def optionNames : List (String × Setting) :=
  Setting.all.flatMap fun s => s.names.map fun name => (name, s)

/-- The setting of a name that is written out. -/
def settingOf? (name : String) : Option Setting := optionNames.lookup name

/-! ## Faults -/

/-- Why arguments are refused. -/
inductive UsageFault where
  /-- A shortened name may stand for several. -/
  | ambiguous (word : String) (names : List String)
  | missingValue (setting : Setting)
  | needlessValue (setting : Setting) (value : String)
  | missing (settings : List Setting)
  | unknown (words : List String)
deriving Repr, DecidableEq

/-- The text of a fault. -/
def UsageFault.message : UsageFault → String
  | .ambiguous word names =>
    "ambiguous option: " ++ word ++ " could match " ++ ", ".intercalate names
  | .missingValue setting => "argument " ++ setting.label ++ ": expected one argument"
  | .needlessValue setting value =>
    "argument " ++ setting.label ++ ": ignored explicit argument " ++ Quoted.text value
  | .missing settings =>
    "the following arguments are required: " ++ ", ".intercalate (settings.map Setting.label)
  | .unknown words => "unrecognized arguments: " ++ " ".intercalate words

/-- What may come of arguments instead of settings. -/
inductive Refusal where
  | usage (fault : UsageFault)
  /-- The value that is joined to an option is the separator, which is no value. -/
  | separatorValue
  /-- The settings are asked for. -/
  | help
deriving Repr, DecidableEq

/-! ## Words -/

/-- What a word of the command line is. -/
inductive Word where
  | plain (text : String)
  /-- The word after which nothing is an option. -/
  | separator
  /-- An option, by its full name, with a value that is joined to it. -/
  | option (setting : Setting) (name : String) (value : Option String)
  /-- An option that is not known. -/
  | unknown (text : String)
deriving Repr, DecidableEq

/-- The separator of options and plain words. -/
def separatorText : String := "--"

/-- Splits a word at its first sign of equality. -/
def splitValue (cs : List Char) : List Char × Option String :=
  match cs.dropWhile (· != '=') with
  | _ :: value => (cs.takeWhile (· != '='), some (String.ofList value))
  | [] => (cs, none)

/-- Whether characters are all decimal digits, of which there is one at least. -/
def areDigits (cs : List Char) : Bool :=
  !cs.isEmpty && cs.all fun c => (Unicode.decimalValue? c).isSome

/-- Whether a word looks like a negative number. -/
def looksNegative (cs : List Char) : Bool :=
  match cs with
  | '-' :: rest =>
    let rest := if rest.getLast? == some '\n' then rest.dropLast else rest
    let whole := rest.takeWhile (· != '.')
    match rest.dropWhile (· != '.') with
    | [] => areDigits whole
    | _ :: fraction => (whole.isEmpty || areDigits whole) && areDigits fraction
  | _ => false

/-- The options that a word may stand for, if its name is not written out. -/
def interpretations (cs : List Char) : List (Setting × String × Option String) :=
  match cs with
  | '-' :: '-' :: _ =>
    let (front, value) := splitValue cs
    (optionNames.filter fun (name, _) => front.isPrefixOf name.toList).map fun (name, setting) =>
      (setting, name, value)
  | '-' :: c :: value =>
    let name := String.ofList ['-', c]
    match settingOf? name with
    | some setting => [(setting, name, some (String.ofList value))]
    | none => []
  | _ => []

/-- Classifies a word in front of the separator. -/
def Word.ofText (text : String) : Except UsageFault Word := do
  let cs := text.toList
  if cs.head? != some '-' then return .plain text
  match settingOf? text with
  | some setting => return .option setting text none
  | none =>
    if cs.length = 1 then return .plain text
    let (name, value) := splitValue cs
    match value, settingOf? (String.ofList name) with
    | some value, some setting => return .option setting (String.ofList name) (some value)
    | _, _ =>
      match interpretations cs with
      | [(setting, name, value)] => return .option setting name value
      | [] => return if looksNegative cs || cs.contains ' ' then .plain text else .unknown text
      | several => throw (.ambiguous text (several.map fun (_, name, _) => name))

/-- Classifies the words of a command line. -/
def wordsOf : List String → Except UsageFault (List Word)
  | [] => .ok []
  | text :: rest =>
    if text == separatorText then .ok (.separator :: rest.map .plain)
    else do
      let word ← Word.ofText text
      return word :: (← wordsOf rest)

/-! ## Settings -/

/-- What the arguments set. -/
structure Arguments where
  output : Path := Path.ofText defaultOutput
  source : Option Path := none
  switches : Switches := {}
  /-- Words that are not understood. -/
  leftOver : List String := []
deriving Repr, DecidableEq, Inhabited

/-- Whether a name takes a setting back. -/
def isNegated (name : String) : Bool := "--no-".toList.isPrefixOf name.toList

/-- Applies a setting that has no value, given by one of its names. -/
def applyBare (a : Arguments) (setting : Setting) (name : String) : Except Refusal Arguments :=
  let move (switch : Switch) (on : Bool) : Except Refusal Arguments :=
    .ok { a with switches := a.switches.set switch on }
  match setting with
  | .help => .error .help
  | .binaryDecimal => move .extendedDecimal false
  | .messageBase => move .messageBase true
  | .excludeSession => move .excludeSession true
  | .dedicatedSession => move .dedicatedSession (!isNegated name)
  | .output | .source => .error (.usage (.missingValue setting))

/-- Applies a setting that has a value. -/
def applyValue (a : Arguments) (setting : Setting) (value : String) : Except Refusal Arguments :=
  if value == separatorText then .error .separatorValue
  else
    match setting with
    | .output => .ok { a with output := Path.ofText value }
    | .source => .ok { a with source := some (Path.ofText value) }
    | _ => .error (.usage (.needlessValue setting value))

/-- What comes of letters that are joined to an option of one letter without a value.  Only the
question for help is such an option, and it is answered if the letters are options as well, of
which the last one may take the rest, or the next word, for its value. -/
def joinedRefusal (setting : Setting) (next : Option Word) : List Char → Refusal
  | [] => .help
  | c :: rest =>
    match settingOf? (String.ofList ['-', c]) with
    | none => .usage (.needlessValue setting (String.ofList (c :: rest)))
    | some s =>
      if s.takesValue then
        match rest, next with
        | _ :: _, _ => .help
        | [], some (.plain _) => .help
        | [], _ => .usage (.missingValue s)
      else joinedRefusal s next rest

/-- What comes of a value that is joined to an option without one. -/
def valueRefusal (setting : Setting) (name value : String) (next : Option Word) : Refusal :=
  if name.length = 2 && !value.isEmpty then joinedRefusal setting next value.toList
  else .usage (.needlessValue setting value)

/-- Applies the words of a command line. -/
def apply : Arguments → List Word → Except Refusal Arguments
  | a, [] => .ok a
  | a, .plain text :: rest => apply { a with leftOver := a.leftOver ++ [text] } rest
  | a, .separator :: rest => apply { a with leftOver := a.leftOver ++ [separatorText] } rest
  | a, .unknown text :: rest => apply { a with leftOver := a.leftOver ++ [text] } rest
  | a, .option setting name none :: rest =>
    if setting.takesValue then
      match rest with
      | .plain value :: rest => do apply (← applyValue a setting value) rest
      | _ => .error (.usage (.missingValue setting))
    else do apply (← applyBare a setting name) rest
  | a, .option setting name (some value) :: rest =>
    if setting.takesValue then do apply (← applyValue a setting value) rest
    else .error (valueRefusal setting name value rest.head?)

/-- Reads a command line: the file of the repository, and the other settings. -/
def readArguments (texts : List String) : Except Refusal (Path × Arguments) := do
  let a ← apply {} (← (wordsOf texts).mapError .usage)
  match a.source with
  | none => throw (.usage (.missing [.source]))
  | some source =>
    if a.leftOver.isEmpty then return (source, a) else throw (.usage (.unknown a.leftOver))

end CommandLine
end FixBindings
