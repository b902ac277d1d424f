import FixBindings.Proofs.SourceLines
import FixBindings.Proofs.Trace

/-!
# Text literals are read back

A source text writes values between quotation marks, and a value may hold quotation marks and
backslashes of its own.  `Java.readLiteral` reads a literal as a compiler does: a backslash stands
for the character behind it, and a quotation mark that no backslash stands in front of ends the
literal.  `readLiteral_escaped` says that it reads back what was written and stops where the
literal was meant to end, whatever follows, so runs of backslashes in front of a quotation mark
never decide by their length where a literal ends.

`Java.quotes` lists where an artifact has values between quotation marks, and
`literals_read_back` says that each of them is read back from its place in the source text.
-/

set_option autoImplicit false

namespace FixBindings

/-- A code set has one constant for each code. -/
theorem CodeSet.value_constants (c : CodeSet) : c.constants.value =
    c.codes.map fun code => ⟨(constantName code.name).value, .ofWire c.type code.value⟩ := by
  simp only [constants, Traced.value_bind, Traced.value_mapM, Traced.value_pure]

namespace Java

/-- Reads a text literal from behind its opening quotation mark, up to the quotation mark that ends
it: the characters of the text, and what stands behind the literal. -/
def readLiteral : List Char → Option (List Char × List Char)
  | [] => none
  | '\\' :: c :: rest => (readLiteral rest).map fun (text, behind) => (c :: text, behind)
  | c :: rest =>
    if c = '\x22' then some ([], rest)
    else (readLiteral rest).map fun (text, behind) => (c :: text, behind)

/-! ## Escaping -/

/-- One character replaced wherever it occurs. -/
def replaceChar (c : Char) (image cs : List Char) : List Char :=
  cs.flatMap fun d => if d = c then image else [d]

/-- Backslashes are doubled first and quotation marks are escaped afterwards.  In the other order
the backslashes that escape quotation marks would be doubled too. -/
theorem toList_escapeText (s : String) : (escapeText s).toList =
    replaceChar '\x22' ['\\', '\x22'] (replaceChar '\\' ['\\', '\\'] s.toList) := by
  rw [escapeText, String.toList_ofList, replaceChar, replaceChar, List.flatMap_assoc]
  refine congrArg (List.flatMap · s.toList) (funext fun c => ?_)
  by_cases backslash : c = '\\'
  · rw [backslash]
    decide
  · by_cases quote : c = '\x22'
    · rw [quote]
      decide
    · simp [escapeChar, backslash, quote]

theorem toList_textLiteral (s : String) :
    (textLiteral s).toList = '\x22' :: (escapeText s).toList ++ ['\x22'] := by
  have quote : "\x22".toList = ['\x22'] := rfl
  simp only [textLiteral, String.toList_append, quote, List.singleton_append]

/-- What one character is escaped to is read as that character. -/
theorem readLiteral_escapeChar (c : Char) (rest : List Char) :
    readLiteral (escapeChar c ++ rest) =
      (readLiteral rest).map fun (text, behind) => (c :: text, behind) := by
  by_cases backslash : c = '\\'
  · subst backslash
    rfl
  · by_cases quote : c = '\x22'
    · subst quote
      rfl
    · simp [escapeChar, backslash, quote, readLiteral]

/-- **What is escaped is read back**, and reading stops at the quotation mark behind it. -/
theorem readLiteral_escaped (cs behind : List Char) :
    readLiteral (cs.flatMap escapeChar ++ '\x22' :: behind) = some (cs, behind) := by
  induction cs with
  | nil => simp [readLiteral]
  | cons c rest ih => simp [List.flatMap_cons, List.append_assoc, readLiteral_escapeChar, ih]

/-- **A literal is read back**, and nothing behind it is touched. -/
theorem exists_readLiteral (s : String) (behind : List Char) :
    ∃ inside, (textLiteral s).toList ++ behind = '\x22' :: inside ∧
      readLiteral inside = some (s.toList, behind) := by
  refine ⟨(escapeText s).toList ++ '\x22' :: behind, by simp [toList_textLiteral], ?_⟩
  rw [escapeText, String.toList_ofList, readLiteral_escaped]

theorem textLiteral_injective : Function.Injective textLiteral := by
  intro s t same
  obtain ⟨inside, hs, readS⟩ := exists_readLiteral s []
  obtain ⟨inside', ht, readT⟩ := exists_readLiteral t []
  obtain rfl : inside = inside' := by
    rw [← same] at ht
    exact (List.cons.inj (hs.symm.trans ht)).2
  have texts := (Prod.mk.inj (Option.some.inj (readS.symm.trans readT))).1
  exact String.toList_injective texts

/-! ## Source texts -/

/-- A value between quotation marks, with what the same line has in front of it and behind it. -/
structure Quote where
  before : String
  value : String
  behind : String

/-- A constant whose value is a text. -/
def quoteOf? (c : Constant) : Option Quote :=
  match c.value with
  | .string s => some ⟨"public static final String " ++ c.name ++ " = ", s, ";"⟩
  | _ => none

/-- The values that an artifact has between quotation marks: those of the constants that are texts,
the message type of a message or component, and the BeginString of the message base. -/
def quotes (a : Artifact) : List Quote :=
  match a.body with
  | .field _ _ _ constants _ => constants.filterMap quoteOf?
  | .component .. => [⟨"public static final String MSGTYPE = ", "", ";"⟩]
  | .message _ _ msgType _ => [⟨"public static final String MSGTYPE = ", msgType, ";"⟩]
  | .messageBase beginString =>
    [⟨"getHeader().setField(new BeginString(", beginString, "));"⟩]
  | _ => []

/-- The text of a quote as it is written. -/
def Quote.text (q : Quote) : String := q.before ++ textLiteral q.value ++ q.behind

/-- A line of an artifact writes each value that it has between quotation marks. -/
theorem exists_line_of_mem_quotes {a : Artifact} {q : Quote} (h : q ∈ quotes a)
    {lines : List String} (hlines : sourceLines? a = some lines) :
    ∃ level, line level q.text ∈ lines := by
  obtain ⟨package, className, body⟩ := a
  cases body with
  | field id type kind constants extended =>
    obtain rfl := Option.some.inj hlines
    obtain ⟨c, hc, quoted⟩ := List.mem_filterMap.1 h
    obtain ⟨name, value⟩ := c
    cases value with
    | string s =>
      obtain rfl := Option.some.inj quoted
      refine ⟨1, ?_⟩
      have written : line 1 (Quote.text ⟨"public static final String " ++ name ++ " = ", s, ";"⟩) =
          constantDeclaration ⟨name, .string s⟩ := by
        simp [Quote.text, constantDeclaration, constantLiteral, ConstantValue.typeName,
          String.append_assoc]
      rw [written, fieldClassLines]
      simp only [List.mem_append, List.mem_flatMap]
      exact Or.inl (Or.inl (Or.inr ⟨_, hc, by simp⟩))
    | _ => exact absurd quoted.symm (Option.some_ne_none _)
  | component id fields counters accessors group =>
    obtain rfl := Option.some.inj hlines
    obtain rfl := List.mem_singleton.1 h
    exact ⟨1, by simp [componentClassLines, messageTypeLine, Quote.text]⟩
  | message name scenario msgType accessors =>
    obtain rfl := Option.some.inj hlines
    obtain rfl := List.mem_singleton.1 h
    exact ⟨1, by simp [messageClassLines, messageTypeLine, Quote.text, String.append_assoc]⟩
  | messageBase beginString =>
    obtain rfl := Option.some.inj hlines
    obtain rfl := List.mem_singleton.1 h
    exact ⟨2, by simp [messageBaseLines, method, Quote.text, String.append_assoc]⟩
  | _ => exact absurd h List.not_mem_nil

/-- Whether values of a type are texts, and not truth values, characters or integers. -/
def isTextType : Document → Bool
  | .text "Boolean" | .text "char" | .text "int" => false
  | _ => true

theorem ofWire_of_isTextType {type : Document} (texts : isTextType type) (value : String) :
    ConstantValue.ofWire type value = .string value := by
  rw [ConstantValue.ofWire.eq_def]
  split
  · exact absurd texts Bool.false_ne_true
  · exact absurd texts Bool.false_ne_true
  · exact absurd texts Bool.false_ne_true
  · rfl

/-- A code set whose values are texts has all of them between quotation marks. -/
theorem values_quotes {c : CodeSet} (texts : isTextType c.type) :
    (c.constants.value.filterMap quoteOf?).map Quote.value = c.codes.map Code.value := by
  simp only [c.value_constants, ofWire_of_isTextType texts]
  rw [List.filterMap_map, List.map_filterMap]
  exact congrFun List.filterMap_eq_map c.codes

/-- **Text literals are read back.**  A literal is the text with its backslashes doubled and then
its quotation marks escaped, between quotation marks.  From behind the first of these it is read to
its last character, whatever follows, and what is read is the text; so different texts have
different literals.  All values of a code set whose type is that of texts are written as literals,
and so are the message type of a message and the BeginString of the message base: in the source
text of an artifact, each of them is read back from its place, and what is left to read is what was
written behind it. -/
theorem literals_read_back :
    (∀ s, (textLiteral s).toList = '\x22' ::
      replaceChar '\x22' ['\\', '\x22'] (replaceChar '\\' ['\\', '\\'] s.toList) ++ ['\x22']) ∧
    (∀ s behind, ∃ inside, (textLiteral s).toList ++ behind = '\x22' :: inside ∧
      readLiteral inside = some (s.toList, behind)) ∧
    Function.Injective textLiteral ∧
    (∀ c : CodeSet, isTextType c.type →
      (c.constants.value.filterMap quoteOf?).map Quote.value = c.codes.map Code.value) ∧
    ∀ a source, render a = .ok source → ∀ q ∈ quotes a, ∃ above level inside below,
      source.toList = (joinLines above ++ indent level ++ q.before).toList ++ '\x22' :: inside ∧
      readLiteral inside = some (q.value.toList, (q.behind ++ "\n" ++ joinLines below).toList) := by
  refine ⟨fun s => by rw [toList_textLiteral, toList_escapeText], exists_readLiteral,
    textLiteral_injective, fun c => values_quotes, fun a source rendered q hq => ?_⟩
  obtain ⟨lines, hlines, rfl⟩ := of_render_eq_ok rendered
  obtain ⟨level, hline⟩ := exists_line_of_mem_quotes hq hlines
  obtain ⟨above, below, rfl⟩ := List.append_of_mem hline
  obtain ⟨inside, literal, read⟩ :=
    exists_readLiteral q.value (q.behind ++ "\n" ++ joinLines below).toList
  refine ⟨above, level, inside, below, ?_, read⟩
  rw [← literal, joinLines_append, joinLines_cons, line, Quote.text]
  simp only [String.toList_append, List.append_assoc]

/-- A code set with values that end in a backslash and in a quotation mark. -/
def marks : CodeSet where
  name := "Marks"
  type := "String"
  codes := [⟨"Backslash", "a\\", .null⟩, ⟨"Quote", "\\\x22", .null⟩]

/-- A class of a field with the constants of `marks`. -/
def marksField : Artifact where
  package := fieldsPackage
  className := "Mark"
  body := .field 5000 "String" .string marks.constants.value true

theorem literals_read_back_marks :
    isTextType marks.type ∧
    (marks.constants.value.filterMap quoteOf?).map Quote.value = ["a\\", "\\\x22"] ∧
    ∃ source, render marksField = .ok source ∧ ∃ q ∈ quotes marksField, ∃ above level inside below,
      source.toList = (joinLines above ++ indent level ++ q.before).toList ++ '\x22' :: inside ∧
      readLiteral inside = some (q.value.toList, (q.behind ++ "\n" ++ joinLines below).toList) :=
  ⟨rfl, literals_read_back.2.2.2.1 marks rfl, _, rfl, _, List.mem_cons_self,
    literals_read_back.2.2.2.2 marksField _ rfl _ List.mem_cons_self⟩

end Java
end FixBindings
