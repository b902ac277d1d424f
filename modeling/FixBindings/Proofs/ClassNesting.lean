import FixBindings.Proofs.Braces
import FixBindings.Proofs.InnerClasses
import FixBindings.Proofs.Methods
import FixBindings.Proofs.TextLiterals

/-!
# The classes in a source text

The braces of a source text say which class stands in which, and so they have to mirror the
accessors of the artifact.  The text itself is put together line by line, with arrays and short
methods that open and close a brace within one line, and with inner classes in inner classes.

The proof goes along the generators of lines.  `Silent` texts are those that declare no inner class
wherever they stand in a line, which shows in their first words alone.  From it each method, each
accessor (`nested_accessLines`, by recursion on the accessor) and each class is a piece of lines
that nest in the sense of `Nested`, with the inner classes that the accessor has.  What a text with
such lines looks like from outside is `encloses_of_nested`.
-/

set_option autoImplicit false

namespace FixBindings
namespace Java

/-- Nothing is declared by a line that begins differently, at any level. -/
theorem Silent.declared? {text : String} (h : Silent classMark text) (level : Nat) :
    Java.declared? (line level text).toList = none := by
  rw [Java.declared?, h.marked? level, Option.map_none]

theorem Silent.declared?_flush {text : String} (h : Silent classMark text) :
    Java.declared? text.toList = none := by
  rw [Java.declared?, h.marked?_flush, Option.map_none]

/-! ## Lines and methods -/

theorem isPlain_toString (n : Int) : IsPlain (toString n) := by
  have digits (m : Nat) : IsPlain m.repr := by
    intro c hc
    rw [Nat.repr, String.toList_ofList] at hc
    have digit := Nat.isDigit_of_mem_toDigits (by decide) (by decide) hc
    refine ⟨?_, ?_, ?_⟩
    · rintro rfl
      exact absurd digit (by decide)
    · rintro rfl
      exact absurd digit (by decide)
    · rintro rfl
      exact absurd digit (by decide)
  cases n with
  | ofNat m => exact digits m
  | negSucc m => exact isPlain_append.2 ⟨by decide, digits (m + 1)⟩

theorem isPlain_arrayItems (ids : List Int) : IsPlain (arrayItems ids) := by
  induction ids with
  | nil => exact fun _ hc => absurd hc List.not_mem_nil
  | cons id rest ih =>
    have items : arrayItems (id :: rest) = toString id ++ ", " ++ arrayItems rest := by
      simp [arrayItems, String.join_cons]
    rw [items, isPlain_append, isPlain_append]
    exact ⟨⟨isPlain_toString id, by decide⟩, ih⟩

theorem isPlain_indent (level : Nat) : IsPlain (indent level) := by
  intro c hc
  rw [indent, String.toList_ofList] at hc
  rw [List.eq_of_mem_replicate hc]
  decide

theorem isPlain_line (level : Nat) {text : String} (h : IsPlain text) :
    IsPlain (line level text) := isPlain_append.2 ⟨isPlain_indent level, h⟩

theorem IsPlain.inline {l : String} (h : IsPlain l) (silent : declared? l.toList = none) :
    Inline l :=
  ⟨h.newline_notMem, h.depth, h.staysAbove, silent⟩

theorem inline_empty : Inline "" := IsPlain.inline (by decide) rfl

theorem inline_line {level : Nat} {text : String} (plain : IsPlain text)
    (silent : Silent classMark text) : Inline (line level text) :=
  (isPlain_line level plain).inline (silent.declared? level)

theorem inline_serialVersion (level : Nat) : Inline (serialVersion level) :=
  inline_line (by decide) (by decide)

/-- A pair of braces may stand within a line. -/
theorem inline_braces {level : Nat} {front items back : String} (silent : Silent classMark front)
    (hfront : IsPlain front) (hitems : IsPlain items) (hback : IsPlain back) :
    Inline (line level (front ++ "\x7b" ++ items ++ "\x7d" ++ back)) := by
  have outside := isPlain_line level hfront
  have text : (line level (front ++ "\x7b" ++ items ++ "\x7d" ++ back)).toList =
      (line level front).toList ++ '\x7b' :: (items.toList ++ '\x7d' :: back.toList) := by
    simp [line]
  refine ⟨?_, ?_, ?_, ?_⟩
  · simp [text, outside.newline_notMem, hitems.newline_notMem, hback.newline_notMem]
  · simp [text, outside.depth, hitems.depth, hback.depth, braceWeight]
  · simp only [text, staysAbove_append, staysAbove_cons, outside.depth, hitems.depth]
    exact ⟨outside.staysAbove, by decide, hitems.staysAbove.mono (by decide), by decide,
      hback.staysAbove.mono (by decide)⟩
  · exact ((((silent.append _).append _).append _).append _).declared? level

theorem opens_opening (level : Nat) {head : String} (h : IsPlain head) :
    Opens (opening level head) := by
  refine ⟨line level (head ++ " "), isPlain_line level (isPlain_append.2 ⟨h, by decide⟩), ?_⟩
  have brace : " \x7b" = " " ++ "\x7b" := rfl
  simp [opening, line, brace, String.append_assoc]

theorem closes_closing (level : Nat) : Closes (closing level) :=
  ⟨⟨indent level, isPlain_indent level, rfl⟩, Silent.declared? (by decide) level⟩

/-- A block that is no class. -/
theorem Nested.block_of_silent (level : Nat) {head : String} {body : List String}
    {classes : List ClassTree} (plain : IsPlain head) (silent : Silent classMark (head ++ " \x7b"))
    (within : Nested body classes) :
    Nested (opening level head :: (body ++ [closing level])) classes := by
  have block := Nested.block (opens_opening level plain) (closes_closing level) within .nil
  have none : Java.declared? (opening level head).toList = none := silent.declared? level
  rwa [none, shown, List.append_nil] at block

/-- A method is a block of its own. -/
theorem nested_method {level : Nat} {head : String} {body : List String} (plain : IsPlain head)
    (silent : Silent classMark (head ++ " \x7b"))
    (statements : ∀ t ∈ body, IsPlain t ∧ Silent classMark t) :
    Nested (method level head body) [] := by
  have lines : ∀ l ∈ body.map (line (level + 1)), Inline l := by
    intro l hl
    obtain ⟨t, ht, rfl⟩ := List.mem_map.1 hl
    exact inline_line (statements t ht).1 (statements t ht).2
  have block := Nested.block_of_silent level plain silent (.inlines lines)
  rw [method, List.append_assoc]
  exact .line inline_empty block

/-! ## Accessors -/

/-- A text that is a single word: it stays within its line and has neither braces nor blanks.  The
words of letters, digits and underscores are such texts, of any script, and so are words with points
between them. -/
structure IsWord (s : String) : Prop where
  plain : IsPlain s
  blank : ' ' ∉ s.toList

instance (s : String) : Decidable (IsWord s) :=
  decidable_of_iff (IsPlain s ∧ ' ' ∉ s.toList) ⟨fun h => ⟨h.1, h.2⟩, fun h => ⟨h.1, h.2⟩⟩

theorem IsWord.append {s t : String} (hs : IsWord s) (ht : IsWord t) : IsWord (s ++ t) :=
  ⟨isPlain_append.2 ⟨hs.plain, ht.plain⟩, by simp [hs.blank, ht.blank]⟩

/-- A method is legible if its result is a word, no class is declared by what it is called, and it
stays within its lines, with no braces but its own. -/
structure Method.Legible (m : Method) : Prop where
  result : IsWord m.result
  name : IsPlain m.name
  notClass : Apart "class ".toList m.name.toList
  parameter : ∀ p ∈ m.parameter, IsPlain p.1 ∧ IsPlain p.2
  body : ∀ t ∈ m.body, IsPlain t ∧ Silent classMark t

theorem Method.legible_mk {result name : String} {parameter : Option (String × String)}
    {throws : Bool} {body : List String} (hresult : IsWord result) (hname : IsPlain name)
    (notClass : Apart "class ".toList name.toList)
    (hparameter : ∀ p ∈ parameter, IsPlain p.1 ∧ IsPlain p.2)
    (hbody : ∀ t ∈ body, IsPlain t ∧ Silent classMark t) :
    Method.Legible ⟨result, name, parameter, throws, body⟩ :=
  ⟨hresult, hname, notClass, hparameter, hbody⟩

theorem Method.Legible.isPlain_head {m : Method} (h : m.Legible) : IsPlain m.head := by
  have throws : IsPlain (if m.throws then " throws FieldNotFound" else "") := by
    split <;> decide
  rw [Method.head]
  cases hp : m.parameter with
  | none => simp +decide [h.result.plain, h.name, throws]
  | some p =>
    obtain ⟨type, name⟩ := h.parameter p hp
    simp +decide [h.result.plain, h.name, type, name, throws]

theorem Method.Legible.silent_head {m : Method} (h : m.Legible) : Silent classMark m.head := by
  have front : Silent classMark ("public " ++ m.result ++ " " ++ m.name) := by
    rw [String.append_assoc]
    exact silent_public h.result.blank (by simp) (by simpa using h.notClass)
  exact .append (.append (.append (.append front _) _) _) _

/-- The lines of a legible method nest, and declare nothing. -/
theorem Method.Legible.nested {m : Method} (h : m.Legible) (level : Nat) :
    Nested (m.lines level) [] :=
  nested_method h.isPlain_head (h.silent_head.append _) h.body

theorem nested_methods {ms : List Method} (h : ∀ m ∈ ms, m.Legible) (level : Nat) :
    Nested (ms.flatMap (Method.lines level)) [] := by
  induction ms with
  | nil => exact .nil
  | cons m rest ih =>
    rw [List.flatMap_cons]
    exact ((h m List.mem_cons_self).nested level).append
      (ih fun n hn => h n (List.mem_cons_of_mem m hn))

/-- A constructor, whose statements begin with some word of their own. -/
theorem nested_constructor {name : String} (hname : IsWord name) (level : Nat)
    {body : List String} (statements : ∀ t ∈ body, IsPlain t ∧ Silent classMark t) :
    Nested (method level ("public " ++ name ++ "()") body) [] := by
  have hword : IsWord (name ++ "()") := hname.append (by decide)
  rw [String.append_assoc]
  exact nested_method (by simp +decide [hname.plain])
    (silent_public hword.blank (by decide) (by decide)) statements

/-- The line that declares an inner class declares it. -/
theorem declared?_class {name : String} (hname : IsWord name) (level : Nat) :
    declared? (opening level ("public static class " ++ name ++ " extends Group")).toList =
      some name := by
  have text : ("public static class " ++ name ++ " extends Group" ++ " \x7b").toList =
      classMark ++ (name.toList ++ ' ' :: "extends Group \x7b".toList) := by
    have front : "public static class ".toList = classMark := by decide
    have tail : " extends Group".toList ++ " \x7b".toList = ' ' :: "extends Group \x7b".toList := by
      decide
    simp only [String.toList_append, List.append_assoc, front, tail]
  rw [declared?, opening, classMark, marked?_static level text, Option.map_some,
    (divide_at hname.blank _).1, String.ofList_toList]

theorem inline_orderLine (level : Nat) (order : List Int) : Inline (orderLine level order) := by
  have last : IsPlain ((order.getLast?.map toString).getD "") := by
    cases order.getLast? with
    | none => decide
    | some id => exact isPlain_toString id
  have inline : Inline (line level ("private static final int[] ORDER = " ++ "\x7b" ++
      (arrayItems order.dropLast ++ (order.getLast?.map toString).getD "") ++ "\x7d" ++ ";")) :=
    inline_braces (by decide) (by decide) (isPlain_append.2 ⟨isPlain_arrayItems _, last⟩)
      (by decide)
  have opened : "private static final int[] ORDER = \x7b" =
      "private static final int[] ORDER = " ++ "\x7b" := by decide
  have closed : "\x7d;" = "\x7d" ++ ";" := rfl
  simpa only [orderLine, opened, closed, String.append_assoc] using inline

/-- The lines in front of the accessors of an inner class, behind the one that declares it. -/
theorem nested_unitHead {name : String} (hname : IsWord name) (level : Nat)
    (counter delimiter : Int) (order : List Int) : ∃ lines, Nested lines [] ∧
      unitHead level name counter delimiter order =
        "" :: opening level ("public static class " ++ name ++ " extends Group") :: lines := by
  have statement : IsPlain ("super(" ++ toString counter ++ ", " ++ toString delimiter ++
      ", ORDER);") := by
    simp only [isPlain_append, isPlain_toString, and_true]
    decide
  have constructor := nested_constructor hname (level + 1) (List.forall_mem_singleton.2
    ⟨statement, .append (.append (.append (.append (by decide) _) _) _) _⟩)
  exact ⟨_, .line (inline_serialVersion _) (.line (inline_orderLine _ _) constructor), rfl⟩

mutual

/-- The inner classes that an accessor shows. -/
def innerClasses : Accessor → List ClassTree
  | .group name _ _ _ accessors => [.node name (innerClassesAll accessors)]
  | _ => []
termination_by structural x => x

/-- The inner classes among several accessors, with those within them. -/
def innerClassesAll : List Accessor → List ClassTree
  | [] => []
  | a :: rest => innerClasses a ++ innerClassesAll rest
termination_by structural x => x

end

/-- What makes an accessor legible: its name and the class that it names are words, and an inner
class has an order of its fields. -/
def LegibleAccessor : Accessor → Prop
  | .field name _ => IsWord name
  | .component name cls => IsWord name ∧ IsWord cls
  | .group name _ _ order _ => IsWord name ∧ order ≠ []

/-- Accessors are legible if each of them is, with the inner classes in it. -/
theorem legible_cons {x : Accessor} {rest : List Accessor}
    (own : ∀ y, y.Within [x] → LegibleAccessor y)
    (others : ∀ y, y.Within rest → LegibleAccessor y) :
    ∀ y, y.Within (x :: rest) → LegibleAccessor y := by
  intro y within
  obtain ⟨z, hz, hy⟩ := within.exists_mem
  rcases List.mem_cons.1 hz with rfl | hz
  · exact own y hy
  · exact others y (hy.trans (.here hz))

theorem legible_plain {x : Accessor} (plain : x.isUnit = false) (h : LegibleAccessor x) :
    ∀ y, y.Within [x] → LegibleAccessor y := by
  intro y hy
  rwa [hy.eq_of_singleton plain]

theorem legible_group {name : String} {counter delimiter : Int} {order : List Int}
    {accessors : List Accessor} (hname : IsWord name) (horder : order ≠ [])
    (inner : ∀ y, y.Within accessors → LegibleAccessor y) :
    ∀ y, y.Within [.group name counter delimiter order accessors] → LegibleAccessor y := by
  intro y hy
  cases hy with
  | here h =>
    rw [List.mem_singleton.1 h]
    exact ⟨hname, horder⟩
  | inside h hy =>
    obtain ⟨-, -, -, -, rfl⟩ := Accessor.group.inj (List.mem_singleton.1 h)
    exact inner y hy

/-- The methods of a legible accessor are legible. -/
theorem LegibleAccessor.methods {x : Accessor} (h : LegibleAccessor x) :
    ∀ m ∈ methods x, m.Legible := by
  -- the statements of methods all begin with a word of their own
  have creates {cls : String} (hcls : IsWord cls) :
      ∀ t ∈ ["return get(new " ++ cls ++ "());"], IsPlain t ∧ Silent classMark t :=
    List.forall_mem_singleton.2 ⟨by simp +decide [hcls.plain], .append (.append (by decide) _) _⟩
  have takes {cls value : String} (hcls : IsWord cls) (hvalue : IsPlain value) :
      ∀ p ∈ some (cls, value), IsPlain p.1 ∧ IsPlain p.2 := by
    intro p hp
    obtain rfl := Option.mem_some_iff.1 hp
    exact ⟨hcls.plain, hvalue⟩
  have nothing : ∀ p ∈ (none : Option (String × String)), IsPlain p.1 ∧ IsPlain p.2 :=
    fun p hp => absurd hp (Option.not_mem_none p)
  cases x with
  | field name id =>
    have hname : IsWord name := h
    have hcls : IsWord (Accessor.fieldClass name) := .append (by decide) hname
    have finds : ∀ t ∈ ["return isSetField(" ++ toString id ++ ");"],
        IsPlain t ∧ Silent classMark t :=
      List.forall_mem_singleton.2 ⟨isPlain_append.2 ⟨isPlain_append.2 ⟨by decide,
        isPlain_toString id⟩, by decide⟩, .append (.append (by decide) _) _⟩
    have get : Apart "class ".toList ("get" ++ name).toList := by
      rw [String.toList_append]
      exact .append (by decide) _
    have isSet : Apart "class ".toList ("isSet" ++ name).toList := by
      rw [String.toList_append]
      exact .append (by decide) _
    rw [Java.methods]
    generalize Accessor.fieldClass name = cls at hcls
    simp only [List.forall_mem_cons, List.not_mem_nil, false_imp_iff, implies_true, and_true]
    exact ⟨
      Method.legible_mk (by decide) (by decide) (by decide) (takes hcls (by decide)) (by decide),
      Method.legible_mk hcls (by decide) (by decide) (takes hcls (by decide)) (by decide),
      Method.legible_mk hcls (by simp +decide [hname.plain]) get nothing (creates hcls),
      Method.legible_mk (by decide) (by decide) (by decide) (takes hcls (by decide)) (by decide),
      Method.legible_mk (by decide) (by simp +decide [hname.plain]) isSet nothing finds⟩
  | component name cls =>
    obtain ⟨hname, hcls⟩ : IsWord name ∧ IsWord cls := h
    have get : Apart "class ".toList ("get" ++ name ++ "Component").toList := by
      rw [String.append_assoc, String.toList_append]
      exact .append (by decide) _
    rw [Java.methods]
    simp only [List.forall_mem_cons, List.not_mem_nil, false_imp_iff, implies_true, and_true]
    exact ⟨
      Method.legible_mk (by decide) (by decide) (by decide) (takes hcls (by decide)) (by decide),
      Method.legible_mk hcls (by decide) (by decide) (takes hcls (by decide)) (by decide),
      Method.legible_mk hcls (by simp +decide [hname.plain]) get nothing (creates hcls)⟩
  | group => exact fun _ hm => absurd hm List.not_mem_nil

theorem nested_all {level : Nat} {as : List Accessor}
    (h : ∀ x ∈ as, Nested (accessLines level x) (innerClasses x)) :
    Nested (accessLinesAll level as) (innerClassesAll as) := by
  induction as with
  | nil => exact .nil
  | cons x rest ih =>
    rw [accessLinesAll, innerClassesAll]
    exact (h x List.mem_cons_self).append (ih fun y hy => h y (List.mem_cons_of_mem x hy))

/-- **The lines of an accessor nest and show its inner classes**, at any level. -/
theorem nested_accessLines : (x : Accessor) → (∀ y, y.Within [x] → LegibleAccessor y) →
    (level : Nat) → Nested (accessLines level x) (innerClasses x)
  | .field name id, h, level => by
    rw [accessLines_eq_flatMap rfl]
    exact nested_methods (h _ (.here (List.mem_singleton_self _))).methods level
  | .component name cls, h, level => by
    rw [accessLines_eq_flatMap rfl]
    exact nested_methods (h _ (.here (List.mem_singleton_self _))).methods level
  | .group name counter delimiter order accessors, h, level => by
    obtain ⟨hname, -⟩ : IsWord name ∧ order ≠ [] := h _ (.here (List.mem_singleton_self _))
    have inner : Nested (accessLinesAll (level + 1) accessors) (innerClassesAll accessors) :=
      nested_all fun y hy => nested_accessLines y (fun z hz =>
        h z (.inside (List.mem_singleton_self _) (hz.trans (.here hy)))) (level + 1)
    obtain ⟨head, hhead, lines⟩ := nested_unitHead hname level counter delimiter order
    have opens : Opens (opening level ("public static class " ++ name ++ " extends Group")) :=
      opens_opening level (by simp +decide [hname.plain])
    have block := Nested.block opens (closes_closing level) (hhead.append inner) .nil
    rw [declared?_class hname, shown, List.nil_append, List.append_nil] at block
    rw [accessLines, lines, innerClasses]
    simpa only [List.cons_append, List.append_assoc] using Nested.line inline_empty block

/-! ## Classes -/

theorem isPlain_textLiteral {s : String} (h : IsPlain s) : IsPlain (textLiteral s) := by
  have escaped : IsPlain (escapeText s) := by
    intro c hc
    rw [escapeText, String.toList_ofList] at hc
    obtain ⟨d, hd, hc⟩ := List.mem_flatMap.1 hc
    rw [escapeChar] at hc
    split at hc
    · rcases List.mem_pair.1 hc with rfl | rfl
      · decide
      · exact h c hd
    · rw [List.mem_singleton.1 hc]
      exact h d hd
  rw [textLiteral, isPlain_append, isPlain_append]
  exact ⟨⟨by decide, escaped⟩, by decide⟩

theorem inline_messageTypeLine {msgType : String} (h : IsPlain msgType) :
    Inline (messageTypeLine msgType) := by
  refine inline_line ?_ (.append (.append (by decide) _) _)
  rw [isPlain_append, isPlain_append]
  exact ⟨⟨by decide, isPlain_textLiteral h⟩, by decide⟩

theorem nested_memberArrays (fields counters : List Int) :
    Nested (memberArrays fields counters) [] := by
  have array {front : String} (hfront : IsPlain front) (silent : Silent classMark front)
      (ids : List Int) : Inline (line 1 (front ++ "\x7b" ++ arrayItems ids ++ "\x7d" ++ ";")) :=
    inline_braces silent hfront (isPlain_arrayItems ids) (by decide)
  have getter {front items : String} (hfront : IsPlain front) (silent : Silent classMark front)
      (hitems : IsPlain items) : Inline (line 1 (front ++ "\x7b" ++ items ++ "\x7d" ++ "")) :=
    inline_braces silent hfront hitems (by decide)
  have closed : "\x7d;" = "\x7d" ++ ";" := by decide
  have fieldsOpened : "private int[] componentFields = \x7b" =
      "private int[] componentFields = " ++ "\x7b" := by decide
  have countersOpened : "private int[] componentGroups = \x7b" =
      "private int[] componentGroups = " ++ "\x7b" := by decide
  have fieldsGetter : "protected int[] getFields() \x7b return componentFields; \x7d" =
      "protected int[] getFields() " ++ "\x7b" ++ " return componentFields; " ++ "\x7d" ++ "" := by
    decide
  have countersGetter : "protected int[] getGroupFields() \x7b return componentGroups; \x7d" =
      "protected int[] getGroupFields() " ++ "\x7b" ++ " return componentGroups; " ++ "\x7d" ++
        "" := by
    decide
  rw [memberArrays, fieldsOpened, countersOpened, fieldsGetter, countersGetter, closed]
  refine .inlines ?_
  simp only [List.forall_mem_cons, List.not_mem_nil, false_imp_iff, implies_true, and_true,
    ← String.append_assoc]
  exact ⟨array (by decide) (by decide) fields, getter (by decide) (by decide) (by decide),
    array (by decide) (by decide) counters, getter (by decide) (by decide) (by decide)⟩

/-- A text of one class: no brace stands outside of it, from its opening brace up to its last line
some brace is open, and the closing brace in that line closes it. -/
structure Encloses (source : String) (front body : List Char) : Prop where
  text : source.toList = front ++ '\x7b' :: (body ++ ['\x7d', '\n'])
  outside : ∀ c ∈ front, c ≠ '\x7b' ∧ c ≠ '\x7d'
  inside : ∀ p, p <+: body → 1 ≤ braceDepth (front ++ '\x7b' :: p)
  closed : braceDepth (front ++ '\x7b' :: (body ++ ['\x7d'])) = 0

/-- The line of a class up to its opening brace. -/
def classLine (name parent : String) : String :=
  "public class " ++ name ++ " extends " ++ parent ++ " "

/-- Lines of one class: the braces of the class enclose its body, and what is read off are the
classes that its body shows. -/
theorem encloses_of_nested {name parent : String} {above body : List String}
    {classes : List ClassTree} (habove : ∀ l ∈ above, IsPlain l ∧ declared? l.toList = none)
    (hname : IsPlain name) (hparent : IsPlain parent) (within : Nested body classes) :
    Encloses (joinLines (above ++ (classLine name parent ++ "\x7b") :: (body ++ ["\x7d"])))
        (joinLines above ++ classLine name parent).toList ("\n" ++ joinLines body).toList ∧
      readClasses? (joinLines (above ++ (classLine name parent ++ "\x7b") :: (body ++ ["\x7d"]))) =
        some classes := by
  have hline : IsPlain ("public class " ++ name ++ " extends " ++ parent ++ " ") := by
    simp +decide [hname, hparent]
  have newline : "\n".toList = ['\n'] := rfl
  have outside : ∀ c ∈ (joinLines above ++ classLine name parent).toList,
      c ≠ '\x7b' ∧ c ≠ '\x7d' := by
    intro c hc
    rw [String.toList_append, List.mem_append] at hc
    rcases hc with hc | hc
    · rcases mem_joinLines hc with rfl | ⟨l, hl, hc⟩
      · decide
      · exact ⟨((habove l hl).1 c hc).1, ((habove l hl).1 c hc).2.1⟩
    · exact ⟨(hline c hc).1, (hline c hc).2.1⟩
  have front := braceDepth_of_plain fun c hc => by
    rw [braceWeight, if_neg (outside c hc).1, if_neg (outside c hc).2]
  refine ⟨⟨?_, outside, fun p hp => ?_, ?_⟩, ?_⟩
  · have last : (joinLines ["\x7d"]).toList = ['\x7d', '\n'] := by decide
    have brace : "\x7b".toList = ['\x7b'] := rfl
    simp only [toList_joinLines_append, toList_joinLines_cons, String.toList_append, last, newline,
      brace, List.append_assoc, List.cons_append, List.nil_append]
  · have inside : StaysAbove 0 ("\n" ++ joinLines body).toList := by
      rw [String.toList_append, newline, List.singleton_append, staysAbove_cons]
      exact ⟨Int.le_refl 0, within.balanced.2⟩
    have above := inside p hp
    have opened : braceWeight '\x7b' = 1 := rfl
    rw [braceDepth_append, braceDepth_cons, front, opened]
    omega
  · rw [braceDepth_append, front, braceDepth_cons, braceDepth_append, String.toList_append,
      braceDepth_append, within.balanced.1]
    rfl
  · have opens : Opens (classLine name parent ++ "\x7b") := ⟨_, hline, rfl⟩
    have closes : Closes "\x7d" := by
      have closes := closes_closing 0
      rwa [closing, line_zero] at closes
    have silent : Silent classMark (classLine name parent ++ "\x7b") :=
      .append (.append (.append (.append (.append (by decide) _) _) _) _) _
    have block := Nested.block opens closes within .nil
    rw [silent.declared?_flush, shown, List.append_nil] at block
    exact ((Nested.inlines fun l hl => (habove l hl).1.inline (habove l hl).2).append
      block).readClasses?

/-- An artifact of a component, group or message is legible: names and the package are words,
accessors are legible at every depth, and the message type stays within its line and has no
braces. -/
inductive Legible : Artifact → Prop
  | component {package name : String} {id : Int} {fields counters : List Int}
      {accessors : List Accessor} {group : Bool} (hpackage : IsWord package) (hname : IsWord name)
      (hx : ∀ x, x.Within accessors → LegibleAccessor x) :
      Legible ⟨package, name, .component id fields counters accessors group⟩
  | message {package name msgType : String} {base scenario : Document}
      {accessors : List Accessor} (hpackage : IsWord package) (hname : IsWord name)
      (hx : ∀ x, x.Within accessors → LegibleAccessor x) (hmsgType : IsPlain msgType) :
      Legible ⟨package, name, .message base scenario msgType accessors⟩

theorem isPlain_fileHead {package : String} (hpackage : IsWord package) {imports : List String}
    (himports : ∀ name ∈ imports, IsPlain name) :
    ∀ l ∈ fileHead package imports, IsPlain l ∧ declared? l.toList = none := by
  have flush {l : String} (plain : IsPlain l) (silent : Silent classMark l) :
      IsPlain l ∧ declared? l.toList = none := ⟨plain, silent.declared?_flush⟩
  have packageLine : IsPlain ("package " ++ package ++ ";") := by
    simp +decide [hpackage.plain]
  simp only [fileHead, List.forall_mem_append, List.forall_mem_cons, List.forall_mem_map]
  refine ⟨⟨⟨flush (by decide) (by decide), flush packageLine (.append (.append (by decide) _) _),
    nofun⟩, fun name hname => flush ?_ (.append (.append (by decide) _) _)⟩,
    ⟨by decide, rfl⟩, nofun⟩
  simp +decide [himports name hname]

/-- The line that opens a class. -/
theorem opening_class (name parent : String) :
    opening 0 ("public class " ++ name ++ " extends " ++ parent) =
      classLine name parent ++ "\x7b" := by
  have brace : " \x7b" = " " ++ "\x7b" := by decide
  rw [opening, line_zero, brace, ← String.append_assoc]
  rfl

theorem nested_accessLinesAll {accessors : List Accessor}
    (hx : ∀ x, x.Within accessors → LegibleAccessor x) (level : Nat) :
    Nested (accessLinesAll level accessors) (innerClassesAll accessors) :=
  nested_all fun x hmem =>
    nested_accessLines x (fun y hy => hx y (hy.trans (.here hmem))) level

theorem haveOrders_of_legible {accessors : List Accessor}
    (hx : ∀ x, x.Within accessors → LegibleAccessor x) : HaveOrders accessors :=
  fun _ _ _ _ _ within => (hx _ within).2

/-- The first lines of the body of a class. -/
theorem Nested.behind_head {msgType : String} {lines : List String} {classes : List ClassTree}
    (h : IsPlain msgType) (rest : Nested lines classes) :
    Nested (serialVersion 1 :: "" :: messageTypeLine msgType :: lines) classes :=
  .line (inline_serialVersion 1) (.line inline_empty (.line (inline_messageTypeLine h) rest))

theorem closing_zero : closing 0 = "\x7d" := line_zero _

theorem exists_componentBody (package : String) {name : String} (hname : IsWord name)
    (fields counters : List Int) {accessors : List Accessor}
    (hx : ∀ x, x.Within accessors → LegibleAccessor x) :
    ∃ body, Nested body (innerClassesAll accessors) ∧
      componentClassLines package name fields counters accessors =
        fileHead package ["quickfix.FieldNotFound", "quickfix.Group"] ++
          (classLine name "quickfix.MessageComponent" ++ "\x7b") :: (body ++ ["\x7d"]) := by
  have built : Nested (constructor ("public " ++ name ++ "()") "super();") [] :=
    nested_constructor hname 1 (by decide)
  have body := ((nested_memberArrays fields counters).append built).append
    (nested_accessLinesAll hx 1)
  have plain : IsPlain "" := by decide
  have head : opening 0 ("public class " ++ name ++ " extends quickfix.MessageComponent") =
      classLine name "quickfix.MessageComponent" ++ "\x7b" := by
    have parent : " extends quickfix.MessageComponent" =
        " extends " ++ "quickfix.MessageComponent" := by decide
    rw [parent, ← String.append_assoc, opening_class]
  refine ⟨_, .behind_head plain body, ?_⟩
  rw [componentClassLines, head, closing_zero]
  simp only [List.append_assoc, List.cons_append, List.nil_append]

theorem exists_messageBody (package : String) {name msgType : String} (hname : IsWord name)
    (hmsgType : IsPlain msgType) {accessors : List Accessor}
    (hx : ∀ x, x.Within accessors → LegibleAccessor x) :
    ∃ body, Nested body (innerClassesAll accessors) ∧
      messageClassLines package name msgType accessors =
        fileHead package ["quickfix.FieldNotFound", "quickfix.field.*", "quickfix.Group"] ++
          (classLine name "Message" ++ "\x7b") :: (body ++ ["\x7d"]) := by
  have built : Nested (method 1 ("public " ++ name ++ "()")
      ["super();", "getHeader().setField(new quickfix.field.MsgType(MSGTYPE));"]) [] :=
    nested_constructor hname 1 (by decide)
  have body := built.append (nested_accessLinesAll hx 1)
  have head : opening 0 ("public class " ++ name ++ " extends Message") =
      classLine name "Message" ++ "\x7b" := by
    have parent : " extends Message" = " extends " ++ "Message" := by decide
    rw [parent, ← String.append_assoc, opening_class]
  refine ⟨_, .behind_head hmsgType body, ?_⟩
  rw [messageClassLines, head, closing_zero]
  simp only [List.append_assoc, List.cons_append, List.nil_append]

/-- **The nesting of a source text mirrors the accessors.**  The text of a legible component, group
or message is that of one class: no brace stands in front of its opening brace, from there up to the
last line some brace is open, and the last line closes it.  The inner classes that the braces show
are those of the accessors, in their order and at any depth. -/
theorem nesting_mirrors_accessors {a : Artifact} (h : Legible a) :
    ∃ source above parent body, render a = .ok source ∧
      source = joinLines (above ++ (classLine a.className parent ++ "\x7b") :: (body ++ ["\x7d"])) ∧
      Encloses source (joinLines above ++ classLine a.className parent).toList
        ("\n" ++ joinLines body).toList ∧
      readClasses? source = some (innerClassesAll a.accessors) := by
  obtain ⟨source, rendered⟩ : ∃ source, render a = .ok source := by
    cases h with
    | component _ _ hx => exact exists_render rfl (haveOrders_of_legible hx)
    | message _ _ hx => exact exists_render rfl (haveOrders_of_legible hx)
  obtain ⟨lines, hlines, rfl⟩ := of_render_eq_ok rendered
  cases h with
  | component hpackage hname hx =>
    obtain ⟨body, within, whole⟩ := exists_componentBody _ hname _ _ hx
    obtain rfl := (Option.some.inj hlines).symm.trans whole
    exact ⟨_, _, _, body, rendered, rfl,
      encloses_of_nested (isPlain_fileHead hpackage (by decide)) hname.plain (by decide) within⟩
  | message hpackage hname hx hmsgType =>
    obtain ⟨body, within, whole⟩ := exists_messageBody _ hname hmsgType hx
    obtain rfl := (Option.some.inj hlines).symm.trans whole
    exact ⟨_, _, _, body, rendered, rfl,
      encloses_of_nested (isPlain_fileHead hpackage (by decide)) hname.plain (by decide) within⟩

/-- A message with a group within a group. -/
def twoLevels : Artifact :=
  ⟨"quickfix.fix44", "Order",
    .message .null .null "D"
      [.field "Text" 58, .component "Parties" "quickfix.fix44.component.Parties",
        .group "NoPartyIDs" 453 448 [448, 802]
          [.field "PartyID" 448, .group "NoPartySubIDs" 802 523 [523] [.field "PartySubID" 523]]]⟩

theorem legible_twoLevels : Legible twoLevels := by
  have word {name : String} (id : Int) (h : IsWord name) : LegibleAccessor (.field name id) := h
  refine .message (by decide) (by decide) ?_ (by decide)
  refine legible_cons (legible_plain rfl (word 58 (by decide))) ?_
  refine legible_cons (legible_plain rfl ⟨by decide, by decide⟩) ?_
  refine legible_group (by decide) (by decide) ?_
  refine legible_cons (legible_plain rfl (word 448 (by decide))) ?_
  refine legible_group (by decide) (by decide) ?_
  exact legible_plain rfl (word 523 (by decide))

/-- The inner class of the inner class is found in it. -/
theorem nesting_mirrors_accessors_twoLevels : Legible twoLevels ∧
    ∃ source above parent body, render twoLevels = .ok source ∧
      source = joinLines (above ++ (classLine twoLevels.className parent ++ "\x7b") ::
        (body ++ ["\x7d"])) ∧
      Encloses source (joinLines above ++ classLine twoLevels.className parent).toList
        ("\n" ++ joinLines body).toList ∧
      readClasses? source =
        some [.node "NoPartyIDs" [.node "NoPartySubIDs" []]] :=
  ⟨legible_twoLevels, nesting_mirrors_accessors legible_twoLevels⟩

end Java
end FixBindings
