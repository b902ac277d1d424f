import FixBindings.Proofs.Artifacts
import FixBindings.Proofs.CaseMapping
import FixBindings.Proofs.TextLiterals
import Mathlib.Data.List.Nodup

/-!
# The constants of a field

The class of a field declares its tag as the constant `FIELD`, and one constant for each code where
the values of the field are enumerated.  The name of a constant is made from that of the code, and
there it is lost whether a letter was a capital, so codes with different names may well have one
constant.

`Naming.capitalWords` is what a constant name keeps of a name: its words, in capitals.  They are
read back from the constant name, since underscores stand between words and, in names without
underscores, nowhere else (`Naming.splitOn_capitals`); the underscore in front of a leading digit
hides nothing (`Naming.guardDigit_inj`).  `Java.constantsIn` reads the names of constants off the
lines of a class, and `constants_distinct_iff` puts the two together.
-/

set_option autoImplicit false

namespace FixBindings

/-! ## Words -/

namespace Naming

/-- The words of a text, where `before` is the character before it: a new word begins where a
constant name has an underscore. -/
def wordsFrom : Option Char → List Char → List (List Char)
  | _, [] => [[]]
  | before, c :: rest =>
    let words := (wordsFrom (some c) rest).modifyHead (c :: ·)
    if opensWord before c rest.head? then [] :: words else words

/-- The words of a name in capitals. -/
def capitalWords (name : String) : List (List Char) :=
  (wordsFrom none name.toList).map (·.flatMap Unicode.upperImage)

/-- A name of a single part, as words of letters and digits are. -/
def IsSingle (name : String) : Prop := ∀ c ∈ name.toList, isSeparator c = false

instance (name : String) : Decidable (IsSingle name) := List.decidableBAll _ name.toList

theorem IsSingle.underscore {name : String} (h : IsSingle name) : '_' ∉ name.toList :=
  fun hc => absurd (h _ hc) (by decide)

theorem IsSingle.blank {name : String} (h : IsSingle name) : ' ' ∉ name.toList :=
  fun hc => absurd (h _ hc) (by decide)

theorem exists_wordsFrom (before : Option Char) (cs : List Char) :
    ∃ first words, wordsFrom before cs = first :: words := by
  cases cs with
  | nil => exact ⟨[], [], rfl⟩
  | cons c rest =>
    obtain ⟨first, words, split⟩ := exists_wordsFrom (some c) rest
    rw [wordsFrom, split]
    split
    · exact ⟨_, _, rfl⟩
    · exact ⟨_, _, rfl⟩

/-- Words are cut out of the text, and nothing is lost. -/
theorem flatten_wordsFrom (before : Option Char) (cs : List Char) :
    (wordsFrom before cs).flatten = cs := by
  induction cs generalizing before with
  | nil => rfl
  | cons c rest ih =>
    have own : ((wordsFrom (some c) rest).modifyHead (c :: ·)).flatten = c :: rest := by
      obtain ⟨first, words, split⟩ := exists_wordsFrom (some c) rest
      have inner := ih (some c)
      rw [split] at inner ⊢
      simpa using inner
    rw [wordsFrom]
    split
    · exact own
    · exact own

/-- **The words are what underscores are put between.** -/
theorem intercalate_wordsFrom (before : Option Char) (cs : List Char) :
    ['_'].intercalate (wordsFrom before cs) = separateWords before cs := by
  induction cs generalizing before with
  | nil => rfl
  | cons c rest ih =>
    obtain ⟨first, words, split⟩ := exists_wordsFrom (some c) rest
    have inner := ih (some c)
    rw [split] at inner
    have own : ['_'].intercalate ((c :: first) :: words) = c :: separateWords (some c) rest := by
      rw [← inner]
      cases words with
      | nil => simp
      | cons second words => simp [List.intercalate_cons_cons]
    rw [wordsFrom, separateWords, split]
    split
    · simp only [List.modifyHead_cons, List.intercalate_cons_cons, own]
      rfl
    · simp only [List.modifyHead_cons, own]
      rfl

theorem upperImage_underscore : Unicode.upperImage '_' = ['_'] := by decide

/-- Underscores stay between words in capitals. -/
theorem flatMap_intercalate (words : List (List Char)) :
    (['_'].intercalate words).flatMap Unicode.upperImage =
      ['_'].intercalate (words.map (·.flatMap Unicode.upperImage)) := by
  cases words with
  | nil => rfl
  | cons first words =>
    induction words generalizing first with
    | nil => simp
    | cons second words ih =>
      have inner := ih second
      rw [List.map_cons] at inner
      simp only [List.map_cons, List.intercalate_cons_cons, List.flatMap_append, inner,
        List.flatMap_cons, List.flatMap_nil, upperImage_underscore, List.append_nil]

/-- The capitals of a constant name, without the underscore in front of a digit. -/
theorem capitals_eq (name : String) :
    (separateWords none name.toList).flatMap Unicode.upperImage =
      ['_'].intercalate (capitalWords name) := by
  rw [← intercalate_wordsFrom, flatMap_intercalate, capitalWords]

theorem underscore_notMem_capitalWords {name : String} (h : IsSingle name) {w : List Char}
    (hw : w ∈ capitalWords name) : '_' ∉ w := by
  intro hc
  obtain ⟨v, hv, rfl⟩ := List.mem_map.1 hw
  obtain ⟨c, hc, image⟩ := List.mem_flatMap.1 hc
  rw [Unicode.eq_of_underscore_mem_upperImage image] at hc
  have inside := List.mem_flatten.2 ⟨v, hv, hc⟩
  rw [flatten_wordsFrom] at inside
  exact h.underscore inside

/-- The words are found again in the capitals of a constant name. -/
theorem splitOn_capitals {name : String} (h : IsSingle name) :
    (['_'].intercalate (capitalWords name)).splitOn '_' = capitalWords name := by
  refine List.splitOn_intercalate '_' (fun w hw => underscore_notMem_capitalWords h hw) ?_
  obtain ⟨first, words, split⟩ := exists_wordsFrom none name.toList
  simp [capitalWords, split]

/-- An underscore in front of a leading digit. -/
def guardDigit : List Char → List Char
  | [] => []
  | c :: rest => if Unicode.isDigit c then '_' :: c :: rest else c :: rest

theorem toList_constantName (name : String) :
    (constantName name).toList = guardDigit (['_'].intercalate (capitalWords name)) := by
  rw [constantName, capitals_eq]
  cases ['_'].intercalate (capitalWords name) with
  | nil => rfl
  | cons c rest => rw [String.toList_ofList, guardDigit]

/-- The underscore in front of a digit makes no two texts equal that begin with none. -/
theorem guardDigit_inj {xs ys : List Char} (hx : xs.head? ≠ some '_') (hy : ys.head? ≠ some '_')
    (h : guardDigit xs = guardDigit ys) : xs = ys := by
  cases xs with
  | nil =>
    cases ys with
    | nil => rfl
    | cons d ys =>
      rw [guardDigit, guardDigit] at h
      split at h
      · exact absurd h nofun
      · exact h
  | cons c xs =>
    cases ys with
    | nil =>
      rw [guardDigit, guardDigit] at h
      split at h
      · exact absurd h nofun
      · exact h
    | cons d ys =>
      rw [guardDigit, guardDigit] at h
      split at h
      · split at h
        · exact (List.cons.inj h).2
        · exact absurd (congrArg some (List.cons.inj h).1.symm) hy
      · split at h
        · exact absurd (congrArg some (List.cons.inj h).1) hx
        · exact h

/-- The capitals of a name begin as the name does. -/
theorem head?_capitals {name : String} (h : IsSingle name) :
    (['_'].intercalate (capitalWords name)).head? ≠ some '_' := by
  rw [← capitals_eq]
  cases cs : name.toList with
  | nil => exact nofun
  | cons c rest =>
    obtain ⟨first, image, split⟩ := List.exists_cons_of_ne_nil (Unicode.upperImage_ne_nil c)
    have inside : opensWord none c rest.head? = false := by simp [opensWord]
    rw [separateWords, inside, if_neg Bool.false_ne_true, List.singleton_append, List.flatMap_cons,
      split, List.cons_append, List.head?_cons]
    intro same
    -- only an underscore has an image with an underscore in it
    have mark : '_' ∈ Unicode.upperImage c := by
      rw [split, Option.some.inj same]
      exact List.mem_cons_self
    refine h.underscore ?_
    rw [cs, Unicode.eq_of_underscore_mem_upperImage mark]
    exact List.mem_cons_self

/-- **Constant names agree exactly if the words do, in capitals.** -/
theorem constantName_eq_iff {a b : String} (ha : IsSingle a) (hb : IsSingle b) :
    constantName a = constantName b ↔ capitalWords a = capitalWords b := by
  rw [← String.toList_inj, toList_constantName, toList_constantName]
  constructor
  · intro same
    have capitals := guardDigit_inj (head?_capitals ha) (head?_capitals hb) same
    rw [← splitOn_capitals ha, capitals, splitOn_capitals hb]
  · exact fun same => by rw [same]

theorem nodup_constantNames_iff {names : List String} (h : ∀ name ∈ names, IsSingle name) :
    (names.map constantName).Nodup ↔ (names.map capitalWords).Nodup := by
  rw [List.Nodup, List.Nodup, List.pairwise_map, List.pairwise_map]
  exact List.Pairwise.iff_of_mem fun ha hb => not_congr (constantName_eq_iff (h _ ha) (h _ hb))

theorem mem_separateWords {before : Option Char} {cs : List Char} {c : Char}
    (h : c ∈ separateWords before cs) : c = '_' ∨ c ∈ cs := by
  induction cs generalizing before with
  | nil => exact Or.inr h
  | cons d rest ih =>
    rw [separateWords, List.mem_append] at h
    rcases h with h | h
    · split at h
      · rcases List.mem_pair.1 h with rfl | rfl
        · exact Or.inl rfl
        · exact Or.inr List.mem_cons_self
      · exact Or.inr (List.mem_singleton.1 h ▸ List.mem_cons_self)
    · exact (ih h).imp_right (List.mem_cons_of_mem d)

theorem mem_guardDigit {cs : List Char} {c : Char} (h : c ∈ guardDigit cs) : c = '_' ∨ c ∈ cs := by
  cases cs with
  | nil => exact Or.inr h
  | cons d rest =>
    rw [guardDigit] at h
    split at h
    · exact List.mem_cons.1 h
    · exact Or.inr h

/-- No blank gets into a constant name. -/
theorem blank_notMem_constantName {name : String} (h : IsSingle name) :
    ' ' ∉ (constantName name).toList := by
  intro blank
  rw [toList_constantName, ← capitals_eq] at blank
  obtain ⟨c, hc, image⟩ := List.mem_flatMap.1 ((mem_guardDigit blank).resolve_left (by decide))
  rw [← Unicode.eq_of_mem_upperImage (by decide) image] at hc
  exact h.blank ((mem_separateWords hc).resolve_left (by decide))

end Naming

/-! ## Lines that declare constants -/

namespace Java

/-- What a line begins with that declares a constant. -/
def constantMark : List Char := staticMark "final "

/-- The name of the constant that a line declares, which stands behind its type. -/
def constantIn? (l : String) : Option String :=
  (marked? constantMark l.toList).map fun rest =>
    String.ofList (((rest.dropWhile (· != ' ')).drop 1).takeWhile (· != ' '))

/-- The constants that lines declare. -/
def constantsIn (lines : List String) : List String := lines.filterMap constantIn?

theorem constantsIn_append (xs ys : List String) :
    constantsIn (xs ++ ys) = constantsIn xs ++ constantsIn ys := List.filterMap_append

/-- The line of a constant declares it. -/
theorem constantIn?_line (level : Nat) {text type name : String} {rest : List Char}
    (h : text.toList = constantMark ++ (type.toList ++ ' ' :: (name.toList ++ ' ' :: rest)))
    (htype : ' ' ∉ type.toList) (hname : ' ' ∉ name.toList) :
    constantIn? (line level text) = some name := by
  rw [constantIn?, constantMark, marked?_static level h, Option.map_some, (divide_at htype _).2,
    List.drop_one, List.tail_cons, (divide_at hname _).1, String.ofList_toList]

theorem Silent.constantIn? {text : String} (h : Silent constantMark text) (level : Nat) :
    Java.constantIn? (line level text) = none := by
  rw [Java.constantIn?, h.marked? level, Option.map_none]

theorem Silent.constantIn?_flush {text : String} (h : Silent constantMark text) :
    Java.constantIn? text = none := by
  rw [Java.constantIn?, h.marked?_flush, Option.map_none]

theorem constantIn?_empty : constantIn? "" = none := rfl

theorem constantIn?_declaration {c : Constant} (h : ' ' ∉ c.name.toList) :
    constantIn? (constantDeclaration c) = some c.name := by
  have type : ' ' ∉ c.value.typeName.toList := by
    cases c.value <;> simp [ConstantValue.typeName]
  have front : "public static final ".toList = constantMark := by decide
  have blank : " ".toList = [' '] := rfl
  have equals : " = ".toList = ' ' :: "= ".toList := by decide
  have text : ("public static final " ++ c.value.typeName ++ " " ++ c.name ++ " = " ++
      constantLiteral c.value ++ ";").toList = constantMark ++ (c.value.typeName.toList ++
        ' ' :: (c.name.toList ++ ' ' :: ("= " ++ constantLiteral c.value ++ ";").toList)) := by
    simp only [String.toList_append, List.append_assoc, front, blank, equals, List.cons_append,
      List.nil_append]
  exact constantIn?_line 1 text type h

/-- A method declares no constant if it begins differently and so do its statements. -/
theorem constantsIn_method (level : Nat) {head : String} {body : List String}
    (silent : Silent constantMark (head ++ " \x7b"))
    (statements : ∀ t ∈ body, Silent constantMark t) :
    constantsIn (method level head body) = [] := by
  have inside : constantsIn (body.map (line (level + 1))) = [] := by
    rw [constantsIn, List.filterMap_eq_nil_iff, List.forall_mem_map]
    exact fun t ht => (statements t ht).constantIn? (level + 1)
  have opens : constantIn? (opening level head) = none := silent.constantIn? level
  have closes : constantIn? (closing level) = none :=
    Silent.constantIn? (by decide) level
  rw [method, constantsIn_append, constantsIn_append, inside]
  simp [constantsIn, constantIn?_empty, opens, closes]

/-- The constructors of a field declare no constants, whatever the name of the class is. -/
theorem constantsIn_fieldConstructors {name : String} (h : ' ' ∉ name.toList) (id : Int)
    (kind : FieldKind) : constantsIn (fieldConstructors name id kind) = [] := by
  have plain : constantsIn (constructor ("public " ++ name ++ "()")
      ("super(" ++ toString id ++ ");")) = [] := by
    have word : ' ' ∉ (name ++ "()").toList := by simp [h]
    refine constantsIn_method 1 ?_ (List.forall_mem_singleton.2 (.append (.append (by decide) _) _))
    have head : "public " ++ name ++ "()" ++ " \x7b" = "public " ++ (name ++ "()") ++ " \x7b" := by
      simp only [String.append_assoc]
    rw [head]
    exact silent_public word (by decide) (by decide)
  have types : ∀ parameter ∈ constructorParameters kind, ' ' ∉ parameter.1.toList := by
    cases kind <;> decide
  have taking : ∀ parameter ∈ constructorParameters kind, constantsIn
      (constructor ("public " ++ name ++ "(" ++ parameter.1 ++ " data)")
        ("super(" ++ toString id ++ ", " ++ parameter.2 ++ ");")) = [] := by
    intro parameter hp
    have word : ' ' ∉ (name ++ "(" ++ parameter.1).toList := by simp [h, types parameter hp]
    refine constantsIn_method 1 ?_ (List.forall_mem_singleton.2
      (.append (.append (.append (.append (by decide) _) _) _) _))
    have head : "public " ++ name ++ "(" ++ parameter.1 ++ " data)" ++ " \x7b" =
        "public " ++ (name ++ "(" ++ parameter.1) ++ (" data)" ++ " \x7b") := by
      simp only [String.append_assoc]
    rw [head]
    exact silent_public word (by decide) (by decide)
  rw [fieldConstructors, constantsIn_append, plain, List.nil_append, constantsIn,
    List.filterMap_flatMap]
  exact List.flatMap_eq_nil_iff.2 taking

/-- **The constants of a class of a field** are its tag and one for each of its codes, read off its
lines. -/
theorem constantsIn_fieldClassLines (package : String) {name : String} (hname : ' ' ∉ name.toList)
    (id : Int) (kind : FieldKind) {constants : List Constant}
    (h : ∀ c ∈ constants, ' ' ∉ c.name.toList) :
    constantsIn (fieldClassLines package name id kind constants) =
      "FIELD" :: constants.map Constant.name := by
  have head : constantsIn (fileHead package (fieldImports kind)) = [] := by
    rw [constantsIn, List.filterMap_eq_nil_iff, fileHead]
    simp only [List.forall_mem_append, List.forall_mem_cons, List.forall_mem_map]
    refine ⟨⟨⟨Silent.constantIn?_flush (by decide), Silent.constantIn?_flush ?_, nofun⟩,
      fun _ _ => Silent.constantIn?_flush ?_⟩, constantIn?_empty, nofun⟩
    · exact .append (.append (by decide) _) _
    · exact .append (.append (by decide) _) _
  have first : constantsIn [opening 0 ("public class " ++ name ++ " extends " ++ kind.className),
      serialVersion 1, "", line 1 ("public static final int FIELD = " ++ toString id ++ ";")] =
        ["FIELD"] := by
    have opens : constantIn? (opening 0 ("public class " ++ name ++ " extends " ++
        kind.className)) = none :=
      Silent.constantIn? (.append (.append (.append (.append (by decide) _) _) _) _) 0
    have version : constantIn? (serialVersion 1) = none := Silent.constantIn? (by decide) 1
    have tag : constantIn? (line 1 ("public static final int FIELD = " ++ toString id ++ ";")) =
        some "FIELD" := by
      have front : "public static final int FIELD = ".toList =
          constantMark ++ ("int".toList ++ ' ' :: ("FIELD".toList ++ ' ' :: "= ".toList)) := by
        decide
      have text : ("public static final int FIELD = " ++ toString id ++ ";").toList =
          constantMark ++ ("int".toList ++
            ' ' :: ("FIELD".toList ++ ' ' :: ("= " ++ toString id ++ ";").toList)) := by
        simp only [String.toList_append, List.append_assoc, front, List.cons_append]
      exact constantIn?_line 1 text (by decide) (by decide)
    simp only [constantsIn, List.filterMap_cons, opens, version, constantIn?_empty, tag,
      List.filterMap_nil]
  have declarations : constantsIn (constants.flatMap fun c => ["", constantDeclaration c]) =
      constants.map Constant.name := by
    rw [constantsIn, List.filterMap_flatMap, List.map_eq_flatMap]
    refine List.flatMap_congr fun c hc => ?_
    rw [List.filterMap_cons_none constantIn?_empty,
      List.filterMap_cons_some (constantIn?_declaration (h c hc)), List.filterMap_nil]
  have last : constantsIn [closing 0] = [] := by decide
  rw [fieldClassLines]
  simp only [constantsIn_append, head, first, declarations,
    constantsIn_fieldConstructors hname id kind, last, List.nil_append, List.append_nil,
    List.singleton_append]

end Java

/-! ## Fields that are enumerated -/

theorem CodeSet.names_constants (c : CodeSet) {names : List String}
    (h : c.codes.map Code.name = names.map .text) :
    c.constants.value.map Constant.name = names.map Naming.constantName := by
  have fromNames : c.constants.value.map Constant.name =
      (c.codes.map Code.name).map fun name => (constantName name).value := by
    rw [c.value_constants, List.map_map, List.map_map]
    rfl
  rw [fromNames, h, List.map_map]
  rfl

namespace Repository

variable {r : Repository} {f : Field} {c : CodeSet} {names : List String}

/-- The class of a field that is enumerated has the constants of the code set. -/
theorem constantsIn_describeField (options : Options) (layer : SessionLayer)
    (hc : (r.index.codeSetOf f).value = some c)
    (hnames : c.codes.map Code.name = names.map .text)
    (single : ∀ name ∈ names, Naming.IsSingle name) :
    ∃ lines, Java.sourceLines? ((r.context options layer).describeField f).value = some lines ∧
      Java.render ((r.context options layer).describeField f).value = .ok (Java.joinLines lines) ∧
      Java.constantsIn lines = "FIELD" :: names.map Naming.constantName := by
  have constants : ((r.context options layer).describeField f).value =
      { package := fieldsPackage
        className := (className f.name).value
        body := .field f.id c.type (.ofType (Context.decimalClass options) c.type)
          c.constants.value options.extendedDecimal } := by
    have own : ((r.context options layer).index.codeSetOf f).value = some c := hc
    simp only [Context.describeField, Traced.value_bind, own, Option.map_some, Option.getD_some,
      Traced.value_pure]
    rfl
  rw [constants]
  refine ⟨_, rfl, rfl, ?_⟩
  have title : ' ' ∉ (className f.name).value.toList := Naming.separator_notMem_titleCase rfl _
  rw [Java.constantsIn_fieldClassLines _ title, c.names_constants hnames]
  intro constant hconstant
  have named := List.mem_map_of_mem (f := Constant.name) hconstant
  rw [c.names_constants hnames] at named
  obtain ⟨name, hname, same⟩ := List.mem_map.1 named
  rw [← same]
  exact Naming.blank_notMem_constantName (single name hname)

/-- **When the constants of a field are told apart.**  The class of a field of a well-typed
repository is made and written without a fault.  If the field is enumerated by codes with names of
single words, the constants that the lines of its class declare are `FIELD` and those of the codes,
and they are pairwise distinct if and only if the names of the codes are so when they are divided
into words and put in capitals, none of them being `FIELD` then. -/
theorem constants_distinct_iff (typed : r.WellTyped) (options : Options) (layer : SessionLayer)
    (hf : f ∈ r.fields) (hc : (r.index.codeSetOf f).value = some c)
    (hnames : c.codes.map Code.name = names.map .text)
    (single : ∀ name ∈ names, Naming.IsSingle name) :
    ∃ a lines, (((r.context options layer).describeField f).run []).1 = .ok a ∧
      Java.sourceLines? a = some lines ∧ Java.render a = .ok (Java.joinLines lines) ∧
      Java.constantsIn lines = "FIELD" :: names.map Naming.constantName ∧
      ((Java.constantsIn lines).Nodup ↔
        (("FIELD" :: names).map Naming.capitalWords).Nodup) := by
  obtain ⟨lines, source, rendered, constants⟩ :=
    constantsIn_describeField options layer hc hnames single
  refine ⟨_, lines, (typed.describeField_clean (typed.fields f hf)).run [], source, rendered,
    constants, ?_⟩
  have tag : "FIELD" = Naming.constantName "FIELD" := by decide
  rw [constants, ← Naming.nodup_constantNames_iff, List.map_cons, ← tag]
  exact List.forall_mem_cons.2 ⟨by decide, single⟩

/-- A field with values of its own. -/
def sideField : Field := { id := 54, name := "Side", type := "SideCodeSet" }

/-- The code set of that field. -/
def sideCodes (codes : List Code) : CodeSet := { name := "SideCodeSet", type := "char", codes }

/-- A repository with nothing but a field that is enumerated. -/
def sides (codes : List Code) : Repository where
  version := "FIX.4.4"
  fields := [sideField]
  codeSets := [sideCodes codes]

theorem sides_wellTyped {codes : List Code} (h : ∀ code ∈ codes, code.name.isText) :
    (sides codes).WellTyped := by
  refine ⟨fun f hf => ?_, fun c hc => ?_, nofun, nofun, nofun⟩
  · obtain rfl := List.mem_singleton.1 hf
    exact ⟨rfl, rfl, Or.inl rfl⟩
  · obtain rfl := List.mem_singleton.1 hc
    exact ⟨rfl, rfl, h⟩

theorem sides_codeSetOf (codes : List Code) :
    ((sides codes).index.codeSetOf sideField).value = some (sideCodes codes) := by cbv

/-- Three sides, two of which are told apart by a word. -/
def threeSides : List Code :=
  [⟨"Buy", "1", .null⟩, ⟨"Sell", "2", .null⟩, ⟨"SellShort", "5", .null⟩]

theorem constants_distinct_iff_threeSides :
    (sides threeSides).WellTyped ∧ sideField ∈ (sides threeSides).fields ∧ ∃ a lines,
      ((((sides threeSides).context { compatible := rfl } {}).describeField sideField).run []).1 =
        .ok a ∧
      Java.sourceLines? a = some lines ∧ Java.render a = .ok (Java.joinLines lines) ∧
      Java.constantsIn lines = ["FIELD", "BUY", "SELL", "SELL_SHORT"] ∧
      (Java.constantsIn lines).Nodup := by
  have typed : (sides threeSides).WellTyped := sides_wellTyped (by decide)
  have names : (sideCodes threeSides).codes.map Code.name =
      ["Buy", "Sell", "SellShort"].map .text := rfl
  obtain ⟨a, lines, described, source, rendered, constants, distinct⟩ :=
    constants_distinct_iff typed { compatible := rfl } {} (List.mem_singleton_self _)
      (sides_codeSetOf threeSides) names (by decide)
  exact ⟨typed, List.mem_singleton_self _, a, lines, described, source, rendered,
    constants.trans (by decide), distinct.2 (by decide)⟩

/-- Codes whose names differ in case, and one for which the tag is declared already. -/
def clashingSides : List Code :=
  [⟨"Buy", "1", .null⟩, ⟨"BUY", "2", .null⟩, ⟨"Field", "3", .null⟩]

/-- Names that are words of letters and digits and differ do not keep constants apart. -/
theorem not_constants_distinct :
    ¬∀ (r : Repository) (options : Options) (layer : SessionLayer), r.WellTyped →
      ∀ f ∈ r.fields, ∀ c, (r.index.codeSetOf f).value = some c →
      ∀ names : List String, c.codes.map Code.name = names.map .text → names.Nodup →
      (∀ name ∈ names, name ≠ "" ∧ name.toList.all Char.isAlphanum) →
      ∃ a lines, (((r.context options layer).describeField f).run []).1 = .ok a ∧
        Java.sourceLines? a = some lines ∧ (Java.constantsIn lines).Nodup := by
  intro h
  have typed : (sides clashingSides).WellTyped := sides_wellTyped (by decide)
  have names : (sideCodes clashingSides).codes.map Code.name =
      ["Buy", "BUY", "Field"].map .text := rfl
  obtain ⟨a, lines, described, source, distinct⟩ :=
    h (sides clashingSides) { compatible := rfl } {} typed sideField (List.mem_singleton_self _) _
      (sides_codeSetOf clashingSides) _ names (by decide) (by decide)
  obtain rfl := (Traced.run_eq_ok_iff.1 described).2
  obtain ⟨_, same, -, constants⟩ := constantsIn_describeField { compatible := rfl } {}
    (sides_codeSetOf clashingSides) names (by decide)
  obtain rfl := Option.some.inj (source.symm.trans same)
  rw [constants] at distinct
  exact absurd distinct (by decide)

end Repository
end FixBindings
