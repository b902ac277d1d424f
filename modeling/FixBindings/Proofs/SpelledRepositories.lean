import FixBindings.Proofs.Declarations
import FixBindings.Proofs.SpelledDeclarations

/-!
# Spelled repositories

A repository is expressible as an element tree if its names are texts, its optional ids are natural
numbers, its fields declare no code sets and none of its integers is too long.  `write` spells such
a repository plainly, with every section and attribute in place, and `spelled_recovered` says that
the repository is read from each of the many element trees that spell it.
-/

set_option autoImplicit false

namespace FixBindings

/-! ## Integers -/

/-- The decimal text of an integer. -/
def Number.decimal (n : Int) : String :=
  String.ofList ((if n < 0 then ['-'] else []) ++ Nat.toDigits 10 n.natAbs)

theorem Number.spellsInteger_decimal {n : Int} (short : isLong n = false) :
    SpellsInteger (decimal n) n := by
  have spelled := spells_toDigits n.natAbs
  have length : (Nat.toDigits 10 n.natAbs).length ≤ maxDigits := by simpa [isLong] using short
  by_cases negative : n < 0
  · have text : (decimal n).toList = '-' :: Nat.toDigits 10 n.natAbs := by
      simp [decimal, negative]
    have minus := SpellsInteger.negative text spelled length
    rwa [Int.ofNat_natAbs_of_nonpos (Int.le_of_lt negative), Int.neg_neg] at minus
  · have text : (decimal n).toList = Nat.toDigits 10 n.natAbs := by simp [decimal, negative]
    have natural := SpellsInteger.natural (s := decimal n) (text ▸ spelled) (text ▸ length)
    rwa [Int.natAbs_of_nonneg (by omega)] at natural

/-- A slot holds no id, or a natural number that is short enough to be read. -/
def Document.IsShortId (d : Document) : Prop :=
  d = .null ∨ ∃ n : Nat, d = .int n ∧ Number.isLong n = false

namespace Orchestra

open Xml (Element)

/-- The integer that a member refers to is short enough to be read. -/
def ShortReferences (ms : List Member) : Prop := ∀ m ∈ ms, Number.isLong (referenceId m) = false

/-- A repository has nothing but what element trees have room for. -/
structure Expressible (r : Repository) : Prop where
  typed : r.WellTyped
  name : r.name.isText
  fields : ∀ f ∈ r.fields, f.codeSet = .null ∧ Number.isLong f.id = false
  codeSets : ∀ c ∈ r.codeSets, c.id.IsShortId ∧ ∀ code ∈ c.codes, code.id.IsShortId
  components : ∀ c ∈ r.components, Number.isLong c.id = false ∧ ShortReferences c.members
  groups : ∀ g ∈ r.groups,
    Number.isLong g.id = false ∧ Number.isLong g.counter = false ∧ ShortReferences g.members
  messages : ∀ m ∈ r.messages, m.id.IsShortId ∧ ShortReferences m.members

/-! ## Plain elements -/

section Plain

variable {name key value : String} {attributes : List (String × String)} {children : List Element}

/-- An element of no namespace. -/
def plain (name : String) (attributes : List (String × String)) (children : List Element) :
    Element :=
  .node ⟨none, name⟩ (attributes.map fun (key, value) => (⟨none, key⟩, value)) children

@[simp] theorem localName_plain : (plain name attributes children).localName = name := rfl

@[simp] theorem children_plain : (plain name attributes children).children = children := rfl

theorem mem_attributes_plain :
    (⟨none, key⟩, value) ∈ (plain name attributes children).attributes ↔
      (key, value) ∈ attributes := by
  simp [plain, Element.attributes]

@[simp] theorem carries_plain : Carries (plain name attributes children) key value ↔
    (key, value) ∈ attributes ∧ ∀ other, (key, other) ∈ attributes → other = value := by
  constructor
  · rintro ⟨mem, unique⟩
    exact ⟨mem_attributes_plain.1 mem, fun other there =>
      unique other (mem_attributes_plain.2 there)⟩
  · rintro ⟨mem, unique⟩
    exact ⟨mem_attributes_plain.2 mem, fun other there =>
      unique other (mem_attributes_plain.1 there)⟩

@[simp] theorem lacks_plain :
    Lacks (plain name attributes children) key ↔ ∀ value, (key, value) ∉ attributes :=
  forall_congr' fun _ => not_congr mem_attributes_plain

end Plain

/-- The text that a slot holds. -/
def textOf : Document → String
  | .text s => s
  | _ => ""

theorem text_textOf {d : Document} (h : d.isText) : .text (textOf d) = d := by
  obtain ⟨s, rfl⟩ := Document.isText_iff.1 h
  rfl

/-- The attribute of an id that may be lacking. -/
def idAttribute : Document → List (String × String)
  | .int n => [("id", Number.decimal n)]
  | _ => []

/-! ## Writing -/

def writeMember (m : Member) : Element :=
  plain (referenceName m) [("id", Number.decimal (referenceId m))] []

def writeCode (c : Code) : Element :=
  plain "code" ([("name", textOf c.name), ("value", c.value)] ++ idAttribute c.id) []

def writeCodeSet (c : CodeSet) : Element :=
  plain "codeSet" ([("name", textOf c.name), ("type", textOf c.type)] ++ idAttribute c.id)
    (c.codes.map writeCode)

def writeField (f : Field) : Element :=
  plain "field" [("id", Number.decimal f.id), ("name", textOf f.name), ("type", textOf f.type)] []

def writeComponent (c : Component) : Element :=
  plain "component" [("id", Number.decimal c.id), ("name", textOf c.name)]
    (c.members.map writeMember)

def writeGroup (g : Group) : Element :=
  plain "group" [("id", Number.decimal g.id), ("name", textOf g.name)]
    (plain "numInGroup" [("id", Number.decimal g.counter)] [] :: g.members.map writeMember)

def writeMessage (m : Message) : Element :=
  plain "message" ([("name", textOf m.name), ("msgType", m.msgType),
      ("category", textOf m.category), ("scenario", textOf m.scenario)] ++ idAttribute m.id)
    [plain "structure" [] (m.members.map writeMember)]

/-- An element tree for a repository. -/
def write (r : Repository) : Element :=
  plain "repository" [("name", textOf r.name), ("version", r.version)]
    [plain "codeSets" [] (r.codeSets.map writeCodeSet), plain "fields" [] (r.fields.map writeField),
      plain "components" [] (r.components.map writeComponent),
      plain "groups" [] (r.groups.map writeGroup),
      plain "messages" [] (r.messages.map writeMessage)]

theorem interleaves_map {α : Type} {looked : String → Prop} {spells : Element → α → Prop}
    {write : α → Element} {xs : List α} (h : ∀ x ∈ xs, spells (write x) x) :
    Interleaves looked spells (xs.map write) xs := by
  induction xs with
  | nil => exact .nil
  | cons x xs ih =>
    obtain ⟨first, rest⟩ := List.forall_mem_cons.1 h
    exact .item first (ih rest)

theorem spellsMembers_write {ms : List Member} (h : ShortReferences ms) :
    SpellsMembers (ms.map writeMember) ms := by
  refine interleaves_map fun m hm => ⟨rfl, _, Number.spellsInteger_decimal (h m hm), ?_⟩
  simp [writeMember]

section Attributes

variable {e : Element} {key default : String} {d : Document}

theorem CarriesText.of_isText (text : d.isText) (h : Carries e key (textOf d)) :
    CarriesText e key d :=
  ⟨textOf d, (text_textOf text).symm, h⟩

theorem CarriesTextOr.of_isText (text : d.isText) (h : Carries e key (textOf d)) :
    CarriesTextOr e key default d :=
  ⟨textOf d, (text_textOf text).symm, Or.inl h⟩

theorem CarriesInteger.of_decimal {n : Int} (short : Number.isLong n = false)
    (h : Carries e key (Number.decimal n)) : CarriesInteger e key n :=
  ⟨Number.decimal n, Number.spellsInteger_decimal short, h⟩

/-- The id attribute is no other. -/
theorem notMem_idAttribute {value : String} (h : key ≠ "id") : (key, value) ∉ idAttribute d := by
  cases d <;> simp [idAttribute, h]

theorem carriesId_plain {name : String} {attributes : List (String × String)}
    {children : List Element} (short : d.IsShortId) (others : ∀ value, ("id", value) ∉ attributes) :
    CarriesId (plain name (attributes ++ idAttribute d) children) d := by
  rcases short with rfl | ⟨n, rfl, short⟩
  · refine .lacking (lacks_plain.2 ?_)
    simpa [idAttribute] using others
  · have text : (Number.decimal n).toList = Nat.toDigits 10 n := by simp [Number.decimal]
    have carried : Carries (plain name (attributes ++ idAttribute (.int n)) children) "id"
        (Number.decimal n) := by simp [idAttribute, others]
    refine .natural carried ?_ ?_
    · rw [text]
      exact Number.spells_toDigits n
    · simpa [text, Number.isLong] using short

end Attributes

section Declarations

variable {r : Repository}

theorem spellsCode_write {c : Code} (name : c.name.isText) (id : c.id.IsShortId) :
    SpellsCode (writeCode c) c where
  named := rfl
  name := .of_isText name (by simp [writeCode, notMem_idAttribute])
  value := by simp [writeCode, notMem_idAttribute]
  id := carriesId_plain id (by simp)

theorem Expressible.spellsCodeSet (h : Expressible r) {c : CodeSet} (hc : c ∈ r.codeSets) :
    SpellsCodeSet (writeCodeSet c) c := by
  obtain ⟨name, type, names⟩ := h.typed.codeSets c hc
  obtain ⟨id, ids⟩ := h.codeSets c hc
  exact {
    named := rfl
    name := .of_isText name (by simp [writeCodeSet, notMem_idAttribute])
    type := .of_isText type (by simp [writeCodeSet, notMem_idAttribute])
    codes := interleaves_map fun code there => spellsCode_write (names code there) (ids code there)
    id := carriesId_plain id (by simp) }

theorem Expressible.spellsField (h : Expressible r) {f : Field} (hf : f ∈ r.fields) :
    SpellsField (writeField f) f := by
  obtain ⟨name, type, -⟩ := h.typed.fields f hf
  obtain ⟨codeSet, id⟩ := h.fields f hf
  exact {
    named := rfl
    id := .of_decimal id (by simp [writeField])
    name := .of_isText name (by simp [writeField])
    type := .of_isText type (by simp [writeField])
    codeSet }

theorem Expressible.spellsComponent (h : Expressible r) {c : Component} (hc : c ∈ r.components) :
    SpellsComponent (writeComponent c) c := by
  obtain ⟨id, references⟩ := h.components c hc
  exact {
    named := rfl
    id := .of_decimal id (by simp [writeComponent])
    name := .of_isText (h.typed.components c hc) (by simp [writeComponent])
    members := spellsMembers_write references }

/-- A reference is no counter. -/
theorem referenceName_ne_counter (m : Member) : referenceName m ≠ "numInGroup" := by
  cases m <;> simp [referenceName]

theorem Expressible.spellsGroup (h : Expressible r) {g : Group} (hg : g ∈ r.groups) :
    SpellsGroup (writeGroup g) g := by
  obtain ⟨id, counter, references⟩ := h.groups g hg
  have only : OnlyChild (writeGroup g) "numInGroup"
      (plain "numInGroup" [("id", Number.decimal g.counter)] []) := by
    refine ⟨rfl, [], g.members.map writeMember, rfl, fun other there => ?_⟩
    obtain ⟨m, -, rfl⟩ := List.mem_map.1 there
    exact referenceName_ne_counter m
  exact {
    named := rfl
    id := .of_decimal id (by simp [writeGroup])
    name := .of_isText (h.typed.groups g hg) (by simp [writeGroup])
    counter := ⟨_, only, .of_decimal counter (by simp)⟩
    members := .foreign (by simp) (spellsMembers_write references) }

theorem Expressible.spellsMessage (h : Expressible r) {m : Message} (hm : m ∈ r.messages) :
    SpellsMessage (writeMessage m) m := by
  obtain ⟨name, category, scenario⟩ := h.typed.messages m hm
  obtain ⟨id, references⟩ := h.messages m hm
  have only : OnlyChild (writeMessage m) "structure"
      (plain "structure" [] (m.members.map writeMember)) := ⟨rfl, [], [], rfl, nofun⟩
  exact {
    named := rfl
    name := .of_isText name (by simp [writeMessage, notMem_idAttribute])
    msgType := Or.inl (by simp [writeMessage, notMem_idAttribute])
    category := .of_isText category (by simp [writeMessage, notMem_idAttribute])
    scenario := .of_isText scenario (by simp [writeMessage, notMem_idAttribute])
    members := Or.inl ⟨_, only, spellsMembers_write references⟩
    id := carriesId_plain id (by simp) }

/-- A section with all of its items, among the children of an element. -/
theorem spellsSection_of_split {α : Type} {name item : String} {spells : Element → α → Prop}
    {write : α → Element} {xs : List α} {root : Element} (before : List Element)
    {after : List Element} (split : root.children = before ++ plain name [] (xs.map write) :: after)
    (others : ∀ other ∈ before ++ after, other.localName ≠ name)
    (items : ∀ x ∈ xs, spells (write x) x) : SpellsSection name item spells root xs :=
  Or.inl ⟨_, ⟨rfl, before, after, split, others⟩, interleaves_map items⟩

/-- What is expressible is spelled by its plain element tree. -/
theorem Expressible.spellsRepository (h : Expressible r) : SpellsRepository (write r) r where
  named := rfl
  name := .of_isText h.name (by simp [write])
  version := Or.inl (by simp [write])
  codeSets := spellsSection_of_split [] rfl (by simp) fun _ => h.spellsCodeSet
  fields := spellsSection_of_split [_] rfl (by simp) fun _ => h.spellsField
  components := spellsSection_of_split [_, _] rfl (by simp) fun _ => h.spellsComponent
  groups := spellsSection_of_split [_, _, _] rfl (by simp) fun _ => h.spellsGroup
  messages := spellsSection_of_split [_, _, _, _] rfl (by simp) fun _ => h.spellsMessage

end Declarations

/-- **A repository that is expressible is spelled by element trees, and it is what is read from
each of them.** -/
theorem spelled_recovered {r : Repository} (h : Expressible r) :
    (∃ root, SpellsRepository root r) ∧
      ∀ root, SpellsRepository root r → repository root = .ok r :=
  ⟨⟨write r, h.spellsRepository⟩, fun _ spelled => spelled.read⟩

/-! ### A tree with much to pass over -/

/-- An element of a namespace, with an attribute and a child that are not looked for. -/
def marked (name : String) (attributes : List (String × String)) (children : List Element) :
    Element :=
  .node ⟨some "urn:orchestra", name⟩
    ((⟨some "urn:marks", "id"⟩, "m1") :: attributes.map fun (key, value) => (⟨none, key⟩, value))
    (plain "annotation" [("id", "a1")] [] :: children)

@[simp] theorem localName_marked {name : String} {attributes : List (String × String)}
    {children : List Element} : (marked name attributes children).localName = name := rfl

@[simp] theorem children_marked {name : String} {attributes : List (String × String)}
    {children : List Element} : (marked name attributes children).children =
      plain "annotation" [("id", "a1")] [] :: children := rfl

theorem carries_marked {name key value : String} {attributes : List (String × String)}
    {children : List Element} (mem : (key, value) ∈ attributes)
    (unique : ∀ other, (key, other) ∈ attributes → other = value) :
    Carries (marked name attributes children) key value where
  mem := by simpa [marked, Element.attributes] using mem
  unique := by simpa [marked, Element.attributes] using unique

theorem lacks_marked {name key : String} {attributes : List (String × String)}
    {children : List Element} (h : ∀ value, (key, value) ∉ attributes) :
    Lacks (marked name attributes children) key := by
  simpa [Lacks, marked, Element.attributes] using h

/-- A repository of one message, within which a field repeats. -/
def repeatedField : Repository where
  version := "FIX.4.4"
  fields := [{ id := 11, name := .text "ClOrdID", type := .text "String" }]
  groups := [{ id := -9, name := .text "Orders", counter := 73, members := [.field 11] }]
  messages := [{ name := .text "List", msgType := "E", members := [.group (-9)], id := .int 14 }]

theorem repeatedField_expressible : Expressible repeatedField where
  typed := ⟨by simp [repeatedField, Document.isText], nofun, nofun,
    by simp [repeatedField, Document.isText], by simp [repeatedField, Document.isText]⟩
  name := rfl
  fields := by simp [repeatedField]; decide
  codeSets := nofun
  components := nofun
  groups := by simp [repeatedField, ShortReferences]; decide
  messages := by
    simp only [repeatedField, List.forall_mem_singleton, ShortReferences]
    exact ⟨Or.inr ⟨14, rfl, by decide⟩, by decide⟩

/-- An element tree for `repeatedField`, with its sections and attributes out of order, without
those that may be omitted, and with zeros in front of numerals. -/
def repeatedFieldTree : Element :=
  marked "repository" [("version", "FIX.4.4"), ("built", "today")]
    [marked "messages" [] [marked "message" [("id", "014"), ("name", "List"), ("msgType", "E")]
      [marked "structure" [] [marked "groupRef" [("id", "-9")] []]]],
    marked "fields" [] [marked "field" [("name", "ClOrdID"), ("id", "0011")] []],
    marked "groups" [] [marked "group" [("id", "-09"), ("name", "Orders")]
      [marked "fieldRef" [("id", "11")] [], marked "numInGroup" [("id", "73")] []]]]

theorem spells_clOrdID : SpellsField (marked "field" [("name", "ClOrdID"), ("id", "0011")] [])
    { id := 11, name := .text "ClOrdID", type := .text "String" } where
  named := rfl
  id := ⟨"0011", .natural (Number.spells_of_digits [0, 0, 1, 1] nofun rfl) (by decide),
    carries_marked (by simp) (by simp)⟩
  name := ⟨"ClOrdID", rfl, carries_marked (by simp) (by simp)⟩
  type := ⟨"String", rfl, Or.inr ⟨rfl, lacks_marked (by simp)⟩⟩
  codeSet := rfl

theorem spells_fieldRef : SpellsMember (marked "fieldRef" [("id", "11")] []) (.field 11) :=
  ⟨rfl, "11", .natural (Number.spells_of_digits [1, 1] nofun rfl) (by decide),
    carries_marked (by simp) (by simp)⟩

theorem spells_groupRef : SpellsMember (marked "groupRef" [("id", "-9")] []) (.group (-9)) :=
  ⟨rfl, "-9", .negative rfl (Number.spells_of_digits [9] nofun rfl) (by decide),
    carries_marked (by simp) (by simp)⟩

theorem spells_orders : SpellsGroup (marked "group" [("id", "-09"), ("name", "Orders")]
      [marked "fieldRef" [("id", "11")] [], marked "numInGroup" [("id", "73")] []])
    { id := -9, name := .text "Orders", counter := 73, members := [.field 11] } where
  named := rfl
  id := ⟨"-09", .negative rfl (Number.spells_of_digits [0, 9] nofun rfl) (by decide),
    carries_marked (by simp) (by simp)⟩
  name := ⟨"Orders", rfl, carries_marked (by simp) (by simp)⟩
  counter := ⟨_, ⟨rfl, [_, _], [], rfl, by simp⟩, "73",
    .natural (Number.spells_of_digits [7, 3] nofun rfl) (by decide),
    carries_marked (by simp) (by simp)⟩
  members := .foreign (by simp) (.item spells_fieldRef (.foreign (by simp) .nil))

theorem spells_list :
    SpellsMessage (marked "message" [("id", "014"), ("name", "List"), ("msgType", "E")]
      [marked "structure" [] [marked "groupRef" [("id", "-9")] []]])
    { name := .text "List", msgType := "E", members := [.group (-9)], id := .int 14 } where
  named := rfl
  name := ⟨"List", rfl, carries_marked (by simp) (by simp)⟩
  msgType := Or.inl (carries_marked (by simp) (by simp))
  category := ⟨"", rfl, Or.inr ⟨rfl, lacks_marked (by simp)⟩⟩
  scenario := ⟨baseScenario, rfl, Or.inr ⟨rfl, lacks_marked (by simp)⟩⟩
  members := Or.inl ⟨_, ⟨rfl, [_], [], rfl, by simp⟩,
    .foreign (by simp) (.item spells_groupRef .nil)⟩
  id := @CarriesId.natural _ "014" 14 (carries_marked (by simp) (by simp))
    (Number.spells_of_digits [0, 1, 4] nofun rfl) (by decide)

theorem repeatedFieldTree_spells : SpellsRepository repeatedFieldTree repeatedField where
  named := rfl
  name := ⟨"", rfl, Or.inr ⟨rfl, lacks_marked (by simp)⟩⟩
  version := Or.inl (carries_marked (by simp [repeatedField]) (by simp [repeatedField]))
  codeSets := Or.inr ⟨by simp [NoChild, repeatedFieldTree], rfl⟩
  fields := Or.inl ⟨_, ⟨rfl, [_, _], [_], rfl, by simp⟩,
    .foreign (by simp) (.item spells_clOrdID .nil)⟩
  components := Or.inr ⟨by simp [NoChild, repeatedFieldTree], rfl⟩
  groups := Or.inl ⟨_, ⟨rfl, [_, _, _], [], rfl, by simp⟩,
    .foreign (by simp) (.item spells_orders .nil)⟩
  messages := Or.inl ⟨_, ⟨rfl, [_], [_, _], rfl, by simp⟩,
    .foreign (by simp) (.item spells_list .nil)⟩

/-- The tree with much to pass over is read as the repository that it spells. -/
theorem spelled_recovered_repeatedField :
    Expressible repeatedField ∧ SpellsRepository repeatedFieldTree repeatedField ∧
      repository repeatedFieldTree = .ok repeatedField :=
  ⟨repeatedField_expressible, repeatedFieldTree_spells,
    (spelled_recovered repeatedField_expressible).2 _ repeatedFieldTree_spells⟩

end Orchestra
end FixBindings
