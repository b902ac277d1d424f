import FixBindings.Proofs.FirstFaults
import FixBindings.Proofs.IntegerLiterals
import FixBindings.Schema.Orchestra

/-!
# What element trees spell

An element spells a declaration if it has the local name of its kind and carries its slots as
attributes and children.  The relations of this module say so without a reader.  They leave open
what a reader is to pass over: the namespace of every name, attributes and children that are not
looked for, and the order of sections.  Integers are decimal numerals, and an attribute that equals
its default may be omitted.

For each relation there is a lemma that what spells a declaration is read as that declaration
(`Spells….read`), and the one about whole element trees is `SpellsRepository.read`.
-/

set_option autoImplicit false

namespace FixBindings

/-! ## Integers -/

/-- A text is the decimal text of an integer, short enough to be read. -/
inductive Number.SpellsInteger (s : String) : Int → Prop
  | natural {n : Nat} (numeral : Spells s.toList n) (short : s.toList.length ≤ maxDigits) :
    SpellsInteger s n
  | negative {cs : List Char} {n : Nat} (minus : s.toList = '-' :: cs) (numeral : Spells cs n)
    (short : cs.length ≤ maxDigits) : SpellsInteger s (-n)

theorem Number.SpellsInteger.read {s : String} {n : Int} (h : SpellsInteger s n) :
    readInteger 10 s = .ok n := by
  cases h with
  | natural numeral short => exact (readInteger_of_spells numeral short s).1 rfl
  | negative minus numeral short => exact (readInteger_of_spells numeral short s).2 minus

namespace Orchestra

open Xml (Element)

variable {e : Element} {key : String}

/-! ## Attributes -/

/-- An element has an attribute of no namespace, with one value. -/
structure Carries (e : Element) (key value : String) : Prop where
  mem : (⟨none, key⟩, value) ∈ e.attributes
  unique : ∀ other, (⟨none, key⟩, other) ∈ e.attributes → other = value

/-- An element has no attribute of a name. -/
def Lacks (e : Element) (key : String) : Prop := ∀ value, (⟨none, key⟩, value) ∉ e.attributes

/-- An element has an attribute, or lacks it where the value is the default. -/
def CarriesOr (e : Element) (key default value : String) : Prop :=
  Carries e key value ∨ value = default ∧ Lacks e key

/-- An attribute is the text that a slot holds. -/
def CarriesText (e : Element) (key : String) (d : Document) : Prop :=
  ∃ value, d = .text value ∧ Carries e key value

/-- An attribute is the text that a slot holds, or the slot holds its default. -/
def CarriesTextOr (e : Element) (key default : String) (d : Document) : Prop :=
  ∃ value, d = .text value ∧ CarriesOr e key default value

/-- An attribute is an integer. -/
def CarriesInteger (e : Element) (key : String) (n : Int) : Prop :=
  ∃ value, Number.SpellsInteger value n ∧ Carries e key value

/-- An id that may be lacking, and is a natural number otherwise. -/
inductive CarriesId (e : Element) : Document → Prop
  | lacking (none : Lacks e "id") : CarriesId e .null
  | natural {value : String} {n : Nat} (carried : Carries e "id" value)
    (numeral : Number.Spells value.toList n) (short : value.toList.length ≤ Number.maxDigits) :
    CarriesId e (.int n)

theorem Lacks.attribute? (h : Lacks e key) : e.attribute? key = none := by
  rw [Element.attribute?, List.lookup_eq_none_iff]
  rintro ⟨name, value⟩ there
  rw [bne_iff_ne]
  rintro rfl
  exact h value there

theorem Carries.attribute? {value : String} (h : Carries e key value) :
    e.attribute? key = some value := by
  cases found : e.attribute? key with
  | none =>
    have absent := List.lookup_eq_none_iff.1 found _ h.mem
    exact absurd absent (by simp)
  | some other =>
    -- whichever attribute of that name was found, its value is the only one
    obtain ⟨before, after, split, -⟩ := List.lookup_eq_some_iff.1 found
    rw [h.unique other (by simp [split])]

theorem Carries.required {value : String} (h : Carries e key value) :
    required e key = .ok value := by
  rw [Orchestra.required, h.attribute?]

theorem CarriesOr.getD {default value : String} (h : CarriesOr e key default value) :
    (e.attribute? key).getD default = value := by
  rcases h with carried | ⟨rfl, lacking⟩
  · rw [carried.attribute?, Option.getD_some]
  · rw [lacking.attribute?, Option.getD_none]

theorem CarriesTextOr.attributeD {default : String} {d : Document}
    (h : CarriesTextOr e key default d) : attributeD e key default = d := by
  obtain ⟨value, rfl, carried⟩ := h
  rw [Orchestra.attributeD, carried.getD]

theorem CarriesInteger.requiredInteger {n : Int} (h : CarriesInteger e key n) :
    requiredInteger e key = .ok n := by
  obtain ⟨value, spelled, carried⟩ := h
  simp only [Orchestra.requiredInteger, carried.required, bind, Except.bind, spelled.read]
  rfl

theorem isDigits_of_spells {value : String} {n : Nat} (h : Number.Spells value.toList n) :
    isDigits value := by
  obtain ⟨ne, decimal⟩ := h.decimal
  rw [isDigits, Bool.and_eq_true, List.all_eq_true]
  refine ⟨by simpa using ne, fun c hc => ?_⟩
  obtain ⟨d, hd⟩ := decimal c hc
  exact Number.isDigit_of_decimalValue? hd

theorem CarriesId.optionalId {d : Document} (h : CarriesId e d) : optionalId e = .ok d := by
  cases h with
  | lacking none => rw [Orchestra.optionalId, none.attribute?]
  | natural carried numeral short =>
    rw [Orchestra.optionalId, carried.attribute?]
    simp only [isDigits_of_spells numeral, if_true, Document.readInteger,
      (Number.readInteger_of_spells numeral short _).1 rfl]

/-! ## Children -/

/-- Elements spell items in order, and between them are elements of names that are not looked
for. -/
inductive Interleaves {α : Type} (looked : String → Prop) (spells : Element → α → Prop) :
    List Element → List α → Prop
  | nil : Interleaves looked spells [] []
  | item {e : Element} {x : α} {es : List Element} {xs : List α} (first : spells e x)
    (rest : Interleaves looked spells es xs) : Interleaves looked spells (e :: es) (x :: xs)
  | foreign {e : Element} {es : List Element} {xs : List α} (other : ¬looked e.localName)
    (rest : Interleaves looked spells es xs) : Interleaves looked spells (e :: es) xs

/-- Among the children of an element exactly one has some local name. -/
def OnlyChild (e : Element) (name : String) (child : Element) : Prop :=
  child.localName = name ∧ ∃ before after, e.children = before ++ child :: after ∧
    ∀ other ∈ before ++ after, other.localName ≠ name

/-- Among the children of an element none has some local name. -/
def NoChild (e : Element) (name : String) : Prop := ∀ child ∈ e.children, child.localName ≠ name

theorem OnlyChild.child? {name : String} {child : Element} (h : OnlyChild e name child) :
    e.child? name = some child := by
  obtain ⟨named, before, after, split, others⟩ := h
  rw [Element.child?, Element.childrenNamed, List.head?_filter, List.find?_eq_some_iff_append]
  refine ⟨beq_iff_eq.2 named, before, after, split, fun other there => ?_⟩
  simpa using others other (List.mem_append_left after there)

theorem NoChild.child? {name : String} (h : NoChild e name) : e.child? name = none := by
  rw [Element.child?, Element.childrenNamed, List.head?_filter, List.find?_eq_none]
  intro child there
  simpa using h child there

/-- The items among elements are read in order, and nothing else is. -/
theorem Interleaves.mapM {α : Type} {item : String} {spells : Element → α → Prop}
    {read : Element → Reading α} {es : List Element} {xs : List α}
    (h : Interleaves (· = item) spells es xs)
    (items : ∀ e x, spells e x → e.localName = item ∧ read e = .ok x) :
    (es.filter fun e => e.localName == item).mapM read = .ok xs := by
  induction h with
  | nil => rfl
  | item first rest ih =>
    obtain ⟨named, reads⟩ := items _ _ first
    rw [List.filter_cons_of_pos (by simpa using named), List.mapM_cons, reads, ih]
    rfl
  | foreign other rest ih => rwa [List.filter_cons_of_neg (by simpa using other)]

/-- The items of a section, which may be omitted if there are none. -/
def SpellsSection {α : Type} (name item : String) (spells : Element → α → Prop) (root : Element)
    (xs : List α) : Prop :=
  (∃ child, OnlyChild root name child ∧ Interleaves (· = item) spells child.children xs) ∨
    NoChild root name ∧ xs = []

theorem SpellsSection.mapM {α : Type} {name item : String} {spells : Element → α → Prop}
    {read : Element → Reading α} {root : Element} {xs : List α}
    (h : SpellsSection name item spells root xs)
    (items : ∀ e x, spells e x → e.localName = item ∧ read e = .ok x) :
    (sectionItems root name item).mapM read = .ok xs := by
  rw [sectionItems]
  rcases h with ⟨child, only, spelled⟩ | ⟨none, rfl⟩
  · rw [only.child?]
    exact spelled.mapM items
  · rw [none.child?]
    rfl

/-! ## Declarations -/

/-- The local name of the elements that refer to members of a kind. -/
def referenceName : Member → String
  | .field _ => "fieldRef"
  | .group _ => "groupRef"
  | .component _ => "componentRef"

/-- The id that a member refers to. -/
def referenceId : Member → Int
  | .field id | .group id | .component id => id

/-- An element refers to a member. -/
def SpellsMember (e : Element) (m : Member) : Prop :=
  e.localName = referenceName m ∧ CarriesInteger e "id" (referenceId m)

/-- Elements refer to members, in order. -/
def SpellsMembers (es : List Element) (ms : List Member) : Prop :=
  Interleaves (· ∈ ["fieldRef", "groupRef", "componentRef"]) SpellsMember es ms

/-- An element spells a code. -/
structure SpellsCode (e : Element) (c : Code) : Prop where
  named : e.localName = "code"
  name : CarriesText e "name" c.name
  value : Carries e "value" c.value
  id : CarriesId e c.id

/-- An element spells a code set. -/
structure SpellsCodeSet (e : Element) (c : CodeSet) : Prop where
  named : e.localName = "codeSet"
  name : CarriesText e "name" c.name
  type : CarriesTextOr e "type" "String" c.type
  codes : Interleaves (· = "code") SpellsCode e.children c.codes
  id : CarriesId e c.id

/-- An element spells a field. -/
structure SpellsField (e : Element) (f : Field) : Prop where
  named : e.localName = "field"
  id : CarriesInteger e "id" f.id
  name : CarriesText e "name" f.name
  type : CarriesTextOr e "type" "String" f.type
  codeSet : f.codeSet = .null

/-- An element spells a component. -/
structure SpellsComponent (e : Element) (c : Component) : Prop where
  named : e.localName = "component"
  id : CarriesInteger e "id" c.id
  name : CarriesText e "name" c.name
  members : SpellsMembers e.children c.members

/-- An element spells a group, whose counter is a child of its own. -/
structure SpellsGroup (e : Element) (g : Group) : Prop where
  named : e.localName = "group"
  id : CarriesInteger e "id" g.id
  name : CarriesText e "name" g.name
  counter : ∃ child, OnlyChild e "numInGroup" child ∧ CarriesInteger child "id" g.counter
  members : SpellsMembers e.children g.members

/-- An element spells a message, whose members are within its structure. -/
structure SpellsMessage (e : Element) (m : Message) : Prop where
  named : e.localName = "message"
  name : CarriesText e "name" m.name
  msgType : CarriesOr e "msgType" "" m.msgType
  category : CarriesTextOr e "category" "" m.category
  scenario : CarriesTextOr e "scenario" baseScenario m.scenario
  members : (∃ child, OnlyChild e "structure" child ∧ SpellsMembers child.children m.members) ∨
    NoChild e "structure" ∧ m.members = []
  id : CarriesId e m.id

/-- An element tree spells a repository. -/
structure SpellsRepository (root : Element) (r : Repository) : Prop where
  named : root.localName = "repository"
  name : CarriesTextOr root "name" "" r.name
  version : CarriesOr root "version" "" r.version
  codeSets : SpellsSection "codeSets" "codeSet" SpellsCodeSet root r.codeSets
  fields : SpellsSection "fields" "field" SpellsField root r.fields
  components : SpellsSection "components" "component" SpellsComponent root r.components
  groups : SpellsSection "groups" "group" SpellsGroup root r.groups
  messages : SpellsSection "messages" "message" SpellsMessage root r.messages

/-! ## Reading -/

theorem CarriesText.exists_required {d : Document} (h : CarriesText e key d) :
    ∃ value, required e key = .ok value ∧ .text value = d := by
  obtain ⟨value, rfl, carried⟩ := h
  exact ⟨value, carried.required, rfl⟩

theorem memberOf?_referenceName (m : Member) :
    ∃ member, memberOf? (referenceName m) = some member ∧ member (referenceId m) = m := by
  cases m <;> exact ⟨_, rfl, rfl⟩

theorem memberOf?_eq_none {name : String} (h : name ∉ ["fieldRef", "groupRef", "componentRef"]) :
    memberOf? name = none := by
  unfold memberOf?
  split <;> simp_all

theorem SpellsMembers.read {es : List Element} {ms : List Member} (h : SpellsMembers es ms) :
    members es = .ok ms := by
  induction h with
  | nil => rfl
  | @item e m es ms first rest ih =>
    obtain ⟨named, id⟩ := first
    obtain ⟨member, found, same⟩ := memberOf?_referenceName m
    simp only [members, named, found, id.requiredInteger, ih, same, bind, Except.bind]
    rfl
  | foreign other rest ih => rw [members, memberOf?_eq_none other, ih]

theorem SpellsCode.read {c : Code} (h : SpellsCode e c) : code e = .ok c := by
  obtain ⟨name, read, same⟩ := h.name.exists_required
  simp only [code, read, h.value.required, h.id.optionalId, same, bind, Except.bind]
  rfl

theorem SpellsCodeSet.read {c : CodeSet} (h : SpellsCodeSet e c) : codeSet e = .ok c := by
  obtain ⟨name, read, same⟩ := h.name.exists_required
  have codes : (e.childrenNamed "code").mapM code = .ok c.codes :=
    h.codes.mapM fun _ _ spelled => ⟨spelled.named, spelled.read⟩
  simp only [codeSet, codes, read, h.type.attributeD, h.id.optionalId, same, bind, Except.bind]
  rfl

theorem SpellsField.read {f : Field} (h : SpellsField e f) : field e = .ok f := by
  obtain ⟨name, read, same⟩ := h.name.exists_required
  simp only [field, h.id.requiredInteger, read, h.type.attributeD, same, bind, Except.bind,
    ← h.codeSet]
  rfl

theorem SpellsComponent.read {c : Component} (h : SpellsComponent e c) :
    component e = .ok c := by
  obtain ⟨name, read, same⟩ := h.name.exists_required
  simp only [component, h.id.requiredInteger, read, h.members.read, same, bind, Except.bind]
  rfl

theorem SpellsGroup.read {g : Group} (h : SpellsGroup e g) : group e = .ok g := by
  obtain ⟨name, read, same⟩ := h.name.exists_required
  obtain ⟨child, only, counter⟩ := h.counter
  simp only [group, only.child?, h.id.requiredInteger, read, counter.requiredInteger,
    h.members.read, same, bind, Except.bind]
  rfl

theorem SpellsMessage.read {m : Message} (h : SpellsMessage e m) : message e = .ok m := by
  obtain ⟨name, read, same⟩ := h.name.exists_required
  have members : Orchestra.members (((e.child? "structure").map Element.children).getD []) =
      .ok m.members := by
    rcases h.members with ⟨child, only, spelled⟩ | ⟨none, empty⟩
    · rw [only.child?]
      exact spelled.read
    · rw [none.child?, empty]
      rfl
  simp only [message, read, members, h.msgType.getD, h.category.attributeD, h.scenario.attributeD,
    h.id.optionalId, same, bind, Except.bind]
  rfl

/-- **An element tree that spells a repository is read as that repository.** -/
theorem SpellsRepository.read {root : Element} {r : Repository} (h : SpellsRepository root r) :
    repository root = .ok r := by
  have codeSets := h.codeSets.mapM fun _ _ spelled => ⟨spelled.named, spelled.read⟩
  have fields := h.fields.mapM fun _ _ spelled => ⟨spelled.named, spelled.read⟩
  have components := h.components.mapM fun _ _ spelled => ⟨spelled.named, spelled.read⟩
  have groups := h.groups.mapM fun _ _ spelled => ⟨spelled.named, spelled.read⟩
  have messages := h.messages.mapM fun _ _ spelled => ⟨spelled.named, spelled.read⟩
  simp only [repository, h.named, bne_self_eq_false, codeSets, fields, components, groups, messages,
    h.name.attributeD, h.version.getD, bind, Except.bind]
  rfl

end Orchestra
end FixBindings
