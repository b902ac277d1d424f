import FixBindings.Json.Writer
import FixBindings.Loading
import FixBindings.Proofs.SameDocuments
import FixBindings.Yaml.Writer

/-!
# Writing a repository and reading it again

A repository is written as a document and the document as JSON or YAML, and `written_and_read` says
that nothing is lost on the way back.  The first half is exact: `ofDocument_toDocument` holds
whatever the slots hold, and since a repository that was read has integers for ids and texts for
wire values like any other, it can be written and read again.

A text is another matter, as its reader may give a document that is merely equal to the one that
was written.  `Rereads` says that this makes no difference to what is decoded, up to equality, and
there is one lemma for each kind of declaration.  Of JSON it is also shown that there is a text at
all where every slot holds a text, an integer or null (`Json.write_ok`).
-/

set_option autoImplicit false

namespace FixBindings

/-! ## The document of a repository -/

/-- What is read item by item as it was written is read as a list. -/
theorem mapM_toDocument {α : Type} {write : α → Document} {read : Document → Decoded α}
    (h : ∀ a, read (write a) = .ok a) (as : List α) : (as.map write).mapM read = .ok as := by
  induction as with
  | nil => rfl
  | cons a rest ih =>
    rw [List.map_cons, List.mapM_cons, h, ih]
    rfl

theorem Member.ofDocument_toDocument (m : Member) : Member.ofDocument m.toDocument = .ok m := by
  cases m <;> rfl

theorem Member.listOfDocument_toDocument (ms : List Member) :
    Member.listOfDocument (some (.seq (ms.map toDocument))) = .ok ms := by
  cases ms with
  | nil => rfl
  | cons m rest => exact mapM_toDocument ofDocument_toDocument (m :: rest)

theorem Field.ofDocument_toDocument (f : Field) : Field.ofDocument f.toDocument = .ok f := rfl

theorem Code.ofDocument_toDocument (c : Code) : Code.ofDocument c.toDocument = .ok c := rfl

theorem CodeSet.ofDocument_toDocument (c : CodeSet) : CodeSet.ofDocument c.toDocument = .ok c := by
  have codes := mapM_toDocument Code.ofDocument_toDocument c.codes
  show ((c.codes.map Code.toDocument).mapM Code.ofDocument >>= fun codes =>
    Except.ok ({ c with codes } : CodeSet)) = .ok c
  rw [codes]
  rfl

theorem Component.ofDocument_toDocument (c : Component) :
    Component.ofDocument c.toDocument = .ok c := by
  have members := Member.listOfDocument_toDocument c.members
  show (Member.listOfDocument (some (.seq (c.members.map Member.toDocument))) >>= fun members =>
    Except.ok ({ c with members } : Component)) = .ok c
  rw [members]
  rfl

theorem Group.ofDocument_toDocument (g : Group) : Group.ofDocument g.toDocument = .ok g := by
  have members := Member.listOfDocument_toDocument g.members
  show (Member.listOfDocument (some (.seq (g.members.map Member.toDocument))) >>= fun members =>
    Except.ok ({ g with members } : Group)) = .ok g
  rw [members]
  rfl

theorem Message.ofDocument_toDocument (m : Message) :
    Message.ofDocument m.toDocument = .ok m := by
  have members := Member.listOfDocument_toDocument m.members
  show (Member.listOfDocument (some (.seq (m.members.map Member.toDocument))) >>= fun members =>
    Except.ok ({ m with members } : Message)) = .ok m
  rw [members]
  rfl

/-- **The document of a repository is read as that repository**, whatever its slots hold. -/
theorem Repository.ofDocument_toDocument (r : Repository) :
    Repository.ofDocument r.toDocument = .ok r := by
  show ((do
    let fields ← (r.fields.map Field.toDocument).mapM Field.ofDocument
    let codeSets ← (r.codeSets.map CodeSet.toDocument).mapM CodeSet.ofDocument
    let components ← (r.components.map Component.toDocument).mapM Component.ofDocument
    let groups ← (r.groups.map Group.toDocument).mapM Group.ofDocument
    let messages ← (r.messages.map Message.toDocument).mapM Message.ofDocument
    Except.ok ({ r with fields, codeSets, components, groups, messages } : Repository) :
      Decoded Repository)).mapError wholeFault = .ok r
  rw [mapM_toDocument Field.ofDocument_toDocument, mapM_toDocument CodeSet.ofDocument_toDocument,
    mapM_toDocument Component.ofDocument_toDocument, mapM_toDocument Group.ofDocument_toDocument,
    mapM_toDocument Message.ofDocument_toDocument]
  rfl

/-! ## Documents equal to that of a repository -/

section Equal

open Document

/-- The result of a look-up, where it is part of reading something larger. -/
@[simp] theorem liftM_ok {α : Type} (a : α) :
    (liftM (Except.ok a : Except DocumentFault α) : Decoded α) = .ok a := rfl

@[simp] theorem ok_bind {α β : Type} (a : α) (f : α → Decoded β) :
    ((Except.ok a : Decoded α) >>= f) = f a := rfl

@[simp] theorem Document.checkWritten_text (s : String) : (Document.text s).checkWritten = .ok () :=
  rfl

@[simp] theorem Document.beq_eq_same (d e : Document) : (d == e) = d.same e := rfl

theorem Field.beq_eq (f g : Field) : (f == g) =
    (f.id == g.id && (f.name == g.name && (f.type == g.type && f.codeSet == g.codeSet))) := rfl

theorem Code.beq_eq (c d : Code) :
    (c == d) = (c.name == d.name && (c.value == d.value && c.id == d.id)) := rfl

theorem CodeSet.beq_eq (c d : CodeSet) : (c == d) =
    (c.name == d.name && (c.type == d.type && (c.codes == d.codes && c.id == d.id))) := rfl

theorem Component.beq_eq (c d : Component) :
    (c == d) = (c.id == d.id && (c.name == d.name && c.members == d.members)) := rfl

theorem Group.beq_eq (g h : Group) : (g == h) = (g.id == h.id && (g.name == h.name &&
    (g.counter == h.counter && g.members == h.members))) := rfl

theorem Message.beq_eq (m n : Message) : (m == n) = (m.name == n.name &&
    (m.msgType == n.msgType && (m.category == n.category && (m.scenario == n.scenario &&
    (m.members == n.members && m.id == n.id))))) := rfl

theorem Repository.beq_eq (r s : Repository) : (r == s) = (r.name == s.name &&
    (r.version == s.version && (r.fields == s.fields && (r.codeSets == s.codeSets &&
    (r.components == s.components && (r.groups == s.groups && r.messages == s.messages)))))) := rfl

/-- Whatever is equal to what is written is read as something equal. -/
def Rereads {α : Type} [BEq α] (write : α → Document) (read : Document → Decoded α) : Prop :=
  ∀ a d, (write a).same d → ∃ b, read d = .ok b ∧ (a == b) = true

/-- Items are reread one by one. -/
theorem Rereads.list {α : Type} [BEq α] {write : α → Document} {read : Document → Decoded α}
    (h : Rereads write read) {as : List α} {d : Document}
    (same : (Document.seq (as.map write)).same d) :
    ∃ ds bs, d = .seq ds ∧ ds.mapM read = .ok bs ∧ (as == bs) = true := by
  obtain ⟨ds, rfl, pairs⟩ := same_seq same
  clear same
  refine ⟨ds, ?_⟩
  induction as generalizing ds with
  | nil =>
    cases pairs
    exact ⟨[], rfl, rfl, rfl⟩
  | cons a rest ih =>
    cases pairs with
    | cons first others =>
      obtain ⟨b, hb, equal⟩ := h a _ first
      obtain ⟨bs, -, hbs, equals⟩ := ih _ others
      refine ⟨b :: bs, rfl, ?_, ?_⟩
      · rw [List.mapM_cons, hb, hbs]
        rfl
      · rw [List.cons_beq_cons, equal, equals]
        rfl

theorem Member.rereads : Rereads Member.toDocument Member.ofDocument := by
  intro m d h
  have one (key : String) (id : Int) (h : (Document.record [(key, .int id)]).same d) :
      ∃ value, d = .map [(.text key, value)] ∧ value.toInteger = .ok id := by
    obtain ⟨bs, rfl, length, among⟩ := same_map h
    obtain ⟨f, hf, sameKey, sameId⟩ := among _ List.mem_cons_self
    obtain ⟨e, rfl⟩ := List.length_eq_one_iff.1 length.symm
    obtain rfl := List.mem_singleton.1 hf
    exact ⟨f.2, by rw [← same_text sameKey], toInteger_of_same sameId⟩
  cases m with
  | field id =>
    obtain ⟨value, rfl, hid⟩ := one "fieldRef" id h
    exact ⟨.field id, by simp [Member.ofDocument, Member.ofKey?, hid], beq_self_eq_true _⟩
  | group id =>
    obtain ⟨value, rfl, hid⟩ := one "groupRef" id h
    exact ⟨.group id, by simp [Member.ofDocument, Member.ofKey?, hid], beq_self_eq_true _⟩
  | component id =>
    obtain ⟨value, rfl, hid⟩ := one "componentRef" id h
    exact ⟨.component id, by simp [Member.ofDocument, Member.ofKey?, hid], beq_self_eq_true _⟩

theorem Field.rereads : Rereads Field.toDocument Field.ofDocument := by
  intro f d h
  have holds := holds_of_same [("id", .int f.id), ("name", f.name), ("type", f.type),
    ("code_set", f.codeSet)] h (by simp)
  obtain ⟨⟨id, sameId, hid⟩, ⟨name, sameName, hname⟩, ⟨type, sameType, htype⟩,
    codeSet, sameCodeSet, hcodeSet⟩ := holds
  refine ⟨{ id := f.id, name, type, codeSet }, ?_, ?_⟩
  · simp [Field.ofDocument, hid.entry, toInteger_of_same sameId, hname.entry, htype.entryD,
      hcodeSet.entryD]
  · rw [Field.beq_eq]
    simp [sameName, sameType, sameCodeSet]

theorem Code.rereads : Rereads Code.toDocument Code.ofDocument := by
  intro c d h
  have holds := holds_of_same [("name", c.name), ("value", .text c.value), ("id", c.id)] h (by simp)
  obtain ⟨⟨name, sameName, hname⟩, ⟨value, sameValue, hvalue⟩, id, sameId, hid⟩ := holds
  obtain rfl := same_text sameValue
  refine ⟨{ name, value := c.value, id }, ?_, ?_⟩
  · simp [Code.ofDocument, hname.entry, hvalue.entry, hid.entryD, display]
  · rw [Code.beq_eq]
    simp [sameName, sameId]

theorem CodeSet.rereads : Rereads CodeSet.toDocument CodeSet.ofDocument := by
  intro c d h
  have holds := holds_of_same [("name", c.name), ("id", c.id), ("type", c.type),
    ("codes", .seq (c.codes.map Code.toDocument))] h (by simp)
  obtain ⟨⟨name, sameName, hname⟩, ⟨id, sameId, hid⟩, ⟨type, sameType, htype⟩,
    codes, sameCodes, hcodes⟩ := holds
  obtain ⟨ds, codes, rfl, read, equal⟩ := Code.rereads.list sameCodes
  refine ⟨{ name, type, codes, id }, ?_, ?_⟩
  · simp [CodeSet.ofDocument, hname.entry, hid.entryD, htype.entryD, hcodes.entryD, items, read]
  · rw [CodeSet.beq_eq]
    simp [sameName, sameType, sameId, equal]

/-- A list of members is reread, also if there is none. -/
theorem Member.listOfDocument_of_same {ms : List Member} {d : Document}
    (h : (Document.seq (ms.map toDocument)).same d) :
    ∃ ns, listOfDocument (some d) = .ok ns ∧ (ms == ns) = true := by
  obtain ⟨ds, ns, rfl, read, equal⟩ := Member.rereads.list h
  refine ⟨ns, ?_, equal⟩
  cases ds with
  | nil => exact read
  | cons d rest => exact read

theorem Component.rereads : Rereads Component.toDocument Component.ofDocument := by
  intro c d h
  have holds := holds_of_same [("id", .int c.id), ("name", c.name),
    ("members", .seq (c.members.map Member.toDocument))] h (by simp)
  obtain ⟨⟨id, sameId, hid⟩, ⟨name, sameName, hname⟩, members, sameMembers, hmembers⟩ := holds
  obtain ⟨members, read, equal⟩ := Member.listOfDocument_of_same sameMembers
  refine ⟨{ id := c.id, name, members }, ?_, ?_⟩
  · simp [Component.ofDocument, hid.entry, toInteger_of_same sameId, hname.entry, hmembers.entry?,
      read]
  · rw [Component.beq_eq]
    simp [sameName, equal]

theorem Group.rereads : Rereads Group.toDocument Group.ofDocument := by
  intro g d h
  have holds := holds_of_same [("id", .int g.id), ("name", g.name),
    ("num_in_group", .int g.counter), ("members", .seq (g.members.map Member.toDocument))] h
    (by simp)
  obtain ⟨⟨id, sameId, hid⟩, ⟨name, sameName, hname⟩, ⟨counter, sameCounter, hcounter⟩,
    members, sameMembers, hmembers⟩ := holds
  obtain ⟨members, read, equal⟩ := Member.listOfDocument_of_same sameMembers
  refine ⟨{ id := g.id, name, counter := g.counter, members }, ?_, ?_⟩
  · simp [Group.ofDocument, hid.entry, toInteger_of_same sameId, hname.entry, hcounter.entry,
      toInteger_of_same sameCounter, hmembers.entry?, read]
  · rw [Group.beq_eq]
    simp [sameName, equal]

theorem Message.rereads : Rereads Message.toDocument Message.ofDocument := by
  intro m d h
  have holds := holds_of_same [("name", m.name), ("id", m.id), ("msg_type", .text m.msgType),
    ("category", m.category), ("scenario", m.scenario),
    ("members", .seq (m.members.map Member.toDocument))] h (by simp)
  obtain ⟨⟨name, sameName, hname⟩, ⟨id, sameId, hid⟩, ⟨msgType, sameType, htype⟩,
    ⟨category, sameCategory, hcategory⟩, ⟨scenario, sameScenario, hscenario⟩,
    members, sameMembers, hmembers⟩ := holds
  obtain rfl := same_text sameType
  obtain ⟨members, read, equal⟩ := Member.listOfDocument_of_same sameMembers
  refine ⟨{ name, msgType := m.msgType, category, scenario, members, id }, ?_, ?_⟩
  · simp [Message.ofDocument, hname.entry, htype.entry, hcategory.entryD, hscenario.entryD,
      hmembers.entry?, hid.entryD, read, display]
  · rw [Message.beq_eq]
    simp [sameName, sameCategory, sameScenario, sameId, equal]

theorem Repository.rereads : Rereads Repository.toDocument Repository.ofDocument := by
  intro r d h
  have holds := holds_of_same [("name", r.name), ("version", .text r.version),
    ("fields", .seq (r.fields.map Field.toDocument)),
    ("code_sets", .seq (r.codeSets.map CodeSet.toDocument)),
    ("components", .seq (r.components.map Component.toDocument)),
    ("groups", .seq (r.groups.map Group.toDocument)),
    ("messages", .seq (r.messages.map Message.toDocument))] h (by simp)
  obtain ⟨⟨name, sameName, hname⟩, ⟨version, sameVersion, hversion⟩,
    ⟨fields, sameFields, hfields⟩, ⟨codeSets, sameCodeSets, hcodeSets⟩,
    ⟨components, sameComponents, hcomponents⟩, ⟨groups, sameGroups, hgroups⟩,
    messages, sameMessages, hmessages⟩ := holds
  obtain rfl := same_text sameVersion
  obtain ⟨_, fields, rfl, readFields, equalFields⟩ := Field.rereads.list sameFields
  obtain ⟨_, codeSets, rfl, readCodeSets, equalCodeSets⟩ := CodeSet.rereads.list sameCodeSets
  obtain ⟨_, components, rfl, readComponents, equalComponents⟩ :=
    Component.rereads.list sameComponents
  obtain ⟨_, groups, rfl, readGroups, equalGroups⟩ := Group.rereads.list sameGroups
  obtain ⟨_, messages, rfl, readMessages, equalMessages⟩ := Message.rereads.list sameMessages
  refine ⟨{ name, version := r.version, fields, codeSets, components, groups, messages }, ?_, ?_⟩
  · obtain ⟨entries, rfl, -, -⟩ := same_map h
    rw [Repository.ofDocument]
    simp [partsOfDocument, declarations, items, hname.entryD, hversion.entryD,
      hfields.entryD, hcodeSets.entryD, hcomponents.entryD, hgroups.entryD, hmessages.entryD,
      readFields, readCodeSets, readComponents, readGroups, readMessages, display, Except.mapError]
  · rw [Repository.beq_eq]
    simp [sameName, equalFields, equalCodeSets, equalComponents, equalGroups, equalMessages]

end Equal

/-! ## Texts -/

/-- A document of texts, integers and nulls, in sequences and in mappings whose keys are texts. -/
inductive Document.Plain : Document → Prop
  | null : Plain .null
  | int (n : Int) : Plain (.int n)
  | text (s : String) : Plain (.text s)
  | seq {items : List Document} (h : ∀ d ∈ items, Plain d) : Plain (.seq items)
  | record {entries : List (String × Document)} (h : ∀ e ∈ entries, Plain e.2) :
    Plain (record entries)

namespace Json

variable {α β : Type}

theorem exists_mapM_ok {f : α → Except WriteFault β} {xs : List α}
    (h : ∀ x ∈ xs, ∃ y, f x = .ok y) : ∃ ys, xs.mapM f = .ok ys := by
  induction xs with
  | nil => exact ⟨[], rfl⟩
  | cons x rest ih =>
    obtain ⟨y, hy⟩ := h x List.mem_cons_self
    obtain ⟨ys, hys⟩ := ih fun z hz => h z (List.mem_cons_of_mem x hz)
    exact ⟨y :: ys, by rw [List.mapM_cons, hy, hys]; rfl⟩

theorem writeItems_ok {items : List Document} (h : ∀ d ∈ items, ∃ s, write d = .ok s) :
    ∃ parts, writeItems items = .ok parts := by
  induction items with
  | nil => exact ⟨[], rfl⟩
  | cons d rest ih =>
    obtain ⟨s, hs⟩ := h d List.mem_cons_self
    obtain ⟨parts, hparts⟩ := ih fun e he => h e (List.mem_cons_of_mem d he)
    exact ⟨s :: parts, by rw [writeItems, hs, hparts]; rfl⟩

theorem writeEntries_eq (entries : List (Document × Document)) :
    writeEntries entries = entries.map fun e => (e.1, write e.2) := by
  induction entries with
  | nil => rfl
  | cons e rest ih =>
    obtain ⟨key, value⟩ := e
    rw [writeEntries, ih]
    rfl

theorem keyLess_ok {d e : Document} (hd : d.isText) (he : e.isText) : ∃ b, keyLess d e = .ok b := by
  obtain ⟨s, rfl⟩ := Document.isText_iff.1 hd
  obtain ⟨t, rfl⟩ := Document.isText_iff.1 he
  exact ⟨_, rfl⟩

/-- Entries with texts for keys are put in order. -/
theorem insertSorted_ok {e : Document × α} {sorted : List (Document × α)} (he : e.1.isText)
    (h : ∀ f ∈ sorted, f.1.isText) :
    ∃ after, insertSorted e sorted = .ok after ∧ after.Perm (e :: sorted) := by
  induction sorted with
  | nil => exact ⟨[e], rfl, .rfl⟩
  | cons f rest ih =>
    obtain ⟨less, hless⟩ := keyLess_ok he (h f List.mem_cons_self)
    obtain ⟨after, hafter, perm⟩ := ih fun g hg => h g (List.mem_cons_of_mem f hg)
    rw [insertSorted, hless]
    cases less with
    | true => exact ⟨f :: after, by rw [hafter]; rfl, (perm.cons f).trans (.swap e f rest)⟩
    | false => exact ⟨e :: f :: rest, rfl, .rfl⟩

theorem checkOrder_ok {entries : List (Document × α)} (h : ∀ e ∈ entries, e.1.isText) :
    checkOrder entries = .ok () := by
  induction entries with
  | nil => rfl
  | cons e rest ih =>
    cases rest with
    | nil => rfl
    | cons f rest =>
      obtain ⟨less, hless⟩ := keyLess_ok (h f (by simp)) (h e (by simp))
      rw [checkOrder, hless]
      exact ih fun g hg => h g (List.mem_cons_of_mem e hg)

theorem foldlM_insertSorted_ok {entries sorted : List (Document × α)}
    (h : ∀ e ∈ sorted ++ entries, e.1.isText) :
    ∃ after, entries.foldlM (fun sorted e => insertSorted e sorted) sorted = .ok after ∧
      after.Perm (sorted ++ entries) := by
  induction entries generalizing sorted with
  | nil => exact ⟨sorted, rfl, by rw [List.append_nil]⟩
  | cons e rest ih =>
    obtain ⟨next, hnext, perm⟩ := insertSorted_ok (h e (by simp))
      fun f hf => h f (List.mem_append_left _ hf)
    have moved : (next ++ rest).Perm (sorted ++ e :: rest) :=
      (perm.append_right rest).trans List.perm_middle.symm
    obtain ⟨after, hafter, perm⟩ := ih fun f hf => h f (moved.mem_iff.1 hf)
    exact ⟨after, by rw [List.foldlM_cons, hnext]; exact hafter, perm.trans moved⟩

theorem sortEntries_ok {entries : List (Document × α)} (h : ∀ e ∈ entries, e.1.isText) :
    ∃ sorted, sortEntries entries = .ok sorted ∧ sorted.Perm entries := by
  obtain ⟨after, hafter, perm⟩ := @foldlM_insertSorted_ok _ entries [] h
  refine ⟨after.reverse, ?_, after.reverse_perm.trans perm⟩
  rw [sortEntries, checkOrder_ok h, hafter]
  rfl

/-- **A plain document has a JSON text.** -/
theorem write_ok {d : Document} (h : d.Plain) : ∃ s, write d = .ok s := by
  induction h with
  | null => exact ⟨_, rfl⟩
  | int n => exact ⟨_, rfl⟩
  | text s => exact ⟨_, rfl⟩
  | seq h ih =>
    obtain ⟨parts, hparts⟩ := writeItems_ok ih
    exact ⟨_, by rw [write, hparts]; rfl⟩
  | @record entries h ih =>
    have written : ∀ e ∈ writeEntries (entries.map fun e => (Document.text e.1, e.2)),
        e.1.isText ∧ ∃ s, e.2 = .ok s := by
      rw [writeEntries_eq, List.map_map]
      intro e he
      obtain ⟨entry, hentry, rfl⟩ := List.mem_map.1 he
      exact ⟨rfl, ih entry hentry⟩
    obtain ⟨sorted, hsorted, perm⟩ := sortEntries_ok fun e he => (written e he).1
    have joined : ∀ e ∈ sorted, ∃ part, joinEntry e = .ok part := by
      intro e he
      obtain ⟨key, s, hs⟩ := written e (perm.mem_iff.1 he)
      obtain ⟨t, ht⟩ := Document.isText_iff.1 key
      exact ⟨_, by rw [joinEntry, ht, hs]; rfl⟩
    obtain ⟨parts, hparts⟩ := exists_mapM_ok joined
    refine ⟨bracketed "\x7b" "\x7d" parts, ?_⟩
    rw [Document.record, write, hsorted]
    show (sorted.mapM joinEntry >>= fun parts =>
      Except.ok (bracketed "\x7b" "\x7d" parts)) = _
    rw [hparts]
    rfl

end Json

/-- Whether a document is a text, an integer or null. -/
def Document.isPlainScalar : Document → Bool
  | .null | .int _ | .text _ => true
  | _ => false

theorem Document.Plain.scalar {d : Document} (h : d.isPlainScalar) : d.Plain := by
  cases d with
  | null => exact .null
  | int n => exact .int n
  | text s => exact .text s
  | _ => exact absurd h Bool.false_ne_true

theorem Document.plain_list {α : Type} {write : α → Document} {as : List α}
    (h : ∀ a ∈ as, (write a).Plain) : (Document.seq (as.map write)).Plain := by
  refine .seq fun d hd => ?_
  obtain ⟨a, ha, rfl⟩ := List.mem_map.1 hd
  exact h a ha

theorem Member.toDocument_plain (m : Member) : m.toDocument.Plain := by
  have one (key : String) (id : Int) : (Document.record [(key, .int id)]).Plain :=
    .record (by simp [Document.Plain.int])
  cases m with
  | field id => exact one "fieldRef" id
  | group id => exact one "groupRef" id
  | component id => exact one "componentRef" id

namespace Repository

open Document

/-- Every slot holds a text, an integer or null. -/
structure PlainSlots (r : Repository) : Prop where
  name : r.name.isPlainScalar
  fields : ∀ f ∈ r.fields,
    f.name.isPlainScalar ∧ f.type.isPlainScalar ∧ f.codeSet.isPlainScalar
  codeSets : ∀ c ∈ r.codeSets, c.name.isPlainScalar ∧ c.type.isPlainScalar ∧ c.id.isPlainScalar ∧
    ∀ code ∈ c.codes, code.name.isPlainScalar ∧ code.id.isPlainScalar
  components : ∀ c ∈ r.components, c.name.isPlainScalar
  groups : ∀ g ∈ r.groups, g.name.isPlainScalar
  messages : ∀ m ∈ r.messages, m.name.isPlainScalar ∧ m.category.isPlainScalar ∧
    m.scenario.isPlainScalar ∧ m.id.isPlainScalar

/-- The document of a repository with plain slots is plain. -/
theorem PlainSlots.toDocument {r : Repository} (h : r.PlainSlots) : r.toDocument.Plain := by
  have members (ms : List Member) : (Document.seq (ms.map Member.toDocument)).Plain :=
    plain_list fun m _ => m.toDocument_plain
  have fields : ∀ f ∈ r.fields, f.toDocument.Plain := by
    intro f hf
    obtain ⟨name, type, codeSet⟩ := h.fields f hf
    refine @Plain.record [("id", .int f.id), ("name", f.name), ("type", f.type),
      ("code_set", f.codeSet)] ?_
    simp [Plain.int, Plain.scalar name, Plain.scalar type, Plain.scalar codeSet]
  have codeSets : ∀ c ∈ r.codeSets, c.toDocument.Plain := by
    intro c hc
    obtain ⟨name, type, id, codes⟩ := h.codeSets c hc
    have codes : (Document.seq (c.codes.map Code.toDocument)).Plain := by
      refine plain_list fun code hcode => ?_
      obtain ⟨name, id⟩ := codes code hcode
      refine @Plain.record [("name", code.name), ("value", .text code.value),
        ("id", code.id)] ?_
      simp [Plain.text, Plain.scalar name, Plain.scalar id]
    refine @Plain.record [("name", c.name), ("id", c.id), ("type", c.type),
      ("codes", .seq (c.codes.map Code.toDocument))] ?_
    simp [Plain.scalar name, Plain.scalar type, Plain.scalar id, codes]
  have components : ∀ c ∈ r.components, c.toDocument.Plain := by
    intro c hc
    refine @Plain.record [("id", .int c.id), ("name", c.name),
      ("members", .seq (c.members.map Member.toDocument))] ?_
    simp [Plain.int, Plain.scalar (h.components c hc), members]
  have groups : ∀ g ∈ r.groups, g.toDocument.Plain := by
    intro g hg
    refine @Plain.record [("id", .int g.id), ("name", g.name),
      ("num_in_group", .int g.counter), ("members", .seq (g.members.map Member.toDocument))] ?_
    simp [Plain.int, Plain.scalar (h.groups g hg), members]
  have messages : ∀ m ∈ r.messages, m.toDocument.Plain := by
    intro m hm
    obtain ⟨name, category, scenario, id⟩ := h.messages m hm
    refine @Plain.record [("name", m.name), ("id", m.id), ("msg_type", .text m.msgType),
      ("category", m.category), ("scenario", m.scenario),
      ("members", .seq (m.members.map Member.toDocument))] ?_
    simp [Plain.text, Plain.scalar name, Plain.scalar category, Plain.scalar scenario,
      Plain.scalar id, members]
  refine @Plain.record [("name", r.name), ("version", .text r.version),
    ("fields", .seq (r.fields.map Field.toDocument)),
    ("code_sets", .seq (r.codeSets.map CodeSet.toDocument)),
    ("components", .seq (r.components.map Component.toDocument)),
    ("groups", .seq (r.groups.map Group.toDocument)),
    ("messages", .seq (r.messages.map Message.toDocument))] ?_
  simp [Plain.text, Plain.scalar h.name, plain_list fields,
    plain_list codeSets, plain_list components, plain_list groups,
    plain_list messages]

/-- A text in some format is read as a repository equal to another one, provided that the document
in it is equal to that of the other one. -/
theorem exists_ofText {ε : Type} {read : Except ε Document} {fault : ε → SourceFault}
    {r : Repository} (inverse : ∃ d, read = .ok d ∧ r.toDocument.same d) :
    ∃ s, (do (Repository.ofDocument (← read.mapError fault)).mapError SourceFault.document) =
      .ok s ∧ (r == s) = true := by
  obtain ⟨d, rfl, same⟩ := inverse
  obtain ⟨s, decoded, equal⟩ := Repository.rereads r d same
  refine ⟨s, ?_, equal⟩
  show (Repository.ofDocument d).mapError SourceFault.document = .ok s
  rw [decoded]
  rfl

/-- **A repository survives being written and read.**  The document of a repository is read as that
repository, and a repository that was read from any document is no exception.  Where every slot
holds a text, an integer or null, there is a JSON text and a YAML text, and if the document that is
read from such a text is equal to the one that was written, then so is the repository. -/
theorem written_and_read :
    (∀ r : Repository, Repository.ofDocument r.toDocument = .ok r) ∧
    (∀ d (r : Repository), Repository.ofDocument d = .ok r →
      Repository.ofDocument r.toDocument = .ok r) ∧
    ∀ r : Repository, r.PlainSlots →
      (∃ text, Json.write r.toDocument = .ok text ∧
        ((∃ d, Json.read text = .ok d ∧ r.toDocument.same d) →
          ∃ s, Repository.ofJson text = .ok s ∧ (r == s) = true)) ∧
      ((∃ d, Yaml.read (Yaml.write r.toDocument) = .ok d ∧ r.toDocument.same d) →
        ∃ s, Repository.ofYaml (Yaml.write r.toDocument) = .ok s ∧ (r == s) = true) := by
  refine ⟨ofDocument_toDocument, fun _ r _ => r.ofDocument_toDocument, fun r plain => ⟨?_, ?_⟩⟩
  · obtain ⟨text, written⟩ := Json.write_ok plain.toDocument
    exact ⟨text, written, exists_ofText⟩
  · exact exists_ofText

end Repository

theorem exists_ok_of_any {ε : Type} {x : Except ε Document} {p : Document → Bool}
    (h : x.toOption.any p = true) : ∃ d, x = .ok d ∧ p d = true := by
  cases x with
  | ok d => exact ⟨d, rfl, h⟩
  | error e => exact absurd h Bool.false_ne_true

theorem Repository.written_and_read_oneField :
    Repository.ofDocument Sample.oneField.toDocument = .ok Sample.oneField ∧
    (∃ text s, Json.write Sample.oneField.toDocument = .ok text ∧
      Repository.ofJson text = .ok s ∧ (Sample.oneField == s) = true) ∧
    ∃ s, Repository.ofYaml (Yaml.write Sample.oneField.toDocument) = .ok s ∧
      (Sample.oneField == s) = true := by
  have plain : Sample.oneField.PlainSlots :=
    { name := rfl, fields := by decide, codeSets := by decide, components := by decide
      groups := by decide, messages := by decide }
  have json : ((Json.write Sample.oneField.toDocument).toOption.any fun text =>
      (Json.read text).toOption.any Sample.oneField.toDocument.same) = true := by decide +kernel
  have yaml : (Yaml.read (Yaml.write Sample.oneField.toDocument)).toOption.any
      Sample.oneField.toDocument.same = true := by decide +kernel
  obtain ⟨⟨text, written, ofJson⟩, ofYaml⟩ := written_and_read.2.2 Sample.oneField plain
  rw [written] at json
  obtain ⟨s, read, equal⟩ := ofJson (exists_ok_of_any json)
  exact ⟨written_and_read.2.1 _ _ (written_and_read.1 Sample.oneField),
    ⟨text, s, written, read, equal⟩, ofYaml (exists_ok_of_any yaml)⟩

end FixBindings
