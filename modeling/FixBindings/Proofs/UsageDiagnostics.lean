import FixBindings.Proofs.Reports
import FixBindings.Proofs.UsedFields
import Mathlib

/-!
# What collecting fields reports

The walk over used fields reports a reference that leads nowhere, and it reports a node that it
meets a second time on one path.  The path is all that it remembers, so not every node of a cycle
is reported, and the same cycle may be reported at different nodes when it is entered at different
places.  What can be said exactly is this.

* A reported node lies on a cycle, since the path leads from the node back to it
  (`onCycle_of_reported`).
* If no node is reported, then what is reached is off the path and on no cycle
  (`offCycle_of_unreported`), so some node is reported exactly if some cycle is reached.
* A dangling reference is reported exactly if it is among the members, or among those of a node
  that is reached (`dangling_reported_iff`).  That is another instance of `Index.walk_iff_reached`.

`mem_remarks_step` opens the walk once for all of them.  A ledger holds texts, and the texts of
these diagnostics tell them apart from each other and from those that making the index leaves
(`not_prefix_danglingAt`, `head?_repetition`), so `usage_diagnostics_exact` speaks of the ledger.
-/

set_option autoImplicit false

namespace FixBindings

/-! ## Diagnostics on nodes -/

namespace Key

/-- The kind of declaration that a node is. -/
def kind : Key → ElementKind
  | .group _ => .group
  | .component _ => .component

/-- The id of a node among those of its kind. -/
def id : Key → Int
  | .group id => id
  | .component id => id

theorem eq_of_kind_id {a b : Key} (h : a.kind = b.kind ∧ a.id = b.id) : a = b := by
  cases a <;> cases b <;> simp_all [kind, id]

end Key

namespace Diagnostic

/-- A node lies on the path of the walk over used fields already. -/
def cycleAt (key : Key) : Diagnostic := .cyclic .usage key.kind key.id

/-- The walk over used fields comes to a reference to a node that is not declared. -/
def danglingAt (key : Key) : Diagnostic := .missing .usage key.kind key.id

/-- What the text of a diagnostic on a cycle begins with. -/
def cycleNote : String := "collect_field_ids: cyclic reference"

/-- Whether a diagnostic is one on a repeated declaration. -/
def isRepetition : Diagnostic → Bool
  | .duplicate .. | .extraBase _ | .duplicateScenario .. => true
  | _ => false

/-! ### Texts -/

/-- The text of a diagnostic on a cycle up to the id. -/
def cycleFront (kind : ElementKind) : String :=
  Operation.usage.name ++ ": cyclic reference to " ++ kind.name ++ " id="

/-- The text of a diagnostic on a dangling reference up to the id. -/
def danglingFront (kind : ElementKind) : String :=
  Operation.usage.name ++ ": " ++ kind.name ++ " missing from repository; id="

theorem message_cycleAt (key : Key) :
    (cycleAt key).message = cycleFront key.kind ++ toString key.id := rfl

theorem message_danglingAt (key : Key) :
    (danglingAt key).message = danglingFront key.kind ++ toString key.id := rfl

theorem getElem?_append {front : String} {n : Nat} {c : Char} (h : front.toList[n]? = some c)
    (rest : String) : (front ++ rest).toList[n]? = some c := by
  obtain ⟨long, -⟩ := List.getElem?_eq_some_iff.1 h
  rw [String.toList_append, List.getElem?_append_left long, h]

/-- The first letter of the name of a kind, which tells the kind. -/
def initial : ElementKind → Char
  | .field => 'F'
  | .group => 'G'
  | .component => 'C'

theorem initial_inj {j k : ElementKind} (h : initial j = initial k) : j = k := by
  cases j <;> cases k <;> first | rfl | exact absurd h (by decide)

theorem initial_cycleFront (kind : ElementKind) :
    (cycleFront kind).toList[39]? = some (initial kind) := by
  cases kind <;> decide +kernel

theorem initial_danglingFront (kind : ElementKind) :
    (danglingFront kind).toList[19]? = some (initial kind) := by
  cases kind <;> decide +kernel

/-- Texts that end in an id tell the kind and the id if a letter before the id tells the kind. -/
theorem append_id_inj {front : ElementKind → String} {n : Nat}
    (told : ∀ kind, (front kind).toList[n]? = some (initial kind)) {j k : ElementKind} {a b : Int}
    (h : front j ++ toString a = front k ++ toString b) : j = k ∧ a = b := by
  have initials : initial j = initial k := by
    have first := getElem?_append (told j) (toString a)
    rw [h, getElem?_append (told k)] at first
    exact (Option.some.inj first).symm
  obtain rfl := initial_inj initials
  rw [String.append_right_inj] at h
  exact ⟨rfl, Int.repr_injective h⟩

theorem cycleAt_inj {a b : Key} (h : (cycleAt a).message = (cycleAt b).message) : a = b :=
  Key.eq_of_kind_id (append_id_inj initial_cycleFront h)

theorem danglingAt_inj {a b : Key} (h : (danglingAt a).message = (danglingAt b).message) : a = b :=
  Key.eq_of_kind_id (append_id_inj initial_danglingFront h)

/-! Both kinds of texts begin with the name of the operation.  The letter after it tells them apart,
and the first letter of all tells them from texts on repetitions. -/

theorem cycleNote_prefix (key : Key) : cycleNote.toList <+: (cycleAt key).message.toList := by
  have front (kind : ElementKind) : cycleNote.toList <+: (cycleFront kind).toList := by
    cases kind <;> decide +kernel
  rw [message_cycleAt, String.toList_append]
  exact (front _).trans (List.prefix_append _ _)

theorem getElem?_of_prefix {text : String} {n : Nat} {c : Char}
    (h : cycleNote.toList <+: text.toList) (note : cycleNote.toList[n]? = some c) :
    text.toList[n]? = some c := by
  obtain ⟨rest, hrest⟩ := h
  obtain ⟨long, -⟩ := List.getElem?_eq_some_iff.1 note
  rw [← hrest, List.getElem?_append_left long, note]

theorem not_prefix_danglingAt (key : Key) :
    ¬cycleNote.toList <+: (danglingAt key).message.toList := by
  intro h
  have cyclic := getElem?_of_prefix (n := 19) (c := 'c') h (by decide +kernel)
  rw [message_danglingAt, getElem?_append (initial_danglingFront _)] at cyclic
  have other (kind : ElementKind) : initial kind ≠ 'c' := by cases kind <;> decide
  exact other _ (Option.some.inj cyclic)

/-- The text of a diagnostic on a repetition does not begin like the others. -/
theorem head?_repetition {d : Diagnostic} (h : d.isRepetition) :
    d.message.toList.head? = some 'b' := by
  have append {front : String} (hfront : front.toList.head? = some 'b') (rest : String) :
      (front ++ rest).toList.head? = some 'b' := by
    rw [String.toList_append, List.head?_append, hfront]
    rfl
  cases d with
  | duplicate kind id => exact append (append (append (by decide +kernel) _) _) _
  | extraBase name => exact append (by decide +kernel) _
  | duplicateScenario scenario name => exact append (append (append (by decide +kernel) _) _) _
  | _ => exact absurd h Bool.false_ne_true

theorem head?_of_prefix {text : String} (h : cycleNote.toList <+: text.toList) :
    text.toList.head? = some 'c' := by
  rw [List.head?_eq_getElem?]
  exact getElem?_of_prefix h (by decide +kernel)

theorem head?_danglingAt (key : Key) : (danglingAt key).message.toList.head? = some 'c' := by
  have front (kind : ElementKind) : (danglingFront kind).toList[0]? = some 'c' := by
    cases kind <;> decide +kernel
  rw [message_danglingAt, List.head?_eq_getElem?, getElem?_append (front _)]

end Diagnostic

/-! ## The index -/

namespace Traced

variable {α σ : Type}

theorem diagnostic_notMem_ofExcept (default : α) (x : Except DocumentFault α) (d : Diagnostic) :
    Remark.diagnostic d ∉ (ofExcept default x).remarks := by
  cases x <;> simp [ofExcept]

/-- What is remarked on in a pass is remarked on in one of its steps. -/
theorem exists_of_mem_remarks_foldlM {f : σ → α → Traced σ} {xs : List α} {s : σ} {x : Remark}
    (h : x ∈ (xs.foldlM f s).remarks) : ∃ s a, x ∈ (f s a).remarks := by
  induction xs generalizing s with
  | nil => exact absurd h List.not_mem_nil
  | cons a rest ih =>
    rw [List.foldlM_cons, remarks_bind, List.mem_append] at h
    exact h.elim (fun h => ⟨s, a, h⟩) ih

end Traced

namespace Index

variable {r : Repository} {d : Diagnostic}

theorem diagnostic_notMem_addNamed {α : Type} (name : α → Document) (items : List α) (a : α) :
    Remark.diagnostic d ∉ (addNamed name items a).remarks := by
  simp [addNamed, Traced.diagnostic_notMem_ofExcept]

/-- A message is added with no diagnostic but that on its scenario. -/
theorem eq_repeatedScenario {i : Index} {m : Message}
    (h : Remark.diagnostic d ∈ (i.addMessage m).remarks) : d = repeatedScenario m := by
  rw [addMessage, Traced.remarks_bind, List.mem_append] at h
  have h := h.resolve_left (Traced.diagnostic_notMem_ofExcept _ _ _)
  split at h
  · simpa using h
  · simp at h

/-- An index is made with no diagnostics but those on repetitions. -/
theorem isRepetition_of_mem (h : Remark.diagnostic d ∈ (ofRepository r).remarks) :
    d.isRepetition := by
  simp only [ofRepository, Traced.remarks_bind, List.mem_append] at h
  rcases h with h | h | h | h | h
  · obtain ⟨i, f, h⟩ := Traced.exists_of_mem_remarks_foldlM h
    rw [addField] at h
    split at h
    · obtain rfl : d = .duplicate .field f.id := by simpa using h
      rfl
    · simp [diagnostic_notMem_addNamed] at h
  · obtain ⟨i, c, h⟩ := Traced.exists_of_mem_remarks_foldlM h
    rw [addComponent] at h
    split at h
    · obtain rfl : d = .duplicate .component c.id := by simpa using h
      rfl
    · simp [diagnostic_notMem_addNamed] at h
  · obtain ⟨i, g, h⟩ := Traced.exists_of_mem_remarks_foldlM h
    rw [addGroup] at h
    split at h
    · obtain rfl : d = .duplicate .group g.id := by simpa using h
      rfl
    · simp [diagnostic_notMem_addNamed] at h
  · obtain ⟨i, c, h⟩ := Traced.exists_of_mem_remarks_foldlM h
    simp [addCodeSet, diagnostic_notMem_addNamed] at h
  · obtain ⟨i, m, h⟩ := Traced.exists_of_mem_remarks_foldlM h
    rw [eq_repeatedScenario h, repeatedScenario]
    split <;> rfl

end Index

/-! ## The walk -/

namespace Repository

section Walk

variable (r : Repository) (layer : SessionLayer) (framed : Bool)

/-- The members refer to a node that is not declared. -/
def Dangles (members : List Member) : Key → Prop
  | .group id => .group id ∈ members ∧ r.group? id = none
  | .component id => .component id ∈ members ∧ r.component? id = none

/-- A node leads back to itself along references that may be entered. -/
def OnCycle (key : Key) : Prop :=
  Relation.TransGen (fun a b => r.Enters layer framed (r.membersOf a) b) key key

variable {r layer framed} {members : List Member} {path : List Key} {key : Key} {x : Remark}

theorem mem_remarks_own_group {id : Int} :
    x ∈ (r.index.ownFieldIds layer framed path (.group id)).remarks ↔
      (r.group? id = none ∧ x = .diagnostic (.danglingAt (.group id))) ∨
      ∃ g, r.group? id = some g ∧
        (.group id ∈ path ∧ x = .diagnostic (.cycleAt (.group id)) ∨ .group id ∉ path ∧
          x ∈ (r.index.fieldIds layer framed g.members (path ++ [.group id])).remarks) := by
  rw [Index.ownFieldIds, index_group?]
  cases hg : r.group? id with
  | none => simp [Diagnostic.danglingAt, Key.kind, Key.id]
  | some g =>
    obtain rfl := (group?_eq_some_iff.1 hg).2
    by_cases visited : Key.group g.id ∈ path
    · simp [visited, Diagnostic.cycleAt, Key.kind, Key.id]
    · simp [visited]

theorem mem_remarks_own_component {id : Int} :
    x ∈ (r.index.ownFieldIds layer framed path (.component id)).remarks ↔
      (r.component? id = none ∧ x = .diagnostic (.danglingAt (.component id))) ∨
      ∃ c, r.component? id = some c ∧ layer.Admits framed (.component id) ∧
        (.component id ∈ path ∧ x = .diagnostic (.cycleAt (.component id)) ∨
          .component id ∉ path ∧
          x ∈ (r.index.fieldIds layer framed c.members (path ++ [.component id])).remarks) := by
  rw [Index.ownFieldIds, index_component?]
  cases hc : r.component? id with
  | none => simp [Diagnostic.danglingAt, Key.kind, Key.id]
  | some c =>
    obtain rfl := (component?_eq_some_iff.1 hc).2
    by_cases admitted : layer.Admits framed (.component c.id)
    · have open' : ¬(layer.isFrame c.id && !framed) = true := by
        simpa [SessionLayer.Admits] using admitted
      by_cases visited : Key.component c.id ∈ path
      · simp [open', visited, admitted, Diagnostic.cycleAt, Key.kind, Key.id]
      · simp [open', visited, admitted]
    · have pruned : (layer.isFrame c.id && !framed) = true := by
        simpa [SessionLayer.Admits] using admitted
      simp [pruned, admitted]

theorem remarks_fieldIds (index : Index) (members : List Member) (path : List Key) :
    (index.fieldIds layer framed members path).remarks =
      members.flatMap fun m => (index.ownFieldIds layer framed path m).remarks := by
  induction members with
  | nil => simp [Index.fieldIds]
  | cons m rest ih => rw [Index.fieldIds_cons]; simp [ih]

/-- **One step of the walk**, by what there is to remark on: a dangling reference among the
members, a node among them that lies on the path, and what comes of entering another node. -/
theorem mem_remarks_step : x ∈ (r.index.fieldIds layer framed members path).remarks ↔
    (∃ key, r.Dangles members key ∧ x = .diagnostic (.danglingAt key)) ∨
    ∃ key, r.Enters layer framed members key ∧
      (key ∈ path ∧ x = .diagnostic (.cycleAt key) ∨ key ∉ path ∧
        x ∈ (r.index.fieldIds layer framed (r.membersOf key) (path ++ [key])).remarks) := by
  rw [remarks_fieldIds, List.mem_flatMap]
  constructor
  · rintro ⟨m, hm, h⟩
    cases m with
    | field id => simp [Index.ownFieldIds] at h
    | group id =>
      rcases mem_remarks_own_group.1 h with ⟨none, rfl⟩ | ⟨g, hg, h⟩
      · exact Or.inl ⟨.group id, ⟨hm, none⟩, rfl⟩
      · rw [← membersOf_group hg] at h
        exact Or.inr ⟨.group id, enters_group hm hg, h⟩
    | component id =>
      rcases mem_remarks_own_component.1 h with ⟨none, rfl⟩ | ⟨c, hc, admitted, h⟩
      · exact Or.inl ⟨.component id, ⟨hm, none⟩, rfl⟩
      · rw [← membersOf_component hc] at h
        exact Or.inr ⟨.component id, ⟨refers_of_component hm hc, admitted⟩, h⟩
  · rintro (⟨key, h, rfl⟩ | ⟨key, ⟨refers, admitted⟩, h⟩)
    · cases key with
      | group id => exact ⟨.group id, h.1, mem_remarks_own_group.2 (Or.inl ⟨h.2, rfl⟩)⟩
      | component id =>
        exact ⟨.component id, h.1, mem_remarks_own_component.2 (Or.inl ⟨h.2, rfl⟩)⟩
    · cases key with
      | group id =>
        obtain ⟨g, hg⟩ := Option.isSome_iff_exists.1 refers.2
        rw [membersOf_group hg] at h
        exact ⟨.group id, refers.1, mem_remarks_own_group.2 (Or.inr ⟨g, hg, h⟩)⟩
      | component id =>
        obtain ⟨c, hc⟩ := Option.isSome_iff_exists.1 refers.2
        rw [membersOf_component hc] at h
        exact ⟨.component id, refers.1,
          mem_remarks_own_component.2 (Or.inr ⟨c, hc, admitted, h⟩)⟩

theorem remark_cases (h : x ∈ (r.index.fieldIds layer framed members path).remarks) :
    ∃ key, x = .diagnostic (.danglingAt key) ∨ x = .diagnostic (.cycleAt key) := by
  induction path using r.index.walk_induction generalizing members with
  | step path ih =>
    rcases mem_remarks_step.1 h with ⟨key, -, rfl⟩ | ⟨key, enters, ⟨-, rfl⟩ | ⟨fresh, h⟩⟩
    · exact ⟨key, Or.inl rfl⟩
    · exact ⟨key, Or.inr rfl⟩
    · exact ih key enters.declared fresh h

/-! ### Cycles -/

/-- What the members of a node on the path refer to comes after the path. -/
def LeadsOn (r : Repository) (layer : SessionLayer) (framed : Bool) (path : List Key)
    (members : List Member) : Prop :=
  ∀ a ∈ path, ∀ b, r.Enters layer framed members b →
    Relation.TransGen (fun a b => r.Enters layer framed (r.membersOf a) b) a b

theorem LeadsOn.enter (h : r.LeadsOn layer framed path members)
    (enters : r.Enters layer framed members key) :
    r.LeadsOn layer framed (path ++ [key]) (r.membersOf key) := by
  intro a ha b hb
  rcases List.mem_append.1 ha with ha | ha
  · exact (h a ha key enters).tail hb
  · obtain rfl := List.mem_singleton.1 ha
    exact .single hb

/-- **A reported node lies on a cycle** that the members reach: the path leads from the node to the
members that refer to it again. -/
theorem onCycle_of_reported (leads : r.LeadsOn layer framed path members)
    (h : .diagnostic (.cycleAt key) ∈ (r.index.fieldIds layer framed members path).remarks) :
    r.Reaches layer framed members key ∧ r.OnCycle layer framed key := by
  induction path using r.index.walk_induction generalizing members with
  | step path ih =>
    rcases mem_remarks_step.1 h with ⟨a, -, same⟩ | ⟨a, enters, ⟨visited, same⟩ | ⟨fresh, h⟩⟩
    · exact absurd same nofun
    · obtain rfl : key = a := Diagnostic.cycleAt_inj (congrArg _ (Remark.diagnostic.inj same))
      exact ⟨⟨key, enters, .refl⟩, leads key visited key enters⟩
    · obtain ⟨reaches, cycle⟩ := ih a enters.declared fresh (leads.enter enters) h
      exact ⟨reaches.through enters, cycle⟩

/-- **Where no node is reported, what is reached is off the path and on no cycle.**  A node that
leads back to itself would be reached from its own members, and so lie on the path behind it. -/
theorem offCycle_of_unreported
    (silent : ∀ key, .diagnostic (.cycleAt key) ∉
      (r.index.fieldIds layer framed members path).remarks)
    (reaches : r.Reaches layer framed members key) :
    key ∉ path ∧ ¬r.OnCycle layer framed key := by
  induction path using r.index.walk_induction generalizing members key with
  | step path ih =>
    obtain ⟨start, enters, hkey⟩ := reaches
    have fresh : start ∉ path := fun visited =>
      silent start (mem_remarks_step.2 (Or.inr ⟨start, enters, Or.inl ⟨visited, rfl⟩⟩))
    have below {key : Key} (h : r.Reaches layer framed (r.membersOf start) key) :
        key ∉ path ++ [start] ∧ ¬r.OnCycle layer framed key := by
      refine ih start enters.declared fresh (fun a ha => silent a ?_) h
      exact mem_remarks_step.2 (Or.inr ⟨start, enters, Or.inr ⟨fresh, ha⟩⟩)
    rcases hkey.cases_head with rfl | ⟨next, hnext, hkey⟩
    · refine ⟨fresh, fun cycle => ?_⟩
      obtain ⟨next, hnext, back⟩ := Relation.TransGen.head'_iff.1 cycle
      exact (below ⟨next, hnext, back⟩).1 (by simp)
    · obtain ⟨off, acyclic⟩ := below ⟨next, hnext, hkey⟩
      exact ⟨fun visited => off (List.mem_append_left _ visited), acyclic⟩

/-! ### Dangling references -/

/-- **A dangling reference is reported exactly if it is reached.** -/
theorem dangling_reported_iff :
    .diagnostic (.danglingAt key) ∈ (r.index.fieldIds layer framed members []).remarks ↔
      r.Dangles members key ∨
        ∃ n, r.Reaches layer framed members n ∧ r.Dangles (r.membersOf n) key := by
  refine r.index.walk_iff_reached r.membersOf (fun ms => r.Dangles ms key) (r.Enters layer framed)
    (fun ms path => .diagnostic (.danglingAt key) ∈ (r.index.fieldIds layer framed ms path).remarks)
    (fun _ _ h => h.declared) (fun ms path => ?_) (fun _ h => absurd h List.not_mem_nil)
  rw [mem_remarks_step]
  refine or_congr ⟨?_, fun h => ⟨key, h, rfl⟩⟩ (exists_congr fun a => and_congr_right fun _ => ?_)
  · rintro ⟨a, h, same⟩
    obtain rfl : key = a := Diagnostic.danglingAt_inj (congrArg _ (Remark.diagnostic.inj same))
    exact h
  · exact or_iff_right fun h => absurd h.2 nofun

end Walk

/-! ## The ledger -/

section Ledger

variable (r : Repository) (layer : SessionLayer) (framed : Bool) (messages : List Message)

/-- A node is reached from one of some messages. -/
def ReachedBy (key : Key) : Prop := ∃ m ∈ messages, r.Reaches layer framed m.members key

/-- A reference to a node that is not declared is among the members of one of some messages, or
among those of a node that is reached from them. -/
def DanglesBelow (key : Key) : Prop :=
  ∃ m ∈ messages, r.Dangles m.members key ∨
    ∃ n, r.Reaches layer framed m.members n ∧ r.Dangles (r.membersOf n) key

variable {r layer framed messages} {key : Key} {index : Index} {fresh : Ledger} {text : String}

theorem mem_remarks_usedFieldIds {x : Remark} :
    x ∈ (r.index.usedFieldIds layer framed messages).remarks ↔
      ∃ m ∈ messages, x ∈ (r.index.fieldIds layer framed m.members []).remarks := by
  simp [Index.usedFieldIds, Traced.remarks_mapM]

/-- The ledger of a new index holds texts on repetitions alone. -/
theorem head?_of_mem_built (built : (Index.ofRepository r).run [] = (.ok index, fresh))
    (h : text ∈ fresh) : text.toList.head? = some 'b' := by
  have clean := (Traced.run_eq_ok_iff.1 (congrArg Prod.fst built)).1
  have ledger : ((Index.ofRepository r).run []).2 = fresh := congrArg Prod.snd built
  rw [← ledger, Traced.mem_ledger_run] at h
  obtain ⟨d, hd, rfl⟩ := clean.mem_reported.1 (h.resolve_left List.not_mem_nil)
  exact Diagnostic.head?_repetition (Index.isRepetition_of_mem hd)

/-- A text that begins like those of the walk is in the ledger exactly if the walk over one of the
messages noted it. -/
theorem mem_ledger_iff (built : (Index.ofRepository r).run [] = (.ok index, fresh))
    (begins : text.toList.head? = some 'c') :
    text ∈ ((r.index.usedFieldIds layer framed messages).run fresh).2 ↔ ∃ m ∈ messages, ∃ d,
      .diagnostic d ∈ (r.index.fieldIds layer framed m.members []).remarks ∧ d.message = text := by
  have new : text ∉ fresh := fun old => by
    have same := begins.symm.trans (head?_of_mem_built built old)
    exact absurd (Option.some.inj same) (by decide)
  rw [Traced.mem_ledger_run, or_iff_right new, (Index.usedFieldIds_clean _ _ _ _).mem_reported]
  simp only [mem_remarks_usedFieldIds]
  constructor
  · rintro ⟨d, ⟨m, hm, hd⟩, same⟩
    exact ⟨m, hm, d, hd, same⟩
  · rintro ⟨m, hm, d, hd, same⟩
    exact ⟨d, ⟨m, hm, hd⟩, same⟩

/-- A text on a cycle is noted only as what the walk has to say on a node of the path. -/
theorem eq_cycleAt {d : Diagnostic} {members : List Member}
    (h : .diagnostic d ∈ (r.index.fieldIds layer framed members []).remarks)
    (note : Diagnostic.cycleNote.toList <+: d.message.toList) : ∃ key, d = .cycleAt key := by
  obtain ⟨key, same | same⟩ := remark_cases h
  · cases same
    exact absurd note (Diagnostic.not_prefix_danglingAt key)
  · exact ⟨key, Remark.diagnostic.inj same⟩

/-- The text on a dangling reference is noted only for that reference. -/
theorem eq_danglingAt {d : Diagnostic} {members : List Member}
    (h : .diagnostic d ∈ (r.index.fieldIds layer framed members []).remarks)
    (same : d.message = (Diagnostic.danglingAt key).message) : d = .danglingAt key := by
  obtain ⟨other, remark | remark⟩ := remark_cases h
  · cases remark
    rw [Diagnostic.danglingAt_inj same]
  · cases remark
    exact absurd (same ▸ Diagnostic.cycleNote_prefix other) (Diagnostic.not_prefix_danglingAt key)

/-- **What collecting fields reports.**  On a new index, the fields of messages are collected
without a fault, and afterwards the ledger says the following.  There is a text on a cycle exactly
if a cycle is reached, and every such text names a node that is reached and lies on a cycle.  There
is a text on a dangling reference exactly if the reference is among the members of a message or of
a node that is reached. -/
theorem usage_diagnostics_exact (built : (Index.ofRepository r).run [] = (.ok index, fresh))
    (layer : SessionLayer) (framed : Bool) (messages : List Message) :
    ∃ ids ledger, (index.usedFieldIds layer framed messages).run fresh = (.ok ids, ledger) ∧
      ((∃ text ∈ ledger, Diagnostic.cycleNote.toList <+: text.toList) ↔
        ∃ key, r.ReachedBy layer framed messages key ∧ r.OnCycle layer framed key) ∧
      (∀ text ∈ ledger, Diagnostic.cycleNote.toList <+: text.toList →
        ∃ key, text = (Diagnostic.cycleAt key).message ∧
          r.ReachedBy layer framed messages key ∧ r.OnCycle layer framed key) ∧
      ∀ key, (Diagnostic.danglingAt key).message ∈ ledger ↔
        r.DanglesBelow layer framed messages key := by
  obtain rfl : r.index = index := (Traced.run_eq_ok_iff.1 (congrArg Prod.fst built)).2
  have noted {text : String} (begins : text.toList.head? = some 'c') :
      text ∈ ((r.index.usedFieldIds layer framed messages).run fresh).2 ↔ ∃ m ∈ messages, ∃ d,
        .diagnostic d ∈ (r.index.fieldIds layer framed m.members []).remarks ∧
          d.message = text :=
    mem_ledger_iff built begins
  have cyclic {text : String}
      (h : text ∈ ((r.index.usedFieldIds layer framed messages).run fresh).2)
      (note : Diagnostic.cycleNote.toList <+: text.toList) :
      ∃ key, text = (Diagnostic.cycleAt key).message ∧
        r.ReachedBy layer framed messages key ∧ r.OnCycle layer framed key := by
    obtain ⟨m, hm, d, hd, rfl⟩ := (noted (Diagnostic.head?_of_prefix note)).1 h
    obtain ⟨key, rfl⟩ := eq_cycleAt hd note
    obtain ⟨reaches, cycle⟩ := onCycle_of_reported (fun _ h => absurd h List.not_mem_nil) hd
    exact ⟨key, rfl, ⟨m, hm, reaches⟩, cycle⟩
  refine ⟨_, _, Prod.ext ((Index.usedFieldIds_clean _ _ _ _).run fresh) rfl, ⟨?_, ?_⟩,
    fun text h note => cyclic h note, fun key => ?_⟩
  · rintro ⟨text, h, note⟩
    obtain ⟨key, -, reached⟩ := cyclic h note
    exact ⟨key, reached⟩
  · rintro ⟨key, ⟨m, hm, reaches⟩, cycle⟩
    by_contra silent
    have unreported (a : Key) :
        .diagnostic (.cycleAt a) ∉ (r.index.fieldIds layer framed m.members []).remarks := by
      intro ha
      have note := Diagnostic.cycleNote_prefix a
      exact silent ⟨_, (noted (Diagnostic.head?_of_prefix note)).2 ⟨m, hm, _, ha, rfl⟩, note⟩
    exact (offCycle_of_unreported unreported reaches).2 cycle
  · rw [noted (Diagnostic.head?_danglingAt key)]
    refine exists_congr fun m => and_congr_right fun _ => Iff.trans ⟨?_, ?_⟩ dangling_reported_iff
    · rintro ⟨d, hd, same⟩
      exact eq_danglingAt hd same ▸ hd
    · exact fun hd => ⟨_, hd, rfl⟩

end Ledger

/-! ### A sample -/

/-- A group and a component that refer to each other, where the group also has a member that is
not declared. -/
def entangled : Repository where
  version := "FIX.4.4"
  components := [{ id := 2, name := "Chain", members := [.group 1] }]
  groups := [{ id := 1, name := "ChainGrp", counter := 453, members := [.component 2, .group 9] }]
  messages := [{ name := "Order", msgType := "D", members := [.group 1] }]

/-- The hypothesis can be met, and the ledger then tells of the cycle and of the reference. -/
theorem usage_diagnostics_exact_entangled :
    ∃ index fresh, (Index.ofRepository entangled).run [] = (.ok index, fresh) ∧
      ∃ ids ledger, (index.usedFieldIds {} false entangled.messages).run fresh = (.ok ids, ledger) ∧
        ((∃ text ∈ ledger, Diagnostic.cycleNote.toList <+: text.toList) ↔
          ∃ key, entangled.ReachedBy {} false entangled.messages key ∧
            entangled.OnCycle {} false key) ∧
        (∀ text ∈ ledger, Diagnostic.cycleNote.toList <+: text.toList →
          ∃ key, text = (Diagnostic.cycleAt key).message ∧
            entangled.ReachedBy {} false entangled.messages key ∧
            entangled.OnCycle {} false key) ∧
        ∀ key, (Diagnostic.danglingAt key).message ∈ ledger ↔
          entangled.DanglesBelow {} false entangled.messages key := by
  have success : ((Index.ofRepository entangled).run []).1.isOk = true := by decide +kernel
  rcases built : (Index.ofRepository entangled).run [] with ⟨fault | index, fresh⟩
  · rw [built] at success
    exact absurd success Bool.false_ne_true
  · exact ⟨index, fresh, rfl, usage_diagnostics_exact built {} false entangled.messages⟩

/-- The walk closes the cycle at the group and passes by the reference. -/
example :
    ((Index.ofRepository entangled).value.usedFieldIds {} false entangled.messages).remarks =
      [.diagnostic (.cycleAt (.group 1)), .diagnostic (.danglingAt (.group 9))] := by
  cbv

end Repository
end FixBindings
