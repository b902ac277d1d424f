import FixBindings.Artifact.Description
import FixBindings.Proofs.Trace
import FixBindings.Schema.Sample
import Mathlib.Data.List.Nodup

/-!
# First declarations

A schema may declare an id more than once, and the first declaration counts.  Two passes find it:
`Context.firstOf` drops what repeats an earlier item, and the index adds an item to a table unless
the table has one like it.  `foldl_addFirst` says that both leave the same list, so the tables of
`Repository.index` are the lists of `Repository.distinct` (`Repository.index_eq`), and to look an
id up in a table is to look for the first declaration in the repository (`index_field?`,
`index_group?`, `index_component?`).

`Repository.WellTyped` says that the names of a repository are texts.  It is all that the index
needs in order not to fail.
-/

set_option autoImplicit false

namespace FixBindings

/-! ## Keeping the first -/

section FirstOf

open Context

variable {α : Type} {same : α → α → Bool} {xs : List α} {a : α}

theorem mem_of_mem_firstOf (h : a ∈ firstOf same xs) : a ∈ xs := by
  induction xs with
  | nil => exact h
  | cons b rest ih =>
    rw [firstOf, List.mem_cons, List.mem_filter] at h
    rcases h with rfl | ⟨h, _⟩
    · exact List.mem_cons_self
    · exact List.mem_cons_of_mem b (ih h)

/-- No kept item agrees with an earlier one. -/
theorem pairwise_firstOf (same : α → α → Bool) (xs : List α) :
    (firstOf same xs).Pairwise fun a b => same a b = false := by
  induction xs with
  | nil => exact List.Pairwise.nil
  | cons a rest ih =>
    rw [firstOf, List.pairwise_cons]
    refine ⟨fun b hb => ?_, ih.filter _⟩
    simpa using (List.mem_filter.1 hb).2

/-- Where no item agrees with an earlier one, all are kept. -/
theorem firstOf_eq_self (h : xs.Pairwise fun a b => same a b = false) : firstOf same xs = xs := by
  induction xs with
  | nil => rfl
  | cons a rest ih =>
    obtain ⟨ha, hrest⟩ := List.pairwise_cons.1 h
    rw [firstOf, ih hrest, List.filter_eq_self.2]
    intro b hb
    rw [ha b hb]
    rfl

/-- Where no id is declared twice, all declarations are first ones. -/
theorem firstOf_eq_self_of_nodup {id : α → Int} (h : (xs.map id).Nodup) :
    firstOf (fun a b => id a == id b) xs = xs :=
  firstOf_eq_self ((List.pairwise_map.1 h).imp fun apart => beq_eq_false_iff_ne.2 apart)

/-- What is kept depends on which of the items agree. -/
theorem firstOf_congr {same' : α → α → Bool} (h : ∀ a ∈ xs, ∀ b ∈ xs, same a b = same' a b) :
    firstOf same xs = firstOf same' xs := by
  induction xs with
  | nil => rfl
  | cons a rest ih =>
    rw [firstOf, firstOf, ih fun b hb c hc =>
      h b (List.mem_cons_of_mem a hb) c (List.mem_cons_of_mem a hc)]
    refine congrArg (a :: ·) (List.filter_congr fun b hb => ?_)
    rw [h a List.mem_cons_self b (List.mem_cons_of_mem a (mem_of_mem_firstOf hb))]

/-- Every item is kept or agrees with one that is. -/
theorem exists_mem_firstOf (trans : ∀ a b c, same a b → same b c → same a c) (h : a ∈ xs) :
    ∃ b ∈ firstOf same xs, b = a ∨ same b a := by
  induction xs with
  | nil => exact absurd h List.not_mem_nil
  | cons b rest ih =>
    rw [firstOf]
    rcases List.mem_cons.1 h with rfl | h
    · exact ⟨a, List.mem_cons_self, Or.inl rfl⟩
    · obtain ⟨c, hc, agrees⟩ := ih h
      cases hbc : same b c with
      | false => exact ⟨c, List.mem_cons_of_mem b (List.mem_filter.2 ⟨hc, by simp [hbc]⟩), agrees⟩
      | true =>
        -- the item that drops `c` takes its place
        refine ⟨b, List.mem_cons_self, Or.inr ?_⟩
        rcases agrees with rfl | hca
        · exact hbc
        · exact trans b c a hbc hca

/-- Where items agree that have the same key, no two kept items have the same key. -/
theorem nodup_map_firstOf {κ : Type} {key : α → κ}
    (told : ∀ a ∈ xs, ∀ b ∈ xs, key a = key b → same a b) :
    ((firstOf same xs).map key).Nodup := by
  rw [List.Nodup, List.pairwise_map]
  refine (pairwise_firstOf same xs).imp_of_mem fun {a b} ha hb apart shared => ?_
  rw [told a (mem_of_mem_firstOf ha) b (mem_of_mem_firstOf hb) shared] at apart
  exact absurd apart (by decide)

/-- Where items agree exactly if they have the same key, no key is lost. -/
theorem mem_map_firstOf {κ : Type} {key : α → κ} (told : ∀ a b, same a b ↔ key a = key b) {k : κ} :
    k ∈ (firstOf same xs).map key ↔ k ∈ xs.map key := by
  rw [List.mem_map, List.mem_map]
  constructor
  · rintro ⟨a, ha, rfl⟩
    exact ⟨a, mem_of_mem_firstOf ha, rfl⟩
  · rintro ⟨a, ha, rfl⟩
    have trans (a b c : α) (hab : same a b) (hbc : same b c) : same a c :=
      (told a c).2 (((told a b).1 hab).trans ((told b c).1 hbc))
    obtain ⟨b, hb, rfl | agrees⟩ := exists_mem_firstOf trans ha
    · exact ⟨b, hb, rfl⟩
    · exact ⟨b, hb, (told b a).1 agrees⟩

/-- The first item with a property that agreeing items share is kept. -/
theorem find?_firstOf {p : α → Bool} (shared : ∀ a b, same a b → p a = p b) (xs : List α) :
    (firstOf same xs).find? p = xs.find? p := by
  induction xs with
  | nil => rfl
  | cons a rest ih =>
    rw [firstOf, List.find?_cons, List.find?_cons]
    cases hp : p a with
    | true => rfl
    | false =>
      have dropped : (fun b => decide ((!same a b) = true ∧ p b = true)) = p := by
        funext b
        cases hab : same a b with
        | true => simp [← shared a b hab, hp]
        | false => simp
      rw [← ih, List.find?_filter, dropped]

/-- A property that agreeing items share picks the same items before and after. -/
theorem filter_firstOf {p : α → Bool} {xs : List α}
    (shared : ∀ a ∈ xs, ∀ b ∈ xs, same a b → p a = p b) :
    (firstOf same xs).filter p = firstOf same (xs.filter p) := by
  induction xs with
  | nil => rfl
  | cons a rest ih =>
    have ih := ih fun b hb c hc =>
      shared b (List.mem_cons_of_mem a hb) c (List.mem_cons_of_mem a hc)
    have swap : ((firstOf same rest).filter fun b => !same a b).filter p =
        (firstOf same (rest.filter p)).filter fun b => !same a b := by
      rw [← ih, List.filter_filter, List.filter_filter]
      exact List.filter_congr fun b _ => Bool.and_comm _ _
    rw [firstOf, List.filter_cons, List.filter_cons, swap]
    cases hp : p a with
    | true => rfl
    | false =>
      -- what agrees with `a` is filtered with it
      refine List.filter_eq_self.2 fun b hb => ?_
      obtain ⟨hb, kept⟩ := List.mem_filter.1 (mem_of_mem_firstOf hb)
      cases hab : same a b with
      | true =>
        rw [← shared a List.mem_cons_self b (List.mem_cons_of_mem a hb) hab, hp] at kept
        exact absurd kept (by decide)
      | false => rfl

/-- **The first item with an id is the kept one with that id.** -/
theorem find?_eq_some_iff_mem_firstOf {id : α → Int} {n : Int} :
    xs.find? (fun b => id b == n) = some a ↔
      a ∈ firstOf (fun a b => id a == id b) xs ∧ id a = n := by
  induction xs with
  | nil => simp [firstOf]
  | cons b rest ih =>
    rw [firstOf, List.mem_cons, List.mem_filter]
    by_cases hb : id b = n
    · rw [List.find?_cons_of_pos (by simpa using hb), Option.some_inj]
      constructor
      · rintro rfl
        exact ⟨Or.inl rfl, hb⟩
      · rintro ⟨rfl | ⟨_, hba⟩, ha⟩
        · rfl
        · simp [hb, ha] at hba
    · rw [List.find?_cons_of_neg (by simpa using hb), ih]
      constructor
      · rintro ⟨h, ha⟩
        exact ⟨Or.inr ⟨h, by simpa [ha] using hb⟩, ha⟩
      · rintro ⟨rfl | ⟨h, _⟩, ha⟩
        · exact absurd ha hb
        · exact ⟨h, ha⟩

end FirstOf

namespace Index

/-- Adds an item to a table unless it agrees with one there. -/
def addFirst {α : Type} (same : α → α → Bool) (items : List α) (a : α) : List α :=
  if items.any fun b => same b a then items else items ++ [a]

theorem addFirst_subset {α : Type} (same : α → α → Bool) (items : List α) (a : α) :
    addFirst same items a ⊆ items ++ [a] := by
  rw [addFirst]
  split
  · exact List.subset_append_left _ _
  · exact List.Subset.refl _

/-- **Filling a table keeps the first items**, less those that agree with what it held before. -/
theorem foldl_addFirst {α : Type} {same : α → α → Bool} {xs items : List α}
    (trans : ∀ a ∈ items ++ xs, ∀ b ∈ xs, ∀ c ∈ xs, same a b → same b c → same a c) :
    xs.foldl (addFirst same) items =
      items ++ (Context.firstOf same xs).filter fun a => !items.any fun b => same b a := by
  induction xs generalizing items with
  | nil => simp [Context.firstOf]
  | cons a rest ih =>
    have later : ∀ b ∈ addFirst same items a ++ rest, ∀ c ∈ rest, ∀ d ∈ rest,
        same b c → same c d → same b d := by
      intro b hb c hc d hd
      refine trans b ?_ c (List.mem_cons_of_mem a hc) d (List.mem_cons_of_mem a hd)
      rw [List.append_cons]
      exact (List.mem_append.1 hb).elim
        (fun hb => List.mem_append_left _ (addFirst_subset same items a hb))
        (List.mem_append_right _)
    rw [List.foldl_cons, ih later, Context.firstOf, addFirst]
    by_cases ha : items.any fun b => same b a
    · -- what agrees with `a` agrees with the item that `a` agrees with, so it is filtered anyway
      obtain ⟨b, hb, hba⟩ := List.any_eq_true.1 ha
      rw [if_pos ha, List.filter_cons_of_neg (by simpa using ha), List.filter_filter]
      congr 1
      refine List.filter_congr fun c hc => ?_
      cases hac : same a c with
      | false => simp
      | true =>
        have hbc := trans b (List.mem_append_left _ hb) a List.mem_cons_self c
          (List.mem_cons_of_mem a (mem_of_mem_firstOf hc)) hba hac
        have hc : (items.any fun b => same b c) = true := List.any_eq_true.2 ⟨b, hb, hbc⟩
        simp [hc]
    · rw [if_neg ha, List.filter_cons_of_pos (by simpa using ha), List.filter_filter,
        List.append_assoc, List.singleton_append]
      congr 2
      refine List.filter_congr fun c _ => ?_
      simp

theorem foldl_addFirst_nil {α : Type} {same : α → α → Bool} {xs : List α}
    (trans : ∀ a ∈ xs, ∀ b ∈ xs, ∀ c ∈ xs, same a b → same b c → same a c) :
    xs.foldl (addFirst same) [] = Context.firstOf same xs := by
  rw [foldl_addFirst trans]
  simp

theorem mem_foldl_addFirst {α : Type} {same : α → α → Bool} {xs items : List α} {a : α}
    (h : a ∈ xs.foldl (addFirst same) items) : a ∈ items ∨ a ∈ xs := by
  induction xs generalizing items with
  | nil => exact Or.inl h
  | cons b rest ih =>
    rcases ih h with h | h
    · rw [addFirst] at h
      split at h
      · exact Or.inl h
      · rw [List.mem_append, List.mem_singleton] at h
        rcases h with h | rfl
        · exact Or.inl h
        · exact Or.inr List.mem_cons_self
    · exact Or.inr (List.mem_cons_of_mem b h)

/-- Every item is in the table or agrees with one there. -/
theorem exists_mem_foldl_addFirst {α : Type} {same : α → α → Bool} {xs : List α} {a : α}
    (h : a ∈ xs) (items : List α) :
    ∃ b ∈ xs.foldl (addFirst same) items, b = a ∨ same b a := by
  have kept (ys items : List α) : items ⊆ ys.foldl (addFirst same) items := by
    induction ys generalizing items with
    | nil => exact List.Subset.refl _
    | cons b ys ih =>
      refine fun c hc => ih _ ?_
      rw [addFirst]
      split
      · exact hc
      · exact List.mem_append_left _ hc
  induction xs generalizing items with
  | nil => exact absurd h List.not_mem_nil
  | cons b rest ih =>
    rcases List.mem_cons.1 h with rfl | h
    · rw [List.foldl_cons, addFirst]
      split
      · rename_i there
        obtain ⟨c, hc, hca⟩ := List.any_eq_true.1 there
        exact ⟨c, kept _ _ hc, Or.inr hca⟩
      · exact ⟨a, kept _ _ (List.mem_append_right _ (List.mem_singleton_self a)), Or.inl rfl⟩
    · exact ih h _

/-! ## The tables of a repository

Each pass over the declarations of one kind fills the tables of that kind and leaves the others
alone. -/

/-- A pass that adds to one table and its table of names does so item by item. -/
theorem foldl_table {α ν : Type} {add : Index → α → Index} {get : Index → List α}
    {same : α → α → Bool} (put : Index → List α → ν → Index)
    (step : ∀ i a, ∃ n, add i a = put i (addFirst same (get i) a) n)
    (get_put : ∀ i xs n, get (put i xs n) = xs)
    (put_put : ∀ i xs n ys m, put (put i xs n) ys m = put i ys m)
    (put_get : ∀ i, ∃ n, i = put i (get i) n) (xs : List α) (i : Index) :
    ∃ n, xs.foldl add i = put i (xs.foldl (addFirst same) (get i)) n := by
  induction xs generalizing i with
  | nil => exact put_get i
  | cons a rest ih =>
    obtain ⟨n, hn⟩ := step i a
    obtain ⟨m, hm⟩ := ih (add i a)
    refine ⟨m, ?_⟩
    rw [List.foldl_cons, hm, hn, get_put, put_put, List.foldl_cons]

theorem foldl_addField (fs : List Field) (index : Index) : ∃ named,
    fs.foldl (fun i f => (i.addField f).value) index =
      { index with
        fields := fs.foldl (addFirst fun a b => a.id == b.id) index.fields
        namedFields := named } := by
  refine foldl_table (fun i fs named => { i with fields := fs, namedFields := named })
    (fun i f => ?_) (fun _ _ _ => rfl) (fun _ _ _ _ _ => rfl) (fun i => ⟨i.namedFields, rfl⟩) fs
    index
  rw [addField, addFirst]
  split
  · exact ⟨i.namedFields, rfl⟩
  · exact ⟨_, rfl⟩

theorem foldl_addComponent (cs : List Component) (index : Index) : ∃ named,
    cs.foldl (fun i c => (i.addComponent c).value) index =
      { index with
        components := cs.foldl (addFirst fun a b => a.id == b.id) index.components
        namedComponents := named } := by
  refine foldl_table (fun i cs named => { i with components := cs, namedComponents := named })
    (fun i c => ?_) (fun _ _ _ => rfl) (fun _ _ _ _ _ => rfl)
    (fun i => ⟨i.namedComponents, rfl⟩) cs index
  rw [addComponent, addFirst]
  split
  · exact ⟨i.namedComponents, rfl⟩
  · exact ⟨_, rfl⟩

theorem foldl_addGroup (gs : List Group) (index : Index) : ∃ named,
    gs.foldl (fun i g => (i.addGroup g).value) index =
      { index with
        groups := gs.foldl (addFirst fun a b => a.id == b.id) index.groups
        namedGroups := named } := by
  refine foldl_table (fun i gs named => { i with groups := gs, namedGroups := named })
    (fun i g => ?_) (fun _ _ _ => rfl) (fun _ _ _ _ _ => rfl) (fun i => ⟨i.namedGroups, rfl⟩) gs
    index
  rw [addGroup, addFirst]
  split
  · exact ⟨i.namedGroups, rfl⟩
  · exact ⟨_, rfl⟩

theorem foldl_addCodeSet (cs : List CodeSet) (index : Index) :
    cs.foldl (fun i c => (i.addCodeSet c).value) index =
      { index with
        codeSets := cs.foldl (addFirst fun a b => a.name.same b.name) index.codeSets } := by
  obtain ⟨_, h⟩ := foldl_table (fun i cs (_ : Unit) => { i with codeSets := cs })
    (fun _ _ => ⟨(), rfl⟩) (fun _ _ _ => rfl) (fun _ _ _ _ _ => rfl) (fun _ => ⟨(), rfl⟩) cs index
  exact h

theorem foldl_addMessage (ms : List Message) (index : Index) :
    ms.foldl (fun i m => (i.addMessage m).value) index =
      { index with
        messages := ms.foldl (addFirst fun a b => b.sameScenario a) index.messages } := by
  have step (i : Index) (m : Message) : (i.addMessage m).value =
      { i with messages := addFirst (fun a b => b.sameScenario a) i.messages m } := by
    rw [addMessage, addFirst]
    split
    · rfl
    · rfl
  obtain ⟨_, h⟩ := foldl_table (fun i ms (_ : Unit) => { i with messages := ms })
    (fun i m => ⟨(), step i m⟩) (fun _ _ _ => rfl) (fun _ _ _ _ _ => rfl) (fun _ => ⟨(), rfl⟩) ms
    index
  exact h

end Index

namespace Repository

/-- The index of a repository. -/
def index (r : Repository) : Index := (Index.ofRepository r).value

/-- **The tables of the index are the first declarations.** -/
theorem index_eq (r : Repository) : ∃ namedFields namedComponents namedGroups, r.index =
    { fields := r.distinct.fields, namedFields
      components := r.distinct.components, namedComponents
      groups := r.distinct.groups, namedGroups
      codeSets := r.codeSets.foldl (Index.addFirst fun a b => a.name.same b.name) []
      messages := r.messages.foldl (Index.addFirst fun a b => b.sameScenario a) [] } := by
  have sameId {α : Type} (id : α → Int) (xs : List α) :
      xs.foldl (Index.addFirst fun a b => id a == id b) [] =
        Context.firstOf (fun a b => id a == id b) xs := by
    refine Index.foldl_addFirst_nil fun a _ b _ c _ hab hbc => ?_
    rw [beq_iff_eq] at hab hbc ⊢
    exact hab.trans hbc
  obtain ⟨namedFields, fields⟩ := Index.foldl_addField r.fields {}
  obtain ⟨namedComponents, components⟩ := Index.foldl_addComponent r.components _
  obtain ⟨namedGroups, groups⟩ := Index.foldl_addGroup r.groups _
  refine ⟨namedFields, namedComponents, namedGroups, ?_⟩
  rw [index, Index.ofRepository]
  simp only [Traced.value_bind, Traced.value_foldlM]
  rw [fields, components, groups, Index.foldl_addCodeSet, Index.foldl_addMessage,
    sameId Field.id, sameId Component.id, sameId Group.id]
  rfl

@[simp] theorem index_fields (r : Repository) : r.index.fields = r.distinct.fields := by
  obtain ⟨_, _, _, h⟩ := r.index_eq
  rw [h]

@[simp] theorem index_components (r : Repository) :
    r.index.components = r.distinct.components := by
  obtain ⟨_, _, _, h⟩ := r.index_eq
  rw [h]

@[simp] theorem index_groups (r : Repository) : r.index.groups = r.distinct.groups := by
  obtain ⟨_, _, _, h⟩ := r.index_eq
  rw [h]

@[simp] theorem index_codeSets (r : Repository) : r.index.codeSets =
    r.codeSets.foldl (Index.addFirst fun a b => a.name.same b.name) [] := by
  obtain ⟨_, _, _, h⟩ := r.index_eq
  rw [h]

/-! ## Looking up declarations -/

/-- The first field declared with an id. -/
def field? (r : Repository) (id : Int) : Option Field := r.fields.find? (·.id == id)

/-- The first component declared with an id. -/
def component? (r : Repository) (id : Int) : Option Component :=
  r.components.find? (·.id == id)

/-- The first group declared with an id. -/
def group? (r : Repository) (id : Int) : Option Group := r.groups.find? (·.id == id)

theorem sameId_shared {α : Type} (id : α → Int) (n : Int) (a b : α) (h : id a == id b) :
    (id a == n) = (id b == n) := by
  rw [beq_iff_eq.1 h]

@[simp] theorem index_field? (r : Repository) (id : Int) : r.index.field? id = r.field? id := by
  rw [Index.field?, index_fields]
  exact find?_firstOf (sameId_shared Field.id id) r.fields

@[simp] theorem index_component? (r : Repository) (id : Int) :
    r.index.component? id = r.component? id := by
  rw [Index.component?, index_components]
  exact find?_firstOf (sameId_shared Component.id id) r.components

@[simp] theorem index_group? (r : Repository) (id : Int) : r.index.group? id = r.group? id := by
  rw [Index.group?, index_groups]
  exact find?_firstOf (sameId_shared Group.id id) r.groups

variable {r : Repository} {id : Int}

theorem field?_eq_some_iff {f : Field} :
    r.field? id = some f ↔ f ∈ r.distinct.fields ∧ f.id = id :=
  find?_eq_some_iff_mem_firstOf

theorem component?_eq_some_iff {c : Component} :
    r.component? id = some c ↔ c ∈ r.distinct.components ∧ c.id = id :=
  find?_eq_some_iff_mem_firstOf

theorem group?_eq_some_iff {g : Group} :
    r.group? id = some g ↔ g ∈ r.distinct.groups ∧ g.id = id :=
  find?_eq_some_iff_mem_firstOf

/-! ## Well-typed repositories -/

/-- The names, types, categories and scenarios of a repository are texts. -/
structure WellTyped (r : Repository) : Prop where
  fields : ∀ f ∈ r.fields, f.name.isText ∧ f.type.isText ∧ (f.codeSet = .null ∨ f.codeSet.isText)
  codeSets : ∀ c ∈ r.codeSets, c.name.isText ∧ c.type.isText ∧ ∀ code ∈ c.codes, code.name.isText
  components : ∀ c ∈ r.components, c.name.isText
  groups : ∀ g ∈ r.groups, g.name.isText
  messages : ∀ m ∈ r.messages, m.name.isText ∧ m.category.isText ∧ m.scenario.isText

end Repository

theorem Document.isText_iff {d : Document} : d.isText ↔ ∃ s, d = .text s := by
  cases d <;> simp [isText]

/-- A text is equal to itself alone. -/
theorem Document.same_iff_eq {d e : Document} (hd : d.isText) : d.same e ↔ d = e := by
  obtain ⟨s, rfl⟩ := isText_iff.1 hd
  cases e <;> simp [same, sameNumber, integer?]

theorem Document.checkKey_of_isText {d : Document} (h : d.isText) : d.checkKey = .ok () := by
  obtain ⟨s, rfl⟩ := isText_iff.1 h
  rfl

theorem className_silent {d : Document} (h : d.isText) : (className d).Silent := by
  obtain ⟨s, rfl⟩ := Document.isText_iff.1 h
  simp [className, Document.toText]

theorem className_clean {d : Document} (h : d.isText) : (className d).Clean :=
  (className_silent h).clean

/-! ### Messages of well-typed repositories -/

/-- What tells the definitions of messages apart. -/
def Message.key (m : Message) : Document × Document := (m.name, m.scenario)

theorem Message.sameScenario_iff {m : Message} (name : m.name.isText)
    (scenario : m.scenario.isText) (n : Message) : m.sameScenario n ↔ m.key = n.key := by
  rw [sameScenario, Bool.and_eq_true, Document.same_iff_eq name, Document.same_iff_eq scenario,
    key, key, Prod.mk.injEq]

namespace Repository.WellTyped

variable {r : Repository} (typed : r.WellTyped)
include typed

theorem sameScenario_iff {m : Message} (hm : m ∈ r.messages) (n : Message) :
    m.sameScenario n ↔ m.key = n.key :=
  Message.sameScenario_iff (typed.messages m hm).1 (typed.messages m hm).2.2 n

theorem isBase_iff {m : Message} (hm : m ∈ r.messages) :
    m.isBase ↔ m.scenario = .text baseScenario :=
  Document.same_iff_eq (typed.messages m hm).2.2

/-- No two first definitions of messages have the same name and scenario. -/
theorem nodup_distinct_keys : (r.distinct.messages.map Message.key).Nodup :=
  nodup_map_firstOf fun _ hm n _ => (typed.sameScenario_iff hm n).2

/-- The table of messages holds the first definitions. -/
theorem index_messages : r.index.messages = r.distinct.messages := by
  obtain ⟨_, _, _, h⟩ := r.index_eq
  have same {m n : Message} (hm : m ∈ r.messages) (hn : n ∈ r.messages) :
      n.sameScenario m = m.sameScenario n := by
    rw [Bool.eq_iff_iff, typed.sameScenario_iff hm, typed.sameScenario_iff hn, eq_comm]
  rw [h, distinct]
  refine (Index.foldl_addFirst_nil fun a ha b hb c hc hab hbc => ?_).trans
    (firstOf_congr fun m hm n hn => same hm hn)
  rw [typed.sameScenario_iff hb] at hab
  rw [typed.sameScenario_iff hc] at hbc ⊢
  exact hbc.trans hab

/-- A name and a scenario have one first definition at most. -/
theorem eq_of_key_eq {m n : Message} (hm : m ∈ r.distinct.messages)
    (hn : n ∈ r.distinct.messages) (same : m.key = n.key) : m = n :=
  List.inj_on_of_nodup_map typed.nodup_distinct_keys hm hn same

/-- First definitions have no scenario twice, so all that are canonical are first of their name. -/
theorem canonicalMessages_eq_filter {ms : List Message} (sub : ms.Sublist r.distinct.messages) :
    Context.canonicalMessages ms = ms.filter Message.isBase := by
  refine firstOf_eq_self ?_
  have keys := List.pairwise_map.1 typed.nodup_distinct_keys
  refine ((keys.sublist sub).filter _).imp_of_mem fun {m n} hm hn apart => ?_
  obtain ⟨hm, mBase⟩ := List.mem_filter.1 hm
  obtain ⟨hn, nBase⟩ := List.mem_filter.1 hn
  have hm := mem_of_mem_firstOf (sub.subset hm)
  have hn := mem_of_mem_firstOf (sub.subset hn)
  have scenario : m.scenario = n.scenario :=
    ((typed.isBase_iff hm).1 mBase).trans ((typed.isBase_iff hn).1 nBase).symm
  refine Bool.eq_false_iff.2 fun same => apart (Prod.ext ?_ scenario)
  exact (Document.same_iff_eq (typed.messages m hm).1).1 same

end Repository.WellTyped

namespace Index

theorem addNamed_silent {α : Type} {name : α → Document} {items : List α} {a : α}
    (h : (name a).isText) : (addNamed name items a).Silent := by
  simp [addNamed, Document.checkKey_of_isText h]

theorem addNamed_clean {α : Type} {name : α → Document} {items : List α} {a : α}
    (h : (name a).isText) : (addNamed name items a).Clean :=
  (addNamed_silent h).clean

theorem addField_clean {index : Index} {f : Field} (h : f.name.isText) :
    (index.addField f).Clean := by
  rw [addField]
  split
  · simp
  · simpa using addNamed_clean h

theorem addComponent_clean {index : Index} {c : Component} (h : c.name.isText) :
    (index.addComponent c).Clean := by
  rw [addComponent]
  split
  · simp
  · simpa using addNamed_clean h

theorem addGroup_clean {index : Index} {g : Group} (h : g.name.isText) :
    (index.addGroup g).Clean := by
  rw [addGroup]
  split
  · simp
  · simpa using addNamed_clean h

theorem addCodeSet_clean {index : Index} {c : CodeSet} (h : c.name.isText) :
    (index.addCodeSet c).Clean := by
  simpa [addCodeSet] using addNamed_clean h

theorem addMessage_clean {index : Index} {m : Message} (hn : m.name.isText)
    (hs : m.scenario.isText) : (index.addMessage m).Clean := by
  obtain ⟨name, hn⟩ := Document.isText_iff.1 hn
  obtain ⟨scenario, hs⟩ := Document.isText_iff.1 hs
  have key : (Document.pair m.name m.scenario).checkKey = .ok () := by rw [hn, hs]; rfl
  rw [addMessage, key]
  split <;> simp

end Index

/-- The index of a well-typed repository is made without a fault. -/
theorem Repository.WellTyped.index_clean {r : Repository} (typed : r.WellTyped) :
    (Index.ofRepository r).Clean := by
  rw [Index.ofRepository]
  simp only [Traced.clean_bind]
  refine ⟨Traced.clean_foldlM (fun _ f hf => Index.addField_clean (typed.fields f hf).1) _,
    Traced.clean_foldlM (fun _ c hc => Index.addComponent_clean (typed.components c hc)) _,
    Traced.clean_foldlM (fun _ g hg => Index.addGroup_clean (typed.groups g hg)) _,
    Traced.clean_foldlM (fun _ c hc => Index.addCodeSet_clean (typed.codeSets c hc).1) _,
    Traced.clean_foldlM (fun _ m hm => ?_) _⟩
  exact Index.addMessage_clean (typed.messages m hm).1 (typed.messages m hm).2.2

theorem Sample.wellTyped (version : String) : (Sample.repository version).WellTyped where
  fields f hf := by
    have texts : ∀ f ∈ Sample.fields, f.name.isText ∧ f.type.isText := by decide
    have plain : ∀ f ∈ Sample.fields, f.codeSet = .null := by simp [Sample.fields, Sample.declare]
    exact ⟨(texts f hf).1, (texts f hf).2, Or.inl (plain f hf)⟩
  codeSets := (by decide : ∀ c ∈ Sample.codeSets, _)
  components := (by decide : ∀ c ∈ Sample.components, _)
  groups := (by decide : ∀ g ∈ Sample.groups, _)
  messages := (by decide : ∀ m ∈ Sample.messages, _)

/-- A repository of one field. -/
def Sample.oneField : Repository :=
  { name := "FIX", version := "FIX.4.4"
    fields := [{ id := 58, name := "Text", type := "String" }] }

theorem Sample.oneField_wellTyped : oneField.WellTyped where
  fields f hf := by
    obtain rfl := List.mem_singleton.1 hf
    exact ⟨rfl, rfl, Or.inl rfl⟩
  codeSets := nofun
  components := nofun
  groups := nofun
  messages := nofun

end FixBindings
