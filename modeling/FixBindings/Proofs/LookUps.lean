import FixBindings.Proofs.Cases

/-!
# What is read off an index

Whatever is made from an index looks declarations up by id, and code sets by name, and reads
nothing else: neither the order of its tables nor the messages in it.  `Index.SameLookUps` says
that two indexes answer alike, and there is one lemma for each walk and for each kind of class that
says that they then give the same result, remarks included.  A walk takes the induction of
`Index.walk_induction` on the first index; the second one never needs a measure of its own.
-/

set_option autoImplicit false

namespace FixBindings
namespace Index

/-- Two indexes answer alike. -/
structure SameLookUps (i j : Index) : Prop where
  field? : ∀ id, i.field? id = j.field? id
  group? : ∀ id, i.group? id = j.group? id
  component? : ∀ id, i.component? id = j.component? id
  codeSet? : ∀ name, i.codeSet? name = j.codeSet? name

namespace SameLookUps

variable {i j : Index} (same : i.SameLookUps j)
include same

/-! ## Look-ups with remarks -/

theorem fieldFor (operation : Operation) (id : Int) :
    i.fieldFor operation id = j.fieldFor operation id := by
  rw [Index.fieldFor, Index.fieldFor, same.field?]

theorem groupFor (operation : Operation) (id : Int) :
    i.groupFor operation id = j.groupFor operation id := by
  rw [Index.groupFor, Index.groupFor, same.group?]

theorem codeSetOf (f : Field) : i.codeSetOf f = j.codeSetOf f := by
  simp only [Index.codeSetOf, same.codeSet?]

/-! ## Walks -/

theorem fieldIds (layer : SessionLayer) (framed : Bool) (members : List Member)
    (path : List Key) :
    i.fieldIds layer framed members path = j.fieldIds layer framed members path := by
  induction path using i.walk_induction generalizing members with
  | step path ih =>
    have own (m : Member) :
        i.ownFieldIds layer framed path m = j.ownFieldIds layer framed path m := by
      cases m with
      | field id => rfl
      | group id =>
        rw [Index.ownFieldIds, Index.ownFieldIds, ← same.group?]
        cases hg : i.group? id with
        | none => rfl
        | some g =>
          by_cases visited : Key.group g.id ∈ path
          · simp [visited]
          · simp [visited, ih _ (Index.group_mem_keys hg) visited]
      | component id =>
        rw [Index.ownFieldIds, Index.ownFieldIds, ← same.component?]
        cases hc : i.component? id with
        | none => rfl
        | some c =>
          by_cases visited : Key.component c.id ∈ path
          · simp [visited]
          · simp [visited, ih _ (Index.component_mem_keys hc) visited]
    induction members with
    | nil => simp [Index.fieldIds]
    | cons m rest ihm => rw [fieldIds_cons, fieldIds_cons, own, ihm]

theorem repetitionOrder (members : List Member) (path : List Key) :
    Context.repetitionOrder i members path = Context.repetitionOrder j members path := by
  induction path using i.walk_induction generalizing members with
  | step path ih =>
    have own (m : Member) : Context.ownOrder i path m = Context.ownOrder j path m := by
      cases m with
      | field id => rfl
      | group id => rw [Context.ownOrder, Context.ownOrder, same.groupFor]
      | component id =>
        rw [Context.ownOrder, Context.ownOrder, ← same.component?]
        cases hc : i.component? id with
        | none => rfl
        | some c =>
          by_cases visited : Key.component c.id ∈ path
          · simp [visited]
          · simp [visited, ih _ (Index.component_mem_keys hc) visited]
    induction members with
    | nil => simp [Context.repetitionOrder]
    | cons m rest ihm =>
      rw [Context.repetitionOrder_cons, Context.repetitionOrder_cons, own, ihm]

theorem casesWithin (parent : String) (members : List Member) (path : List Key)
    (cases : List CounterCase) :
    Context.casesWithin i parent members path cases =
      Context.casesWithin j parent members path cases := by
  induction path using i.walk_induction generalizing members parent cases with
  | step path ih =>
    have own (cases : List CounterCase) (m : Member) :
        Context.ownCases i parent path cases m = Context.ownCases j parent path cases m := by
      cases m with
      | field id => rfl
      | component id => rfl
      | group id =>
        rw [Context.ownCases, Context.ownCases, ← same.group?]
        cases hg : i.group? id with
        | none => rfl
        | some g =>
          by_cases visited : Key.group g.id ∈ path
          · simp [visited]
          · simp [visited, ← same.fieldFor, ih _ (Index.group_mem_keys hg) visited]
    induction members generalizing cases with
    | nil => simp [Context.casesWithin]
    | cons m rest ihm =>
      rw [Context.casesWithin_cons, Context.casesWithin_cons, own]
      exact bind_congr fun cases => ihm cases

/-! ## Classes -/

variable (layout : Layout) (layer : SessionLayer)

theorem accessorsOf (package : String) (members : List Member) (path : List Key) :
    (⟨i, layout, layer⟩ : Context).accessorsOf package members path =
      (⟨j, layout, layer⟩ : Context).accessorsOf package members path := by
  induction path using i.walk_induction generalizing members with
  | step path ih =>
    have own (m : Member) : (⟨i, layout, layer⟩ : Context).ownAccessors package path m =
        (⟨j, layout, layer⟩ : Context).ownAccessors package path m := by
      cases m with
      | field id => simp only [Context.ownAccessors, same.fieldFor]
      | group id =>
        simp only [Context.ownAccessors, ← same.group?, ← same.fieldFor, ← same.repetitionOrder]
        cases hg : i.group? id with
        | none => rfl
        | some g =>
          by_cases visited : Key.group g.id ∈ path
          · simp [visited]
          · simp [visited, ih _ (Index.group_mem_keys hg) visited]
      | component id =>
        simp only [Context.ownAccessors, ← same.component?]
        cases hc : i.component? id with
        | none => rfl
        | some c =>
          by_cases visited : Key.component c.id ∈ path
          · simp [visited]
          · simp [visited, ih _ (Index.component_mem_keys hc) visited]
    induction members with
    | nil => simp [Context.accessorsOf]
    | cons m rest ihm => rw [Context.accessorsOf_cons, Context.accessorsOf_cons, own, ihm]

theorem describeField (f : Field) : (⟨i, layout, layer⟩ : Context).describeField f =
    (⟨j, layout, layer⟩ : Context).describeField f := by
  simp only [Context.describeField, same.codeSetOf]

theorem describeGroup (package : String) (g : Group) :
    (⟨i, layout, layer⟩ : Context).describeGroup package g =
      (⟨j, layout, layer⟩ : Context).describeGroup package g := by
  simp only [Context.describeGroup, Context.repetitionOf, same.fieldFor, same.repetitionOrder,
    same.accessorsOf layout layer]

theorem describeComponent (package : String) (c : Component) :
    (⟨i, layout, layer⟩ : Context).describeComponent package c =
      (⟨j, layout, layer⟩ : Context).describeComponent package c := by
  simp only [Context.describeComponent, same.accessorsOf layout layer]

theorem describeMessage (package componentsPackage : String) (m : Message) :
    (⟨i, layout, layer⟩ : Context).describeMessage package componentsPackage m =
      (⟨j, layout, layer⟩ : Context).describeMessage package componentsPackage m := by
  simp only [Context.describeMessage, same.accessorsOf layout layer]

theorem describeFactory (messages : List Message) :
    (⟨i, layout, layer⟩ : Context).describeFactory messages =
      (⟨j, layout, layer⟩ : Context).describeFactory messages := by
  have entry (m : Message) : (⟨i, layout, layer⟩ : Context).messageCases m =
      (⟨j, layout, layer⟩ : Context).messageCases m := by
    simp only [Context.messageCases, same.casesWithin]
  simp only [Context.describeFactory, funext entry, Context.fallbackClass]

end SameLookUps
end Index
end FixBindings
