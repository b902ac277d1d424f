import FixBindings.Artifact.Dispatch
import FixBindings.Proofs.AccessorTrees

/-!
# Cases of the message factory

`Context.casesWithin` passes the cases so far from member to member and into the groups, so unlike
the other walks it is not a union over the members but a fold along them (`casesWithin_cons`).  It
enters groups only.  What its steps add is a case for the counter of a declared group, which is
all that `counter_of_mem_cases` needs.
-/

set_option autoImplicit false

namespace FixBindings
namespace Context

section Walk

variable {index : Index} {path : List Key} {members : List Member} {parent : String}
  {cases : List CounterCase}

/-- The cases after one member. -/
def ownCases (index : Index) (parent : String) (path : List Key) (cases : List CounterCase) :
    Member → Traced (List CounterCase)
  | .group id =>
    match index.group? id with
    | none => do
      Traced.report (.missing .factory .group id)
      return cases
    | some g =>
      if Key.group g.id ∈ path then do
        Traced.report (.cyclic .factory .group g.id)
        return cases
      else do
        let counter? ← index.fieldFor .factory g.counter
        match counter? with
        | none => return cases
        | some counter => do
          let name ← className counter.name
          casesWithin index (parent ++ "." ++ name) g.members (path ++ [.group g.id])
            (addCase cases ⟨name, parent ++ "." ++ name⟩)
  | .field _ => return cases
  | .component _ => return cases

/-- **The walk is a fold along the members.** -/
theorem casesWithin_cons (index : Index) (parent : String) (m : Member) (rest : List Member)
    (path : List Key) (cases : List CounterCase) :
    casesWithin index parent (m :: rest) path cases =
      ownCases index parent path cases m >>= casesWithin index parent rest path := by
  cases m with
  | field id => simp [casesWithin, ownCases]
  | component id => simp [casesWithin, ownCases]
  | group id =>
    rw [casesWithin, ownCases]
    split
    · rename_i h
      simp [h]
    · rename_i g h
      rw [h]
      by_cases visited : Key.group g.id ∈ path
      · simp [visited]
      · simp only [visited, dite_false, if_false, bind_assoc]
        congr 1
        funext counter?
        cases counter? with
        | none => simp
        | some counter => simp

theorem mem_addCase {c case : CounterCase} (h : c ∈ addCase cases case) : c ∈ cases ∨ c = case := by
  rw [addCase] at h
  split at h
  · exact Or.inl h
  · simpa using h

/-- Every case that the walk adds is for a declared field. -/
theorem counter_of_mem_cases {c : CounterCase}
    (h : c ∈ (casesWithin index parent members path cases).value) :
    c ∈ cases ∨ ∃ id f, index.field? id = some f ∧ c.counterName = (className f.name).value := by
  induction path using index.walk_induction generalizing members parent cases with
  | step path ih =>
    induction members generalizing cases with
    | nil => exact Or.inl (by simpa [casesWithin] using h)
    | cons m rest ihm =>
      rw [casesWithin_cons, Traced.value_bind] at h
      refine (ihm h).elim (fun h => ?_) Or.inr
      cases m with
      | field id => exact Or.inl (by simpa [ownCases] using h)
      | component id => exact Or.inl (by simpa [ownCases] using h)
      | group id =>
        cases hg : index.group? id with
        | none => exact Or.inl (by simpa [ownCases, hg] using h)
        | some g =>
          by_cases visited : Key.group g.id ∈ path
          · exact Or.inl (by simpa [ownCases, hg, visited] using h)
          · cases hc : index.field? g.counter with
            | none => exact Or.inl (by simpa [ownCases, hg, visited, hc] using h)
            | some counter =>
              simp only [ownCases, hg, visited, if_false, Traced.value_bind,
                Index.value_fieldFor, hc] at h
              rcases ih _ (Index.group_mem_keys hg) visited h with h | h
              · rcases mem_addCase h with h | rfl
                · exact Or.inl h
                · exact Or.inr ⟨_, counter, hc, rfl⟩
              · exact Or.inr h

/-- Cases are found without a fault where all names are texts. -/
theorem casesWithin_clean (named : index.Named) :
    (casesWithin index parent members path cases).Clean := by
  induction path using index.walk_induction generalizing members parent cases with
  | step path ih =>
    have own (cases : List CounterCase) (m : Member) :
        (ownCases index parent path cases m).Clean := by
      cases m with
      | field id => simp [ownCases]
      | component id => simp [ownCases]
      | group id =>
        cases hg : index.group? id with
        | none => simp [ownCases, hg]
        | some g =>
          by_cases visited : Key.group g.id ∈ path
          · simp [ownCases, hg, visited]
          · cases hc : index.field? g.counter with
            | none => simp [ownCases, hg, visited, hc]
            | some counter =>
              have inner := @ih _ (Index.group_mem_keys hg) visited
              simp [ownCases, hg, visited, hc, className_clean (named.field hc), inner]
    induction members generalizing cases with
    | nil => simp [casesWithin]
    | cons m rest ihm =>
      rw [casesWithin_cons]
      simp [own, ihm]

end Walk

/-! ## Canonical messages -/

theorem canonicalMessages_subset (messages : List Message) :
    canonicalMessages messages ⊆ messages :=
  fun _ h => (List.mem_filter.1 (mem_of_mem_firstOf h)).1

/-- A message has a class name where its name and its scenario are texts. -/
theorem messageClassName_silent {m : Message} (name : m.name.isText)
    (scenario : m.scenario.isText) : m.className.Silent := by
  rw [Message.className]
  split <;> simp [className_silent name, className_silent scenario]

section Classes

variable {e : Context} {messages : List Message}

theorem messageCases_clean (named : e.index.Named) {m : Message} (h : m.className.Clean) :
    (e.messageCases m).Clean := by
  simp [messageCases, h, casesWithin_clean named]

theorem describeFactory_clean (named : e.index.Named) (h : ∀ m ∈ messages, m.className.Clean) :
    (e.describeFactory messages).Clean := by
  simp only [describeFactory, Traced.clean_bind, Traced.clean_mapM, Traced.clean_pure, and_true]
  exact fun m hm => messageCases_clean named (h m (canonicalMessages_subset messages hm))

theorem describeCracker_clean (h : ∀ m ∈ messages, m.className.Clean) :
    (e.describeCracker messages).Clean := by
  simp only [describeCracker, Traced.clean_bind, Traced.clean_mapM, Traced.clean_pure, and_true]
  exact fun m hm => h m (canonicalMessages_subset messages hm)

end Classes

end Context
end FixBindings
