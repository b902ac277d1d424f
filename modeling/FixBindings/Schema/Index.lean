import FixBindings.Schema.Basic
import FixBindings.Schema.Diagnostic

/-!
# Looking up declarations

An index holds the first declaration of every id, name and canonical message of a repository, in
the order of declaration, and `Index.ofRepository` reports what is declared again.  Groups and
components are the nodes of the reference graph of a schema, and a `Key` names one.  A walk along
that graph never enters a node that lies on its path already, and `Index.unvisited_lt` says that
entering another one leaves fewer nodes to enter.
-/

set_option autoImplicit false

namespace FixBindings

/-- A node of the reference graph. -/
inductive Key where
  | group (id : Int)
  | component (id : Int)
deriving Repr, DecidableEq

/-- The first declarations of a repository. -/
structure Index where
  /-- The first field of each id. -/
  fields : List Field := []
  /-- The first of those fields of each name. -/
  namedFields : List Field := []
  /-- The first component of each id. -/
  components : List Component := []
  /-- The first of those components of each name. -/
  namedComponents : List Component := []
  /-- The first group of each id. -/
  groups : List Group := []
  /-- The first of those groups of each name. -/
  namedGroups : List Group := []
  /-- The first code set of each name. -/
  codeSets : List CodeSet := []
  /-- The first message of each name and scenario. -/
  messages : List Message := []
deriving Inhabited

namespace Index

/-- Adds an item at the end unless one of the same name is there. -/
def addNamed {α : Type} (name : α → Document) (items : List α) (item : α) : Traced (List α) := do
  Traced.ofExcept () (name item).checkKey
  return if items.any fun other => (name other).same (name item) then items else items ++ [item]

/-- Adds a field. -/
def addField (index : Index) (f : Field) : Traced Index :=
  if index.fields.any (·.id == f.id) then do
    Traced.report (.duplicate .field f.id)
    return index
  else do
    let namedFields ← addNamed Field.name index.namedFields f
    return { index with fields := index.fields ++ [f], namedFields }

/-- Adds a component. -/
def addComponent (index : Index) (c : Component) : Traced Index :=
  if index.components.any (·.id == c.id) then do
    Traced.report (.duplicate .component c.id)
    return index
  else do
    let namedComponents ← addNamed Component.name index.namedComponents c
    return { index with components := index.components ++ [c], namedComponents }

/-- Adds a group. -/
def addGroup (index : Index) (g : Group) : Traced Index :=
  if index.groups.any (·.id == g.id) then do
    Traced.report (.duplicate .group g.id)
    return index
  else do
    let namedGroups ← addNamed Group.name index.namedGroups g
    return { index with groups := index.groups ++ [g], namedGroups }

/-- Adds a code set. -/
def addCodeSet (index : Index) (c : CodeSet) : Traced Index := do
  let codeSets ← addNamed CodeSet.name index.codeSets c
  return { index with codeSets }

/-- The diagnostic on a message whose scenario is defined already. -/
def repeatedScenario (m : Message) : Diagnostic :=
  if m.isBase then .extraBase m.name.display
  else .duplicateScenario m.scenario.display m.name.display

/-- Adds a message. -/
def addMessage (index : Index) (m : Message) : Traced Index := do
  Traced.ofExcept () (Document.pair m.name m.scenario).checkKey
  if index.messages.any m.sameScenario then
    Traced.report (repeatedScenario m)
    return index
  else
    return { index with messages := index.messages ++ [m] }

/-- The index of a repository. -/
def ofRepository (r : Repository) : Traced Index := do
  let index ← r.fields.foldlM addField {}
  let index ← r.components.foldlM addComponent index
  let index ← r.groups.foldlM addGroup index
  let index ← r.codeSets.foldlM addCodeSet index
  r.messages.foldlM addMessage index

/-- The canonical messages. -/
def canonicalMessages (index : Index) : List Message := index.messages.filter Message.isBase

/-- The field of an id. -/
def field? (index : Index) (id : Int) : Option Field := index.fields.find? (·.id == id)

/-- The component of an id. -/
def component? (index : Index) (id : Int) : Option Component :=
  index.components.find? (·.id == id)

/-- The group of an id. -/
def group? (index : Index) (id : Int) : Option Group := index.groups.find? (·.id == id)

/-- The code set of a name. -/
def codeSet? (index : Index) (name : Document) : Option CodeSet :=
  index.codeSets.find? fun c => c.name.same name

/-- A declaration, reported when it is missing. -/
def found {α : Type} (operation : Operation) (kind : ElementKind) (id : Int)
    (declaration? : Option α) : Traced (Option α) := do
  Traced.reportIf declaration?.isNone (.missing operation kind id)
  return declaration?

/-- The field of an id, reported when it is missing. -/
def fieldFor (index : Index) (operation : Operation) (id : Int) : Traced (Option Field) :=
  found operation .field id (index.field? id)

/-- The group of an id, reported when it is missing. -/
def groupFor (index : Index) (operation : Operation) (id : Int) : Traced (Option Group) :=
  found operation .group id (index.group? id)

/-- The component of an id, reported when it is missing. -/
def componentFor (index : Index) (operation : Operation) (id : Int) :
    Traced (Option Component) :=
  found operation .component id (index.component? id)

/-- The code set of a field: the one that it declares, which is reported when it is missing, or
else the one that its type names. -/
def codeSetOf (index : Index) (f : Field) : Traced (Option CodeSet) :=
  if f.codeSet.truthy then do
    Traced.ofExcept () f.codeSet.checkKey
    let codeSet? := index.codeSet? f.codeSet
    Traced.reportIf codeSet?.isNone (.missingCodeSet f.codeSet.display)
    return codeSet?
  else do
    Traced.ofExcept () f.type.checkKey
    return index.codeSet? f.type

/-! ## Walks -/

/-- The nodes of the reference graph. -/
def keys (index : Index) : List Key :=
  index.groups.map (fun g => .group g.id) ++ index.components.map (fun c => .component c.id)

/-- The number of nodes off a path. -/
def unvisited (index : Index) (path : List Key) : Nat :=
  index.keys.countP fun key => decide (key ∉ path)

theorem group_mem_keys {index : Index} {id : Int} {g : Group} (h : index.group? id = some g) :
    Key.group g.id ∈ index.keys :=
  List.mem_append_left _ (List.mem_map.2 ⟨g, List.mem_of_find?_eq_some h, rfl⟩)

theorem component_mem_keys {index : Index} {id : Int} {c : Component}
    (h : index.component? id = some c) : Key.component c.id ∈ index.keys :=
  List.mem_append_right _ (List.mem_map.2 ⟨c, List.mem_of_find?_eq_some h, rfl⟩)

/-- A path grown by a node off it leaves fewer nodes. -/
theorem unvisited_lt {index : Index} {path : List Key} {key : Key} (declared : key ∈ index.keys)
    (fresh : key ∉ path) : index.unvisited (path ++ [key]) < index.unvisited path := by
  unfold unvisited
  have le (keys : List Key) : keys.countP (fun k => decide (k ∉ path ++ [key])) ≤
      keys.countP fun k => decide (k ∉ path) :=
    List.countP_mono_left fun k _ h => by simp_all
  obtain ⟨before, after, split⟩ := List.append_of_mem declared
  have entered : decide (key ∉ path ++ [key]) = false := by simp
  have open' : decide (key ∉ path) = true := by simpa using fresh
  have := le before
  have := le after
  rw [split, List.countP_append, List.countP_append, List.countP_cons, List.countP_cons, entered,
    open']
  simp only [Bool.false_eq_true, if_false, if_true]
  omega

end Index
end FixBindings
