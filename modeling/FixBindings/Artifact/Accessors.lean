import FixBindings.Artifact.Basic
import FixBindings.Schema.Index
import FixBindings.Schema.SessionLayer

/-!
# Accessors of members

The accessors of a list of members.  A field has one accessor.  A group has one for its class, one
for its counter, and an inner class with the accessors of one repetition.  A component has one for
its class, followed by those of its fields and of the components within it, while its groups stay
behind its class.  The standard header and trailer have no accessor of their own, and their members
only where they are generated.  References that lead nowhere are skipped, and walks stop at a node
that lies on their path already.
-/

set_option autoImplicit false

namespace FixBindings

/-- What accessors are made from: the declarations, the layout and the session layer. -/
structure Context where
  index : Index
  layout : Layout
  layer : SessionLayer
deriving Inhabited

namespace Context

/-- The first of all items that agree in the sense of `same`, in order. -/
def firstOf {α : Type} (same : α → α → Bool) : List α → List α
  | [] => []
  | a :: rest => a :: (firstOf same rest).filter fun b => !same a b

/-- Accessors without those that repeat the kind and name of an earlier one. -/
def unique (accessors : List Accessor) : List Accessor := firstOf Accessor.sameSlot accessors

/-- The accessor of a component or group class. -/
def classAccessor (package : String) (name : Document) : Traced Accessor := do
  let name ← className name
  return .component name (package ++ "." ++ name)

/-- The members of a component that stand beside its class: its fields and components. -/
def isDirect : Member → Bool
  | .group _ => false
  | _ => true

/-- The ids of the fields of one repetition in the order of declaration, with those of components
in their place and the counter of a group in its place. -/
def repetitionOrder (index : Index) : List Member → List Key → Traced (List Int)
  | [], _ => return []
  | .field id :: rest, path => do
    let others ← repetitionOrder index rest path
    return id :: others
  | .group id :: rest, path => do
    let group? ← index.groupFor .order id
    let others ← repetitionOrder index rest path
    return (group?.map Group.counter).toList ++ others
  | .component id :: rest, path => do
    let own ←
      match found : index.component? id with
      | none => do
        Traced.report (.missing .order .component id)
        pure []
      | some c =>
        if visited : Key.component c.id ∈ path then do
          Traced.report (.cyclic .order .component c.id)
          pure []
        else
          repetitionOrder index c.members (path ++ [.component c.id])
    let others ← repetitionOrder index rest path
    return own ++ others
termination_by members path => (index.unvisited path, members.length)
decreasing_by
  all_goals first
    | exact Prod.Lex.right _ (Nat.lt_succ_self _)
    | exact Prod.Lex.left _ _ (Index.unvisited_lt (Index.component_mem_keys found) visited)

/-- The accessors of members, of which classes lie in `package`. -/
def accessorsOf (e : Context) (package : String) :
    List Member → List Key → Traced (List Accessor)
  | [], _ => return []
  | .field id :: rest, path => do
    let field? ← e.index.fieldFor .accessors id
    let own ←
      match field? with
      | none => pure []
      | some f => do
        let name ← className f.name
        pure [.field name f.id]
    let others ← accessorsOf e package rest path
    return own ++ others
  | .group id :: rest, path => do
    let own ←
      match found : e.index.group? id with
      | none => do
        Traced.report (.missing .accessors .group id)
        pure []
      | some g =>
        if visited : Key.group g.id ∈ path then do
          Traced.report (.cyclic .accessors .group g.id)
          pure []
        else do
          let counter? ← e.index.fieldFor .accessors g.counter
          match counter? with
          | none => pure []
          | some counter => do
            let component ← classAccessor package g.name
            let name ← className counter.name
            let order ← repetitionOrder e.index g.members (path ++ [.group g.id])
            Traced.reportIf order.isEmpty (.emptyGroup g.id)
            let inner ← accessorsOf e package g.members (path ++ [.group g.id])
            pure [component, .field name counter.id,
              .repetition name counter.id order (unique inner)]
    let others ← accessorsOf e package rest path
    return own ++ others
  | .component id :: rest, path => do
    let own ←
      match found : e.index.component? id with
      | none => do
        Traced.report (.missing .accessors .component id)
        pure []
      | some c =>
        if e.layer.isFrame c.id && !e.layout.options.entersFrame then
          pure []
        else do
          let component ←
            if e.layer.isFrame c.id then pure []
            else do
              let component ← classAccessor package c.name
              pure [component]
          let inner ←
            if visited : Key.component c.id ∈ path then do
              Traced.report (.cyclic .accessors .component c.id)
              pure []
            else
              accessorsOf e package (c.members.filter isDirect)
                (path ++ [.component c.id])
          pure (component ++ inner)
    let others ← accessorsOf e package rest path
    return own ++ others
termination_by members path => (e.index.unvisited path, members.length)
decreasing_by
  all_goals first
    | exact Prod.Lex.right _ (Nat.lt_succ_self _)
    | exact Prod.Lex.left _ _ (Index.unvisited_lt (Index.group_mem_keys found) visited)
    | exact Prod.Lex.left _ _ (Index.unvisited_lt (Index.component_mem_keys found) visited)

/-- The inner class for one repetition of a group, on a path that ends in the group. -/
def repetitionOf (e : Context) (package : String) (g : Group) (counter : Field) (path : List Key) :
    Traced Accessor := do
  let order ← repetitionOrder e.index g.members path
  Traced.reportIf order.isEmpty (.emptyGroup g.id)
  let name ← className counter.name
  let inner ← e.accessorsOf package g.members path
  return .repetition name counter.id order (unique inner)

end Context
end FixBindings
