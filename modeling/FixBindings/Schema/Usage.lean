import FixBindings.Schema.Index
import FixBindings.Schema.SessionLayer

/-!
# The fields that messages use

The fields of a message are those of its members, with the members of the groups and components
that they refer to, and so on, and the counters of the groups.  `Index.fieldIds` walks along the
references and stops where a node lies on the path already.  A field that both layers use counts
as a field of the session layer.
-/

set_option autoImplicit false

namespace FixBindings

/-- Puts an id into an ascending list without repetition. -/
def insertId (id : Int) : List Int → List Int
  | [] => [id]
  | n :: rest =>
    if id < n then id :: n :: rest
    else if id = n then n :: rest
    else n :: insertId id rest

/-- Ids in ascending order, each once. -/
def idSet (ids : List Int) : List Int := ids.foldl (fun set id => insertId id set) []

namespace Index

/-- The ids of the fields that members lead to, in the order of the walk.  The standard header
and trailer are entered only if `framed`. -/
def fieldIds (index : Index) (layer : SessionLayer) (framed : Bool) :
    List Member → List Key → Traced (List Int)
  | [], _ => return []
  | .field id :: rest, path => do
    let others ← fieldIds index layer framed rest path
    return id :: others
  | .group id :: rest, path => do
    let own ←
      match found : index.group? id with
      | none => do
        Traced.report (.missing .usage .group id)
        pure []
      | some g =>
        if visited : Key.group g.id ∈ path then do
          Traced.report (.cyclic .usage .group g.id)
          pure [g.counter]
        else do
          let inner ← fieldIds index layer framed g.members (path ++ [.group g.id])
          pure (g.counter :: inner)
    let others ← fieldIds index layer framed rest path
    return own ++ others
  | .component id :: rest, path => do
    let own ←
      match found : index.component? id with
      | none => do
        Traced.report (.missing .usage .component id)
        pure []
      | some c =>
        if layer.isFrame c.id && !framed then
          pure []
        else if visited : Key.component c.id ∈ path then do
          Traced.report (.cyclic .usage .component c.id)
          pure []
        else
          fieldIds index layer framed c.members (path ++ [.component c.id])
    let others ← fieldIds index layer framed rest path
    return own ++ others
termination_by members path => (index.unvisited path, members.length)
decreasing_by
  all_goals first
    | exact Prod.Lex.right _ (Nat.lt_succ_self _)
    | exact Prod.Lex.left _ _ (unvisited_lt (group_mem_keys found) visited)
    | exact Prod.Lex.left _ _ (unvisited_lt (component_mem_keys found) visited)

/-- The ids of the fields that messages use. -/
def usedFieldIds (index : Index) (layer : SessionLayer) (framed : Bool)
    (messages : List Message) : Traced (List Int) := do
  let lists ← messages.mapM fun m => index.fieldIds layer framed m.members []
  return idSet lists.flatten

end Index

/-- The fields of the two layers, without a common one. -/
structure Usage where
  application : List Int
  session : List Int
deriving Repr, DecidableEq, Inhabited

/-- The fields that the messages of the two layers use. -/
def Index.usage (index : Index) (layer : SessionLayer) (framed : Bool)
    (application session : List Message) : Traced Usage := do
  let applicationIds ← index.usedFieldIds layer framed application
  let sessionIds ← index.usedFieldIds layer framed session
  return {
    application := applicationIds.filter fun id => !sessionIds.contains id
    session := sessionIds }

end FixBindings
