import FixBindings.Artifact.Accessors

/-!
# Creating and dispatching messages

The message factory creates messages by their type, and the groups within a message by the id of
their counter.  The message cracker hands a message to the method for its type.  Both know the
canonical messages only, the first of each name.
-/

set_option autoImplicit false

namespace FixBindings
namespace Context

/-- The canonical messages among some messages, the first of each name. -/
def canonicalMessages (messages : List Message) : List Message :=
  firstOf (fun m n => m.name.same n.name) (messages.filter Message.isBase)

/-- Adds a case unless its counter has one. -/
def addCase (cases : List CounterCase) (case : CounterCase) : List CounterCase :=
  if cases.any fun other => other.counterName == case.counterName then cases
  else cases ++ [case]

/-- The cases of the groups among members and of the groups within them, after the cases so far.
The classes of the groups lie within the class `parent`. -/
def casesWithin (index : Index) (parent : String) :
    List Member → List Key → List CounterCase → Traced (List CounterCase)
  | [], _, cases => return cases
  | .group id :: rest, path, cases => do
    let cases ←
      match found : index.group? id with
      | none => do
        Traced.report (.missing .factory .group id)
        pure cases
      | some g =>
        if visited : Key.group g.id ∈ path then do
          Traced.report (.cyclic .factory .group g.id)
          pure cases
        else do
          let counter? ← index.fieldFor .factory g.counter
          match counter? with
          | none => pure cases
          | some counter => do
            let name ← className counter.name
            let qualified := parent ++ "." ++ name
            casesWithin index qualified g.members (path ++ [.group g.id])
              (addCase cases ⟨name, qualified⟩)
    casesWithin index parent rest path cases
  | .field _ :: rest, path, cases => casesWithin index parent rest path cases
  | .component _ :: rest, path, cases => casesWithin index parent rest path cases
termination_by members path => (index.unvisited path, members.length)
decreasing_by
  all_goals first
    | exact Prod.Lex.right _ (Nat.lt_succ_self _)
    | exact Prod.Lex.left _ _ (Index.unvisited_lt (Index.group_mem_keys found) visited)

/-- The cases of one message. -/
def messageCases (e : Context) (m : Message) : Traced MessageCases := do
  let name ← m.className
  let cases ← casesWithin e.index (e.layout.messagesPackage ++ "." ++ name) m.members [] []
  return ⟨name, cases⟩

/-- The class that messages of unknown types have. -/
def fallbackClass (e : Context) : String :=
  if e.layout.options.messageBase then e.layout.messagesPackage ++ ".Message"
  else libraryPackage ++ ".Message"

/-- The message factory. -/
def describeFactory (e : Context) (messages : List Message) : Traced Artifact := do
  let cases ← (canonicalMessages messages).mapM e.messageCases
  return {
    package := e.layout.messagesPackage
    className := "MessageFactory"
    body := .messageFactory (cases.map MessageCases.messageName) cases e.fallbackClass }

/-- The message cracker. -/
def describeCracker (e : Context) (messages : List Message) : Traced Artifact := do
  let names ← (canonicalMessages messages).mapM Message.className
  return {
    package := e.layout.messagesPackage
    className := "MessageCracker"
    body := .messageCracker (firstOf (· == ·) names) ("crack" ++ e.layout.segment) }

end Context
end FixBindings
