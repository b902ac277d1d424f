import FixBindings.Document.Access

/-!
# Diagnostics and traced results

A reference that leads nowhere, a repeated declaration or a cycle is no failure: work goes on
without it, and a diagnostic says what was found.  A name that is no text is a failure, the first
of which decides the outcome.  A `Traced` result is a value with both kinds of remarks in the
order in which they were made.  The value does not depend on the remarks: where a failure leaves
no value, something stands in for it that the outcome does not show.
-/

set_option autoImplicit false

namespace FixBindings

/-- The kinds of declarations that references lead to. -/
inductive ElementKind where
  | field
  | group
  | component
deriving Repr, DecidableEq

/-- The name of a kind. -/
def ElementKind.name : ElementKind → String
  | .field => "Field"
  | .group => "Group"
  | .component => "Component"

/-- The operations that look for declarations. -/
inductive Operation where
  | usage
  | group
  | order
  | accessors
  | factory
  | other (name : String)
deriving Repr, DecidableEq

/-- The name of an operation. -/
def Operation.name : Operation → String
  | .usage => "collect_field_ids"
  | .group => "emit_group"
  | .order => "group_order"
  | .accessors => "member_accessors"
  | .factory => "message_factory"
  | .other name => name

/-- Something wrong with a schema that does not stop the work on it. -/
inductive Diagnostic where
  /-- A reference leads to no declaration. -/
  | missing (operation : Operation) (kind : ElementKind) (id : Int)
  /-- A field names a code set that is not declared. -/
  | missingCodeSet (name : String)
  /-- An id is declared more than once. -/
  | duplicate (kind : ElementKind) (id : Int)
  /-- A message has more than one canonical definition. -/
  | extraBase (name : String)
  /-- A scenario of a message is defined more than once. -/
  | duplicateScenario (scenario name : String)
  /-- A group or component contains itself. -/
  | cyclic (operation : Operation) (kind : ElementKind) (id : Int)
  /-- A group has no members. -/
  | emptyGroup (id : Int)
  | note (text : String)
deriving Repr, DecidableEq

/-- The text of a diagnostic.  It shows ids of any length: `Number.maxDigits` does not bear on it. -/
def Diagnostic.message : Diagnostic → String
  | .missing operation kind id =>
    operation.name ++ ": " ++ kind.name ++ " missing from repository; id=" ++ toString id
  | .missingCodeSet name => "code_set_for: CodeSet missing from repository; name=" ++ name
  | .duplicate kind id => "build_index: duplicate " ++ kind.name ++ " id=" ++ toString id
  | .extraBase name => "build_index: more than one base scenario for Message name=" ++ name
  | .duplicateScenario scenario name =>
    "build_index: duplicate scenario=" ++ scenario ++ " for Message name=" ++ name
  | .cyclic operation kind id =>
    operation.name ++ ": cyclic reference to " ++ kind.name ++ " id=" ++ toString id
  | .emptyGroup id => "emit_group: Group has no members; id=" ++ toString id
  | .note text => text

/-- Diagnostics so far, each text once. -/
abbrev Ledger := List String

/-- Adds a text that is not there yet. -/
def Ledger.add (ledger : Ledger) (text : String) : Ledger :=
  if text ∈ ledger then ledger else ledger ++ [text]

/-- What is noticed along the way to a value. -/
inductive Remark where
  | diagnostic (d : Diagnostic)
  | fault (f : DocumentFault)
deriving Repr, DecidableEq

/-- A value with the remarks made on the way to it. -/
structure Traced (α : Type) where
  value : α
  remarks : List Remark := []

namespace Traced

variable {α β : Type}

instance : Monad Traced where
  pure a := ⟨a, []⟩
  bind x f := ⟨(f x.value).value, x.remarks ++ (f x.value).remarks⟩

/-- Makes a diagnostic. -/
def report (d : Diagnostic) : Traced Unit := ⟨(), [.diagnostic d]⟩

/-- Makes a diagnostic if a condition holds. -/
def reportIf (condition : Bool) (d : Diagnostic) : Traced Unit :=
  ⟨(), if condition then [.diagnostic d] else []⟩

/-- The result of something that may fail, with a value that stands in for it. -/
def ofExcept (default : α) : Except DocumentFault α → Traced α
  | .ok a => ⟨a, []⟩
  | .error f => ⟨default, [.fault f]⟩

@[simp] theorem value_pure (a : α) : (pure a : Traced α).value = a := rfl

@[simp] theorem value_bind (x : Traced α) (f : α → Traced β) :
    (x >>= f).value = (f x.value).value := rfl

@[simp] theorem value_map (f : α → β) (x : Traced α) : (f <$> x).value = f x.value := rfl

@[simp] theorem remarks_pure (a : α) : (pure a : Traced α).remarks = [] := rfl

@[simp] theorem remarks_bind (x : Traced α) (f : α → Traced β) :
    (x >>= f).remarks = x.remarks ++ (f x.value).remarks := rfl

@[simp] theorem remarks_map (f : α → β) (x : Traced α) : (f <$> x).remarks = x.remarks := by
  show x.remarks ++ [] = x.remarks
  simp

@[simp] theorem remarks_report (d : Diagnostic) : (report d).remarks = [.diagnostic d] := rfl

instance : LawfulMonad Traced :=
  LawfulMonad.mk' Traced
    (fun x => by cases x; simp [Functor.map])
    (fun _ _ => by simp [bind, pure])
    (fun _ _ _ => by simp [bind, List.append_assoc])

/-- The ledger after remarks up to the first failure, and that failure. -/
def enter : Ledger → List Remark → Ledger × Option DocumentFault
  | ledger, [] => (ledger, none)
  | ledger, .diagnostic d :: rest => enter (ledger.add d.message) rest
  | ledger, .fault f :: _ => (ledger, some f)

/-- The outcome of a result: its value, unless something failed, and the ledger afterwards. -/
def run (x : Traced α) (ledger : Ledger) : Except DocumentFault α × Ledger :=
  match enter ledger x.remarks with
  | (ledger, none) => (.ok x.value, ledger)
  | (ledger, some f) => (.error f, ledger)

end Traced
end FixBindings
