import FixBindings.Java.Source
import FixBindings.Proofs.AccessorTrees

/-!
# Methods

The lines of an accessor are those of a few methods (`accessLines_eq_flatMap`), and a method is told
by its result, its name, its parameter and its body.  What holds of the lines of all methods is so
proved once for a method, and what a class may not declare twice is read off the methods alone.
-/

set_option autoImplicit false

namespace FixBindings
namespace Java

/-- A method that gives access to a part of a message. -/
structure Method where
  /-- The type of what the method returns. -/
  result : String
  name : String
  /-- The type and the name of the parameter, if there is one. -/
  parameter : Option (String × String)
  /-- Whether the method may find no such field. -/
  throws : Bool
  body : List String

namespace Method

/-- The text that declares a method. -/
def head (m : Method) : String :=
  "public " ++ m.result ++ " " ++ m.name ++ "("
    ++ (m.parameter.map fun (type, name) => type ++ " " ++ name).getD "" ++ ")"
    ++ if m.throws then " throws FieldNotFound" else ""

/-- The lines of a method. -/
def lines (level : Nat) (m : Method) : List String := method level m.head m.body

/-- What the methods of one class are told apart by: the name and the type of the parameter. -/
def signature (m : Method) : String × Option String := (m.name, m.parameter.map Prod.fst)

end Method

/-- The methods of an accessor.  An inner class has methods of its own. -/
def methods : Accessor → List Method
  | .field name id =>
    let cls := Accessor.fieldClass name
    [⟨"void", "set", some (cls, "value"), false, ["setField(value);"]⟩,
      ⟨cls, "get", some (cls, "value"), true, ["getField(value);", "return value;"]⟩,
      ⟨cls, "get" ++ name, none, true, ["return get(new " ++ cls ++ "());"]⟩,
      ⟨"boolean", "isSet", some (cls, "field"), false, ["return isSetField(field);"]⟩,
      ⟨"boolean", "isSet" ++ name, none, false, ["return isSetField(" ++ toString id ++ ");"]⟩]
  | .component name cls =>
    [⟨"void", "set", some (cls, "component"), false, ["setComponent(component);"]⟩,
      ⟨cls, "get", some (cls, "component"), true,
        ["getComponent(component);", "return component;"]⟩,
      ⟨cls, "get" ++ name ++ "Component", none, true, ["return get(new " ++ cls ++ "());"]⟩]
  | .group .. => []

theorem fieldLines_eq_flatMap (level : Nat) (name : String) (id : Int) :
    fieldLines level name id = (methods (.field name id)).flatMap (Method.lines level) := by
  rw [fieldLines, methods]
  generalize Accessor.fieldClass name = cls
  have setter (body : List String) : "public void set(" ++ cls ++ " value)" =
      Method.head ⟨"void", "set", some (cls, "value"), false, body⟩ := by
    simp [Method.head, ← String.toList_inj]
  have getter (body : List String) :
      "public " ++ cls ++ " get(" ++ cls ++ " value) throws FieldNotFound" =
        Method.head ⟨cls, "get", some (cls, "value"), true, body⟩ := by
    simp [Method.head, ← String.toList_inj]
  have maker (body : List String) :
      "public " ++ cls ++ " get" ++ name ++ "() throws FieldNotFound" =
        Method.head ⟨cls, "get" ++ name, none, true, body⟩ := by
    simp [Method.head, ← String.toList_inj]
  have checker (body : List String) : "public boolean isSet(" ++ cls ++ " field)" =
      Method.head ⟨"boolean", "isSet", some (cls, "field"), false, body⟩ := by
    simp [Method.head, ← String.toList_inj]
  have finder (body : List String) : "public boolean isSet" ++ name ++ "()" =
      Method.head ⟨"boolean", "isSet" ++ name, none, false, body⟩ := by
    simp [Method.head, ← String.toList_inj]
  simp only [List.flatMap_cons, List.flatMap_nil, Method.lines, ← setter, ← getter, ← maker,
    ← checker, ← finder, List.append_nil, List.append_assoc]

theorem componentLines_eq_flatMap (level : Nat) (name cls : String) :
    componentLines level name cls =
      (methods (.component name cls)).flatMap (Method.lines level) := by
  rw [componentLines, methods]
  have setter (body : List String) : "public void set(" ++ cls ++ " component)" =
      Method.head ⟨"void", "set", some (cls, "component"), false, body⟩ := by
    simp [Method.head, ← String.toList_inj]
  have getter (body : List String) :
      "public " ++ cls ++ " get(" ++ cls ++ " component) throws FieldNotFound" =
        Method.head ⟨cls, "get", some (cls, "component"), true, body⟩ := by
    simp [Method.head, ← String.toList_inj]
  have maker (body : List String) :
      "public " ++ cls ++ " get" ++ name ++ "Component() throws FieldNotFound" =
        Method.head ⟨cls, "get" ++ name ++ "Component", none, true, body⟩ := by
    simp [Method.head, ← String.toList_inj]
  simp only [List.flatMap_cons, List.flatMap_nil, Method.lines, ← setter, ← getter, ← maker,
    List.append_nil, List.append_assoc]

/-- The lines of an accessor are those of its methods. -/
theorem accessLines_eq_flatMap {x : Accessor} (plain : x.isUnit = false) (level : Nat) :
    accessLines level x = (methods x).flatMap (Method.lines level) := by
  cases x with
  | field name id => exact fieldLines_eq_flatMap level name id
  | component name cls => exact componentLines_eq_flatMap level name cls
  | group => exact absurd plain.symm Bool.false_ne_true

/-- The lines that a class has for its accessors, other than those of inner classes, are those of
its methods. -/
theorem flatMap_accessLines (as : List Accessor) (level : Nat) :
    (as.filter fun x => !x.isUnit).flatMap (accessLines level) =
      (as.flatMap methods).flatMap (Method.lines level) := by
  induction as with
  | nil => rfl
  | cons x rest ih =>
    rw [List.flatMap_cons, List.flatMap_append, ← ih]
    cases unit : x.isUnit with
    | false =>
      rw [List.filter_cons_of_pos (by rw [unit]; rfl), List.flatMap_cons,
        accessLines_eq_flatMap unit]
    | true =>
      rw [List.filter_cons_of_neg (by simp [unit])]
      cases x with
      | group => rfl
      | _ => exact absurd unit Bool.false_ne_true

end Java
end FixBindings
