import FixBindings.Java.Literal

/-!
# Accessors in Java

The lines of the methods of accessors and of the inner classes of groups, at some level of
nesting.  Every block opens with a brace at the end of a line and closes on a line of its own.
-/

set_option autoImplicit false

namespace FixBindings
namespace Java

/-- The blanks in front of a line. -/
def indent (level : Nat) : String := String.ofList (List.replicate (2 * level) ' ')

/-- A line at a level of nesting. -/
def line (level : Nat) (text : String) : String := indent level ++ text

/-- A line at a level of nesting that opens a block. -/
def opening (level : Nat) (text : String) : String := line level (text ++ " \x7b")

/-- A line at a level of nesting that closes a block. -/
def closing (level : Nat) : String := line level "\x7d"

/-- The line with the serial version of a class. -/
def serialVersion (level : Nat) : String :=
  line level "static final long serialVersionUID = 552892318L;"

/-- A method with its body, after an empty line. -/
def method (level : Nat) (head : String) (body : List String) : List String :=
  ["", opening level head] ++ body.map (line (level + 1)) ++ [closing level]

/-- The methods for a field. -/
def fieldLines (level : Nat) (name : String) (id : Int) : List String :=
  let cls := Accessor.fieldClass name
  method level ("public void set(" ++ cls ++ " value)") ["setField(value);"]
    ++ method level ("public " ++ cls ++ " get(" ++ cls ++ " value) throws FieldNotFound")
      ["getField(value);", "return value;"]
    ++ method level ("public " ++ cls ++ " get" ++ name ++ "() throws FieldNotFound")
      ["return get(new " ++ cls ++ "());"]
    ++ method level ("public boolean isSet(" ++ cls ++ " field)")
      ["return isSetField(field);"]
    ++ method level ("public boolean isSet" ++ name ++ "()")
      ["return isSetField(" ++ toString id ++ ");"]

/-- The methods for a component. -/
def componentLines (level : Nat) (name cls : String) : List String :=
  method level ("public void set(" ++ cls ++ " component)") ["setComponent(component);"]
    ++ method level ("public " ++ cls ++ " get(" ++ cls ++ " component) throws FieldNotFound")
      ["getComponent(component);", "return component;"]
    ++ method level ("public " ++ cls ++ " get" ++ name ++ "Component() throws FieldNotFound")
      ["return get(new " ++ cls ++ "());"]

/-- The array of the order of the fields of a repetition. -/
def orderLine (level : Nat) (order : List Int) : String :=
  line level ("private static final int[] ORDER = \x7b" ++ arrayItems order.dropLast
    ++ ((order.getLast?.map toString).getD "") ++ "\x7d;")

/-- The lines in front of the accessors of an inner class. -/
def unitHead (level : Nat) (name : String) (counter delimiter : Int) (order : List Int) :
    List String :=
  ["", opening level ("public static class " ++ name ++ " extends Group"),
    serialVersion (level + 1), orderLine (level + 1) order]
    ++ method (level + 1) ("public " ++ name ++ "()")
      ["super(" ++ toString counter ++ ", " ++ toString delimiter ++ ", ORDER);"]

mutual

/-- The lines of an accessor. -/
def accessLines (level : Nat) : Accessor → List String
  | .field name id => fieldLines level name id
  | .component name cls => componentLines level name cls
  | .group name counter delimiter order accessors =>
    unitHead level name counter delimiter order
      ++ accessLinesAll (level + 1) accessors ++ [closing level]
termination_by structural x => x

/-- The lines of several accessors. -/
def accessLinesAll (level : Nat) : List Accessor → List String
  | [] => []
  | a :: rest => accessLines level a ++ accessLinesAll level rest
termination_by structural x => x

end

mutual

/-- Whether every inner class has an order of its fields. -/
def isOrdered : Accessor → Bool
  | .group _ _ _ order accessors => !order.isEmpty && areOrdered accessors
  | _ => true
termination_by structural x => x

/-- Whether every inner class of several accessors has an order of its fields. -/
def areOrdered : List Accessor → Bool
  | [] => true
  | a :: rest => isOrdered a && areOrdered rest
termination_by structural x => x

end

end Java
end FixBindings
