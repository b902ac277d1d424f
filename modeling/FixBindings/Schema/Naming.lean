import FixBindings.Unicode.Case
import FixBindings.Unicode.Class

/-!
# Names of classes and constants

A class name is made of the words of a name, each opening with a capital.  A constant name is in
capitals, with an underscore where a new word of the name begins and in front of a leading digit.
-/

set_option autoImplicit false

namespace FixBindings
namespace Naming

/-- Whether a character ends a word. -/
def isSeparator (c : Char) : Bool := c == '_' || c == ' '

/-- The words of a name joined, where `start` says that a word begins here. -/
def titleChars : Bool → List Char → List Char
  | _, [] => []
  | start, c :: rest =>
    if isSeparator c then titleChars true rest
    else (if start then Unicode.upperImage c else [c]) ++ titleChars false rest

/-- A name as a class name: the first character of each word in upper case, the others as they
are, and no separators. -/
def titleCase (name : String) : String := String.ofList (titleChars true name.toList)

/-- Whether a new word begins at `c`, between the characters before and after it: a capital
follows a small letter or a digit, or a capital that opens a word follows another capital. -/
def opensWord (before : Option Char) (c : Char) (after : Option Char) : Bool :=
  c.isUpper &&
    (before.any (fun b => b.isLower || b.isDigit) ||
      (before.any Char.isUpper && after.any Char.isLower))

/-- Underscores put in front of words, where `before` is the character before the text. -/
def separateWords : Option Char → List Char → List Char
  | _, [] => []
  | before, c :: rest =>
    (if opensWord before c rest.head? then ['_', c] else [c]) ++ separateWords (some c) rest

/-- A name as a constant name. -/
def constantName (name : String) : String :=
  let cs := (separateWords none name.toList).flatMap Unicode.upperImage
  match cs with
  | [] => ""
  | c :: _ => String.ofList (if Unicode.isDigit c then '_' :: cs else cs)

end Naming
end FixBindings
