/-!
# Options of a generation run

Four switches, of which two exclude each other: session messages cannot be left out and put into a
package of their own.  `Options` holds switches together with the proof that they agree, so every
change of a switch is checked where it is made.
-/

set_option autoImplicit false

namespace FixBindings

/-- The switches of a generation run. -/
inductive Switch where
  | extendedDecimal
  | messageBase
  | excludeSession
  | dedicatedSession
deriving Repr, DecidableEq

namespace Switch

/-- All switches. -/
def all : List Switch := [.extendedDecimal, .messageBase, .excludeSession, .dedicatedSession]

/-- The name of a switch. -/
def name : Switch → String
  | .extendedDecimal => "use_extended_decimal"
  | .messageBase => "emit_base_message_class"
  | .excludeSession => "exclude_session_layer"
  | .dedicatedSession => "emit_dedicated_session_package"

/-- The command line flag that moves a switch. -/
def flag : Switch → String
  | .extendedDecimal => "--disable-big-decimal"
  | .messageBase => "--generate-message-base-class"
  | .excludeSession => "--exclude-session"
  | .dedicatedSession => "--generate-fixt11-package"

/-- The switch of a name. -/
def ofName? (name : String) : Option Switch := all.find? (·.name == name)

end Switch

/-- Positions of the switches. -/
structure Switches where
  /-- Decimal values are exact rather than binary. -/
  extendedDecimal : Bool := true
  /-- The message base class is generated, with the standard header and trailer. -/
  messageBase : Bool := false
  /-- Messages, groups and fields of the session layer are left out. -/
  excludeSession : Bool := false
  /-- The session layer has a package of its own. -/
  dedicatedSession : Bool := true
deriving Repr, DecidableEq, Inhabited

/-- Moves a switch. -/
def Switches.set (s : Switches) (switch : Switch) (on : Bool) : Switches :=
  match switch with
  | .extendedDecimal => { s with extendedDecimal := on }
  | .messageBase => { s with messageBase := on }
  | .excludeSession => { s with excludeSession := on }
  | .dedicatedSession => { s with dedicatedSession := on }

/-- Switches that agree with each other. -/
structure Options extends Switches where
  compatible : (toSwitches.excludeSession && toSwitches.dedicatedSession) = false
deriving Repr, DecidableEq

/-- Why switches make no options. -/
inductive OptionFault where
  /-- Two switches that exclude each other are both on. -/
  | conflict (first second : Switch)
  /-- No switch has this name. -/
  | unknown (name : String)
deriving Repr, DecidableEq

/-- The text of a fault. -/
def OptionFault.message : OptionFault → String
  | .conflict first second =>
    "Options " ++ first.name ++ " (" ++ first.flag ++ ") == True and " ++ second.name ++ " ("
      ++ second.flag ++ ") == True are mutually exclusive."
  | .unknown name =>
    "GeneratorConfig.__init__() got an unexpected keyword argument '" ++ name ++ "'"

namespace Options

instance : Inhabited Options := ⟨{ compatible := rfl }⟩

/-- Checks switches. -/
def ofSwitches (s : Switches) : Except OptionFault Options :=
  if h : (s.excludeSession && s.dedicatedSession) = false then .ok ⟨s, h⟩
  else .error (.conflict .excludeSession .dedicatedSession)

/-- Moves switches given by name. -/
def setNamed (s : Switches) (changes : List (String × Bool)) : Except OptionFault Switches :=
  changes.foldlM
    (fun s change =>
      match Switch.ofName? change.1 with
      | some switch => .ok (s.set switch change.2)
      | none => .error (.unknown change.1)) s

/-- The options after some changes. -/
def change (o : Options) (changes : List (String × Bool)) : Except OptionFault Options := do
  ofSwitches (← setNamed o.toSwitches changes)

/-- Whether the standard header and trailer are entered. -/
def entersFrame (o : Options) : Bool := o.messageBase

/-- Whether the session layer is generated. -/
def emitsSession (o : Options) : Bool := !o.excludeSession

/-- Whether the session layer goes into a package of its own. -/
def separatesSession (o : Options) : Bool := o.emitsSession && o.dedicatedSession

end Options
end FixBindings
