import FixBindings.Java.Accessor

/-!
# Java source files

The text of the source file of an artifact: a header, the package and the imports, and one class.
Every artifact has a text but for those of which nothing is known and those with an inner class
that lacks the order of its fields.
-/

set_option autoImplicit false

namespace FixBindings
namespace Java

/-- Why an artifact has no source text. -/
inductive RenderFault where
  /-- An inner class lacks the order of its fields. -/
  | emptyOrder
  /-- Nothing is known of the artifact. -/
  | unknownBody
deriving Repr, DecidableEq

/-- The text of a fault. -/
def RenderFault.message : RenderFault → String
  | .emptyOrder => "tuple index out of range"
  | .unknownBody => "Unsupported artifact type: Artifact"

/-- The lines in front of a class. -/
def fileHead (package : String) (imports : List String) : List String :=
  ["/* Generated Java Source File */", "package " ++ package ++ ";"]
    ++ imports.map (fun name => "import " ++ name ++ ";") ++ [""]

/-- A constructor with a single statement, after an empty line. -/
def constructor (head statement : String) : List String := method 1 head [statement]

/-- The line that declares a constant. -/
def constantDeclaration (c : Constant) : String :=
  line 1 ("public static final " ++ c.value.typeName ++ " " ++ c.name ++ " = "
    ++ constantLiteral c.value ++ ";")

/-- The types of which a constructor of a field takes a value, and the value that it hands on. -/
def constructorParameters : FieldKind → List (String × String)
  | .boolean => [("Boolean", "data"), ("boolean", "data")]
  | .char => [("Character", "data"), ("char", "data")]
  | .utcDateOnly => [("LocalDate", "data"), ("String", "data")]
  | .utcTimeOnly => [("LocalTime", "data")]
  | .utcTimestamp => [("LocalDateTime", "data")]
  | .double => [("Double", "data"), ("double", "data")]
  | .int => [("Integer", "data"), ("int", "data")]
  | .string => [("String", "data")]
  | .decimal => [("BigDecimal", "data"), ("double", "BigDecimal.valueOf(data)")]

/-- The constructors of a field. -/
def fieldConstructors (name : String) (id : Int) (kind : FieldKind) : List String :=
  constructor ("public " ++ name ++ "()") ("super(" ++ toString id ++ ");")
    ++ (constructorParameters kind).flatMap fun (type, value) =>
      constructor ("public " ++ name ++ "(" ++ type ++ " data)")
        ("super(" ++ toString id ++ ", " ++ value ++ ");")

/-- The imports of a field. -/
def fieldImports (kind : FieldKind) : List String :=
  (if kind.isTemporal then
    ["java.time.LocalDate", "java.time.LocalTime", "java.time.LocalDateTime"] else [])
    ++ (if kind == .decimal then ["java.math.BigDecimal"] else [])
    ++ [libraryPackage ++ "." ++ kind.className]

/-- The class of a field. -/
def fieldClassLines (package name : String) (id : Int) (kind : FieldKind)
    (constants : List Constant) : List String :=
  fileHead package (fieldImports kind)
    ++ [opening 0 ("public class " ++ name ++ " extends " ++ kind.className), serialVersion 1, "",
      line 1 ("public static final int FIELD = " ++ toString id ++ ";")]
    ++ constants.flatMap (fun c => ["", constantDeclaration c])
    ++ fieldConstructors name id kind ++ [closing 0]

/-- The lines that list the fields and the counters of a component. -/
def memberArrays (fields counters : List Int) : List String :=
  [line 1 ("private int[] componentFields = \x7b" ++ arrayItems fields ++ "\x7d;"),
    line 1 "protected int[] getFields() \x7b return componentFields; \x7d",
    line 1 ("private int[] componentGroups = \x7b" ++ arrayItems counters ++ "\x7d;"),
    line 1 "protected int[] getGroupFields() \x7b return componentGroups; \x7d"]

/-- The line with the message type of a class. -/
def messageTypeLine (msgType : String) : String :=
  line 1 ("public static final String MSGTYPE = " ++ textLiteral msgType ++ ";")

/-- The class of a component or group. -/
def componentClassLines (package name : String) (fields counters : List Int)
    (accessors : List Accessor) : List String :=
  fileHead package ["quickfix.FieldNotFound", "quickfix.Group"]
    ++ [opening 0 ("public class " ++ name ++ " extends quickfix.MessageComponent"),
      serialVersion 1, "", messageTypeLine ""]
    ++ memberArrays fields counters
    ++ constructor ("public " ++ name ++ "()") "super();"
    ++ accessLinesAll 1 accessors ++ [closing 0]

/-- The class of a message. -/
def messageClassLines (package name msgType : String) (accessors : List Accessor) :
    List String :=
  fileHead package ["quickfix.FieldNotFound", "quickfix.field.*", "quickfix.Group"]
    ++ [opening 0 ("public class " ++ name ++ " extends Message"), serialVersion 1, "",
      messageTypeLine msgType]
    ++ method 1 ("public " ++ name ++ "()")
      ["super();", "getHeader().setField(new quickfix.field.MsgType(MSGTYPE));"]
    ++ accessLinesAll 1 accessors ++ [closing 0]

/-- The class that all messages extend. -/
def messageBaseLines (package name beginString : String) : List String :=
  fileHead package ["quickfix.field.*"]
    ++ [opening 0 ("public class " ++ name ++ " extends quickfix.Message"), serialVersion 1]
    ++ constructor ("public " ++ name ++ "()") "this(null);"
    ++ method 1 ("protected " ++ name ++ "(int[] fieldOrder)")
      ["super(fieldOrder);", "header = new Header(this);", "trailer = new Trailer();",
        "getHeader().setField(new BeginString(" ++ textLiteral beginString ++ "));"]
    ++ ["", opening 1 "public static class Header extends quickfix.Message.Header",
      serialVersion 2]
    ++ method 2 "public Header(Message msg)" []
    ++ [closing 1, closing 0]

/-- The method of the factory that creates messages. -/
def createMessageLines (package : String) (names : List String) (fallback : String) :
    List String :=
  ["", opening 1 "public Message create(String beginString, String msgType)",
    opening 2 "switch (msgType)"]
    ++ names.flatMap (fun name =>
      [line 2 ("case " ++ package ++ "." ++ name ++ ".MSGTYPE:"),
        line 3 ("return new " ++ package ++ "." ++ name ++ "();")])
    ++ [closing 2, line 2 ("return new " ++ fallback ++ "();"), closing 1]

/-- The cases of the factory for the groups of one message. -/
def messageCaseLines (package : String) (m : MessageCases) : List String :=
  [line 2 ("case " ++ package ++ "." ++ m.messageName ++ ".MSGTYPE:"),
    opening 3 "switch (correspondingFieldID)"]
    ++ m.cases.flatMap (fun c =>
      [line 3 ("case quickfix.field." ++ c.counterName ++ ".FIELD:"),
        line 4 ("return new " ++ c.qualifiedName ++ "();")])
    ++ [closing 3, line 3 "break;"]

/-- The method of the factory that creates groups. -/
def createGroupLines (package : String) (cases : List MessageCases) : List String :=
  ["", opening 1
      "public Group create(String beginString, String msgType, int correspondingFieldID)",
    opening 2 "switch (msgType)"]
    ++ cases.flatMap (messageCaseLines package)
    ++ [closing 2, line 2 "return null;", closing 1]

/-- The message factory. -/
def factoryLines (package name : String) (names : List String) (cases : List MessageCases)
    (fallback : String) : List String :=
  fileHead package ["quickfix.Message", "quickfix.Group"]
    ++ [opening 0 ("public class " ++ name ++ " implements quickfix.MessageFactory")]
    ++ createMessageLines package names fallback
    ++ createGroupLines package cases ++ [closing 0]

/-- The method of the cracker that takes messages of one type. -/
def onMessageLines (type : String) : List String :=
  method 1 ("public void onMessage(" ++ type ++ " message, SessionID sessionID) "
    ++ "throws FieldNotFound, UnsupportedMessageType, IncorrectTagValue")
    ["throw new UnsupportedMessageType();"]

/-- The method of the cracker for one message, with its comment. -/
def callbackLines (name : String) : List String :=
  ["", line 1 "/**", line 1 (" * Callback for " ++ name ++ " message."), line 1 " */"]
    ++ (onMessageLines name).drop 1

/-- The line that says what the methods of the cracker throw. -/
def crackThrows : String :=
  opening 2 "throws UnsupportedMessageType, FieldNotFound, IncorrectTagValue"

/-- The methods of the cracker that choose the method for a message. -/
def crackLines (names : List String) (crack : String) : List String :=
  ["", line 1 "public void crack(quickfix.Message message, SessionID sessionID)", crackThrows,
    line 2 (crack ++ "((Message) message, sessionID);"), closing 1, "",
    line 1 ("public void " ++ crack ++ "(Message message, SessionID sessionID)"), crackThrows,
    line 2 "String type = message.getHeader().getString(MsgType.FIELD);",
    opening 2 "switch (type)"]
    ++ names.flatMap (fun name =>
      [line 2 ("case " ++ name ++ ".MSGTYPE:"),
        line 3 ("onMessage((" ++ name ++ ") message, sessionID);"), line 3 "break;"])
    ++ [line 2 "default:", line 3 "onMessage(message, sessionID);", closing 2, closing 1]

/-- The message cracker. -/
def crackerLines (package name : String) (names : List String) (crack : String) :
    List String :=
  fileHead package ["quickfix.*", "quickfix.field.*"]
    ++ [opening 0 ("public class " ++ name)]
    ++ onMessageLines "quickfix.Message"
    ++ names.flatMap callbackLines ++ crackLines names crack ++ [closing 0]

/-- The lines of an artifact of which something is known. -/
def sourceLines? (a : Artifact) : Option (List String) :=
  match a.body with
  | .field id _ kind constants _ =>
    some (fieldClassLines a.package a.className id kind constants)
  | .component _ fields counters accessors _ =>
    some (componentClassLines a.package a.className fields counters accessors)
  | .message _ _ msgType accessors =>
    some (messageClassLines a.package a.className msgType accessors)
  | .messageBase beginString => some (messageBaseLines a.package a.className beginString)
  | .messageFactory names cases fallback =>
    some (factoryLines a.package a.className names cases fallback)
  | .messageCracker names crack => some (crackerLines a.package a.className names crack)
  | .bare => none

/-- Lines as a text, each with its end. -/
def joinLines (lines : List String) : String := String.join (lines.map (· ++ "\n"))

/-- The source text of an artifact.  It holds integers of any length: `Number.maxDigits` does not
bear on it. -/
def render (a : Artifact) : Except RenderFault String :=
  match sourceLines? a with
  | none => .error .unknownBody
  | some lines =>
    if areOrdered a.accessors then .ok (joinLines lines) else .error .emptyOrder

end Java
end FixBindings
