import FixBindings.Schema.Basic

/-!
# A sample repository

A small dialect with a standard header and trailer, session messages, session groups, application
messages in one and in two scenarios, a group within a group, and code sets of every type.
-/

set_option autoImplicit false

namespace FixBindings
namespace Sample

/-- The version of the sample. -/
def version : String := "FIX.Latest_EP269"

/-- Declares a field. -/
def declare (id : Int) (name type : String) : Field := { id, name, type }

/-- The fields of the sample. -/
def fields : List Field := [
  declare 8 "BeginString" "String",
  declare 9 "BodyLength" "Length",
  declare 35 "MsgType" "MsgTypeCodeSet",
  declare 49 "SenderCompID" "String",
  declare 56 "TargetCompID" "String",
  declare 34 "MsgSeqNum" "SeqNum",
  declare 52 "SendingTime" "UTCTimestamp",
  declare 10 "CheckSum" "String",
  declare 627 "NoHops" "NumInGroup",
  declare 628 "HopCompID" "String",
  declare 629 "HopSendingTime" "UTCTimestamp",
  declare 98 "EncryptMethod" "EncryptMethodCodeSet",
  declare 108 "HeartBtInt" "int",
  declare 141 "ResetSeqNumFlag" "ResetSeqNumFlagCodeSet",
  declare 112 "TestReqID" "String",
  declare 384 "NoMsgTypes" "NumInGroup",
  declare 372 "RefMsgType" "String",
  declare 385 "MsgDirection" "MsgDirectionCodeSet",
  declare 58 "Text" "String",
  declare 11 "ClOrdID" "String",
  declare 37 "OrderID" "String",
  declare 17 "ExecID" "String",
  declare 150 "ExecType" "ExecTypeCodeSet",
  declare 54 "Side" "SideCodeSet",
  declare 38 "OrderQty" "Qty",
  declare 44 "Price" "Price",
  declare 6 "AvgPx" "Price",
  declare 14 "CumQty" "Qty",
  declare 40 "OrdType" "OrdTypeCodeSet",
  declare 60 "TransactTime" "UTCTimestamp",
  declare 75 "TradeDate" "LocalMktDate",
  declare 55 "Symbol" "String",
  declare 453 "NoPartyIDs" "NumInGroup",
  declare 448 "PartyID" "String",
  declare 452 "PartyRole" "PartyRoleCodeSet",
  declare 802 "NoPartySubIDs" "NumInGroup",
  declare 523 "PartySubID" "String"]

/-- Declares a code set. -/
def enumerate (name type : String) (codes : List (String × String)) : CodeSet :=
  { name, type, codes := codes.map fun (name, value) => { name, value } }

/-- The code sets of the sample. -/
def codeSets : List CodeSet := [
  enumerate "MsgTypeCodeSet" "String" [("Heartbeat", "0"), ("Logon", "A"), ("Logout", "5"),
    ("NewOrderSingle", "D"), ("ExecutionReport", "8")],
  enumerate "EncryptMethodCodeSet" "int" [("None", "0"), ("PKCS", "1")],
  enumerate "ResetSeqNumFlagCodeSet" "Boolean" [("No", "N"), ("Yes", "Y")],
  enumerate "MsgDirectionCodeSet" "char" [("Receive", "R"), ("Send", "S")],
  enumerate "SideCodeSet" "char" [("Buy", "1"), ("Sell", "2"), ("SellShort", "5")],
  enumerate "OrdTypeCodeSet" "char" [("Market", "1"), ("Limit", "2")],
  enumerate "ExecTypeCodeSet" "char" [("New", "0"), ("PartialFill", "1"), ("Trade", "F")],
  enumerate "PartyRoleCodeSet" "int" [("ExecutingFirm", "1"), ("ClearingFirm", "4")]]

/-- The components of the sample. -/
def components : List Component := [
  { id := 1024, name := "StandardHeader", members := [.field 8, .field 9, .field 35, .field 49,
      .field 56, .field 34, .field 52, .group 2085] },
  { id := 1025, name := "StandardTrailer", members := [.field 10] },
  { id := 1003, name := "Instrument", members := [.field 55] },
  { id := 1012, name := "Parties", members := [.group 1012] }]

/-- The groups of the sample. -/
def groups : List Group := [
  { id := 2085, name := "HopGrp", counter := 627, members := [.field 628, .field 629] },
  { id := 2098, name := "MsgTypeGrp", counter := 384, members := [.field 372, .field 385] },
  { id := 1012, name := "PartiesGrp", counter := 453,
    members := [.field 448, .field 452, .group 1013] },
  { id := 1013, name := "PtysSubGrp", counter := 802, members := [.field 523] }]

/-- Members between the standard header and trailer. -/
def framed (members : List Member) : List Member :=
  [.component 1024] ++ members ++ [.component 1025]

/-- The messages of the sample. -/
def messages : List Message := [
  { name := "Heartbeat", msgType := "0", category := "Session", members := framed [.field 112] },
  { name := "Logon", msgType := "A", category := "Session",
    members := framed [.field 98, .field 108, .field 141, .group 2098] },
  { name := "Logout", msgType := "5", category := "Session", members := framed [.field 58] },
  { name := "NewOrderSingle", msgType := "D", category := "SingleGeneralOrderHandling",
    members := framed [.field 11, .component 1012, .component 1003, .field 54, .field 60,
      .field 38, .field 40, .field 44] },
  { name := "NewOrderSingle", msgType := "D", category := "SingleGeneralOrderHandling",
    scenario := "Limit",
    members := framed [.field 11, .component 1003, .field 54, .field 38, .field 44] },
  { name := "ExecutionReport", msgType := "8", category := "SingleGeneralOrderHandling",
    members := framed [.field 37, .field 17, .field 150, .field 11, .group 1012,
      .component 1003, .field 54, .field 14, .field 6, .field 75, .field 58] }]

/-- The sample repository, as of some version. -/
def repository (version : String := Sample.version) : Repository :=
  { name := "FIX.Latest", version, fields, codeSets, components, groups, messages }

end Sample
end FixBindings
