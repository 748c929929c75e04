import Std.Data.ExtTreeMap
import LintServer.Protocol.Shape
import LintServer.Text.Quoted

set_option autoImplicit false

namespace LintServer

inductive MessageId where
  | number (n : UInt64)
  | text (t : Text)
deriving DecidableEq, Repr

def MessageId.toJson : MessageId → Json
  | number n => .ofNat n.toNat
  | text t => .string t

structure Message where
  id : Option MessageId
  method : Text
  params : Option Json
deriving Repr

inductive Incoming where
  | message (m : Message)
  | response (id : MessageId) (outcome : Text × Json)
deriving Repr

inductive ProtocolError where
  | undetermined
  | missingMethod
  | malformedId (literal : Text)
  | idOutOfRange (literal : Text)
  | idOfKind (kind : Text)
  | emptyBatch
  | mixedBatch
  | wrongType (kind place : Text)
deriving DecidableEq, Repr

def ProtocolError.message : ProtocolError → Text
  | undetermined => "jsonrpc2: unable to determine message type (request or response)"
  | missingMethod => "missing method field"
  | malformedId literal =>
    "failed to unmarshal ID: strconv.ParseInt: parsing " ++ Quoted.encode literal ++
      ": invalid syntax"
  | idOutOfRange literal =>
    "failed to unmarshal ID: strconv.ParseInt: parsing " ++ Quoted.encode literal ++
      ": value out of range"
  | idOfKind kind => "unexpected ID type: " ++ kind
  | emptyBatch => "jsonrpc2: invalid empty batch"
  | mixedBatch =>
    "jsonrpc2: batch message type mismatch (must be all requests or all responses)"
  | wrongType kind place => "json: cannot unmarshal " ++ kind ++ " into Go " ++ place

namespace Incoming

def named? (name : Text) (members : List (Text × Json)) : Option Json :=
  match members.reverse.find? fun m => name.sameName m.1 with
  | none | some (_, .null) => none
  | some (_, json) => some json

def hasMember (name : Text) (members : List (Text × Json)) : Bool :=
  members.any fun m => name.sameName m.1

def kind : Json → Text
  | .null => "null"
  | .bool _ => "bool"
  | .number _ => "number"
  | .string _ => "string"
  | .array _ => "array"
  | .object _ => "object"

inductive Role where
  | request
  | response
deriving DecidableEq, Repr

mutual

def hugeNumber? : Json → Option Text
  | .null | .bool _ | .string _ => none
  | .number literal => if Decimal.isInRange literal then none else some literal
  | .array items => hugeItem? items
  | .object members => hugeMember? members

def hugeItem? : List Json → Option Text
  | [] => none
  | item :: rest => (hugeNumber? item).or (hugeItem? rest)

def hugeMember? : List (Text × Json) → Option Text
  | [] => none
  | (_, value) :: rest => (hugeNumber? value).or (hugeMember? rest)

end

def memberFault? (m : Text × Json) : Option ProtocolError :=
  let place (name type : Text) : Text := "struct field msg." ++ name ++ " of type " ++ type
  let known : List Text := ["id", "result", "error"]
  if Text.sameName "method" m.1 then
    match m.2 with
    | .null | .string _ => none
    | json => some (.wrongType (kind json) (place "method" "string"))
  else match known.find? fun name => name.sameName m.1 with
    | some name =>
      (hugeNumber? m.2).map fun literal =>
        .wrongType ("number " ++ literal) (place name "float64")
    | none => none

def checkMembers : Json → Except ProtocolError Unit
  | .null => .ok ()
  | .object members =>
    match members.findSome? memberFault? with
    | some fault => .error fault
    | none => .ok ()
  | json => .error (.wrongType (kind json) "value of type jsonrpc2.msg")

def role (json : Json) : Except ProtocolError Role :=
  let members := match json with
    | .object members => members
    | _ => []
  let isResponse := hasMember "result" members || (named? "error" members).isSome
  match (named? "method" members).isSome, isResponse with
  | true, false => .ok .request
  | false, true => .ok .response
  | _, _ => .error .undetermined

/-- The identifier of a message. A negative number wraps around. -/
def messageId : Option Json → Except ProtocolError (Option MessageId)
  | none | some .null => .ok none
  | some (.string t) => .ok (some (.text t))
  | some (.number literal) =>
    match Json.integer? literal with
    | none => .error (.malformedId literal)
    | some n =>
      if Shape.fitsSigned 64 literal then .ok (some (.number (Int64.ofInt n).toUInt64))
      else .error (.idOutOfRange literal)
  | some (.bool _) => .error (.idOfKind "bool")
  | some (.array _) => .error (.idOfKind "[]interface \x7b\x7d")
  | some (.object _) => .error (.idOfKind "map[string]interface \x7b\x7d")

def readMessage (json : Json) : Except ProtocolError Incoming :=
  match json.get? "method" with
  | some (.string method) => do
    let id ← messageId (json.get? "id")
    return message ⟨id, method, json.get? "params"⟩
  | _ => .error .missingMethod

def responseId : Option Json → MessageId
  | some (.string t) => .text t
  | some (.number literal) => .number ((Text.decimal? literal).getD 0).toUInt64
  | _ => .number 0

def errorJson (error : Option Json) : Json :=
  let members := match error with
    | some (.object members) => members
    | _ => []
  .ofFields [("code", some ((named? "code" members).getD (.ofNat 0))),
    ("message", some ((named? "message" members).getD (.string []))),
    ("data", named? "data" members)]

def errorMemberFault? (m : Text × Json) : Option ProtocolError :=
  let place (name type : Text) : Text := "struct field Error.error." ++ name ++ " of type " ++ type
  if Text.sameName "code" m.1 then
    match m.2 with
    | .null => none
    | .number literal =>
      if Shape.fitsSigned 64 literal then none
      else some (.wrongType ("number " ++ literal) (place "code" "int64"))
    | json => some (.wrongType (kind json) (place "code" "int64"))
  else if Text.sameName "message" m.1 then
    match m.2 with
    | .null | .string _ => none
    | json => some (.wrongType (kind json) (place "message" "string"))
  else none

def responseMemberFault? (m : Text × Json) : Option ProtocolError :=
  if Text.sameName "id" m.1 then
    if Shape.accepts (.either (.unsigned 64) .text) m.2 then none
    else some (.wrongType (kind m.2) "struct field tmpType.id of type string")
  else if Text.sameName "error" m.1 then
    match m.2 with
    | .null => none
    | .object members => members.findSome? errorMemberFault?
    | json => some (.wrongType (kind json) "struct field tmpType.error of type jsonrpc2.Error")
  else none

def readResponse (members : List (Text × Json)) : Except ProtocolError Incoming :=
  let ids := members.filter fun m => Text.sameName "id" m.1
  match (ids ++ members).findSome? responseMemberFault? with
  | some fault => .error fault
  | none =>
    let outcome : Text × Json :=
      if hasMember "result" members then ("result", (named? "result" members).getD .null)
      else ("error", errorJson (named? "error" members))
    .ok (response (responseId (named? "id" members)) outcome)

/-- Why a batch is refused. Every batch is, but first its values have to be of one role. -/
def batchFault (items : List Json) : ProtocolError :=
  let fault : Except ProtocolError ProtocolError := do
    let _ ← items.mapM checkMembers
    if items.isEmpty then return .emptyBatch
    let role ← items.foldlM (fun (before : Option Role) json => do
      let here ← role json
      if before.any (· ≠ here) then throw .mixedBatch else return some here) none
    let target : Text :=
      if role = some .request then "map[string]interface \x7b\x7d" else "jsonrpc2.tmpType"
    return .wrongType "array" ("value of type " ++ target)
  match fault with
  | .ok e | .error e => e

def ofJson (json : Json) : Except ProtocolError Incoming := do
  match json with
  | .array items => throw (batchFault items)
  | _ =>
    checkMembers json
    match ← role json, json with
    | .request, _ => readMessage json
    | .response, .object members => readResponse members
    | .response, _ => throw .undetermined

end Incoming

mutual

/-- Parameters arrive as sets of members: in order of their names, the last of equal names. -/
def Json.sorted : Json → Json
  | .array items => .array (sortedItems items)
  | .object members => .object (Std.ExtTreeMap.ofList (sortedMembers members)).toList
  | json => json

def Json.sortedItems : List Json → List Json
  | [] => []
  | json :: rest => Json.sorted json :: sortedItems rest

def Json.sortedMembers : List (Text × Json) → List (Text × Json)
  | [] => []
  | (name, json) :: rest => (name, Json.sorted json) :: sortedMembers rest

end

end LintServer
