import LintServer.Protocol.Diagnostic
import LintServer.Protocol.Incoming
import LintServer.Server.Basic

set_option autoImplicit false

namespace LintServer

def capabilitiesJson : Json :=
  .object [
    ("capabilities", .object [
      ("textDocumentSync", .object [
        ("openClose", .bool true),
        ("change", .ofNat 2),
        ("save", .object [("includeText", .bool false)])]),
      ("hoverProvider", .bool true),
      ("codeActionProvider", .object [("codeActionKinds", .array [.string "quickfix"])]),
      ("documentFormattingProvider", .bool true)]),
    ("serverInfo", .object [("name", .string Server.name), ("version", .string Server.version)])]

def Symbol.hoverJson (s : Symbol) : Json :=
  .object [
    ("contents", .object [
      ("kind", .string "markdown"),
      ("value", .string ("```rust\n" ++ s.name ++ ": " ++ s.type ++ "\n```"))]),
    ("range", s.range.toJson)]

def Answer.toJson : Answer → Json
  | nothing => .null
  | capabilities => capabilitiesJson
  | hover symbol => .ofOption Symbol.hoverJson symbol
  | edits list => .array (list.map TextEdit.toJson)
  | fixes list => .array (list.map QuickFix.toJson)

def ServerError.toJson (e : ServerError) : Json :=
  .object [("code", .ofInt e.code), ("message", .string e.message)]

namespace Notification

def method : Notification → Text
  | publish _ => "textDocument/publishDiagnostics"
  | message _ _ => "window/logMessage"

def params : Notification → Json
  | publish p => p.toJson
  | message kind text => .object [("type", .ofNat kind), ("message", .string text)]

def toJson (n : Notification) : Json :=
  .object [("method", .string n.method), ("params", n.params)]

end Notification

structure Response where
  id : MessageId
  outcome : Except ServerError Answer

namespace Response

def outcomeMember (r : Response) : Text × Json :=
  match r.outcome with
  | .ok answer => ("result", answer.toJson)
  | .error e => ("error", e.toJson)

def toJson (r : Response) : Json := .object [("id", r.id.toJson), r.outcomeMember]

end Response

structure Session where
  server : Server
  closed : Bool

namespace Session

def close (s : Session) : Session := { s with closed := true }

def receive (tools : Text → Tools) (s : Session) (m : Message) :
    Session × List Notification × Option Response :=
  if s.closed then (s, [], none)
  else if m.method = "exit" then (s.close, [], none)
  else
    let outcome := s.server.receive tools m.method (m.params.map Json.sorted)
    ({ s with server := outcome.server }, outcome.sent,
      m.id.map fun id => ⟨id, outcome.answer⟩)

def silentFailure? (tools : Text → Tools) (s : Session) (m : Message) : Option ServerError :=
  if s.closed ∨ m.method = "exit" ∨ m.id.isSome then none
  else match (s.server.receive tools m.method (m.params.map Json.sorted)).answer with
    | .ok _ => none
    | .error e => some e

end Session

end LintServer
