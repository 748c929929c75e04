import LintServer.Json.Render
import LintServer.Server.Log
import LintServer.Text.Quoted

set_option autoImplicit false

namespace LintServer

def MessageId.shown : MessageId → Text
  | number n => Text.ofNat n.toNat
  | text t => Quoted.encode t

namespace Trace

def entry (direction kind : Text) (id : Option MessageId) (method : Text) (content : Json) :
    LogEntry :=
  let tag : Text := match id with
    | some id => " #" ++ id.shown
    | none => ""
  Server.note .debug
    ("jsonrpc2: " ++ direction ++ " " ++ kind ++ tag ++ ": " ++ method ++ ": " ++ content.render)

def received : Incoming → LogEntry
  | .message m =>
    entry "-->" (if m.id.isSome then "request" else "notif") m.id m.method
      ((m.params.map Json.sorted).getD .null)
  | .response id (kind, content) => entry "-->" kind (some id) "(no matching request)" content

def sent (n : Notification) : LogEntry := entry "<--" "notif" none n.method n.params

def answered (method : Text) (r : Response) : LogEntry :=
  let (kind, content) := r.outcomeMember
  entry "<--" kind (some r.id) (if method = [] then "(no previous request)" else method) content

def ignored (id : MessageId) : LogEntry :=
  Server.note .debug
    ("jsonrpc2: ignoring response #" ++ id.shown ++ " with no corresponding request")

def refused (e : ProtocolError) : LogEntry :=
  Server.note .debug ("jsonrpc2: protocol error: " ++ e.message)

def failed (method : Text) (e : ServerError) : LogEntry :=
  Server.note .debug ("jsonrpc2 handler: notification " ++ Quoted.encode method ++
    " handling error: jsonrpc2: code " ++ Text.ofInt e.code ++ " message: " ++ e.message)

end Trace

def Event.entry? (traffic : Bool) : Event → Option LogEntry
  | logged e => some e
  | sent n => if traffic then some (Trace.sent n) else none

end LintServer
