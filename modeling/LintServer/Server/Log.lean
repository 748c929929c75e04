import LintServer.Log
import LintServer.Protocol.Message

set_option autoImplicit false

namespace LintServer

inductive Event where
  | logged (e : LogEntry)
  | sent (n : Notification)

namespace Symbol

def rangeNotes (uri : Uri) (symbols : List Symbol) : List LogEntry :=
  symbols.filterMap fun s =>
    let skipping (kind : Text) : Option LogEntry :=
      some ⟨"symbols", .debug, uri ++ ": skipping " ++ kind ++ " symbol " ++ Quoted.encode s.name⟩
    if s.range.start.line ≠ s.range.stop.line then skipping "multi-line"
    else if s.isProper then none
    else skipping "empty"

def overlapNotes (uri : Uri) (last : Option Symbol) : List Symbol → List LogEntry
  | [] => []
  | s :: rest =>
    match last with
    | none => overlapNotes uri (some s) rest
    | some kept =>
      if startsInside kept s then
        ⟨"symbols", .warning, uri ++ ": symbol " ++ Quoted.encode s.name ++ " overlaps " ++
          Quoted.encode kept.name ++ ", skipping"⟩ :: overlapNotes uri last rest
      else overlapNotes uri (some s) rest

def tableNotes (uri : Uri) (symbols : List Symbol) : List LogEntry :=
  rangeNotes uri symbols ++ overlapNotes uri none
    ((symbols.filter isProper).mergeSort fun a b => a.range.start ≤ b.range.start)

end Symbol

namespace Server

def note (level : LogLevel) (message : Text) : LogEntry := ⟨"implementation", level, message⟩

def runningNote (words : List Text) : LogEntry :=
  ⟨"tool", .debug, "running " ++ Text.joinWith " " words⟩

def rootNote (s : Server) : LogEntry := note .info ("workspace root: " ++ s.root)

def refreshEvents (s : Server) (run : ToolRun) : List Event :=
  let entry (level : LogLevel) (message : Text) : Event := .logged ⟨"diagnostics", level, message⟩
  let after := s.refresh run
  let errors := s.diagnostics.refreshErrors run
  let exited := match run.failure with
    | some (.exit _ status _) => [entry .debug ("linter exited with status " ++ Text.ofInt status)]
    | _ => []
  .logged (runningNote s.config.linter) :: s.diagnostics.clears.map (.sent ∘ .publish) ++ exited ++
    errors.map (fun e => entry .error e.message) ++
    after.diagnostics.current.map (.sent ∘ .publish) ++
    [entry .info ("published diagnostics for " ++ Text.ofNat after.diagnostics.lists.size ++
      " documents")] ++
    errors.map fun e => .sent (.message 1 e.message)

def installLog (output : Text) : List LogEntry :=
  let groups := Symbol.decode output
  (Symbol.decodeErrors output).map (fun e => note .warning e.message) ++
    groups.toList.flatMap (fun group => Symbol.tableNotes group.1 group.2) ++
    [note .info ("installed symbol tables for " ++ Text.ofNat groups.size ++ " documents")]

def analyzeEvents (s : Server) (pass : Option AnalyzerRun) : List Event :=
  let running : Event := .logged (runningNote s.config.analyzer)
  match pass, analyzerFailure? pass with
  | none, _ => [.logged (note .info "no analyzer configured, skipping symbol analysis")]
  | _, some message => [running, .logged (note .error message), .sent (.message 1 message)]
  | some (.ended run), none => running :: (installLog run.output).map .logged
  | _, none => []

def formatLog (s : Server) (text : Text) (run : ToolRun) : List LogEntry :=
  runningNote s.config.formatter ::
    match s.config.minimalEdits, formatEdits s.config.minimalEdits text run with
    | true, .ok edits =>
      [⟨"format", .debug, "formatting produced " ++ Text.ofNat edits.length ++ " edits"⟩]
    | _, _ => []

def events (tools : Text → Tools) (s : Server) : Request → List Event
  | .setup rootUri rootPath folders =>
    let after := s.setRoot (requestedRoot s.working rootUri rootPath folders)
    if after.root = s.root then [] else [.logged after.rootNote]
  | .ready => .sent readyMessage :: s.refreshEvents (tools s.root).linter
  | .didOpen uri _ => [.logged ⟨"documents", .debug, "opened " ++ uri⟩]
  | .didChange uri changes =>
    match s.documents.edit uri changes with
    | .ok _ => []
    | .error e => [.logged (note .warning ("change to " ++ uri ++ " ignored: " ++ e.message))]
  | .didSave uri =>
    .logged (note .debug ("saved: " ++ uri)) :: s.refreshEvents (tools s.root).linter ++
      s.analyzeEvents (tools s.root).analyzer
  | .didClose uri =>
    match s.documents.close uri with
    | .ok _ => [.logged ⟨"documents", .debug, "closed " ++ uri⟩]
    | .error e => [.logged (note .warning ("close of " ++ uri ++ " ignored: " ++ e.message))]
  | .formatting uri =>
    match s.documents.text? uri with
    | some text => (s.formatLog text ((tools s.root).formatter text)).map .logged
    | none => []
  | .shutdown | .exit | .setTrace | .hover _ _ | .codeAction _ _ => []

end Server

def Session.events (tools : Text → Tools) (s : Session) (m : Message) : List Event :=
  if s.closed ∨ (!s.server.initialized ∧ m.method ≠ "initialize") then []
  else match Request.decode m.method (m.params.map Json.sorted) with
    | .ok request => s.server.events tools request
    | .error _ => []

end LintServer
