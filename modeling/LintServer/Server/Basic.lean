import LintServer.Config.Basic
import LintServer.Diagnostic.Aggregator
import LintServer.Document.Store
import LintServer.Edit.Formatting
import LintServer.Protocol.Request
import LintServer.Symbol.Index
import LintServer.Symbol.Record

set_option autoImplicit false

namespace LintServer

inductive AnalyzerRun where
  | ended (run : ToolRun)
  | panicked (message : Text)
deriving DecidableEq, Repr

structure Tools where
  linter : ToolRun
  formatter : Text → ToolRun
  analyzer : Option AnalyzerRun

inductive Notification where
  | publish (p : Publish)
  | message (kind : Nat) (text : Text)
deriving DecidableEq, Repr

inductive Answer where
  | nothing
  | capabilities
  | hover (symbol : Option Symbol)
  | edits (edits : List TextEdit)
  | fixes (fixes : List QuickFix)
deriving DecidableEq, Repr

inductive ServerError where
  | notInitialized
  | unknownMethod (method : Text)
  | missingParams
  | invalidParams
  | notOpen (e : NotOpen)
  | format (e : FormatError)
deriving DecidableEq, Repr

namespace ServerError

def code : ServerError → Int
  | unknownMethod _ => -32601
  | missingParams | invalidParams => -32602
  | notOpen _ => 1
  | format (.failed _ _) => 2
  | notInitialized | format _ => -32600

def message : ServerError → Text
  | notInitialized => "server not initialized"
  | unknownMethod method => "method not supported: " ++ method
  | missingParams => "unexpected end of JSON input"
  | invalidParams => "parameters of a wrong type"
  | notOpen e => e.message
  | format e => e.message

end ServerError

structure Server where
  config : Config
  working : Text
  root : Text
  initialized : Bool
  documents : Store
  symbols : Index
  diagnostics : Aggregator

namespace Server

def name : Text := "tycheck"

def version : Text := "0.1.0"

def start (config : Config) (working : Text) : Server :=
  let root := if config.root = [] then working else config.root
  ⟨config, working, root, false, Store.empty, Index.empty, Aggregator.start root⟩

/-- The root that a client asks for: the first that it names, even if that is no usable one. -/
def requestedRoot (working : Text) (rootUri rootPath : Option Text) (folders : List Uri) : Text :=
  let root := match rootUri, rootPath, folders with
    | some uri, _, _ => FileUri.toPath uri
    | none, some path, _ => path
    | none, none, uri :: _ => FileUri.toPath uri
    | none, none, [] => []
  if root = [] then [] else Path.absolute working root

def setRoot (s : Server) (root : Text) : Server :=
  if s.config.root = [] ∧ root ≠ [] ∧ root ≠ s.root then
    { s with root := root, diagnostics := Aggregator.start root }
  else s

def refresh (s : Server) (run : ToolRun) : Server :=
  { s with diagnostics := s.diagnostics.refresh run }

def refreshNotifications (s : Server) (run : ToolRun) : List Notification :=
  (s.diagnostics.publishes run).map .publish ++
    (s.diagnostics.refreshErrors run).map fun e => .message 1 e.message

def analyzerFailure? : Option AnalyzerRun → Option Text
  | some (.panicked message) => some ("analyzer pass failed: panic: " ++ message)
  | some (.ended ⟨_, some failure⟩) => some ("analyzer pass failed: " ++ failure.message)
  | _ => none

def analyze (s : Server) : Option AnalyzerRun → Server
  | some (.ended ⟨output, none⟩) => { s with symbols := s.symbols.install (Symbol.decode output) }
  | _ => s

def analyzerNotifications (run : Option AnalyzerRun) : List Notification :=
  (analyzerFailure? run).toList.map (.message 1)

def readyMessage : Notification := .message 3 (name ++ " " ++ version ++ " ready")

structure Outcome where
  server : Server
  answer : Except ServerError Answer
  sent : List Notification

def quietly (s : Server) (answer : Answer) : Outcome := ⟨s, .ok answer, []⟩

def handle (tools : Text → Tools) (s : Server) : Request → Outcome
  | .setup rootUri rootPath folders =>
    quietly { s.setRoot (requestedRoot s.working rootUri rootPath folders) with
      initialized := true } .capabilities
  | .ready =>
    let run := (tools s.root).linter
    ⟨s.refresh run, .ok .nothing, readyMessage :: s.refreshNotifications run⟩
  | .shutdown => quietly { s with initialized := false } .nothing
  | .exit | .setTrace => quietly s .nothing
  | .didOpen uri text => quietly { s with documents := s.documents.put uri text } .nothing
  | .didChange uri changes =>
    match s.documents.edit uri changes with
    | .ok documents => quietly { s with documents := documents } .nothing
    | .error _ => quietly s .nothing
  | .didSave _ =>
    let run := (tools s.root).linter
    let pass := (tools s.root).analyzer
    ⟨(s.refresh run).analyze pass, .ok .nothing,
      s.refreshNotifications run ++ analyzerNotifications pass⟩
  | .didClose uri =>
    match s.documents.close uri with
    | .ok documents => quietly { s with documents := documents } .nothing
    | .error _ => quietly s .nothing
  | .hover uri position => quietly s (.hover (s.symbols.find? uri position))
  | .formatting uri =>
    match s.documents.text? uri with
    | none => ⟨s, .error (.notOpen ⟨uri⟩), []⟩
    | some text =>
      match formatEdits s.config.minimalEdits text ((tools s.root).formatter text) with
      | .ok edits => quietly s (.edits edits)
      | .error e => ⟨s, .error (.format e), []⟩
  | .codeAction uri range => quietly s (.fixes (s.diagnostics.quickFixes uri range))

/-- Handles a message by its method. Before the session is initialized only a request to do that is
handled. -/
def receive (tools : Text → Tools) (s : Server) (method : Text) (params : Option Json) : Outcome :=
  if !s.initialized && method ≠ "initialize" then ⟨s, .error .notInitialized, []⟩
  else match Request.decode method params with
    | .error .unknownMethod => ⟨s, .error (.unknownMethod method), []⟩
    | .error .missingParams => ⟨s, .error .missingParams, []⟩
    | .error .invalidParams => ⟨s, .error .invalidParams, []⟩
    | .ok request => handle tools s request

end Server

end LintServer
