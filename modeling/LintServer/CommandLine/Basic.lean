import LintServer.Check
import LintServer.CommandLine.Completion
import LintServer.Config.Find
import LintServer.Config.Load
import LintServer.Server.Trace

set_option autoImplicit false

namespace LintServer.CommandLine

structure Options where
  /-- The configuration file; if empty, the nearest one is searched. -/
  config : Text
  logLevel : Option Text
  logFile : Option Text
  debug : Bool
deriving DecidableEq, Repr

inductive Action where
  | version
  | help
  | complete (text : Text)
  | serve (options : Options)
  | check (options : Options) (color : Text) (directory : Option Text)
deriving DecidableEq, Repr

def Options.ofGiven (g : Given) : Options :=
  ⟨(g.value? "config").getD [], g.value? "log-level", g.value? "log-file", g.isOn "debug"⟩

def Verb.action (v : Verb) (given : Given) : Action :=
  match v with
  | serve => .serve (.ofGiven given)
  | check => .check (.ofGiven given) ((given.value? "color").getD "auto") given.words.head?
  | complete described => .complete ((Completion.ofWords given.words).render described)
  | help | completion | script _ => .help

def parse (args : List Text) : Except UsageError Action := do
  let (v, rest) ← Verb.find args
  let given ← v.read rest
  if given.isOn "help" then return .help
  else if given.isOn "version" then return .version
  else
    v.checkWords given.words
    return v.action given

inductive Failure where
  | usage (e : UsageError)
  | search (e : Config.StatFailure)
  | load (e : LoadError)
  | logLevel
  | logFile (path : Text) (cause : FileError)
  | tool (message : Text)
  | findings (errors : Nat)
deriving DecidableEq, Repr

def Failure.message : Failure → Text
  | usage e => e.message
  | search e => e.text
  | load e => e.message
  | logLevel => invalidLogLevel
  | logFile path cause => "open " ++ path ++ ": " ++ cause.message
  | tool message => message
  | findings errors => Text.ofNat errors ++ " errors"

/-- Where a command runs, with what reads configuration files and runs tools there. -/
structure Site where
  files : Files
  working : Text
  decoders : Config.Decoders
  invoke : Command → Text → ToolRun

structure Log where
  place : Option (List Text)
  level : LogLevel
  entries : List LogEntry

def Log.add (l : Log) (entries : List LogEntry) : Log :=
  { l with entries := l.entries ++ entries.filter (LogEntry.shownAt l.level) }

def openLog (site : Site) (level path : Text) : Except Failure Log :=
  match LogLevel.ofName? level with
  | none => .error .logLevel
  | some level =>
    if path = [] then .ok ⟨none, level, []⟩
    else match site.files.openWriting site.working path with
      | .ok place => .ok ⟨some place, level, []⟩
      | .error cause => .error (.logFile path cause)

def configPath (site : Site) (options : Options) : Except Failure (Option Text) :=
  if options.config ≠ [] then .ok (some options.config)
  else match Config.find (site.files.ask site.working) site.working "." with
    | .ok path => .ok path
    | .error e => .error (.search e)

def setUp (site : Site) (options : Options) : Except Failure (Config × Log) := do
  let path ← configPath site options
  let config ← match path with
    | none => pure Config.defaults
    | some path =>
      match Config.load site.decoders site.files site.working path with
      | .ok config => pure config
      | .error e => throw (.load e)
  let config := { config with
    logLevel := options.logLevel.getD config.logLevel
    logFile := options.logFile.getD config.logFile }
  let log ← openLog site config.logLevel config.logFile
  let loaded := path.toList.map fun path => ⟨"command", .info, "loaded " ++ path⟩
  return (config, log.add loaded)

def runTool (site : Site) (directory : Text) (words : List Text) (input : Text) : ToolRun :=
  match Command.ofWords? directory words with
  | some command => site.invoke command input
  | none => ⟨[], none⟩

structure Outcome where
  failure : Option Failure
  output : Text
  log : Option Log

def checkLog (root : Text) (words : List Text) (run : ToolRun) : List LogEntry :=
  let entry (level : LogLevel) (message : Text) : LogEntry := ⟨"command", level, message⟩
  let complaints := (Finding.complaints (Finding.ofOutput root run.output)).map fun c =>
    entry .warning c.message
  Server.runningNote words :: match run.failure with
    | some (.other _) => []
    | some failure => entry .debug failure.message :: complaints
    | none => complaints

def checkRoot (site : Site) (config : Config) (directory : Option Text) : Text :=
  let root := directory.getD config.root
  Path.absolute site.working (if root = [] then "." else root)

def runCheck (site : Site) (options : Options) (color : Text) (directory : Option Text) : Outcome :=
  match setUp site options with
  | .error failure => ⟨some failure, [], none⟩
  | .ok (config, log) =>
    let root := checkRoot site config directory
    let run := runTool site root config.linter []
    let log := log.add (checkLog root config.linter run)
    match check (color = "on") root run with
    | .error message => ⟨some (.tool message), [], some log⟩
    | .ok report =>
      ⟨if report.errors = 0 then none else some (.findings report.errors), report.output, some log⟩

structure Service where
  site : Site
  session : Session
  log : Log
  debug : Bool

namespace Service

def note (s : Service) (entries : List LogEntry) : Service := { s with log := s.log.add entries }

def tools (s : Service) (root : Text) : Tools where
  linter := runTool s.site root s.session.server.config.linter []
  formatter := runTool s.site root s.session.server.config.formatter
  analyzer :=
    if s.session.server.config.analyzer = [] then none
    else some (.ended (runTool s.site root s.session.server.config.analyzer []))

def start (site : Site) (config : Config) (log : Log) (debug : Bool) : Service :=
  let server := Server.start config site.working
  let service : Service := ⟨site, ⟨server, false⟩, log, debug⟩
  service.note [⟨"command", .info, "configuration: " ++ config.describe⟩, server.rootNote,
    Server.note .info "reading from stdin, writing to stdout"]

def trace (s : Service) (entries : List LogEntry) : Service := if s.debug then s.note entries else s

def handle (s : Service) (m : Message) : Service × List Notification × Option Response :=
  let (session, sent, response) := s.session.receive s.tools m
  let noted := s.note ((s.session.events s.tools m).filterMap (Event.entry? s.debug))
  let traced := noted.trace (response.toList.map (Trace.answered m.method) ++
    (s.session.silentFailure? s.tools m).toList.map (Trace.failed m.method))
  ({ traced with session := session }, sent, response)

/-- What happens when a JSON value arrives. One that cannot be understood closes the connection, and
a response is left alone. -/
def receive (s : Service) (json : Json) : Service × List Notification × Option Response :=
  if s.session.closed then (s, [], none)
  else match Incoming.ofJson json with
    | .error e => ({ s.trace [Trace.refused e] with session := s.session.close }, [], none)
    | .ok incoming =>
      let traced := s.trace [Trace.received incoming]
      match incoming with
      | .response id _ => (traced.trace [Trace.ignored id], [], none)
      | .message m => traced.handle m

def stop (s : Service) : Service := s.note [Server.note .info "stdin/stdout connection closed"]

end Service

structure Served where
  service : Service
  sent : List Notification
  responses : List Response

def Service.receiveAll (s : Service) (values : List Json) : Served :=
  values.foldl (fun served json =>
    let (service, sent, response) := served.service.receive json
    ⟨service, served.sent ++ sent, served.responses ++ response.toList⟩) ⟨s, [], []⟩

def openService (site : Site) (options : Options) : Except Failure Service := do
  let (config, log) ← setUp site options
  return Service.start site config log options.debug

def versionLine : Text := program ++ " version " ++ Server.version ++ "\n"

end LintServer.CommandLine
