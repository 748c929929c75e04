import LintServer.Json.Over
import LintServer.Path
import LintServer.Text.Quoted

set_option autoImplicit false

namespace LintServer

inductive LogLevel where
  | critical
  | error
  | warning
  | notice
  | info
  | debug
deriving DecidableEq, Repr

namespace LogLevel

def rank : LogLevel → Nat
  | critical => 0
  | error => 1
  | warning => 2
  | notice => 3
  | info => 4
  | debug => 5

def all : List (LogLevel × Text) := [(critical, "CRITICAL"), (error, "ERROR"),
  (warning, "WARNING"), (notice, "NOTICE"), (info, "INFO"), (debug, "DEBUG")]

def ofName? (name : Text) : Option LogLevel :=
  (all.find? fun level => level.2 = name.map Text.toUpper).map Prod.fst

end LogLevel

structure Config where
  /-- The workspace directory that the tools run in; empty if the client or the working directory
  decides. -/
  root : Text
  linter : List Text
  formatter : List Text
  analyzer : List Text
  minimalEdits : Bool
  logLevel : Text
  logFile : Text
deriving DecidableEq, Repr

inductive InvalidConfig where
  | emptyLinter
  | emptyFormatter
  | logLevel (name : Text)
deriving DecidableEq, Repr

def invalidLogLevel : Text := "logger: invalid log level"

def InvalidConfig.message : InvalidConfig → Text
  | emptyLinter => "linter command is empty"
  | emptyFormatter => "formatter command is empty"
  | logLevel name => "log level " ++ Quoted.encode name ++ ": " ++ invalidLogLevel

namespace Config

def defaults : Config where
  root := []
  linter := ["cargo", "clippy", "--workspace", "--message-format", "json"]
  formatter := ["rustfmt", "--edition", "2021"]
  analyzer := []
  minimalEdits := true
  logLevel := "info"
  logFile := []

def validate (c : Config) : Except InvalidConfig Unit :=
  if c.linter = [] then .error .emptyLinter
  else if c.formatter = [] then .error .emptyFormatter
  else if (LogLevel.ofName? c.logLevel).isNone then .error (.logLevel c.logLevel)
  else .ok ()

def describe (c : Config) : Text :=
  let command (words : List Text) : Text := Quoted.encode (Text.joinWith " " words)
  "root=" ++ c.root ++ " linter=" ++ command c.linter ++ " formatter=" ++ command c.formatter ++
    " analyzer=" ++ command c.analyzer ++
    " minimal_edits=" ++ (if c.minimalEdits then "true" else "false" : String)

def resolveRoot (c : Config) (path : Text) : Config :=
  if c.root = [] ∨ Path.isAbsolute c.root then c
  else { c with root := Path.join (Path.directory path) c.root }

/-- A configuration as it is read: with what longer commands before left in its commands. -/
structure Draft where
  config : Config
  spareLinter : List Text
  spareFormatter : List Text
  spareAnalyzer : List Text
deriving DecidableEq, Repr

namespace Draft

def overCommand : Json.Over (Json.Slots Text) := Json.overSlots [] Json.overText

def formatFields : Json.Fields Draft := [
  ("minimal_edits", fun d json =>
    return { d with config.minimalEdits := ← Json.overBool d.config.minimalEdits json })]

def logFields : Json.Fields Draft := [
  ("level", fun d json =>
    return { d with config.logLevel := ← Json.overText d.config.logLevel json }),
  ("file", fun d json =>
    return { d with config.logFile := ← Json.overText d.config.logFile json })]

def fields (unknown : Json.Unknown) : Json.Fields Draft := [
  ("root", fun d json => return { d with config.root := ← Json.overText d.config.root json }),
  ("linter", fun d json => do
    let words ← overCommand ⟨d.config.linter, d.spareLinter⟩ json
    return { d with config.linter := words.items, spareLinter := words.spare }),
  ("formatter", fun d json => do
    let words ← overCommand ⟨d.config.formatter, d.spareFormatter⟩ json
    return { d with config.formatter := words.items, spareFormatter := words.spare }),
  ("analyzer", fun d json => do
    let words ← overCommand ⟨d.config.analyzer, d.spareAnalyzer⟩ json
    return { d with config.analyzer := words.items, spareAnalyzer := words.spare }),
  ("format", Json.overObject unknown formatFields),
  ("log", Json.overObject unknown logFields)]

end Draft

def readOver (unknown : Json.Unknown) : Json.Over Config := fun c json =>
  (Json.overObject unknown (Draft.fields unknown) ⟨c, [], [], []⟩ json).map Draft.config

end Config

end LintServer
