import LintServer.Host.Shell.Execution

set_option autoImplicit false

namespace LintServer.Shell

inductive Origin where
  | text (script : Text)
  | file (path : Text)
  | input
deriving DecidableEq, Repr

structure Invocation where
  options : List Text
  origin : Origin
  name : Text
  arguments : List Text
deriving DecidableEq, Repr

inductive InvocationError where
  | option (e : OptionError)
  | noScript
deriving DecidableEq, Repr

def InvocationError.message : InvocationError → Text
  | option e => e.message
  | noScript => "-c requires an argument"

def invocation (name : Text) (found : OptionArguments) : Except InvocationError Invocation := do
  match found.fault with
  | some e => throw (.option e)
  | none => pure ()
  let reads := found.rest.isEmpty || found.options.contains "stdin"
  match found.script, found.rest with
  | true, [] => throw .noScript
  | true, script :: rest =>
    return ⟨found.options, .text script, rest.headD name, rest.tail⟩
  | false, [] => return ⟨switched found.options "stdin" true, .input, name, []⟩
  | false, path :: rest =>
    if reads then return ⟨found.options, .input, name, path :: rest⟩
    else return ⟨found.options, .file path, path, rest⟩

def maxNesting : Nat := 20000

def runLines (calls : Calls) (shown : Bool) (text : Text) : Run Nat :=
  Run.lines calls ⟨false, false⟩ shown (text.length + 1) (.ofText text) 0

def runInput (calls : Calls) : Run Nat := do
  let s ← get
  let input := s.descriptors.lookup 0
  match s.host.left input with
  | .ok text =>
    modify fun s => { s with host := s.host.skip input text.length }
    runLines calls true text
  | .error _ => return 0

def withoutTerminal : Run Unit := do
  let s ← get
  if s.has "monitor" || s.has "interactive" then
    Run.warn "can't access tty; job control turned off"
    modify fun s => { s with options := switched s.options "monitor" false }

def started (calls : Calls) (call : Invocation) : Run Nat := do
  withoutTerminal
  let s ← get
  modify fun s => { s with name := call.name, arguments := call.arguments }
  match call.origin with
  | .text script =>
    let status ← runLines calls false script
    if (← get).has "stdin" then runInput calls else return status
  | .input => runInput calls
  | .file path =>
    match s.host.opened s.asProcess path .read with
    | .error e =>
      modify fun t => { t with name := s.name }
      Run.fail ("cannot open " ++ path ++ ": " ++ Run.openReason "No such file" e)
    | .ok (channel, h) =>
      match h.left (some channel) with
      | .ok text => runLines calls true text
      | .error _ => return 0

def run (program : Text → Option Program) : Program := fun p name args h =>
  let found := optionArguments true [] args
  let h := p.tell h 1 found.listed
  match invocation name found with
  | .error e => (.exit 2, p.tell h 2 (name ++ ": 0: " ++ e.message ++ "\n"))
  | .ok call =>
    let calls := Calls.atMost program maxNesting
    let shell := { Shell.start p name h with options := call.options }
    let (result, shell) := (Run.conclude calls (started calls call)).run.run shell
    match result with
    | .ok ending => (ending, shell.host)
    | .error (.gone ending) => (ending, shell.host)
    | .error _ => (.exit shell.status, shell.host)

end LintServer.Shell
