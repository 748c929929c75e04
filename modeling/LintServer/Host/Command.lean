import LintServer.Host.Program
import LintServer.Text.Quoted
import LintServer.Tool

set_option autoImplicit false

namespace LintServer

namespace Command

inductive StartError where
  | noName
  | notFound (name : Text)
  | isDirectory (name : Text)
  | directory (path : Text) (cause : FileError)
  | program (path : Text) (cause : FileError)
deriving DecidableEq, Repr

def StartError.message : StartError → Text
  | noName => "exec: no command"
  | notFound name => "exec: " ++ Quoted.encode name ++ ": executable file not found in $PATH"
  | isDirectory name =>
    "exec: " ++ Quoted.encode name ++ ": " ++ FileError.isDirectory.message
  | directory path cause => "chdir " ++ path ++ ": " ++ cause.message
  | program path cause => "fork/exec " ++ path ++ ": " ++ cause.message

def lookUp (name : Text) : Except StartError Text :=
  if Host.programs.contains name then .ok ("/usr/bin/" ++ name) else .error (.notFound name)

def program (files : Files) (working : Text) (c : Command) : Except StartError Text := do
  if c.name = [] then throw .noName
  if c.name = [Text.slash] then throw (.isDirectory c.name)
  let path ← if List.contains c.name Text.slash then pure c.name else lookUp c.name
  let node ← match files.stat working c.directory with
    | .ok node => pure node
    | .error cause => throw (.directory c.directory cause)
  if (c.name :: c.args).any fun arg => List.contains arg 0 then throw (.program path .invalidName)
  if node ≠ .directory then throw (.program path .notDirectory)
  match (Host.ofFiles files []).kind (Path.absolute working c.directory) path with
  | .ok (.program name) => return name
  | .ok _ => throw (.program path .notPermitted)
  | .error cause => throw (.program path cause)

def maxNesting : Nat := 16

def environment (directory : Text) : List (Text × Text) :=
  [("PATH", Shell.standardPath), ("PWD", directory)]

def run (files : Files) (working : Text) (c : Command) (input : Text) : ToolRun × Files :=
  let directory := Path.absolute working c.directory
  match c.program files working with
  | .error e => (⟨[], some (.other ("run " ++ c.name ++ ": " ++ e.message))⟩, files)
  | .ok name =>
    match Program.named? maxNesting name with
    | none =>
      (⟨[], some (.other ("run " ++ c.name ++ ": " ++ (StartError.notFound c.name).message))⟩, files)
    | some run =>
      let (ending, h) := run (.start directory (environment directory)) c.name c.args
        (.ofFiles files input)
      let errors := h.textOf 2
      (⟨h.textOf 1,
        match ending with
        | .exit 0 => none
        | .exit status => some (.exit c.name status errors)
        | .signal _ => some (.exit c.name (-1) errors)⟩, h.files)

end Command

end LintServer
