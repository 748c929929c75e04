import LintServer.Host.Site
import LintServer.Json.Parse
import LintServer.Protocol.Frame

set_option autoImplicit false

namespace LintServer.Main

open CommandLine

def bytes (text : Text) : ByteArray := ⟨text.toArray⟩

def ofBytes (b : ByteArray) : Text := b.data.toList

def addPaths (files : Files) (paths : List Text) : IO Files :=
  paths.foldlM (fun files path =>
    match String.fromUTF8? (bytes path) with
    | none => pure files
    | some name => do
      try
        return files.addFile path (ofBytes (← IO.FS.readBinFile name))
      catch _ => return files) files

def snapshot (named : List Text) : IO Site := do
  let here ← IO.currentDir
  let working : Text := Text.ofString here.toString
  let mut files := Files.empty.addDirectory working
  for path in ← here.walkDir do
    let name := Text.ofString path.toString
    if ← path.isDir then files := files.addDirectory name
    else files ← addPaths files [name]
  files ← addPaths files (Config.candidates working ++ named.map (Path.absolute working))
  return .ofFiles files working

def writeLog (log : Log) (start : Nat) : IO Unit := do
  let lines := (log.entries.drop start).flatMap LogEntry.written
  match log.place with
  | none => (← IO.getStderr).write (bytes lines)
  | some place =>
    match String.fromUTF8? (bytes (Path.ofElements true place)) with
    | none => pure ()
    | some name =>
      let handle ← IO.FS.Handle.mk name .append
      handle.write (bytes lines)

def fail (failure : Failure) : IO UInt32 := do
  (← IO.getStderr).write (bytes ("Error: " ++ failure.message ++ "\n"))
  return 1

partial def readHeader (input : IO.FS.Stream) (lines : List Text) : IO (Option (List Text)) := do
  let line ← input.getLine
  if line.isEmpty then return none
  match Frame.dropLineEnd (Text.ofString line) with
  | [] => return some lines.reverse
  | text => readHeader input (text :: lines)

partial def readBody (input : IO.FS.Stream) (left : Nat) (body : ByteArray) : IO ByteArray := do
  if left = 0 then return body
  let chunk ← input.read left.toUSize
  if chunk.isEmpty then return body
  readBody input (left - chunk.size) (body ++ chunk)

partial def serve (input output : IO.FS.Stream) (service : Service) : IO Service := do
  if service.session.closed then return service
  match (← readHeader input []).bind Frame.bodyLength? with
  | none => return service
  | some length =>
    let body ← readBody input length .empty
    match Json.parse? (ofBytes body) with
    | none => return service
    | some json =>
      let (after, sent, response) := service.receive json
      let version : Text × Json := ("jsonrpc", .string "2.0")
      for json in sent.map Notification.toJson ++ response.toList.map Response.toJson do
        match json with
        | .object members => output.write (bytes (Frame.encode (.object (version :: members))))
        | _ => pure ()
      output.flush
      writeLog after.log service.log.entries.length
      serve input output after

def run (action : Action) : IO UInt32 := do
  match action with
  | .help => return 0
  | .version =>
    (← IO.getStdout).write (bytes versionLine)
    return 0
  | .complete text =>
    (← IO.getStdout).write (bytes text)
    return 0
  | .check options color directory =>
    let outcome := runCheck (← snapshot [options.config]) options color directory
    (← IO.getStdout).write (bytes outcome.output)
    if let some log := outcome.log then writeLog log 0
    match outcome.failure with
    | some failure => fail failure
    | none => return 0
  | .serve options =>
    match openService (← snapshot [options.config]) options with
    | .error failure => fail failure
    | .ok service =>
      writeLog service.log 0
      let after ← serve (← IO.getStdin) (← IO.getStdout) service
      writeLog after.stop.log after.log.entries.length
      return 0

end LintServer.Main

def main (args : List String) : IO UInt32 :=
  match LintServer.CommandLine.parse (args.map LintServer.Text.ofString) with
  | .error e => LintServer.Main.fail (.usage e)
  | .ok action => LintServer.Main.run action
