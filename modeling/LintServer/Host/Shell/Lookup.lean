import LintServer.Host.Script.Source
import LintServer.Host.Shell.Option
import LintServer.Host.Shell.Signal

set_option autoImplicit false

namespace LintServer

inductive Meaning where
  | function (f : Shell.Function)
  | builtin
  | program (path : Text)
  | unknown (reason : Text)

namespace Shell

def specialCommands : List Text := Script.reserved

def ownCommands : List Text :=
  specialCommands ++ Text.splitAt 0x20
    ("[ alias bg cd chdir command echo false fg getopts hash jobs kill printf pwd read test true " ++
      "type ulimit umask unalias wait")

def assigningCommands : List Text := ["alias", "export", "local", "readonly"]

def candidates (path name : Text) : List Text :=
  (path.splitAt 0x3A).map fun directory =>
    let directory := directory.takeWhile (· != 0x25)
    if directory = [] then name else directory ++ Text.slash :: name

def search (s : Shell) : List Text → Text → Except Text Text
  | [], reason => .error reason
  | path :: rest, reason =>
    match s.host.kind s.directory path with
    | .ok (.program _) => .ok path
    | .ok _ => search s rest FileError.notPermitted.reason
    | .error .notFound | .error .notDirectory => search s rest reason
    | .error e => search s rest e.reason

def program (s : Shell) (path name : Text) : Except Text Text :=
  s.search (candidates path name) "not found"

def entry (s : Shell) (functions : Bool) (path : Option Text) (name : Text) : Meaning :=
  if List.contains name Text.slash then .program name
  else match if functions then s.functions.lookup name else none with
    | some f => .function f
    | none =>
      if ownCommands.contains name then .builtin
      else match path, s.found.lookup name with
        | none, some found => .program found
        | _, _ =>
          match s.program (path.getD s.path) name with
          | .ok found => .program found
          | .error reason => .unknown reason

def remember (s : Shell) (name : Text) : Meaning → Shell
  | .program path =>
    if List.contains name Text.slash || s.found.any fun f => f.1 = name then s
    else { s with found := s.found ++ [(name, path)] }
  | _ => s

def row (size : Nat) (name : Text) : Nat :=
  ((name.headD 0).toNat * 16 + (name.map UInt8.toNat).foldl (· + ·) 0) % size

def inRows {α : Type} (size : Nat) (entries : List (Text × α)) : List (Text × α) :=
  (List.range size).flatMap fun n => entries.filter fun e => row size e.1 = n

def aliasLine (a : Text × Text) : Text := a.1 ++ "=" ++ quoted a.2 ++ "\n"

end Shell

namespace Run

def find (functions : Bool) (path : Option Text) (name : Text) : Run Meaning := do
  let entry := (← get).entry functions path name
  if path.isNone then modify fun s => s.remember name entry
  return entry

def describe (inWords : Bool) (path : Option Text) (name : Text) : Run Nat := do
  let s ← get
  let tells (words brief : Text) : Run Nat := do
    output (if inWords then name ++ " is " ++ words ++ "\n" else brief ++ "\n")
    return 0
  if Script.keywords.contains name then tells "a shell keyword" name
  else match s.aliases.lookup name with
    | some value =>
      if inWords then tells ("an alias for " ++ value) []
      else
        output ("alias " ++ Shell.aliasLine (name, value))
        return 0
    | none =>
      let tracked := path.isNone && (s.found.lookup name).isSome
      let isThere : Bool := !List.contains name Text.slash ||
        (s.host.kind s.directory name).isOk
      let entry ← if isThere then find true path name else pure (.unknown [])
      match entry with
      | .function _ => tells "a shell function" name
      | .builtin =>
        tells (if Shell.specialCommands.contains name then "a special shell builtin"
          else "a shell builtin") name
      | .program found =>
        tells (if tracked then "a tracked alias for " ++ found else found) found
      | .unknown _ =>
        if inWords then output (name ++ ": not found\n")
        return 127

def describeAll : List Text → Run Nat
  | [] => return 0
  | name :: rest => do
    let status ← describe true none name
    return status ||| (← describeAll rest)

def hash (args : List Text) : Run Nat := do
  let (found, names) ← options "r" args
  if !found.isEmpty then
    modify fun s => { s with found := [] }
    return 0
  if names.isEmpty then
    (Shell.inRows 31 (← get).found).forM fun f => output (f.2 ++ "\n")
    return 0
  let statuses ← names.mapM fun name => do
    modify fun s => { s with found := s.found.filter fun f => f.1 ≠ name }
    match ← find true none name with
    | .unknown reason =>
      warn (name ++ ": " ++ reason)
      return 1
    | _ => return 0
  return statuses.foldl (· ||| ·) 0

def setAliases (args : List Text) : Run Nat := do
  if args.isEmpty then
    (Shell.inRows 39 (← get).aliases).forM fun a => output (Shell.aliasLine a)
    return 0
  let statuses ← args.mapM fun arg => do
    let (rest, value) := Text.cut 0x3D (arg.drop 1)
    let name := arg.take 1 ++ rest
    match value, (← get).aliases.lookup name with
    | some value, some _ =>
      modify fun s => { s with
        aliases := s.aliases.map fun a => if a.1 = name then (name, value) else a }
      return 0
    | some value, none =>
      modify fun s => { s with aliases := s.aliases ++ [(name, value)] }
      return 0
    | none, some value =>
      output (Shell.aliasLine (name, value))
      return 0
    | none, none =>
      tell 2 ("alias: " ++ name ++ " not found\n")
      return 1
  return statuses.foldl (· ||| ·) 0

def unalias (args : List Text) : Run Nat := do
  let (found, names) ← options "a" args
  if !found.isEmpty then
    modify fun s => { s with aliases := [] }
    return 0
  let statuses ← names.mapM fun name => do
    if ((← get).aliases.lookup name).isNone then
      tell 2 ("unalias: " ++ name ++ " not found\n")
      return 1
    modify fun s => { s with aliases := s.aliases.filter fun a => a.1 ≠ name }
    return 0
  return statuses.foldl (· ||| ·) 0

end Run

end LintServer
