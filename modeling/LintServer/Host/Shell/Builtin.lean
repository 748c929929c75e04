import LintServer.Host.Shell.Condition
import LintServer.Host.Shell.Directory
import LintServer.Host.Shell.Format
import LintServer.Host.Shell.Job
import LintServer.Host.Shell.Lookup
import LintServer.Host.Shell.Pattern
import LintServer.Host.Shell.Read

set_option autoImplicit false

namespace LintServer

namespace Run

def exit (args : List Text) : Run Nat := do
  match args with
  | [] => pure ()
  | arg :: _ =>
    let n ← number arg
    modify fun s => { s with savedStatus := some n }
  throw .exit

def comeBack (args : List Text) : Run Nat := do
  match args with
  | [] =>
    modify fun s => { s with skip := some (.back false) }
    return (← get).status
  | arg :: _ =>
    let n ← number arg
    modify fun s => { s with skip := some (.back true) }
    return n

def leave (again : Bool) (args : List Text) : Run Nat := do
  let n ← match args with
    | [] => pure 1
    | arg :: _ =>
      let n ← number arg
      if n = 0 then illegalNumber arg
      pure n
  modify fun s =>
    let n := min n s.loops
    if n = 0 then s else { s with skip := some (if again then .next n else .leave n) }
  return 0

def echo (args : List Text) : Run Nat := do
  output (Echo.shellOutput args)
  return 0

def printf (args : List Text) : Run Nat := do
  match ← noOptions args with
  | [] => fail "usage: printf format [arg ...]"
  | format :: args =>
    let s := Format.printed format args
    output s.output
    s.complaints.forM fun complaint => warn complaint.message
    match s.fault with
    | some fault => fail fault.message
    | none => return if s.complaints.isEmpty then 0 else 1

def test (name : Text) (args : List Text) : Run Nat := do
  if name = "[" ∧ !(args.getLast?.any fun last => last.head? == some 0x5D) then fail "missing ]"
  let s ← get
  match Condition.holds ⟨s.host, s.directory⟩ (if name = "[" then args.dropLast else args) with
  | .ok true => return 0
  | .ok false => return 1
  | .error e => fail e.message

def listVariables (word : Text) (chosen : Shell.Variable → Bool) : Run Unit := do
  let chosen := (← get).bindings.filter fun v => chosen v.2
  (chosen.mergeSort fun a b => Glob.before a.1 b.1).forM fun (name, v) =>
    output (word ++ name ++ (match v.value with
      | some value => ("=" : Text) ++ Shell.quoted value
      | none => []) ++ "\n")

def mark (fixed : Bool) (args : List Text) : Run Nat := do
  let (found, rest) ← options "p" args
  if !found.isEmpty || rest.isEmpty then
    if fixed then listVariables "readonly " Shell.Variable.fixed
    else listVariables "export " Shell.Variable.exported
    return 0
  rest.forM fun arg => do
    let (name, value) := Text.cut 0x3D arg
    match value, (← get).binding? name with
    | none, some v =>
      modify fun s => s.setVariable name
        (some { v with exported := v.exported || !fixed, fixed := v.fixed || fixed })
    | _, _ =>
      if !Script.isName name then fail (name ++ ": bad variable name")
      setVariable name value (!fixed) fixed
  return 0

def makeLocals (args : List Text) : Run Nat := do
  if (← get).locals.isEmpty then fail "not in a function"
  args.forM fun arg => makeLocal arg false
  return 0

def setArguments (args : List Text) : Run Unit :=
  modify fun s => { s with arguments := args, optionIndex := 1, optionOffset := none }

def setAll (args : List Text) : Run Nat := do
  if args.isEmpty then
    listVariables [] fun v => v.value.isSome
    return 0
  let before := (← get).options
  let found := Shell.optionArguments false before args
  output found.listed
  modify fun s => { s with options := found.options }
  match found.fault with
  | some e => fail e.message
  | none => pure ()
  if found.options.contains "monitor" then
    warn "can't access tty; job control turned off"
    modify fun s => { s with options := Shell.switched s.options "monitor" false }
  if found.ended || !found.rest.isEmpty then setArguments found.rest
  return 0

def shift (args : List Text) : Run Nat := do
  let n ← match args with
    | [] => pure 1
    | arg :: _ => number arg
  let arguments := (← get).arguments
  if arguments.length < n then fail "can't shift that many"
  setArguments (arguments.drop n)
  return 0

def unsetAll (args : List Text) : Run Nat := do
  let (found, rest) ← options "vf" args
  let functions : Bool := (found.getLast?.map Prod.fst) = some 0x66
  rest.forM fun name =>
    if functions then modify fun s => { s with functions := s.functions.filter fun f => f.1 ≠ name }
    else unset (Text.cut 0x3D name).1
  return 0

def times : Run Nat := do
  let line : Text := "0m0.000000s 0m0.000000s\n"
  output (line ++ line)
  return 0

def command (args : List Text) : Run Nat := do
  let (found, rest) ← options "pvV" args
  let path := if (found.lookup 0x70).isSome then some Shell.standardPath else none
  let inWords := (found.lookup 0x56).isSome
  match rest with
  | [] => return 0
  | name :: _ =>
    if inWords || (found.lookup 0x76).isSome then describe inWords path name else return 0

def limits : List (UInt8 × Text × Text) :=
  [(0x74, "time(seconds)", "unlimited"), (0x66, "file(blocks)", "unlimited"),
    (0x64, "data(kbytes)", "unlimited"), (0x73, "stack(kbytes)", "8192"),
    (0x63, "coredump(blocks)", "0"), (0x6D, "memory(kbytes)", "unlimited"),
    (0x6C, "locked memory(kbytes)", "8192"), (0x70, "process", "128597"),
    (0x6E, "nofiles", "20000"), (0x76, "vmemory(kbytes)", "unlimited"),
    (0x77, "locks", "unlimited"), (0x72, "rtprio", "0")]

def limit (args : List Text) : Run Nat := do
  let (found, rest) ← options "HSatfdscmlpnvwr" args
  let all := (found.lookup 0x61).isSome
  match rest with
  | [] =>
    if all then
      let row (l : UInt8 × Text × Text) : Text :=
        let gap : Text := List.replicate (20 - l.2.1.length) 0x20
        l.2.1 ++ gap ++ " " ++ l.2.2 ++ "\n"
      output (limits.flatMap row)
    else
      let asked := found.reverse.findSome? fun o => (limits.lookup o.1).map Prod.snd
      output (asked.getD ("unlimited" : Text) ++ "\n")
    return 0
  | value :: more =>
    if all || !more.isEmpty then fail "too many arguments"
    if value ≠ "unlimited" && value.any (fun b => !Text.isDigit b) then fail "bad number"
    return 0

abbrev Own := List (Text × (List Text → Run Nat))

def ownOnShell : Own :=
  [("exit", exit), ("return", comeBack), ("break", leave false), ("continue", leave true),
    ("export", mark false), ("readonly", mark true), ("local", makeLocals), ("set", setAll),
    ("shift", shift), ("unset", unsetAll), ("trap", trap), ("times", fun _ => times),
    ("read", read), ("getopts", getopts), ("cd", changeDirectory), ("chdir", changeDirectory),
    ("umask", umask), ("alias", setAliases), ("unalias", unalias), ("hash", hash), ("wait", wait)]

def ownOfOutput : Own :=
  [(":", fun _ => pure 0), ("true", fun _ => pure 0), ("false", fun _ => pure 1), ("echo", echo),
    ("printf", printf), ("test", test "test"), ("[", test "["), ("pwd", workingDirectory),
    ("type", describeAll), ("command", command), ("kill", kill), ("fg", resumeJob),
    ("bg", resumeJob), ("jobs", listJobs),
    ("ulimit", limit)]

def own? (name : Text) : Option (List Text → Run Nat) :=
  ((ownOnShell.lookup name).orElse fun _ => ownOfOutput.lookup name)

end Run

end LintServer
