import LintServer.Host.Effect
import LintServer.Host.Script.Tree
import LintServer.Host.Shell.Integer

set_option autoImplicit false

namespace LintServer

structure Shell.Variable where
  value : Option Text
  exported : Bool
  fixed : Bool
deriving DecidableEq, Repr

structure Shell.Function where
  line : Nat
  body : Script.Command

inductive Shell.Skip where
  | leave (levels : Nat)
  | next (levels : Nat)
  | back (given : Bool)
deriving DecidableEq, Repr

inductive Shell.Saved where
  | variable (name : Text) (before : Option Shell.Variable)
  | options (before : List Text)

structure Shell.Job where
  number : Nat
  process : Nat
  stages : Nat
  ending : Ending
  ended : Bool
  waited : Bool
deriving DecidableEq, Repr

structure Shell where
  host : Host
  directory : Text
  descriptors : List (Nat × Nat)
  name : Text
  arguments : List Text
  optionIndex : Nat
  optionOffset : Option Nat
  bindings : List (Text × Shell.Variable)
  functions : List (Text × Shell.Function)
  aliases : List (Text × Text)
  documents : List (Nat × Script.Document)
  documentCount : Nat
  options : List Text
  status : Nat
  substituted : Nat
  savedStatus : Option Nat
  line : Nat
  readingLine : Nat
  atEnd : Bool
  caller : Option Text
  skip : Option Shell.Skip
  loops : Nat
  depth : Nat
  locals : List (List Shell.Saved)
  redirected : List (List (Nat × Option Nat))
  traps : List (Nat × Text)
  ignored : List Nat
  pending : List Nat
  sent : List Nat
  jobs : List Shell.Job
  lastJob : Option Nat
  found : List (Text × Text)
  process : Nat
  isPart : Bool
  mask : Nat
  tracing : Bool
  buffer : Text

inductive Stop where
  | error
  | exit
  | finish
  | gone (ending : Ending)
deriving DecidableEq, Repr

structure Purpose where
  tested : Bool
  last : Bool
deriving DecidableEq, Repr

def Purpose.none : Purpose := ⟨false, false⟩

namespace Shell

def has (s : Shell) (option : Text) : Bool := s.options.contains option

def standardPath : Text := "/usr/local/sbin:/usr/local/bin:/usr/sbin:/usr/bin:/sbin:/bin"

def blanks : Text := [0x20, 0x09, 0x0A]

def binding? (s : Shell) (name : Text) : Option Variable := s.bindings.lookup name

def value? (s : Shell) (name : Text) : Option Text := (s.binding? name).bind Variable.value

def setVariable (s : Shell) (name : Text) (v : Option Variable) : Shell :=
  { s with bindings :=
    (v.map fun v => (name, v)).toList ++ s.bindings.filter fun other => other.1 ≠ name }

def ownVariables (s : Process) (parent : Nat) : List (Text × Variable) :=
  let plain (name : Text) (value : Text) : Text × Variable := (name, ⟨some value, false, false⟩)
  [plain "PS1" "# ", plain "PS2" "> ", plain "PS4" "+ ", plain "IFS" blanks, plain "OPTIND" "1",
    plain "PPID" (Text.ofNat parent),
    ("PWD", ⟨some s.directory, (s.environment.lookup ("PWD" : Text)).isSome, false⟩)]

def isTaken (name : Text) : Bool :=
  (["IFS", "OPTIND", "PPID", "PWD"] : List Text).contains name

def start (p : Process) (name : Text) (h : Host) : Shell :=
  let own := ownVariables p (h.nextProcess - 1)
  let given := p.environment.filterMap fun (name, value) =>
    if isTaken name || !Script.isName name then none
    else some (name, (⟨some value, true, false⟩ : Variable))
  let own := own.filter fun v => (given.lookup v.1).isNone
  { host := { h with nextProcess := h.nextProcess + 1 }
    directory := p.directory
    descriptors := p.descriptors
    name := name
    arguments := []
    optionIndex := 1
    optionOffset := none
    bindings := own ++ given
    functions := []
    aliases := []
    documents := []
    documentCount := 0
    options := []
    status := 0
    substituted := 0
    savedStatus := none
    line := 0
    readingLine := 1
    atEnd := false
    caller := none
    skip := none
    loops := 0
    depth := 0
    locals := []
    redirected := []
    traps := []
    ignored := p.ignored
    pending := []
    sent := []
    jobs := []
    lastJob := none
    found := []
    process := h.nextProcess
    isPart := false
    mask := 0x12
    tracing := false
    buffer := [] }

def asProcess (s : Shell) : Process :=
  ⟨s.directory,
    s.bindings.filterMap fun (name, v) =>
      if v.exported then v.value.map fun value => (name, value) else none,
    s.descriptors,
    s.ignored ++ (s.traps.filter fun t => t.1 ≠ 0 && t.2 = []).map Prod.fst⟩

def path (s : Shell) : Text := (s.value? "PATH").getD []

def separators (s : Shell) : Text := (s.value? "IFS").getD blanks

def connect (s : Shell) (descriptor : Nat) (channel : Option Nat) : Shell :=
  { s with descriptors :=
    (channel.map fun c => (descriptor, c)).toList ++ s.descriptors.filter fun d => d.1 ≠ descriptor }

def tell (s : Shell) (descriptor : Nat) (text : Text) : Shell :=
  { s with host := s.asProcess.tell s.host descriptor text }

end Shell

abbrev Run := ExceptT Stop (StateM Shell)

namespace Run

def setStatus (status : Nat) : Run Unit := modify fun s => { s with status := status }

def tell (descriptor : Nat) (text : Text) : Run Unit := modify fun s => s.tell descriptor text

def warn (message : Text) : Run Unit := do
  let s ← get
  let caller : Text := match s.caller with
    | some name => name ++ ": "
    | none => []
  tell 2 (s.name ++ ": " ++ Text.ofNat s.line ++ ": " ++ caller ++ message ++ "\n")

def fail {α : Type} (message : Text) : Run α := do
  setStatus 2
  warn message
  throw .error

def output (text : Text) : Run Unit := modify fun s => { s with buffer := s.buffer ++ text }

def flush : Run Bool := modifyGet fun s =>
  match s.asProcess.write s.host 1 s.buffer with
  | .ok h => (true, { s with host := h, buffer := [] })
  | .error _ => (false, { s with buffer := [] })

def observed {α : Type} (body : Run α) : Run (Except Stop α) := fun s =>
  let (result, s) := body.run s
  (.ok result, s)

def resume {α : Type} : Except Stop α → Run α
  | .ok a => return a
  | .error stop => throw stop

def illegalNumber {α : Type} (text : Text) : Run α := fail ("Illegal number: " ++ text)

def greatestNumber : Int := 2147483647

def number (text : Text) : Run Nat := do
  match Integer.whole? false text with
  | some n =>
    if n < 0 ∨ greatestNumber < n then illegalNumber text else return n.toNat
  | none => illegalNumber text

def setVariable (name : Text) (value : Option Text) (exported fixed : Bool) : Run Unit := do
  let s ← get
  let before := s.binding? name
  if before.any Shell.Variable.fixed then fail (name ++ ": is read only")
  if name = "OPTIND" then
    let n ← number (value.getD [])
    modify fun s => { s with optionIndex := if n = 0 then 1 else n, optionOffset := none }
  if name = "PATH" then modify fun s => { s with found := [] }
  let exported := exported || s.has "allexport" || (value.isSome && before.any Shell.Variable.exported)
  modify fun s => s.setVariable name
    (if value.isNone && !exported && !fixed then none else some ⟨value, exported, fixed⟩)

def assign (name value : Text) : Run Unit := do
  if !Script.isName name then fail (name ++ ": bad variable name")
  setVariable name (some value) false false

def unset (name : Text) : Run Unit := do
  if !Script.isName name then fail (name ++ ": bad variable name")
  let s ← get
  if (s.binding? name).any Shell.Variable.fixed then fail (name ++ ": is read only")
  setVariable name none false false
  modify fun s => s.setVariable name none

def restore : Shell.Saved → Run Unit
  | .options before => modify fun s => { s with options := before }
  | .variable name before => do
    if name = "OPTIND" then
      match before.bind Shell.Variable.value with
      | some text =>
        let n := ((Integer.whole? false text).getD 0).toNat
        modify fun s => { s with optionIndex := if n = 0 then 1 else n, optionOffset := none }
      | none => pure ()
    if name = "PATH" then modify fun s => { s with found := [] }
    modify fun s => s.setVariable name before

def unwindLocals (depth : Nat) : Run Unit := do
  let s ← get
  let count := s.locals.length - depth
  set { s with locals := s.locals.drop count }
  (s.locals.take count).forM fun saved => saved.forM restore

def makeLocal (text : Text) (exported : Bool) : Run Unit := do
  let s ← get
  let keep (saved : Shell.Saved) : Run Unit := modify fun s =>
    match s.locals with
    | [] => s
    | first :: rest => { s with locals := (saved :: first) :: rest }
  if text = "-" then keep (.options s.options)
  else
    let (name, value) := Text.cut 0x3D text
    let before := s.binding? name
    match value with
    | some value =>
      if !Script.isName name then fail (name ++ ": bad variable name")
      setVariable name (some value) exported false
    | none =>
      if !Script.isName name then fail (name ++ ": bad variable name")
    keep (.variable name before)

def unwindDescriptors (depth : Nat) : Run Unit := modify fun s =>
  let count := s.redirected.length - depth
  let put (s : Shell) (saved : Nat × Option Nat) : Shell := s.connect saved.1 saved.2
  let back (s : Shell) (level : List (Nat × Option Nat)) : Shell := level.foldl put s
  (s.redirected.take count).foldl back { s with redirected := s.redirected.drop count }

end Run

end LintServer
