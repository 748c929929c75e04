import LintServer.Host.Script.Reader
import LintServer.Host.Shell.Builtin
import LintServer.Host.Shell.Part

set_option autoImplicit false

namespace LintServer

structure Chosen where
  shown : List Text
  args : List Text
  words : List Script.Word
  functions : Bool
  path : Option Text
  special : Option Bool
  assigns : Bool

namespace Run

def fill (calls : Calls) : List Script.Word → Run (List Text × List Script.Word)
  | [] => return ([], [])
  | w :: rest => do
    match ← arguments calls w with
    | [] => fill calls rest
    | found => return (found, rest)

def filled (calls : Calls) (count : Nat) (c : Chosen) : Run Chosen := do
  if count < c.args.length then return c
  let (found, rest) ← fill calls c.words
  return { c with shown := c.shown ++ found, args := c.args ++ found, words := rest }

/-- The command behind the word that says that no function is meant; `none` if that word asks what a
name stands for, or nothing follows it. The second component has all words that were expanded. -/
def behind (calls : Calls) : Nat → Nat → Chosen → Run (Option Chosen × Chosen)
  | 0, _, c => return (none, c)
  | fuel + 1, count, c => do
    let c ← filled calls count c
    let from_ (n : Nat) : Chosen := { c with args := c.args.drop n, functions := false }
    match c.args[count]? with
    | none => return (none, c)
    | some arg =>
      if arg = "--" then
        let c ← filled calls (count + 1) c
        if count + 1 < c.args.length then
          return (some { c with args := c.args.drop (count + 1), functions := false }, c)
        else return (none, c)
      else match arg with
        | 0x2D :: b :: letters =>
          if (b :: letters).all (· == 0x70) then
            behind calls fuel (count + 1) { c with path := some Shell.standardPath }
          else return (none, c)
        | _ => return (some (from_ count), c)

def isOwn (s : Shell) (c : Chosen) (name : Text) : Bool :=
  Shell.ownCommands.contains name && (!c.functions || (s.functions.lookup name).isNone)

def choose (calls : Calls) : Nat → Chosen → Run Chosen
  | 0, c => return c
  | fuel + 1, c => do
    match c.args with
    | [] => return c
    | name :: _ =>
      if !isOwn (← get) c name then return { c with assigns := false }
      let c := { c with
        special := some (c.special.getD (Shell.specialCommands.contains name))
        assigns := Shell.assigningCommands.contains name }
      if name ≠ "command" then return c
      match ← behind calls (c.args.length + c.words.length + 1) 1 c with
      | (some c, _) => choose calls fuel c
      | (none, c) => return { c with path := none }

def completed (calls : Calls) (c : Chosen) : Run Chosen := do
  let found ← c.words.mapM fun w =>
    if c.assigns && w.assignment?.isSome then do return [← textOf calls .assignment w]
    else arguments calls w
  return { c with
    shown := c.shown ++ found.flatten, args := c.args ++ found.flatten, words := [] }

def traceStart (calls : Calls) : Run Text := do
  let s ← get
  let text := (s.value? "PS4").getD []
  let source := { Script.Source.ofText text with
    returned := if s.atEnd then some .endOfFile else none }
  set { s with tracing := true }
  let expanded : Run Text := do
    match Script.Reader.body.run source with
    | .error fault =>
      modify fun s => { s with line := fault.line }
      fail ("Syntax error: " ++ fault.error.message)
    | .ok (w, _) => textOf calls .document w
  let result ← observed expanded
  modify fun t => { t with tracing := s.tracing, line := s.line, status := s.status }
  match result with
  | .ok expanded => return expanded
  | .error .error => return text
  | .error stop => throw stop

def trace (calls : Calls) (errors : Option Nat) (words : List Text) : Run Unit := do
  let s ← get
  if s.has "xtrace" && !s.tracing then
    let text := (← traceStart calls) ++ Text.joinWith " " words ++ "\n"
    modify fun s =>
      match s.host.write errors text with
      | .ok h => { s with host := h }
      | .error _ => s

def program (calls : Calls) (replaces : Bool) (name path : Text) (args : List Text) : Run Nat := do
  let s ← get
  let refused (status : Nat) (reason : Text) : Run Nat := do
    warn (name ++ ": " ++ reason)
    setStatus status
    if replaces then throw .finish
    return status
  match s.host.kind s.directory path with
  | .ok (.program found) =>
    match calls.program found with
    | none => throw (.gone (.signal 9))
    | some run =>
      let h := { s.host with nextProcess := s.host.nextProcess + 1 }
      let (ending, h) := run s.asProcess name args h
      set { s.makeRoom with host := h }
      if replaces then throw (.gone ending)
      awaited ending
  | .ok _ => refused 126 FileError.notPermitted.reason
  | .error .notFound | .error .notDirectory => refused 127 "not found"
  | .error .nameTooLong => refused 127 FileError.nameTooLong.reason
  | .error e => refused 126 e.reason

def maxDepth : Nat := 1000

def function (calls : Calls) (tested : Bool) (f : Shell.Function) (args : List Text) : Run Nat := do
  let before ← get
  if maxDepth ≤ before.depth then
    fail ("Maximum function recursion depth (" ++ Text.ofNat maxDepth ++ ") reached")
  set { before with
    arguments := args, optionIndex := 1, optionOffset := none, loops := 0, depth := before.depth + 1 }
  let result ← observed (calls.tree ⟨tested, false⟩ f.body)
  modify fun s => { s with
    arguments := before.arguments
    optionIndex := before.optionIndex
    optionOffset := before.optionOffset
    loops := before.loops
    depth := before.depth
    skip := match s.skip with
      | some (.back _) => none
      | other => other }
  let _ ← resume result
  return (← get).status

def evaluateText (calls : Calls) (tested : Bool) (args : List Text) : Run Nat :=
  calls.script ⟨tested, false⟩ (Text.joinWith " " args)

def commandFile (name : Text) : Run Text := do
  if List.contains name Text.slash then return name
  let s ← get
  let isFile (path : Text) : Bool := match s.host.kind s.directory path with
    | .ok (.file _) | .ok (.program _) => true
    | _ => false
  match (Shell.candidates s.path name).find? isFile with
  | some path => return path
  | none => fail (name ++ ": not found")

def includeFile (calls : Calls) (args : List Text) : Run Nat := do
  match ← noOptions args with
  | [] => return 0
  | name :: _ =>
    let path ← commandFile name
    let s ← get
    match s.host.opened s.asProcess path .read with
    | .error e => fail ("cannot open " ++ path ++ ": " ++ openReason "No such file" e)
    | .ok (channel, h) =>
      let text := match h.left (some channel) with
        | .ok text => text
        | .error _ => []
      modify fun s => { s with caller := some path }
      let status ← calls.script .none text
      modify fun s => { s with
        skip := match s.skip with
          | some (.back _) => none
          | other => other }
      return status

def replace (calls : Calls) (args : List Text) : Run Nat := do
  match args with
  | [] => return 0
  | name :: args =>
    if List.contains name Text.slash then program calls true name name args
    else match (← get).program (← get).path name with
      | .ok path => program calls true name path args
      | .error reason =>
        setStatus (if reason = "not found" then 127 else 126)
        warn (name ++ ": " ++ reason)
        throw .finish

def ownCommand (calls : Calls) (tested : Bool) (name : Text) (args : List Text) : Run Nat :=
  if name = "eval" then evaluateText calls tested args
  else if name = "." then includeFile calls args
  else if name = "exec" then replace calls args
  else match own? name with
    | some run => run args
    | none => return 0

def asCommand (special : Bool) (name : Option Text) (body : Run Nat) : Run Nat := do
  let caller := (← get).caller
  modify fun s => { s with caller := name }
  let result ← observed body
  let flushed ← flush
  match result with
  | .ok status =>
    if !flushed then warn (name.getD [] ++ ": I/O error")
    setStatus (if flushed then status else status ||| 1)
  | .error _ => pure ()
  modify fun s => { s with caller := caller }
  match result with
  | .error .error => if special then throw .error
  | .error stop => throw stop
  | .ok _ => pure ()
  return (← get).status

def assignment (calls : Calls) (isLocal exported : Bool) (w : Script.Word) : Run Text := do
  let text ← textOf calls .assignment w
  if isLocal then makeLocal text true
  else
    let (name, value) := Text.cut 0x3D text
    setVariable name (some (value.getD [])) exported false
  return text

def execute (calls : Calls) (purpose : Purpose) (c : Chosen) : Run Nat := do
  match c.args with
  | [] => asCommand false none (return (← get).substituted)
  | name :: args =>
    let s ← get
    if isOwn s c name then
      asCommand (c.special = some true) (some name) (ownCommand calls purpose.tested name args)
    else match ← find c.functions c.path name with
      | .function f => function calls purpose.tested f args
      | .program path => program calls (purpose.last && !s.hasTraps) name path args
      | .builtin => return 0
      | .unknown reason =>
        warn (name ++ ": " ++ reason)
        setStatus 127
        return 127

/-- Runs a simple command. Without words it gives variables their values; with words these hold for
the command only, unless it is a special one. -/
def simple (calls : Calls) (purpose : Purpose) (line : Nat) (assignments words : List Script.Word)
    (redirects : List Script.Redirect) : Run Nat := do
  modify fun s => { s with line := line, substituted := 0 }
  let (args, rest) ← fill calls words
  let c ← choose calls (words.length + args.length + 1) ⟨args, args, rest, true, none, none, false⟩
  let c ← completed calls c
  let s ← get
  let depth := s.locals.length
  let levels := s.redirected.length
  let isLocal : Bool := !c.args.isEmpty && c.special ≠ some true
  let replaces : Bool := match c.args with
    | name :: _ => name = "exec" && isOwn s c name
    | [] => false
  if isLocal then set { s with locals := [] :: s.locals }
  let errors := s.descriptors.lookup 2
  let aims ← redirects.mapM (aim calls)
  let redirected ← redirect calls aims
  let status ← if !redirected then do
      setStatus 2
      if c.special = some true then throw .error
      pure 2
    else do
      let assigned ← assignments.mapM
        (assignment calls isLocal (replaces && 1 < c.args.length))
      trace calls errors (assigned ++ c.shown)
      execute calls purpose c
  if replaces then endRedirect true
  unwindDescriptors levels
  unwindLocals depth
  return status

end Run

end LintServer
