import LintServer.Host.Shell.Simple
import LintServer.Text.Lines

set_option autoImplicit false

namespace LintServer

namespace Run

inductive AfterRound where
  | goOn
  | again
  | stop
deriving DecidableEq, Repr

def skipLoop : Run AfterRound := do
  let s ← get
  match s.skip with
  | none => return .goOn
  | some (.leave n) =>
    set { s with skip := if n ≤ 1 then none else some (.leave (n - 1)) }
    return .stop
  | some (.next n) =>
    if n ≤ 1 then
      set { s with skip := none }
      return .again
    else
      set { s with skip := some (.next (n - 1)) }
      return .stop
  | some (.back _) => return .stop

def maxRounds : Nat := 1000000

def enterLoop : Run Unit := modify fun s => { s with loops := s.loops + 1 }

def leaveLoop : Run Unit := modify fun s => { s with loops := s.loops - 1 }

def rounds (calls : Calls) (tested whileTrue : Bool) (condition body : Script.Command) :
    Nat → Nat → Run Nat
  | 0, status => return status
  | fuel + 1, status => do
    let holds ← calls.tree ⟨true, false⟩ condition
    let given := (← get).skip = some (.back true)
    match ← skipLoop with
    | .stop => return if given then holds else status
    | .again => rounds calls tested whileTrue condition body fuel status
    | .goOn =>
      if (holds = 0) = whileTrue then
        let status ← calls.tree ⟨tested, false⟩ body
        if (← skipLoop) = .stop then return status
        rounds calls tested whileTrue condition body fuel status
      else return status

def each (calls : Calls) (tested : Bool) (name : Text) (body : Script.Command) :
    List Text → Nat → Run Nat
  | [], status => return status
  | value :: rest, _ => do
    assign name value
    let status ← calls.tree ⟨tested, false⟩ body
    if (← skipLoop) = .stop then return status
    each calls tested name body rest status

def selected (calls : Calls) (value : Text) :
    List (List Script.Word × Script.Command) → Run (Option Script.Command)
  | [] => return none
  | (patterns, body) :: rest => do
    let fits ← patterns.anyM fun w => do return Glob.fits (← patternOf calls w) value
    if fits then return some body else selected calls value rest

def foresee : Script.Command → Run Unit
  | .simple _ _ (w :: _) _ =>
    match Script.Word.plain? w with
    | some name => do
      if Script.isName name then
        let _ ← find true none name
    | none => pure ()
  | _ => pure ()

def pipe (calls : Calls) (purpose : Purpose) (commands : List Script.Command)
    (background : Bool) : Run Nat := do
  commands.forM foresee
  let process := (← get).host.nextProcess + commands.length - 1
  if background then
    let input ← nothingToRead
    let ending ← pipeFrom calls purpose.tested uninterrupted (some input) commands (.exit 0)
    modify fun s => s.addJob process commands.length ending
    return 0
  else awaited (← pipeFrom calls purpose.tested id none commands (.exit 0))

def setLine (line : Nat) : Run Unit := modify fun s => { s with line := line }

def subshell (calls : Calls) (purpose : Purpose) (background : Bool) (body : Script.Command)
    (redirects : List Script.Redirect) : Run Nat := do
  let aims ← redirects.mapM (aim calls)
  let tested := purpose.tested && !background
  let inside : Run Nat := do
    aims.forM (perform calls false)
    calls.tree ⟨tested, true⟩ body
  let s ← get
  if purpose.last && !background && !s.hasTraps then inside
  else if background then
    let input ← nothingToRead
    let ending ← apart calls (fun s => (uninterrupted s).connect 0 (some input)) inside
    modify fun t => t.addJob s.host.nextProcess 1 ending
    return 0
  else awaited (← apart calls id inside)

def ended (calls : Calls) (purpose : Purpose) (checked : Bool) (status : Nat) : Run Nat := do
  attend calls
  if (← get).has "errexit" && checked && !purpose.tested && status ≠ 0 then throw .finish
  if purpose.last then throw .finish
  return (← get).status

def commandBody (calls : Calls) (purpose : Purpose) : Script.Command → Run (Nat × Bool)
  | .nothing => return (0, false)
  | .simple line assignments words redirects => do
    let status ← simple calls purpose line assignments words redirects
    setStatus status
    return (status, true)
  | .redirected line body redirects => do
    setLine line
    let levels := (← get).redirected.length
    let aims ← redirects.mapM (aim calls)
    let opened ← redirect calls aims
    let status ← if opened then calls.tree ⟨purpose.tested, false⟩ body else pure 2
    unwindDescriptors levels
    setStatus status
    return (status, !opened)
  | .pipe commands background => do
    let status ← pipe calls purpose commands background
    setStatus status
    return (status, true)
  | .subshell line body redirects => do
    setLine line
    let status ← subshell calls purpose false body redirects
    setStatus status
    return (status, true)
  | .background line body redirects => do
    if line ≠ 0 then setLine line
    let status ← subshell calls purpose true body redirects
    setStatus status
    return (status, true)
  | .negated body => do
    let status := if (← calls.tree ⟨true, false⟩ body) = 0 then 1 else 0
    setStatus status
    return (status, false)
  | .both first second => do
    let status ← calls.tree ⟨true, false⟩ first
    if status ≠ 0 || (← get).skip.isSome then return (status, false)
    return (← calls.tree purpose second, false)
  | .either first second => do
    let status ← calls.tree ⟨true, false⟩ first
    if status = 0 || (← get).skip.isSome then return (status, false)
    return (← calls.tree purpose second, false)
  | .sequence first second => do
    let status ← calls.tree ⟨purpose.tested, false⟩ first
    if (← get).skip.isSome then return (status, false)
    return (← calls.tree purpose second, false)
  | .choice condition body otherwise => do
    let status ← calls.tree ⟨true, false⟩ condition
    if (← get).skip.isSome then return (status, false)
    if status = 0 then return (← calls.tree purpose body, false)
    match otherwise with
    | some other => return (← calls.tree purpose other, false)
    | none =>
      setStatus 0
      return (0, false)
  | .loop whileTrue condition body => do
    enterLoop
    let status ← rounds calls purpose.tested whileTrue condition body maxRounds 0
    leaveLoop
    setStatus status
    return (status, false)
  | .each line name words body => do
    setLine line
    let values := (← words.mapM (arguments calls)).flatten
    enterLoop
    let status ← each calls purpose.tested name body values 0
    leaveLoop
    setStatus status
    return (status, false)
  | .select line w branches => do
    setLine line
    let value ← textOf calls .single w
    let status ← match ← selected calls value branches with
      | none | some .nothing => pure 0
      | some body => calls.tree purpose body
    setStatus status
    return (status, false)
  | .define name line body => do
    modify fun s => { s with
      functions := (name, ⟨line, body⟩) :: s.functions.filter fun f => f.1 ≠ name
      found := s.found.filter fun f => f.1 ≠ name }
    setStatus 0
    return (0, false)

def tree (calls : Calls) (purpose : Purpose) (c : Script.Command) : Run Nat := do
  if (← get).has "noexec" then ended calls purpose false 0
  else match c with
    | .nothing => ended calls purpose false 0
    | _ =>
      attend calls
      let (status, checked) ← commandBody calls purpose c
      ended calls purpose checked status

def keepSource (source : Script.Source) : Run Unit := modify fun s => { s with
  documents := source.documents ++ s.documents
  documentCount := source.count
  readingLine := source.line
  atEnd := match source.returned with
    | some .endOfFile => true
    | _ => false }

def startedLines (count : Nat) (text : Text) : Text :=
  let started := text.take count
  if started.getLast? = some Text.lf then started
  else started ++ (Text.lines (text.drop count)).headD []

def lines (calls : Calls) (purpose : Purpose) (shown : Bool) :
    Nat → Script.Source → Nat → Run Nat
  | 0, _, status => return status
  | fuel + 1, source, status => do
    let s ← get
    let source := { source with
      aliases := s.aliases, awaited := [], documents := [], count := s.documentCount }
    let told (left : Nat) : Run Unit := do
      if shown && s.has "verbose" then
        tell 2 (startedLines (source.rest.length - left) source.rest)
    match Script.Reader.line.run source with
    | .error fault =>
      told fault.left
      setLine fault.line
      fail ("Syntax error: " ++ fault.error.message)
    | .ok (none, after) =>
      told after.rest.length
      return status
    | .ok (some c, after) =>
      told after.rest.length
      keepSource after
      let last := purpose.last && (← get).atEnd
      let result ← calls.tree ⟨purpose.tested, last⟩ c
      let status := match c with
        | .nothing => status
        | _ => result
      if (← get).skip.isSome then return status
      lines calls purpose shown fuel after status

def script (calls : Calls) (purpose : Purpose) (text : Text) : Run Nat := do
  let before := (← get).readingLine
  let status ← lines calls purpose false (text.length + 1) (.ofText text) 0
  modify fun s => { s with readingLine := before }
  return status

end Run

namespace Calls

def none (program : Text → Option Program) : Calls :=
  ⟨program, fun _ _ => throw (.gone (.signal 11)), fun _ _ => throw (.gone (.signal 11)),
    fun _ => throw (.gone (.signal 11)), fun _ _ _ => throw (.gone (.signal 11))⟩

def more (calls : Calls) : Calls :=
  ⟨calls.program, Run.tree calls, Run.script calls, Run.captured calls, Run.word calls⟩

def atMost (program : Text → Option Program) : Nat → Calls
  | 0 => none program
  | depth + 1 => (atMost program depth).more

end Calls

end LintServer
