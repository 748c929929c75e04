import LintServer.Host.Shell.Job
import LintServer.Host.Shell.Redirection

set_option autoImplicit false

namespace LintServer

namespace Run

def attend (calls : Calls) : Run Unit := do
  let s ← get
  if s.pending.isEmpty then return ()
  let status := s.savedStatus.getD s.status
  set { s with savedStatus := some status, pending := [] }
  (List.range Signal.count).forM fun n => do
    if s.pending.contains n then
      if (← get).skip.isSome then modify fun s => { s with pending := n :: s.pending }
      else match (← get).traps.lookup n with
        | none => pure ()
        | some action =>
          let _ ← calls.script .none action
          if (← get).skip ≠ some (.back true) then setStatus status
  modify fun t => { t with savedStatus := s.savedStatus }

def settle (explicit : Bool) : Run Unit := modify fun s =>
  match s.savedStatus with
  | none => s
  | some n =>
    { s with
      savedStatus := none
      status := if explicit || s.skip = some (.back false) then n else s.status }

def settleAfter (stop : Stop) : Run Unit := do
  unwindDescriptors 0
  settle (stop = .exit)

def lastTrap (calls : Calls) : Run (Option Ending) := do
  let s ← get
  match s.traps.lookup 0 with
  | none => return none
  | some action =>
    set { s.setTrap 0 none with savedStatus := some s.status, skip := none }
    match ← observed (calls.script .none action) with
    | .error (.gone ending) => return some ending
    | .error stop =>
      settleAfter stop
      return none
    | .ok _ =>
      setStatus s.status
      return none

def conclude (calls : Calls) (body : Run Nat) : Run Ending := do
  match ← observed body with
  | .error (.gone ending) => return ending
  | .error stop => settleAfter stop
  | .ok _ => settleAfter .finish
  match ← lastTrap calls with
  | some ending => return ending
  | none => return .exit ((← get).status % 256)

def awaited (ending : Ending) : Run Nat := do
  modify Shell.noticeJobs
  announce ending
  return ending.status

def apart (calls : Calls) (prepare : Shell → Shell) (body : Run Nat) : Run Ending := do
  let before := (← get).makeRoom
  set (prepare { before with
    host := { before.host with nextProcess := before.host.nextProcess + 1 }
    traps := before.traps.filter fun t => t.2 = []
    loops := 0
    skip := none
    redirected := []
    jobs := []
    isPart := true
    pending := []
    sent := []
    buffer := [] })
  let ending ← conclude calls body
  let after ← get
  set { before with host := after.host }
  if before.isPart then modify fun s => { s with sent := s.sent ++ after.sent }
  else after.sent.forM receive
  return ending

def addChannel (c : Channel) : Run Nat := do
  let s ← get
  let (index, h) := s.host.addChannel c
  set { s with host := h }
  return index

def captured (calls : Calls) (body : Script.Command) : Run Text := do
  match body with
  | .nothing => return []
  | _ =>
    let channel ← addChannel (.sink [])
    let ending ← apart calls (fun s => s.connect 1 (some channel)) (calls.tree ⟨false, true⟩ body)
    let status ← awaited ending
    modify fun s => { s with substituted := status }
    return (← get).host.textOf channel

def pipeFrom (calls : Calls) (tested : Bool) (prepare : Shell → Shell) (input : Option Nat) :
    List Script.Command → Ending → Run Ending
  | [], last => return last
  | c :: rest, _ => do
    let output ← if rest.isEmpty then pure none else do pure (some (← addChannel (.sink [])))
    let led (descriptor : Nat) (channel : Option Nat) (s : Shell) : Shell :=
      if channel.isSome then s.connect descriptor channel else s
    let ending ← apart calls (fun s => led 1 output (led 0 input (prepare s)))
      (calls.tree ⟨tested, true⟩ c)
    match output with
    | some channel =>
      modify fun s => { s with
        host := s.host.setChannel channel (.source (s.host.textOf channel)) }
    | none => pure ()
    pipeFrom calls tested prepare output rest ending

def nothingToRead : Run Nat := addChannel (.device false ⟨true, false, false⟩)

def uninterrupted (s : Shell) : Shell := { s with ignored := 2 :: 3 :: s.ignored }

end Run

end LintServer
