import LintServer.Host.Shell.Expansion

set_option autoImplicit false

namespace LintServer

inductive Aim where
  | opened (descriptor : Nat) (path : Text) (way : Host.Opening)
  | guarded (descriptor : Nat) (path : Text)
  | copied (descriptor : Nat) (source : Option Nat)
  | document (descriptor : Nat) (id : Nat)
deriving DecidableEq, Repr

namespace Run

def copySource (text : Text) : Run (Option Nat) := do
  match text with
  | [b] =>
    if b = 0x2D then return none
    else if Text.isDigit b then return some (b.toNat - 0x30)
    else illFormed
  | _ => illFormed
where
  illFormed : Run (Option Nat) := do
    modify fun s => { s with line := s.readingLine }
    fail "Syntax error: Bad fd number"

def aim (calls : Calls) (r : Script.Redirect) : Run Aim := do
  let path (w : Script.Word) : Run Text := textOf calls .single w
  match r with
  | .read descriptor w => return .opened descriptor (← path w) .read
  | .write descriptor w => return .guarded descriptor (← path w)
  | .replace descriptor w => return .opened descriptor (← path w) .write
  | .append descriptor w => return .opened descriptor (← path w) .append
  | .update descriptor w => return .opened descriptor (← path w) .update
  | .copy descriptor w => return .copied descriptor (← copySource (← path w))
  | .document descriptor id => return .document descriptor id

def openReason (missing : Text) : FileError → Text
  | .notFound | .notDirectory => missing
  | e => e.reason

def lead (keeps : Bool) (descriptor : Nat) (channel : Option Nat) : Run Unit := modify fun s =>
  let s := match keeps, s.redirected with
    | true, level :: rest =>
      if level.any fun saved => saved.1 = descriptor then s
      else { s with redirected := ((descriptor, s.descriptors.lookup descriptor) :: level) :: rest }
    | _, _ => s
  s.connect descriptor channel

def openAt (keeps : Bool) (descriptor : Nat) (path : Text) (way : Host.Opening) : Run Unit := do
  let s ← get
  match s.host.opened s.asProcess path way with
  | .ok (channel, h) =>
    set { s with host := h }
    lead keeps descriptor (some channel)
  | .error e =>
    if way = .read then fail ("cannot open " ++ path ++ ": " ++ openReason "No such file" e)
    else fail ("cannot create " ++ path ++ ": " ++ openReason "Directory nonexistent" e)

def documentText (calls : Calls) (id : Nat) : Run Text := do
  match (← get).documents.lookup id with
  | some (.plain text) => return text
  | some (.expanded body) => textOf calls .document body
  | none => return []

def perform (calls : Calls) (keeps : Bool) : Aim → Run Unit
  | .opened descriptor path way => openAt keeps descriptor path way
  | .guarded descriptor path => do
    let s ← get
    match s.has "noclobber", s.host.kind s.directory path with
    | false, _ | true, .ok (.device _) => openAt keeps descriptor path .write
    | true, .ok .directory => fail ("cannot open " ++ path ++ ": " ++ FileError.isDirectory.reason)
    | true, _ => openAt keeps descriptor path .create
  | .copied descriptor none => lead keeps descriptor none
  | .copied descriptor (some source) => do
    if source ≠ descriptor then
      match (← get).descriptors.lookup source with
      | some channel => lead keeps descriptor (some channel)
      | none => fail (Text.ofNat source ++ ": " ++ ChannelError.notOpen.reason)
  | .document descriptor id => do
    let text ← documentText calls id
    let s ← get
    let (channel, h) := s.host.addChannel (.source text)
    set { s with host := h }
    lead keeps descriptor (some channel)

def redirect (calls : Calls) (aims : List Aim) : Run Bool := do
  modify fun s => { s with redirected := [] :: s.redirected }
  match ← observed (aims.forM (perform calls true)) with
  | .ok () => return true
  | .error .error => return false
  | .error stop => throw stop

def endRedirect (kept : Bool) : Run Unit := do
  if kept then modify fun s => { s with redirected := s.redirected.drop 1 }
  else unwindDescriptors ((← get).redirected.length - 1)

end Run

end LintServer
