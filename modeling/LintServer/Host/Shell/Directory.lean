import LintServer.Host.Shell.Option

set_option autoImplicit false

namespace LintServer

namespace Shell

def directoryAt (current path : Text) : Text :=
  let whole := if Path.isAbsolute path then path else current ++ Text.slash :: path
  let isDouble := Text.startsWith whole "//" && !Text.startsWith whole "///"
  (if isDouble then [Text.slash] else []) ++ Path.clean whole

def isRooted : Text → Bool
  | 0x2F :: _ => true
  | [0x2E] | [0x2E, 0x2E] => true
  | 0x2E :: 0x2F :: _ | 0x2E :: 0x2E :: 0x2F :: _ => true
  | _ => false

def isDirectory (s : Shell) (path : Text) : Bool :=
  match s.host.kind s.directory path with
  | .ok .directory => true
  | _ => false

end Shell

namespace Run

def enter (physical : Bool) (path : Text) : Run Bool := do
  let s ← get
  let there := if physical then Path.absolute s.directory path
    else Shell.directoryAt s.directory path
  if !s.isDirectory (if physical then path else there) then return false
  setVariable "OLDPWD" (some s.directory) true false
  setVariable "PWD" (some there) true false
  modify fun s => { s with directory := there }
  return true

def changeDirectory (args : List Text) : Run Nat := do
  let (found, rest) ← options "LP" args
  let physical : Bool := (found.getLast?.map Prod.fst) = some 0x50
  let s ← get
  let back : Bool := rest.head? = some ("-" : Text)
  let path := match rest with
    | [] => (s.value? "HOME").getD []
    | path :: _ => if back then (s.value? "OLDPWD").getD [] else path
  let path : Text := if path = [] then "." else path
  let listed : List Text := if Shell.isRooted path then [] else
    match s.value? "CDPATH" with
    | none => []
    | some list => list.splitAt 0x3A
  let inList? := listed.find? fun start =>
    s.isDirectory (if start = [] then path else start ++ Text.slash :: path)
  let target := match inList? with
    | some start => if start = [] then path else start ++ Text.slash :: path
    | none => path
  if !(← enter physical target) then fail ("can't cd to " ++ path)
  if back || inList?.any (· ≠ []) then output ((← get).directory ++ "\n")
  return 0

def workingDirectory (args : List Text) : Run Nat := do
  let (found, _) ← options "LP" args
  let directory := (← get).directory
  let physical : Bool := (found.getLast?.map Prod.fst) = some 0x50
  output ((if physical then Path.clean directory else directory) ++ "\n")
  return 0

def octalMask (mask : Nat) : Text :=
  [48 + (mask / 512 % 8).toUInt8, 48 + (mask / 64 % 8).toUInt8, 48 + (mask / 8 % 8).toUInt8,
    48 + (mask % 8).toUInt8]

def permissions (bits : Nat) : Text :=
  (if bits / 4 % 2 = 0 then [0x72] else []) ++ (if bits / 2 % 2 = 0 then [0x77] else []) ++
    (if bits % 2 = 0 then [0x78] else [])

/-- The permissions that letters ask for. Some are those of another group, and some depend on
whether anybody may execute, before any change. -/
def permissionBits? (before : Nat) : Text → Option Nat
  | [] => some 0
  | b :: rest => do
    let execute := if before &&& 73 = 0 then 0 else 1
    let bits ← ([(0x72, 4), (0x77, 2), (0x78, 1), (0x58, execute), (0x73, 0),
      (0x75, before / 64 % 8), (0x67, before / 8 % 8), (0x6F, before % 8)] :
        List (UInt8 × Nat)).lookup b
    return bits ||| (← permissionBits? before rest)

def clause? (before groups : Nat) : Nat → Text → Nat → Option Nat
  | 0, _, allowed => some allowed
  | _ + 1, [], allowed => some allowed
  | fuel + 1, operator :: rest, allowed => do
    let isOperator (b : UInt8) : Bool := ("+-=" : Text).contains b
    if !isOperator operator then none
    let letters := rest.takeWhile fun b => !isOperator b
    let bits ← permissionBits? before letters
    let all := (bits * 64 + bits * 8 + bits) &&& groups
    let allowed := if operator = 0x2B then allowed ||| all
      else if operator = 0x2D then allowed ^^^ (allowed &&& all)
      else (allowed ^^^ (allowed &&& groups)) ||| all
    clause? before groups fuel (rest.drop letters.length) allowed

def allowed? (before : Nat) : List Text → Nat → Option Nat
  | [], allowed => some allowed
  | text :: rest, allowed => do
    let who := text.takeWhile fun b => ("ugoa" : Text).contains b
    let bits (b : UInt8) (n : Nat) : Nat :=
      if who = [] || List.contains who b || List.contains who 0x61 then n else 0
    let groups := bits 0x75 448 ||| bits 0x67 56 ||| bits 0x6F 7
    let action := text.drop who.length
    if action = [] && !rest.isEmpty then none
    allowed? before rest (← clause? before groups (action.length + 1) action allowed)

def umask (args : List Text) : Run Nat := do
  let (found, rest) ← options "S" args
  let mask := (← get).mask
  match rest with
  | [] =>
    output (if found.isEmpty then octalMask mask ++ "\n"
      else "u=" ++ permissions (mask / 64) ++ ",g=" ++ permissions (mask / 8) ++ ",o=" ++
        permissions mask ++ "\n")
    return 0
  | text :: _ =>
    if text.head?.any Text.isDigit then
      if text.any fun b => !Integer.isOctal b then illegalNumber text
      modify fun s => { s with mask := Integer.octal text % 512 }
    else match allowed? (511 - mask) (text.splitAt 0x2C) (511 - mask) with
      | some allowed => modify fun s => { s with mask := 511 - allowed % 512 }
      | none => fail ("Illegal mode: " ++ text)
    return 0

end Run

end LintServer
