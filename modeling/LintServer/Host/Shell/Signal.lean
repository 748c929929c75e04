import LintServer.Host.Shell.Option

set_option autoImplicit false

namespace LintServer

namespace Signal

def names : List Text :=
  Text.splitAt 0x20
    ("EXIT HUP INT QUIT ILL TRAP ABRT BUS FPE KILL USR1 SEGV USR2 PIPE ALRM TERM 16 CHLD CONT STOP " ++
      "TSTP TTIN TTOU URG XCPU XFSZ VTALRM PROF WINCH IO PWR SYS 32 33 RTMIN") ++
    (List.range 15).map (fun n => ("RTMIN+" : Text) ++ Text.ofNat (n + 1)) ++
    (List.range 14).map (fun n => ("RTMAX-" : Text) ++ Text.ofNat (14 - n)) ++ [("RTMAX" : Text)]

def count : Nat := 65

def name (n : Nat) : Text := names.getD n []

def number? (text : Text) : Option Nat :=
  (Text.decimal? text).bind fun n => if n < count then some n else none

def ofText? (least : Nat) (text : Text) : Option Nat :=
  match number? text with
  | some n => some n
  | none =>
    let wanted := text.map Text.toUpper
    (List.range count).find? fun n => least ≤ n && name n == wanted

def isHarmless (n : Nat) : Bool := ([0, 17, 18, 19, 20, 21, 22, 23, 28] : List Nat).contains n

def title (n : Nat) : Text :=
  (([(1, "Hangup"), (2, "Interrupt"), (3, "Quit"), (4, "Illegal instruction"), (5, "Trace/breakpoint trap"),
    (6, "Aborted"), (7, "Bus error"), (8, "Floating point exception"), (9, "Killed"),
    (10, "User defined signal 1"), (11, "Segmentation fault"), (12, "User defined signal 2"),
    (13, "Broken pipe"), (14, "Alarm clock"), (15, "Terminated"), (16, "Stack fault"), (24, "CPU time limit exceeded"),
    (25, "File size limit exceeded"), (26, "Virtual timer expired"),
    (27, "Profiling timer expired"), (29, "I/O possible"), (30, "Power failure"),
    (31, "Bad system call")] : List (Nat × Text)).lookup n).getD
      (if n < 34 then "Unknown signal " ++ Text.ofNat n
        else "Real-time signal " ++ Text.ofNat (n - 34))

def isTold (n : Nat) : Bool := n ≠ 2 && n ≠ 13

end Signal

namespace Shell

def quotedFrom (first : Bool) : Nat → Text → Text
  | 0, _ => []
  | fuel + 1, text =>
    if text = [] ∧ !first then []
    else
      let plain := text.takeWhile (· != 0x27)
      let rest := text.drop plain.length
      let quotes := rest.takeWhile (· == 0x27)
      let shown : Text := if quotes = [] then [] else 0x22 :: quotes ++ [0x22]
      0x27 :: plain ++ 0x27 :: shown ++ quotedFrom false fuel (rest.drop quotes.length)

def quoted (text : Text) : Text := quotedFrom true (text.length + 1) text

def hasTraps (s : Shell) : Bool := s.traps.any fun t => t.2 ≠ []

def setTrap (s : Shell) (signal : Nat) (action : Option Text) : Shell :=
  { s with traps :=
    (action.map fun a => (signal, a)).toList ++ s.traps.filter fun t => t.1 ≠ signal }

end Shell

namespace Run

def announce : Ending → Run Unit
  | .signal n => if Signal.isTold n then tell 2 (Signal.title n ++ "\n") else pure ()
  | .exit _ => pure ()

def receive (signal : Nat) : Run Unit := do
  let s ← get
  if signal = 9 then throw (.gone (.signal signal))
  if s.ignored.contains signal then return ()
  match s.traps.lookup signal with
  | some action =>
    if action ≠ [] ∧ !s.pending.contains signal then set { s with pending := signal :: s.pending }
  | none => if !Signal.isHarmless signal then throw (.gone (.signal signal))

def trap (args : List Text) : Run Nat := do
  match ← noOptions args with
  | [] =>
    let s ← get
    (List.range Signal.count).forM fun n =>
      match s.traps.lookup n with
      | some action => output ("trap -- " ++ Shell.quoted action ++ " " ++ Signal.name n ++ "\n")
      | none => pure ()
    return 0
  | first :: rest =>
    let resets := rest.isEmpty || (Signal.number? first).isSome
    let action := if resets || first = "-" then none else some first
    set? action (if resets then first :: rest else rest)
where
  set? (action : Option Text) : List Text → Run Nat
    | [] => return 0
    | condition :: rest => do
      match Signal.ofText? 0 condition with
      | none =>
        tell 2 ("trap: " ++ condition ++ ": bad trap\n")
        return 1
      | some n =>
        modify fun s => s.setTrap n action
        set? action rest

def killUsage : Text :=
  "Usage: kill [-s sigspec | -signum | -sigspec] [pid | job]... or\nkill -l [exitstatus]"

def listSignals : List Text → Run Nat
  | [] => do
    output (Text.joinWith "\n" (("0" : Text) :: Signal.names.drop 1) ++ "\n")
    return 0
  | arg :: _ => do
    let n ← number arg
    let signal := if n > 128 then n - 128 else n
    if 0 < signal ∧ signal < Signal.count then
      output (Signal.name signal ++ "\n")
      return 0
    else fail ("invalid signal number or exit status: " ++ arg)

end Run

end LintServer
