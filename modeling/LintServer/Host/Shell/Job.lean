import LintServer.Host.Shell.Signal

set_option autoImplicit false

namespace LintServer

namespace Shell

def nextJob (s : Shell) : Nat :=
  ((List.range (s.jobs.length + 1)).find? fun n =>
    s.jobs.all fun j => j.number ≠ n + 1 || j.waited).getD 0 + 1

def makeRoom (s : Shell) : Shell :=
  let number := s.nextJob
  { s with jobs := s.jobs.filter fun j => j.number ≠ number }

def noticeJobs (s : Shell) : Shell := { s with jobs := s.jobs.map fun j => { j with ended := true } }

def addJob (s : Shell) (process stages : Nat) (ending : Ending) : Shell :=
  { s with
    jobs := ⟨s.nextJob, process, stages, ending, false, false⟩ :: s.jobs
    lastJob := some process }

def Job.state (j : Job) : Text :=
  if !j.ended then "Running"
  else match j.ending with
    | .exit 0 => "Done"
    | .exit n => "Done(" ++ Text.ofNat n ++ ")"
    | .signal n => Signal.title n

def Job.shown (j : Job) (sign : Text) (processes : Bool) : Text :=
  let padded (text : Text) : Text := text ++ List.replicate (max 1 (33 - text.length)) 0x20
  let head : Text := "[" ++ Text.ofNat j.number ++ "] " ++ sign ++ " "
  let process (n : Nat) : Text := Text.ofNat (j.process - j.stages + n + 1) ++ " "
  if processes then
    let more := (List.range (j.stages - 1)).flatMap fun n =>
      (" |\n" : Text) ++ padded (List.replicate head.length 0x20 ++ process (n + 1))
    padded (head ++ process 0 ++ j.state) ++ more ++ "\n"
  else
    padded (head ++ j.state) ++ (List.replicate (j.stages - 1) (" | " : Text)).flatten ++ "\n"

end Shell

namespace Run

def findJob (controls : Bool) (word : Option Text) : Run Shell.Job := do
  let jobs := (← get).jobs
  let name : Text := word.getD "(null)"
  let missing : Text := "No such job: " ++ name
  let job ← match word with
    | none => orFail jobs.head? "No current job"
    | some (0x25 :: rest) =>
      if rest = [] || rest = "+" || rest = "%" then orFail jobs.head? "No current job"
      else if rest = "-" then orFail jobs[1]? "No previous job"
      else if rest = "?" then
        orFail jobs.head? (if jobs.length > 1 then name ++ ": ambiguous" else missing)
      else orFail (jobs.find? fun j => Text.decimal? rest = some j.number) missing
    | some _ => fail missing
  if controls then fail ("job " ++ name ++ " not created under job control")
  return job
where
  orFail (job : Option Shell.Job) (message : Text) : Run Shell.Job :=
    match job with
    | some job => return job
    | none => fail message

def showJob (letter : Option UInt8) (job : Shell.Job) : Run Unit := do
  let jobs := (← get).jobs
  let sign : Text := if jobs.head? = some job then "+" else if jobs[1]? = some job then "-" else " "
  if letter = some 0x70 then output (Text.ofNat (job.process - job.stages + 1) ++ "\n")
  else
    output (job.shown sign (letter = some 0x6C))
    if job.ended then
      modify fun s => { s with jobs := s.jobs.filter fun j => j.number ≠ job.number }

def listJobs (args : List Text) : Run Nat := do
  let (found, rest) ← options "lp" args
  let letter := (found.map Prod.fst).getLast?
  if rest.isEmpty then (← get).jobs.forM (showJob letter)
  else rest.forM fun word => do showJob letter (← findJob false (some word))
  return 0

def wait (args : List Text) : Run Nat := do
  match ← noOptions args with
  | [] =>
    modify fun s => { s with jobs := s.jobs.map fun j => { j with ended := true, waited := true } }
    return 0
  | words =>
    words.foldlM (fun status word => do
      let job ← if word.head? = some 0x25 then some <$> findJob false (some word)
        else
          let n ← number word
          pure ((← get).jobs.find? fun j => j.process = n)
      match job with
      | none => return status
      | some job =>
        if !job.ended then announce job.ending
        modify fun s => { s with jobs := s.jobs.map fun j =>
          if j.number = job.number then { j with ended := true, waited := true } else j }
        return job.ending.status) 127

def resumeJob (args : List Text) : Run Nat := do
  let _ ← findJob true (← noOptions args).head?
  return 0

def send (signal : Nat) : List Text → Run Nat
  | [] => return 0
  | target :: rest => do
    let isJob : Bool := target.head? = some 0x25
    let group : Bool := target.head? = some 0x2D
    let n ← if isJob then do
        let _ ← findJob false (some target)
        pure 0
      else number (if group then target.drop 1 else target)
    let s ← get
    if !isJob && !group && n = s.process then
      if s.isPart then set { s with sent := s.sent ++ [signal] } else receive signal
      send signal rest
    else if !isJob && !group && s.jobs.any fun j => j.process = n && !j.ended then send signal rest
    else
      warn "No such process\n"
      let _ ← send signal rest
      return 1

def kill (args : List Text) : Run Nat := do
  match args with
  | [] => fail killUsage
  | first :: rest =>
    if first.head? ≠ some 0x2D then send 15 args
    else match Signal.ofText? 1 (first.drop 1) with
      | some signal => if rest.isEmpty then fail killUsage else send signal rest
      | none =>
        let (found, rest) ← options "ls:" args
        let signal ← match found.reverse.lookup 0x73 with
          | some name =>
            match Signal.ofText? 1 name with
            | some n => pure (some n)
            | none => fail ("invalid signal number or name: " ++ name)
          | none => pure none
        if (found.lookup 0x6C).isSome then listSignals rest
        else if rest.isEmpty then fail killUsage
        else send (signal.getD 15) rest

end Run

end LintServer
