import LintServer.Json.Parse
import LintServer.Text.Blank
import LintServer.Text.Lines

set_option autoImplicit false

namespace LintServer

structure RecordLine where
  number : Nat
  text : Text
deriving DecidableEq, Repr

/-- Lines with their numbers, from `number` on, up to the first of `limit` bytes or more. -/
def shortLines (limit number : Nat) : List Text → List (Nat × Text)
  | [] => []
  | line :: rest =>
    if line.dropLf.length < limit then (number, line) :: shortLines limit (number + 1) rest else []

def RecordLine.ofLine? (line : Nat × Text) : Option RecordLine :=
  if line.2.trim = [] then none else some ⟨line.1, line.2.trim⟩

def recordLines (limit : Nat) (output : Text) : List RecordLine :=
  (shortLines limit 1 output.lines).filterMap RecordLine.ofLine?

def hasLongLine (limit : Nat) (output : Text) : Bool :=
  output.lines.any fun line => limit ≤ line.dropLf.length

section Read

variable {ε ρ α : Type}

def RecordLine.read {β : Type} (ofJson : Json → Except ε ρ) (malformed : Nat → β)
    (report : Nat → ρ → β) (line : RecordLine) : β :=
  match Json.read? ofJson line.text with
  | some record => report line.number record
  | none => malformed line.number

/-- The outcomes of all records, and at the end that a line is too long, if one is. -/
def readRecords (limit : Nat) (tooLong : ε) (read : RecordLine → List (Except ε α)) (output : Text) :
    List (Except ε α) :=
  (recordLines limit output).flatMap read ++
    if hasLongLine limit output then [.error tooLong] else []

def failures (outcomes : List (Except ε α)) : List ε :=
  outcomes.filterMap fun
    | .error e => some e
    | .ok _ => none

end Read

end LintServer
