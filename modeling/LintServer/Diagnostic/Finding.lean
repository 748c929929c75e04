import LintServer.Diagnostic.Record
import LintServer.Diagnostic.Severity
import LintServer.FileUri
import LintServer.Grouping
import LintServer.Text.Records

set_option autoImplicit false

namespace LintServer

structure Diagnostic where
  range : Range
  severity : Option Int
  code : Option Text
  message : Text
deriving DecidableEq, Repr

structure Entry where
  diagnostic : Diagnostic
  replacement : Option Text
  applicability : Applicability
deriving DecidableEq, Repr

abbrev Lists := Groups Entry

inductive Complaint where
  | malformed (line : Nat)
  | unknownLevel (level : Text)
  | outOfRange (fileName : Text)
  | lineTooLong
deriving DecidableEq, Repr

def Complaint.message : Complaint → Text
  | malformed line => "malformed diagnostic record on line " ++ Text.ofNat line
  | unknownLevel level => "unknown severity: " ++ level
  | outOfRange fileName => fileName ++ ": out of range"
  | lineTooLong => "reading linter output: bufio.Scanner: token too long"

abbrev Finding := Except Complaint (Uri × Entry)

namespace Span

/-- A number from zero for one from one. Zero and negative numbers give zero, but taking one from
the least number wraps around. -/
def zeroBased? (n : Int64) : Option UInt32 :=
  let m := if n - 1 < 0 then 0 else n - 1
  if m.toInt < 4294967296 then some m.toInt.toNat.toUInt32 else none

def range? (s : Span) : Option Range := do
  return ⟨⟨← zeroBased? s.lineStart, ← zeroBased? s.columnStart⟩,
    ⟨← zeroBased? s.lineEnd, ← zeroBased? s.columnEnd⟩⟩

def uri (s : Span) (root : Text) : Uri :=
  FileUri.ofPath (if Path.isAbsolute s.fileName then s.fileName else Path.join root s.fileName)

def messageOf (message : Text) (s : Span) : Text :=
  match s.label with
  | none => message
  | some label => message ++ "\n" ++ label

def finding (root : Text) (severity : Option Severity) (code : Option Text) (message : Text)
    (s : Span) : Finding :=
  match s.range? with
  | none => .error (.outOfRange s.fileName)
  | some range =>
    .ok (s.uri root, ⟨⟨range, Severity.toProtocol severity, code, s.messageOf message⟩,
      s.replacement, s.applicability.getD .unspecified⟩)

end Span

namespace Node

mutual

/-- A node comes before its children, and its level before its spans. -/
def findings (root : Text) : Node → List Finding
  | ⟨level, message, spans, code, children⟩ =>
    let severity := Severity.ofLevel? level
    (if severity.isNone then [.error (.unknownLevel level)] else []) ++
      spans.map (Span.finding root severity code message) ++ findingsAll root children

def findingsAll (root : Text) : List Node → List Finding
  | [] => []
  | node :: rest => findings root node ++ findingsAll root rest

end

end Node

namespace Finding

def maxLine : Nat := 64 * 1024 * 1024

def ofRecord (root : Text) (r : Record) : List Finding :=
  match r.diagnostic? with
  | none => []
  | some node => node.findings (r.directory root)

def ofLine (root : Text) : RecordLine → List Finding :=
  RecordLine.read Record.ofJson (fun number => [.error (.malformed number)]) fun _ => ofRecord root

/-- The findings of a linter's output. Relative file names are resolved against the directory that
their record gives, or else against `root`. -/
def ofOutput (root : Text) (output : Text) : List Finding :=
  readRecords maxLine .lineTooLong (ofLine root) output

def lists (findings : List Finding) : Lists := Groups.ofList (findings.filterMap Except.toOption)

def complaints (findings : List Finding) : List Complaint := failures findings

end Finding

end LintServer
