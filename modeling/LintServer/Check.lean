import LintServer.Diagnostic.Finding
import LintServer.Tool

set_option autoImplicit false

namespace LintServer

def paint (color : Bool) (before after text : Text) : Text :=
  if color then "\x1b[" ++ before ++ "m" ++ text ++ "\x1b[" ++ after ++ "m" else text

def displayName (root : Text) (uri : Uri) : Text :=
  let path := FileUri.toPath uri
  (Path.relative? root path).getD path

namespace Diagnostic

/-- Line and column from one, in 32 bits. -/
def location (name : Text) (d : Diagnostic) : Text :=
  name ++ ":" ++ Text.ofNat (d.range.start.line + 1).toNat ++ ":" ++
    Text.ofNat (d.range.start.character + 1).toNat

def heading (d : Diagnostic) : Text :=
  Severity.label (Severity.ofProtocol d.severity) ++ match d.code with
    | none => []
    | some code => "[" ++ code ++ "]"

def paintHeading (color : Bool) (d : Diagnostic) : Text :=
  match Severity.ofProtocol d.severity with
  | none => d.heading
  | some .error => paint color "31;1" "0;22" d.heading
  | some .warning => paint color "33;1" "0;22" d.heading
  | some .information => paint color "34;1" "0;22" d.heading
  | some .hint => paint color "36" "0" d.heading

def line (color : Bool) (name : Text) (d : Diagnostic) : Text :=
  paint color "1" "22" (d.location name) ++ ": " ++ d.paintHeading color ++ ": " ++ d.message ++
    "\n"

end Diagnostic

namespace Lists

def diagnostics (lists : Lists) : List (Uri × Diagnostic) :=
  lists.toList.flatMap fun group => group.2.map fun e => (group.1, e.diagnostic)

def print (color : Bool) (root : Text) (lists : Lists) : Text :=
  (diagnostics lists).flatMap fun d => d.2.line color (displayName root d.1)

def errorCount (lists : Lists) : Nat :=
  (diagnostics lists).countP fun d =>
    Severity.ofProtocol d.2.severity == some .error

end Lists

structure CheckReport where
  output : Text
  errors : Nat
deriving DecidableEq, Repr

/-- Fails only if the linter does otherwise than by its exit status. -/
def check (color : Bool) (root : Text) (run : ToolRun) : Except Text CheckReport :=
  match run.failure with
  | some (.other message) => .error message
  | _ =>
    let lists := Finding.lists (Finding.ofOutput root run.output)
    .ok ⟨Lists.print color root lists, Lists.errorCount lists⟩

end LintServer
