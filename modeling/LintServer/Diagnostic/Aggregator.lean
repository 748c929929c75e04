import LintServer.Diagnostic.Finding
import LintServer.Tool

set_option autoImplicit false

namespace LintServer

structure Publish where
  uri : Uri
  diagnostics : List Diagnostic
deriving DecidableEq, Repr

inductive RefreshError where
  | linter (message : Text)
  | record (complaint : Complaint)
deriving DecidableEq, Repr

def RefreshError.message : RefreshError → Text
  | linter message => "linter: " ++ message
  | record complaint => complaint.message

structure Aggregator where
  root : Text
  lists : Lists
  /-- What is read between two refreshes. -/
  snapshot : Lists

namespace Aggregator

def start (root : Text) : Aggregator := ⟨root, ∅, ∅⟩

/-- A linter exits with a status when it has something to report, so that is no failure. -/
def linterError? (run : ToolRun) : Option RefreshError :=
  match run.failure with
  | some (.other message) => some (.linter message)
  | _ => none

def findings (a : Aggregator) (run : ToolRun) : List Finding := Finding.ofOutput a.root run.output

def setPublished (a : Aggregator) (lists : Lists) : Aggregator := { a with snapshot := lists }

/-- The state while the linter runs. -/
def emptied (a : Aggregator) : Aggregator := { a with lists := ∅ }.setPublished ∅

def refresh (a : Aggregator) (run : ToolRun) : Aggregator :=
  let lists := Finding.lists (a.emptied.findings run)
  { a.emptied with lists }.setPublished lists

def clears (a : Aggregator) : List Publish := a.lists.keys.map fun uri => ⟨uri, []⟩

def current (a : Aggregator) : List Publish :=
  a.lists.toList.map fun group => ⟨group.1, group.2.map Entry.diagnostic⟩

def publishes (a : Aggregator) (run : ToolRun) : List Publish :=
  a.clears ++ (a.refresh run).current

def refreshErrors (a : Aggregator) (run : ToolRun) : List RefreshError :=
  (linterError? run).toList ++ (Finding.complaints (a.findings run)).map .record

def published (a : Aggregator) (uri : Uri) : List Entry := a.snapshot.of uri

end Aggregator

structure QuickFix where
  uri : Uri
  diagnostic : Diagnostic
  replacement : Text
  preferred : Bool
deriving DecidableEq, Repr

namespace QuickFix

def ofEntry? (uri : Uri) (requested : Range) (e : Entry) : Option QuickFix :=
  match e.replacement with
  | none | some [] => none
  | some replacement =>
    if e.diagnostic.range.within requested then
      some ⟨uri, e.diagnostic, replacement, e.applicability == .machineApplicable⟩
    else none

end QuickFix

def Aggregator.quickFixes (a : Aggregator) (uri : Uri) (requested : Range) : List QuickFix :=
  (a.published uri).filterMap (QuickFix.ofEntry? uri requested)

end LintServer
