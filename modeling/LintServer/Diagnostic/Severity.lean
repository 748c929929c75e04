import LintServer.Text.Basic

set_option autoImplicit false

namespace LintServer

inductive Severity where
  | error
  | warning
  | information
  | hint
deriving DecidableEq, Repr

namespace Severity

def ofLevel? (level : Text) : Option Severity :=
  if level = "error" ∨ level = "internal-compiler-error" ∨
    level = "error: internal compiler error" then some error
  else if level = "warning" then some warning
  else if level = "note" ∨ level = "failure-note" then some information
  else if level = "help" then some hint
  else none

def number : Severity → Int
  | error => 1
  | warning => 2
  | information => 3
  | hint => 4

def ofNumber? : Int → Option Severity
  | 1 => some error
  | 2 => some warning
  | 3 => some information
  | 4 => some hint
  | _ => none

def label : Option Severity → Text
  | some error => "error"
  | some warning => "warning"
  | some information => "info"
  | some hint => "hint"
  | none => "none"

def toProtocol (severity : Option Severity) : Option Int := severity.map number

def ofProtocol (number : Option Int) : Option Severity := number.bind ofNumber?

end Severity

end LintServer
