import LintServer.Config.Basic

set_option autoImplicit false

namespace LintServer

structure LogEntry where
  source : Text
  level : LogLevel
  message : Text
deriving DecidableEq, Repr

def LogLevel.short : LogLevel → Text
  | critical => "CRIT"
  | error => "ERRO"
  | warning => "WARN"
  | notice => "NOTI"
  | info => "INFO"
  | debug => "DEBU"

namespace LogEntry

def sourceWidth : Nat := 14

def line (e : LogEntry) : Text :=
  let padding : Text := List.replicate (sourceWidth - e.source.length) 0x20
  e.source ++ padding ++ " " ++ e.level.short ++ " " ++ e.message

def written (e : LogEntry) : Text :=
  if e.line.getLast? = some Text.lf then e.line else e.line ++ [Text.lf]

def shownAt (level : LogLevel) (e : LogEntry) : Bool := e.level.rank ≤ level.rank

end LogEntry

end LintServer
