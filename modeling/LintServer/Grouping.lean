import Std.Data.ExtTreeMap
import LintServer.Document.Store

set_option autoImplicit false

namespace LintServer

abbrev Groups (α : Type) := Std.ExtTreeMap Uri (List α)

namespace Groups

def add {α : Type} (groups : Groups α) (uri : Uri) (a : α) : Groups α :=
  groups.alter uri fun old => some (old.getD [] ++ [a])

def ofList {α : Type} (pairs : List (Uri × α)) : Groups α :=
  pairs.foldl (fun groups p => groups.add p.1 p.2) ∅

def of {α : Type} (groups : Groups α) (uri : Uri) : List α := groups[uri]?.getD []

end Groups

end LintServer
