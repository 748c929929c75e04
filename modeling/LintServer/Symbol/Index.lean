import LintServer.Grouping
import LintServer.Symbol.Table

set_option autoImplicit false

namespace LintServer

structure Index where
  tables : Std.ExtTreeMap Uri (Array Symbol)

namespace Index

def empty : Index := ⟨∅⟩

def replace (index : Index) (uri : Uri) (symbols : List Symbol) : Index :=
  ⟨index.tables.insert uri (Symbol.normalize symbols).toArray⟩

def install (index : Index) (groups : Groups Symbol) : Index :=
  groups.toList.foldl (fun index group => index.replace group.1 group.2) index

def table? (index : Index) (uri : Uri) : Option (List Symbol) :=
  index.tables[uri]?.map Array.toList

def find? (index : Index) (uri : Uri) (p : Position) : Option Symbol :=
  index.tables[uri]?.bind fun table => Symbol.find? table p

end Index

end LintServer
