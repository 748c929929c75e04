import LintServer.Config.Load
import LintServer.Jsonnet.Eval
import LintServer.Toml.Table

set_option autoImplicit false

namespace LintServer.Config

namespace FromToml

def text? : Toml.Node → Option Text
  | .text value => some value
  | _ => none

def boolean? : Toml.Node → Option Bool
  | .boolean value => some value
  | _ => none

def command? : Toml.Node → Option (List Text)
  | .array items => items.mapM text?
  | _ => none

abbrev Setters := List (Text × (Config → Toml.Node → Option Config))

def table? (setters : Setters) (c : Config) (table : Toml.Table) : Option Config :=
  table.foldlM (fun c (name, node) =>
    match setters.find? fun setter => setter.1.sameName name with
    | some (_, set) => set c node
    | none => some c) c

def inner? (setters : Setters) (c : Config) : Toml.Node → Option Config
  | .table members => table? setters c members
  | _ => none

def setters : Setters := [
  ("root", fun c node => return { c with root := ← text? node }),
  ("linter", fun c node => return { c with linter := ← command? node }),
  ("formatter", fun c node => return { c with formatter := ← command? node }),
  ("analyzer", fun c node => return { c with analyzer := ← command? node }),
  ("format", inner? [
    ("minimal_edits", fun c node => return { c with minimalEdits := ← boolean? node })]),
  ("log", inner? [
    ("level", fun c node => return { c with logLevel := ← text? node }),
    ("file", fun c node => return { c with logFile := ← text? node })])]

end FromToml

def ofToml? (text : Text) (c : Config) : Option Config := do
  FromToml.table? FromToml.setters c (← Toml.table? text)

/-- Looks for an imported file, first beside the file that imports it. Only a missing file is looked
for further. -/
def importFile? (files : Files) (working : Text) (libraries : List Text) (directory path : Text) :
    Option Jsonnet.Source :=
  let places := if Path.isAbsolute path then [path]
    else (directory :: libraries).map (Path.join · path)
  let rec search : List Text → Option Jsonnet.Source
    | [] => none
    | place :: rest =>
      match files.stat working place with
      | .ok (.file content) => some ⟨place, Path.directory place, content⟩
      | .error .notFound => search rest
      | _ => none
  search places

def ofSnippet? (files : Files) (working : Text) (s : Snippet) : Option Json :=
  Jsonnet.evaluate? ⟨importFile? files working s.libraries, s.external⟩ s.content

def Decoders.ofFiles (files : Files) (working : Text) : Decoders :=
  ⟨ofToml?, ofSnippet? files working⟩

end LintServer.Config
