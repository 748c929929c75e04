import LintServer.Config.Basic
import LintServer.Host.Files

set_option autoImplicit false

namespace LintServer

inductive LoadError where
  | malformedToml (path : Text)
  | failedEvaluation (path : Text)
  | wrongType (path : Text)
  | unknownField (path name : Text)
  | unsupportedFormat (path : Text)
  | unreadable (message : Text)
  | invalid (cause : InvalidConfig)
deriving DecidableEq, Repr

def LoadError.message : LoadError → Text
  | malformedToml path => path ++ ": failed to parse TOML"
  | failedEvaluation path => path ++ ": failed to evaluate Jsonnet"
  | wrongType path => path ++ ": json: cannot unmarshal value"
  | unknownField path name => path ++ ": json: unknown field " ++ Quoted.encode name
  | unsupportedFormat path => path ++ ": unsupported configuration format"
  | unreadable message => message
  | invalid cause => cause.message

namespace Config

inductive Format where
  | toml
  | jsonnet
deriving DecidableEq, Repr

def Format.ofPath? (path : Text) : Option Format :=
  [((".toml" : Text), Format.toml), ((".jsonnet" : Text), .jsonnet), ((".libsonnet" : Text), .jsonnet),
    ((".json" : Text), .jsonnet)].lookup (Path.extension path)

/-- A Jsonnet text with what it is evaluated by: its path, the directories that imports are looked
for in and the external variables. -/
structure Snippet where
  path : Text
  content : Text
  libraries : List Text
  external : List (Text × Text)
deriving DecidableEq, Repr

def snippet (path content : Text) : Snippet :=
  let directory := Path.directory path
  ⟨path, content, [directory], [("root", directory)]⟩

/-- The readers of the two formats. TOML is read over a configuration, Jsonnet is evaluated to
JSON. -/
structure Decoders where
  toml? : Text → Config → Option Config
  jsonnet? : Snippet → Option Json

def ofJson (path : Text) (json : Json) : Except LoadError Config :=
  match readOver .refused defaults json with
  | .ok c => .ok c
  | .error .wrongType => .error (.wrongType path)
  | .error (.unknownField name) => .error (.unknownField path name)

def readFile (decoders : Decoders) (files : Files) (working path : Text) : Except LoadError Config :=
  match Format.ofPath? path with
  | none => .error (.unsupportedFormat path)
  | some .toml =>
    match files.read working path with
    | .error _ => .error (.malformedToml path)
    | .ok content =>
      match decoders.toml? content defaults with
      | some c => .ok c
      | none => .error (.malformedToml path)
  | some .jsonnet =>
    match files.read working path with
    | .error message => .error (.unreadable message)
    | .ok content =>
      match decoders.jsonnet? (snippet path content) with
      | some json => ofJson path json
      | none => .error (.failedEvaluation path)

def load (decoders : Decoders) (files : Files) (working path : Text) : Except LoadError Config := do
  let c ← readFile decoders files working path
  let c := c.resolveRoot path
  match c.validate with
  | .ok () => .ok c
  | .error cause => .error (.invalid cause)

end Config

end LintServer
