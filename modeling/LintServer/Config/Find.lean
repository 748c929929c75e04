import LintServer.Host.Files
import LintServer.Text.Quoted

set_option autoImplicit false

namespace LintServer.Config

def fileNames : List Text := ["tycheck.toml", "tycheck.jsonnet"]

inductive Stat where
  | found
  | missing
  | failed (message : Text)
deriving DecidableEq, Repr

def ancestors (elements : List Text) : List (List Text) :=
  ((List.range (elements.length + 1)).map elements.take).reverse

def candidates (directory : Text) : List Text :=
  (ancestors (Path.elements directory)).flatMap fun elements =>
    fileNames.map (Path.join (Path.ofElements true elements))

structure StatFailure where
  path : Text
  message : Text
deriving DecidableEq, Repr

def StatFailure.text (e : StatFailure) : Text :=
  "failed to stat " ++ Quoted.encode e.path ++ ": stat " ++ e.path ++ ": " ++ e.message

def firstFound (stat : Text → Stat) : List Text → Except StatFailure (Option Text)
  | [] => .ok none
  | path :: rest =>
    match stat path with
    | .found => .ok (some path)
    | .missing => firstFound stat rest
    | .failed message => .error ⟨path, message⟩

def find (stat : Text → Stat) (working directory : Text) : Except StatFailure (Option Text) :=
  firstFound stat (candidates (Path.absolute working directory))

end LintServer.Config

namespace LintServer

def Files.ask (f : Files) (working path : Text) : Config.Stat :=
  match f.stat working path with
  | .ok _ => .found
  | .error .notFound => .missing
  | .error e => .failed e.message

end LintServer
