import LintServer.CommandLine.Flags
import LintServer.Server.Basic

set_option autoImplicit false

namespace LintServer.CommandLine

def program : Text := Server.name

inductive Verb where
  | serve
  | check
  | help
  | completion
  | script (interpreter : Text)
  | complete (described : Bool)
deriving DecidableEq, Repr

namespace Verb

def interpreters : List Text := ["bash", "fish", "powershell", "zsh"]

def below : Verb → List (Text × Verb)
  | serve => [("check", check), ("completion", completion), ("help", help)]
  | completion => interpreters.map fun name => (name, script name)
  | _ => []

def hidden : Verb → List (Text × Verb)
  | serve => [("__complete", complete true), ("__completeNoDesc", complete false)]
  | _ => []

def next? (v : Verb) (word : Text) : Option Verb := (v.below ++ v.hidden).lookup word

def title : Verb → Text
  | serve => program
  | check => program ++ " check"
  | help => program ++ " help"
  | completion => program ++ " completion"
  | script name => program ++ " completion " ++ name
  | complete _ => program ++ " __complete"

def name (v : Verb) : Text := ((Text.splitAt 0x20 v.title).getLast?).getD []

def about : Verb → Text
  | serve => "Language server backed by an external linter, formatter and analyzer"
  | check => "Run the linter once and print its diagnostics"
  | help => "Help about any command"
  | completion => "Generate the autocompletion script for the specified shell"
  | script name => "Generate the autocompletion script for " ++ name
  | complete _ => "Request shell completion choices for the specified command-line"

def shared : List Flag := [
  ⟨"config", some 0x63, .text, "path to a tycheck.toml or tycheck.jsonnet file"⟩,
  ⟨"log-file", none, .text, "log to this file instead of stderr"⟩,
  ⟨"log-level", none, .text, "log level (overrides the config file)"⟩]

def own : Verb → List Flag
  | serve => [⟨"debug", none, .switch, "log protocol traffic"⟩]
  | check => [⟨"color", none, .text, "colorize output (auto|on|off)"⟩]
  | script _ => [⟨"no-descriptions", none, .switch, "disable completion descriptions"⟩]
  | _ => []

def early (v : Verb) : List Flag := v.own ++ shared

def helpFlag (v : Verb) : Flag := ⟨"help", some 0x68, .switch, "help for " ++ v.name⟩

def versionFlag : Flag := ⟨"version", some 0x76, .switch, "version for " ++ program⟩

def flags (v : Verb) : List Flag :=
  v.early ++ v.helpFlag :: if v = serve then [versionFlag] else []

def takesAll : Verb → Bool
  | complete _ => true
  | _ => false

def descend (v : Verb) (args : List Text) : Nat → Verb × List Text
  | 0 => (v, args)
  | depth + 1 =>
    match looseWords v.early args with
    | [] => (v, args)
    | word :: _ =>
      match v.next? word with
      | some inner => inner.descend (dropWord v.early word args) depth
      | none => (v, args)

def suggested : List Text := (serve.below.filter fun c => c.2 ≠ help).map Prod.fst

def find (args : List Text) : Except UsageError (Verb × List Text) :=
  let (v, rest) := serve.descend args args.length
  match v, looseWords v.early rest with
  | serve, word :: _ => .error (.unknownCommand word program (suggestions suggested word))
  | _, _ => .ok (v, rest)

def checkWords (v : Verb) (words : List Text) : Except UsageError Unit :=
  match v, words with
  | check, _ :: _ :: _ => .error (.tooManyWords 1 words.length)
  | script _, word :: _ => .error (.unknownCommand word v.title [])
  | complete _, [] => .error (.tooFewWords 1 0)
  | _, _ => .ok ()

def read (v : Verb) (args : List Text) : Except UsageError Given :=
  if v.takesAll then .ok ⟨[], args⟩ else parseArgs v.flags args

end Verb

end LintServer.CommandLine
