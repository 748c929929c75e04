import LintServer.CommandLine.Verb

set_option autoImplicit false

namespace LintServer.CommandLine

structure Completion where
  candidates : List (Text × Text)
  directive : Nat
deriving DecidableEq, Repr

namespace Completion

def none : Completion := ⟨[], 0⟩

def noFiles : Nat := 4

def verbs (v : Verb) (word : Text) : List (Text × Text) :=
  (v.below.filter fun c => c.1.startsWith word).map fun c => (c.1, c.2.about)

def flagNames (f : Flag) : List Text :=
  ("--" ++ f.name) :: f.letter.toList.map fun letter => [0x2D, letter]

def offered (v : Verb) : List Flag :=
  let sorted (flags : List Flag) : List Flag := flags.mergeSort fun a b => a.name ≤ b.name
  if v = .serve then sorted v.flags else sorted Verb.shared ++ sorted (v.own ++ [v.helpFlag])

def flags (v : Verb) (given : Given) (word : Text) : List (Text × Text) :=
  (offered v).flatMap fun f =>
    if given.settings.any fun s => s.1 = f then []
    else ((flagNames f).filter fun name => name.startsWith word).map fun name => (name, f.about)

def findFlag? (v : Verb) (name : Text) : Option Flag :=
  match name with
  | [letter] => v.flags.find? fun f => f.letter = some letter
  | _ => v.flags.find? fun f => f.name = name

def flagName (arg : Text) : Text :=
  if arg.startsWith "--" then arg.drop 2 else arg.getLast?.toList

inductive Target where
  | word
  | value (f : Flag)
  | unknown

def target (v : Verb) (args : List Text) (last : Text) : Target × List Text :=
  let ofName (name : Text) (rest : List Text) (taken : Bool) : Target × List Text :=
    match findFlag? v name with
    | .none => (.unknown, args)
    | some f => if !taken && f.kind = .switch then (.word, args) else (.value f, rest)
  let previous (_ : Unit) : Target × List Text :=
    match args.getLast? with
    | .none => (.word, args)
    | some arg =>
      if !isFlag arg || arg.contains 0x3D || flagName arg = [] then (.word, args)
      else ofName (flagName arg) args.dropLast false
  match last, Text.cut 0x3D last with
  | 0x2D :: _, (_, .none) => (.word, args)
  | 0x2D :: _, (name, some _) =>
    if flagName name = [] then previous () else ofName (flagName name) args true
  | _, _ => previous ()

def words (v : Verb) (given : List Text) (last : Text) (found : Completion) : Completion :=
  match v with
  | .help =>
    match Verb.find given with
    | .ok (topic, _) => ⟨found.candidates ++ verbs topic last, noFiles⟩
    | .error _ => ⟨found.candidates, noFiles⟩
  | .completion | .script _ => ⟨found.candidates, noFiles⟩
  | _ => found

def ofVerb (v : Verb) (args : List Text) (last : Text) : Completion :=
  let (target, rest) := target v args last
  match parseArgs v.flags rest, parseArgs v.flags (rest ++ [("--" : Text)]) with
  | .ok given, .ok ended =>
    let reading := ended.words.length == given.words.length
    let isSet (f : Flag) : Bool := given.settings.any fun s => s.1 = f
    match target, reading with
    | .unknown, true => none
    | _, _ =>
      if isSet v.helpFlag || isSet Verb.versionFlag then ⟨[], noFiles⟩
      else match target with
        | .value _ => if reading then none else words v given.words last none
        | _ =>
          if last.head? = some 0x2D && !last.contains 0x3D && reading then
            ⟨flags v given last, noFiles⟩
          else
            let below :=
              if given.words = [] && !v.own.any isSet && v.below ≠ [] then
                ⟨verbs v last, noFiles⟩
              else none
            words v given.words last below
  | _, _ => none

def ofWords (args : List Text) : Completion :=
  match args.getLast? with
  | .none => none
  | some last =>
    match Verb.find args.dropLast with
    | .error _ => none
    | .ok (v, rest) => if v.takesAll then none else ofVerb v rest last

def render (described : Bool) (c : Completion) : Text :=
  let line (candidate : Text × Text) : Text :=
    candidate.1 ++ (if described then 0x09 :: candidate.2 else []) ++ [Text.lf]
  c.candidates.flatMap line ++ ":" ++ Text.ofNat c.directive ++ [Text.lf]

end Completion

end LintServer.CommandLine
