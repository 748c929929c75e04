import LintServer.CommandLine.Suggestion
import LintServer.Text.Quoted

set_option autoImplicit false

namespace LintServer.CommandLine

inductive FlagKind where
  | text
  | switch
deriving DecidableEq, Repr

structure Flag where
  name : Text
  letter : Option UInt8
  kind : FlagKind
  about : Text
deriving DecidableEq, Repr

inductive UsageError where
  | badSyntax (arg : Text)
  | unknownFlag (name : Text)
  | unknownLetter (letter : UInt8) (group : Text)
  | missingValue (name : Text)
  | missingLetterValue (letter : UInt8) (group : Text)
  | badSwitch (flag : Flag) (value : Text)
  | unknownCommand (word program : Text) (near : List Text)
  | tooManyWords (most count : Nat)
  | tooFewWords (least count : Nat)
deriving DecidableEq, Repr

def Flag.title (f : Flag) : Text :=
  match f.letter with
  | some letter => "-" ++ letter :: ", --" ++ f.name
  | none => "--" ++ f.name

def UsageError.message : UsageError → Text
  | badSyntax arg => "bad flag syntax: " ++ arg
  | unknownFlag name => "unknown flag: --" ++ name
  | unknownLetter letter group => "unknown shorthand flag: " ++ Quoted.encodeByte letter ++ " in -" ++ group
  | missingValue name => "flag needs an argument: --" ++ name
  | missingLetterValue letter group =>
    "flag needs an argument: " ++ Quoted.encodeByte letter ++ " in -" ++ group
  | badSwitch flag value =>
    "invalid argument " ++ Quoted.encode value ++ " for " ++ Quoted.encode flag.title ++
      " flag: strconv.ParseBool: parsing " ++ Quoted.encode value ++ ": invalid syntax"
  | unknownCommand word program near =>
    "unknown command " ++ Quoted.encode word ++ " for " ++ Quoted.encode program ++
      suggestionText near
  | tooManyWords most count =>
    "accepts at most " ++ Text.ofNat most ++ " arg(s), received " ++ Text.ofNat count
  | tooFewWords least count =>
    "requires at least " ++ Text.ofNat least ++ " arg(s), only received " ++ Text.ofNat count

def onValues : List Text := ["1", "t", "T", "TRUE", "true", "True"]

def offValues : List Text := ["0", "f", "F", "FALSE", "false", "False"]

structure Given where
  settings : List (Flag × Text)
  words : List Text
deriving DecidableEq, Repr

namespace Given

def value? (g : Given) (name : Text) : Option Text :=
  (g.settings.reverse.find? fun s => s.1.name = name).map Prod.snd

def isOn (g : Given) (name : Text) : Bool := (g.value? name).any onValues.contains

def addSettings (settings : List (Flag × Text)) (g : Given) : Given :=
  { g with settings := settings ++ g.settings }

def addWord (word : Text) (g : Given) : Given := { g with words := word :: g.words }

end Given

def Flag.set (f : Flag) (value : Text) : Except UsageError (Flag × Text) :=
  if f.kind = .switch ∧ !(onValues ++ offValues).contains value then .error (.badSwitch f value)
  else .ok (f, value)

structure Step where
  settings : List (Flag × Text)
  waiting : Option (Flag × UsageError)

def longFlag (flags : List Flag) (arg : Text) : Except UsageError Step :=
  let body := arg.drop 2
  if body.head? = some 0x2D ∨ body.head? = some 0x3D then .error (.badSyntax arg)
  else
    let (name, value) := Text.cut 0x3D body
    match flags.find? fun f => f.name = name, value with
    | none, _ => .error (.unknownFlag name)
    | some f, some value => (f.set value).map fun setting => ⟨[setting], none⟩
    | some f, none =>
      if f.kind = .switch then .ok ⟨[(f, "true")], none⟩
      else .ok ⟨[], some (f, .missingValue name)⟩

/-- Letters that start so belong to a test runner and are passed by. -/
def runnerFlags : Text := "test."

def letterFlags (flags : List Flag) : Text → Except UsageError Step
  | [] => .ok ⟨[], none⟩
  | letter :: rest =>
    if Text.startsWith (letter :: rest) runnerFlags then .ok ⟨[], none⟩
    else match flags.find? fun f => f.letter = some letter with
    | none => .error (.unknownLetter letter (letter :: rest))
    | some f =>
      match rest with
      | 0x3D :: b :: value => (f.set (b :: value)).map fun setting => ⟨[setting], none⟩
      | _ =>
        if f.kind = .switch then
          (letterFlags flags rest).map fun step =>
            { step with settings := (f, "true") :: step.settings }
        else if rest = [] then .ok ⟨[], some (f, .missingLetterValue letter [letter])⟩
        else (f.set rest).map fun setting => ⟨[setting], none⟩

def isFlag (arg : Text) : Bool :=
  match arg with
  | 0x2D :: _ :: _ => true
  | _ => false

def flagStep (flags : List Flag) (arg : Text) : Except UsageError Step :=
  if arg.startsWith "--" then longFlag flags arg else letterFlags flags (arg.drop 1)

def parseArgs (flags : List Flag) : List Text → Except UsageError Given
  | [] => .ok ⟨[], []⟩
  | arg :: rest =>
    if !isFlag arg then (parseArgs flags rest).map (Given.addWord arg)
    else if arg = "--" then .ok ⟨[], rest⟩
    else do
      let step ← flagStep flags arg
      match step.waiting with
      | none => (parseArgs flags rest).map (Given.addSettings step.settings)
      | some (f, e) =>
        match rest with
        | [] => throw e
        | value :: rest =>
          let setting ← f.set value
          (parseArgs flags rest).map (Given.addSettings (step.settings ++ [setting]))

def takesNext (flags : List Flag) (arg : Text) : Bool :=
  let isSwitch (p : Flag → Bool) : Bool := flags.any fun f => p f && f.kind == .switch
  !List.contains arg 0x3D &&
    if arg.startsWith "--" then !isSwitch fun f => f.name == arg.drop 2
    else match arg with
      | [0x2D, letter] => !isSwitch fun f => f.letter == some letter
      | _ => false

def looseWords (flags : List Flag) : List Text → List Text
  | [] => []
  | arg :: rest =>
    if arg = "--" then []
    else if takesNext flags arg then
      match rest with
      | _ :: next :: rest => looseWords flags (next :: rest)
      | _ => []
    else if arg = [] ∨ arg.head? = some 0x2D then looseWords flags rest
    else arg :: looseWords flags rest

def dropWord (flags : List Flag) (word : Text) : List Text → List Text
  | [] => []
  | arg :: rest =>
    if arg = "--" then arg :: rest
    else if takesNext flags arg then
      match rest with
      | value :: rest => arg :: value :: dropWord flags word rest
      | [] => [arg]
    else if arg = word then rest
    else arg :: dropWord flags word rest

end LintServer.CommandLine
