import LintServer.Host.Shell.Basic

set_option autoImplicit false

namespace LintServer

namespace Shell

def allOptions : List (Text × Option UInt8) :=
  [("errexit", some 0x65), ("noglob", some 0x66), ("ignoreeof", some 0x49),
    ("interactive", some 0x69), ("monitor", some 0x6D), ("noexec", some 0x6E),
    ("stdin", some 0x73), ("xtrace", some 0x78), ("verbose", some 0x76), ("vi", some 0x56),
    ("emacs", some 0x45), ("noclobber", some 0x43), ("allexport", some 0x61),
    ("notify", some 0x62), ("nounset", some 0x75), ("privileged", some 0x70), ("nolog", none),
    ("debug", none)]

def letters (s : Shell) : Text :=
  allOptions.reverse.filterMap fun (name, letter) => if s.has name then letter else none

def switched (options : List Text) (name : Text) (on : Bool) : List Text :=
  if on then if options.contains name then options else name :: options
  else options.filter (· ≠ name)

inductive OptionError where
  | letter (b : UInt8)
  | name (text : Text)
deriving DecidableEq, Repr

def OptionError.message : OptionError → Text
  | letter b => "Illegal option -" ++ [b]
  | .name text => "Illegal option -o " ++ text

def switchName (options : List Text) (name : Text) (on : Bool) : Except OptionError (List Text) :=
  if allOptions.any fun o => o.1 = name then .ok (switched options name on)
  else .error (.name name)

def switchLetter (options : List Text) (b : UInt8) (on : Bool) : Except OptionError (List Text) :=
  match allOptions.find? fun o => o.2 = some b with
  | none => .error (.letter b)
  | some (name, _) =>
    let options := switched options name on
    .ok (if !on then options
      else if name = "vi" then switched options "emacs" false
      else if name = "emacs" then switched options "vi" false
      else options)

def listedOptions (options : List Text) (inWords : Bool) : Text :=
  let chosen (on off name : Text) : Text := if options.contains name then on else off
  let line (name : Text) : Text :=
    if inWords then
      name ++ List.replicate (16 - name.length) 0x20 ++ chosen "on\n" "off\n" name
    else "set " ++ chosen "-o " "+o " name ++ name ++ "\n"
  (if inWords then ("Current option settings\n" : Text) else []) ++
    (allOptions.map fun o => line o.1).flatten

structure OptionArguments where
  options : List Text
  listed : Text
  script : Bool
  rest : List Text
  ended : Bool
  fault : Option OptionError
deriving DecidableEq, Repr

def OptionArguments.change (found : OptionArguments) :
    Except OptionError (List Text) → OptionArguments
  | .ok options => { found with options := options }
  | .error e => { found with fault := some e }

def readLetters (atStart on : Bool) (found : OptionArguments) : Text → OptionArguments
  | [] => found
  | b :: letters =>
    if found.fault.isSome then found
    else
      let next := if b = 0x63 && atStart then { found with script := true }
        else if b = 0x6C && atStart then found
        else if b = 0x6F then
          match found.rest with
          | [] =>
            let options := if atStart then allOptions.map Prod.fst else found.options
            { found with listed := found.listed ++ listedOptions options on }
          | name :: rest => { found with rest := rest }.change (switchName found.options name on)
        else found.change (switchLetter found.options b on)
      readLetters atStart on next letters

def readOptions (atStart : Bool) : Nat → OptionArguments → OptionArguments
  | 0, found => found
  | fuel + 1, found =>
    match found.fault, found.rest with
    | some _, _ | _, [] => found
    | none, arg :: rest =>
      if arg = "--" then { found with rest := rest, ended := true }
      else if arg = "-" then
        let options := if atStart then found.options
          else switched (switched found.options "xtrace" false) "verbose" false
        { found with options := options, rest := rest }
      else match arg with
        | 0x2D :: letters =>
          readOptions atStart fuel (readLetters atStart true { found with rest := rest } letters)
        | 0x2B :: letters =>
          readOptions atStart fuel (readLetters atStart false { found with rest := rest } letters)
        | _ => found

def optionArguments (atStart : Bool) (options : List Text) (args : List Text) : OptionArguments :=
  readOptions atStart (args.length + 1) ⟨options, [], false, args, false, none⟩

end Shell

namespace Run

def optionsFrom (known : Text) : Nat → Text → List Text → Run (List (UInt8 × Text) × List Text)
  | 0, _, args => return ([], args)
  | fuel + 1, [], args =>
    match args with
    | (0x2D :: b :: letters) :: rest =>
      if b = 0x2D ∧ letters = [] then return ([], rest)
      else optionsFrom known fuel (b :: letters) rest
    | _ => return ([], args)
  | fuel + 1, b :: letters, args => do
    let after := (known.dropWhile (· != b)).drop 1
    if b = 0x3A ∨ !List.contains known b then fail ("Illegal option -" ++ [b])
    if after.head? = some 0x3A then
      match letters, args with
      | [], [] => fail ("No arg for -" ++ ([b] ++ (" option" : Text)))
      | [], value :: rest =>
        let (found, rest) ← optionsFrom known fuel [] rest
        return ((b, value) :: found, rest)
      | value, rest =>
        let (found, rest) ← optionsFrom known fuel [] rest
        return ((b, value) :: found, rest)
    else
      let (found, rest) ← optionsFrom known fuel letters args
      return ((b, []) :: found, rest)

def options (known : Text) (args : List Text) : Run (List (UInt8 × Text) × List Text) :=
  optionsFrom known ((args.map fun arg => arg.length + 1).foldl (· + ·) 1) [] args

def noOptions (args : List Text) : Run (List Text) := return (← options [] args).2

end Run

end LintServer
