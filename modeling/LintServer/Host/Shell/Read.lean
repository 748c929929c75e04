import LintServer.Host.Shell.Field
import LintServer.Host.Shell.Option

set_option autoImplicit false

namespace LintServer

namespace Run

/-- A line of the input, how many bytes it takes, and whether it ended. A backslash protects the
byte after it, unless it is `raw`, and joins two lines. -/
def inputLine (raw : Bool) (e : Expansion) : Text → Expansion × Nat × Bool
  | [] => (e, 0, false)
  | b :: rest =>
    if b = Text.lf then (e, 1, true)
    else if b = 0x5C ∧ !raw then
      match rest with
      | [] => (e, 1, false)
      | c :: rest =>
        let e := if c = Text.lf then { e with growing := false }
          else if c = 0 then e
          else e.push (.byte c false)
        let (e, length, ended) := inputLine raw e rest
        (e, length + 2, ended)
    else
      let (e, length, ended) := inputLine raw (if b = 0 then e else e.pushSplit b) rest
      (e, length + 1, ended)

def assignFields : List Text → List (List Atom) → Run Unit
  | [], _ => return ()
  | name :: rest, fields => do
    assign name (Atom.text (fields.headD []))
    assignFields rest fields.tail

def read (args : List Text) : Run Nat := do
  let (found, names) ← options "p:r" args
  if names.isEmpty then fail "arg count"
  let s ← get
  let input := s.descriptors.lookup 0
  let (e, ended) ← match s.host.left input with
    | .error _ => pure (Expansion.empty, false)
    | .ok text =>
      let (e, length, ended) := inputLine (found.lookup 0x72).isSome .empty text
      set { s with host := s.host.skip input length }
      pure (e, ended)
  assignFields names (e.fields s.separators (some names.length))
  return if ended then 0 else 1

structure NextOption where
  letter : UInt8
  value : Option (Option Text)
  complaint : Option Text
  index : Nat
  offset : Option Nat
  done : Bool
deriving DecidableEq, Repr

def knownOption : Text → UInt8 → Option Bool
  | [], _ => none
  | [c], b => if c = b then some false else none
  | c :: d :: rest, b =>
    if c = b then some (d = 0x3A)
    else if d = 0x3A then knownOption rest b
    else knownOption (d :: rest) b

def nextOption (known : Text) (args : List Text) (index : Nat) (offset : Option Nat) : NextOption :=
  let quiet := known.head? = some 0x3A
  let current : Text := match offset with
    | some n => if index ≤ 1 then [] else (args.getD (index - 2) []).drop n
    | none => []
  let finished (index : Nat) : NextOption := ⟨0x3F, none, none, index, none, true⟩
  let letter (b : UInt8) (rest : Text) (index : Nat) : NextOption :=
    let further := some ((args.getD (index - 2) []).length - rest.length)
    match knownOption known b with
    | none =>
      if quiet then ⟨0x3F, some (some [b]), none, index, further, false⟩
      else ⟨0x3F, some none, some ("Illegal option -" ++ [b, Text.lf]), index, further, false⟩
    | some false => ⟨b, some (some []), none, index, further, false⟩
    | some true =>
      if rest ≠ [] then ⟨b, some (some rest), none, index, none, false⟩
      else match args[index - 1]? with
        | some value => ⟨b, some (some value), none, index + 1, none, false⟩
        | none =>
          if quiet then ⟨0x3A, some (some [b]), none, index, none, false⟩
          else
            ⟨0x3F, some none, some ("No arg for -" ++ b :: (" option\n" : Text)), index, none, false⟩
  match current with
  | b :: rest => letter b rest index
  | [] =>
    match args[index - 1]? with
    | some (0x2D :: b :: rest) =>
      if b = 0x2D ∧ rest = [] then finished (index + 1) else letter b rest (index + 1)
    | _ => finished index

def getopts (args : List Text) : Run Nat := do
  match args with
  | known :: name :: given =>
    let s ← get
    let args := if given.isEmpty then s.arguments else given
    let isOver : Bool := args.length + 1 < s.optionIndex
    let found := nextOption known args (if isOver then 1 else s.optionIndex)
      (if isOver then none else s.optionOffset)
    match found.complaint with
    | some text => tell 2 text
    | none => pure ()
    match found.value with
    | some (some value) => assign "OPTARG" value
    | some none => unset "OPTARG"
    | none => pure ()
    assign "OPTIND" (Text.ofNat found.index)
    assign name [found.letter]
    modify fun s => { s with optionIndex := found.index, optionOffset := found.offset }
    return if found.done then 1 else 0
  | _ => fail "Usage: getopts optstring var [arg...]"

end Run

end LintServer
