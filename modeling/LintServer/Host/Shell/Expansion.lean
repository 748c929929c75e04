import LintServer.Host.Shell.Arithmetic
import LintServer.Host.Shell.Basic
import LintServer.Host.Shell.Field
import LintServer.Host.Shell.Option

set_option autoImplicit false

namespace LintServer

structure Mode where
  full : Bool
  cased : Bool
  tilde : Bool
  assigns : Bool
  assigned : Bool
  operand : Bool
  quoted : Bool
deriving DecidableEq, Repr

namespace Mode

def argument : Mode := ⟨true, false, true, false, false, false, false⟩

def single : Mode := ⟨false, false, true, false, false, false, false⟩

def assignment : Mode := ⟨false, false, false, true, false, false, false⟩

def pattern : Mode := ⟨false, true, true, false, false, false, false⟩

def document : Mode := ⟨false, false, false, false, false, false, true⟩

def arithmetic : Mode := ⟨false, false, false, false, false, false, false⟩

def keepsQuotes (m : Mode) : Bool := m.full || m.cased

def splitsBytes (m : Mode) : Bool := m.operand && !m.quoted

def atoms (m : Mode) (text : Text) : List Atom :=
  text.filterMap fun b => if b = 0 then none else some (.byte b (m.keepsQuotes && m.quoted))

end Mode

structure Calls where
  program : Text → Option Program
  tree : Purpose → Script.Command → Run Nat
  script : Purpose → Text → Run Nat
  captured : Script.Command → Run Text
  word : Mode → Script.Word → Expansion → Run Expansion

namespace Shell

def homes : List (Text × Text) :=
  [("root", "/root"), ("daemon", "/usr/sbin"), ("bin", "/bin"), ("sys", "/dev"), ("sync", "/bin"),
    ("games", "/usr/games"), ("man", "/var/cache/man"), ("lp", "/var/spool/lpd"),
    ("mail", "/var/mail"), ("news", "/var/spool/news"), ("uucp", "/var/spool/uucp"),
    ("proxy", "/bin"), ("www-data", "/var/www"), ("backup", "/var/backups"), ("list", "/var/list"),
    ("nobody", "/nonexistent")]

def tildeName? (assigns : Bool) : Script.Word → Option Text
  | [] => some []
  | .byte b false :: rest =>
    if b = Text.slash ∨ (b = 0x3A ∧ assigns) then some []
    else (tildeName? assigns rest).map (b :: ·)
  | _ => none

def home? (s : Shell) (assigns : Bool) (rest : Script.Word) : Option (Text × Nat) :=
  (tildeName? assigns rest).bind fun name =>
    (if name = [] then s.value? "HOME" else homes.lookup name).map fun home => (home, name.length)

def argumentSeparator (s : Shell) (m : Mode) (name : Text) : Text :=
  if name = "@" ∧ m.quoted ∧ m.full then [0]
  else match s.value? "IFS" with
    | none => [0x20]
    | some separators => if m.quoted || !m.full then separators.take 1 else [0]

def parameter? (s : Shell) (m : Mode) (name : Text) : Option (List Atom × Nat) :=
  let plain (text : Text) : List Atom × Nat := (m.atoms text, text.length)
  if name = "@" ∨ name = "*" then
    let separator := s.argumentSeparator m name
    let between : List Atom := separator.map fun b => .byte b (m.keepsQuotes && m.quoted && b != 0)
    some (((s.arguments.map m.atoms).intersperse between).flatten,
      (Text.joinWith separator s.arguments).length)
  else if name = "?" then some (plain (Text.ofNat s.status))
  else if name = "#" then some (plain (Text.ofNat s.arguments.length))
  else if name = "$" then some (plain (Text.ofNat s.process))
  else if name = "!" then s.lastJob.map fun n => plain (Text.ofNat n)
  else if name = "-" then some (plain s.letters)
  else if name.head?.any Text.isDigit then
    match Text.decimal? name with
    | some 0 => some (plain s.name)
    | some (n + 1) => s.arguments[n]?.map plain
    | none => none
  else (s.value? name).map plain

end Shell

namespace Run

def upToZero (text : Text) : Text := text.takeWhile (· != 0)

def trimmed (use : Script.Use) (pattern : Text) (value : List Atom) : List Atom :=
  let p := Glob.ofText pattern
  let bytes := Atom.text value
  let whole := List.range (value.length + 1)
  let first := List.range ((upToZero bytes).length + 1)
  let start (n : Nat) : Bool := Glob.fits p (upToZero (bytes.take n))
  let rest (n : Nat) : Bool := Glob.fits p (upToZero (bytes.drop n))
  match use with
  | .withoutStart false => value.drop ((first.find? start).getD 0)
  | .withoutStart true => value.drop ((whole.reverse.find? start).getD 0)
  | .withoutEnd false => value.take ((whole.reverse.find? rest).getD value.length)
  | _ => value.take ((first.find? rest).getD value.length)

def recorded (s : Shell) (m : Mode) (name : Text) (start : Nat) (e : Expansion) : Expansion :=
  if !m.quoted then e.record start false
  else if name = "@" ∧ s.arguments ≠ [] then e.record start true
  else e

def parameter (calls : Calls) (m : Mode) (name : Text) (use : Script.Use) (colon : Bool)
    (operand : Script.Word) (e : Expansion) : Run Expansion := do
  let s ← get
  let start := e.size
  let measured : Bool := use = .length || use = .ifSet
  let found := s.parameter? (if measured then { m with full := false, cased := false } else m) name
  let missing := match found with
    | none => true
    | some (_, length) => colon && length == 0
  let put (s : Shell) : Expansion :=
    recorded s m name start (e.append (((s.parameter? m name).map Prod.fst).getD []))
  let unset : Run Unit := do
    if missing && s.has "nounset" then fail (name ++ ": parameter not set")
  match use with
  | .invalid => fail "Bad substitution"
  | .orElse =>
    if missing then calls.word { m with tilde := true, operand := true } operand e else return put s
  | .ifSet =>
    if missing then return recorded s m name start e
    else calls.word { m with tilde := true, operand := true } operand e
  | .orFail =>
    if missing then
      let message := (← calls.word .single operand .empty).text
      fail (name ++ ": " ++ (if !operand.isEmpty then message
        else if colon then "parameter not set or null" else "parameter not set"))
    else return put s
  | .orAssign =>
    if missing then
      let value := (← calls.word .single operand .empty).text
      assign name value
      return put (← get)
    else return put s
  | .value =>
    unset
    return if missing then e else put s
  | .length =>
    unset
    let length := match found with
      | none => 0
      | some (_, length) => length
    return recorded s m name start (e.append (m.atoms (Text.ofNat length)))
  | use =>
    unset
    match found with
    | none => return e
    | some (value, _) =>
      let p := Atom.pattern (← calls.word .pattern operand .empty).atoms.toList
      return recorded s m name start (e.append (trimmed use p value))

def variablesOf (s : Shell) : Arithmetic.Variables :=
  ⟨s.value?, fun name => (s.binding? name).any Shell.Variable.fixed⟩

def evaluated (text : Text) : Run Int := do
  let (result, assigned) := Arithmetic.evaluate (variablesOf (← get)) text
  assigned.forM fun (name, value) => assign name (Text.ofInt value)
  match result with
  | .ok n => return n
  | .error .overflow => throw (.gone (.signal 8))
  | .error e => fail (e.message text)

def withoutLineEnds (text : Text) : Text := (text.reverse.dropWhile (· == Text.lf)).reverse

def piece (calls : Calls) (m : Mode) (p : Script.Piece) (e : Expansion) : Run Expansion := do
  let start := e.size
  match p with
  | .byte b quoted =>
    return if quoted then e.push (.byte b m.keepsQuotes)
      else if m.splitsBytes then e.pushSplit b
      else e.push (.byte b false)
  | .mark => return if m.keepsQuotes then e.push .mark else e
  | .parameter name use colon operand => parameter calls m name use colon operand e
  | .command body =>
    let text := withoutLineEnds ((← calls.captured body).filter (· != 0))
    let e := e.append (m.atoms text)
    return if m.quoted then e else e.record start false
  | .arithmetic expression =>
    let text := (← calls.word .arithmetic expression .empty).text
    let e := e.append (m.atoms (Text.ofInt (← evaluated text)))
    return if m.quoted then e else e.record start false

def isAllArguments : Script.Word → Bool
  | .parameter name .value false [] :: .mark :: _ => name = "@"
  | _ => false

/-- Expands a word after its first `skip` pieces. `inside` tells that the place is between quotes,
and `tilde` that a tilde here counts. -/
def wordFrom (calls : Calls) (m : Mode) (inside tilde : Bool) (skip : Nat) :
    Script.Word → Expansion → Run Expansion
  | [], e => return e
  | p :: rest, e =>
    match skip with
    | n + 1 => wordFrom calls m inside tilde n rest e
    | 0 => do
      let quoted := { m with quoted := m.quoted || inside }
      match p with
      | .byte b false =>
        let found ← if b = 0x7E ∧ tilde then pure ((← get).home? m.assigns rest) else pure none
        match found with
        | some (home, length) =>
          wordFrom calls m inside false length rest
            (e.append ({ m with quoted := true }.atoms home))
        | none =>
          let isEqual : Bool := m.assigns && !m.assigned && b = 0x3D
          let isColon : Bool := m.assigns && b = 0x3A
          let m := if isEqual then { m with assigned := true } else m
          wordFrom calls m inside (isEqual || isColon) 0 rest (← piece calls quoted p e)
      | .mark =>
        if !inside && isAllArguments rest then
          let all := Script.Piece.parameter "@" .value false []
          wordFrom calls m inside false 2 rest (← piece calls { m with quoted := true } all e)
        else wordFrom calls m (!inside) false 0 rest (← piece calls m p e)
      | _ => wordFrom calls m inside false 0 rest (← piece calls quoted p e)

def word (calls : Calls) (m : Mode) (w : Script.Word) (e : Expansion) : Run Expansion :=
  wordFrom calls { m with tilde := false } false m.tilde 0 w e

def textOf (calls : Calls) (m : Mode) (w : Script.Word) : Run Text := do
  return (← word calls m w .empty).text

def patternOf (calls : Calls) (w : Script.Word) : Run (List Glob) := do
  return Glob.ofText (Atom.pattern (← word calls .pattern w .empty).atoms.toList)

def matching (s : Shell) (field : List Atom) : List Text :=
  let plain := Atom.text field
  if !s.has "noglob" && plain.any fun b => ("*?[" : Text).contains b then
    match Glob.matching s.host s.directory (Atom.pattern field) with
    | [] => [plain]
    | found => found
  else [plain]

def arguments (calls : Calls) (w : Script.Word) : Run (List Text) := do
  let e ← word calls .argument w .empty
  let s ← get
  return (e.fields s.separators none).flatMap (matching s)

end Run

end LintServer
