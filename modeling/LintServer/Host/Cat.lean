import LintServer.Host.Effect
import LintServer.Host.FileName

set_option autoImplicit false

namespace LintServer

namespace Cat

structure Options where
  numbered : Bool
  numberedFull : Bool
  ends : Bool
  tabs : Bool
  marked : Bool
  squeezed : Bool
deriving DecidableEq, Repr

def Options.none : Options := ⟨false, false, false, false, false, false⟩

def Options.with? (o : Options) (letter : UInt8) : Option Options :=
  if letter = 0x41 then some { o with ends := true, tabs := true, marked := true }
  else if letter = 0x62 then some { o with numberedFull := true }
  else if letter = 0x65 then some { o with ends := true, marked := true }
  else if letter = 0x45 then some { o with ends := true }
  else if letter = 0x6E then some { o with numbered := true }
  else if letter = 0x73 then some { o with squeezed := true }
  else if letter = 0x74 then some { o with tabs := true, marked := true }
  else if letter = 0x54 then some { o with tabs := true }
  else if letter = 0x75 then some o
  else if letter = 0x76 then some { o with marked := true }
  else Option.none

def longOptions : List (Text × UInt8) :=
  [("number-nonblank", 0x62), ("number", 0x6E), ("squeeze-blank", 0x73),
    ("show-nonprinting", 0x76), ("show-ends", 0x45), ("show-tabs", 0x54), ("show-all", 0x41)]

inductive OptionError where
  | letter (b : UInt8)
  | unknown (option : Text)
  | ambiguous (option : Text) (possible : List Text)
  | argument (name : Text)
deriving DecidableEq, Repr

def OptionError.message : OptionError → Text
  | letter b => "invalid option -- '" ++ (b :: "'")
  | unknown option => "unrecognized option '" ++ option ++ "'"
  | ambiguous option possible =>
    let choices : List Text := possible.map fun name => " '--" ++ name ++ "'"
    "option '" ++ option ++ "' is ambiguous; possibilities:" ++ choices.flatten
  | argument name => "option '--" ++ name ++ "' doesn't allow an argument"

def long (text : Text) : Except OptionError UInt8 :=
  let (name, value) := Text.cut 0x3D text
  let option := "--" ++ name
  let named (found : Text × UInt8) : Except OptionError UInt8 :=
    if value.isSome then .error (.argument found.1) else .ok found.2
  match longOptions.find? fun o => o.1 = name with
  | some found => named found
  | none =>
    match longOptions.filter fun o => Text.startsWith o.1 name with
    | [] => .error (.unknown ("--" ++ text))
    | [found] => named found
    | several => .error (.ambiguous option (several.map Prod.fst))

def options (o : Options) : List Text → Except OptionError (Options × List Text)
  | [] => .ok (o, [])
  | arg :: rest => do
    if arg = "--" then return (o, rest)
    else if Text.startsWith arg "--" then
      let letter ← long (arg.drop 2)
      options ((o.with? letter).getD o) rest
    else if arg.length > 1 ∧ Text.startsWith arg "-" then
      let o ← (arg.drop 1).foldlM (fun (o : Options) b =>
        match o.with? b with
        | some o => Except.ok o
        | none => Except.error (OptionError.letter b)) o
      options o rest
    else
      let (o, paths) ← options o rest
      return (o, arg :: paths)

def label (n : Nat) : Text :=
  let digits := Text.ofNat n
  List.replicate (6 - digits.length) 0x20 ++ digits ++ [0x09]

def shown (o : Options) (b : UInt8) : Text :=
  let low (b : UInt8) : Text :=
    if b < 0x20 then [0x5E, b + 0x40] else if b = 0x7F then "^?" else [b]
  if b = 0x09 then if o.tabs then "^I" else [b]
  else if !o.marked then [b]
  else if b < 0x80 then low b
  else 0x4D :: 0x2D :: low (b - 0x80)

structure Progress where
  number : Nat
  blank : Option Nat
deriving DecidableEq, Repr

def lineByte (o : Options) (b : UInt8) (rest : Text) : Text :=
  if b = Text.cr ∧ o.ends ∧ rest.head? = some Text.lf then "^M" else shown o b

def step (o : Options) (p : Progress) (b : UInt8) (rest : Text) : Text × Progress :=
  let lineEnd : Text := if o.ends then [0x24, Text.lf] else [Text.lf]
  match p.blank with
  | some empty =>
    if b = Text.lf then
      let blank := some (empty + 1)
      if o.squeezed ∧ empty > 0 then ([], { p with blank := blank })
      else if o.numbered ∧ !o.numberedFull then
        (label (p.number + 1) ++ lineEnd, ⟨p.number + 1, blank⟩)
      else (lineEnd, { p with blank := blank })
    else if o.numberedFull || o.numbered then
      (label (p.number + 1) ++ lineByte o b rest, ⟨p.number + 1, none⟩)
    else (lineByte o b rest, { p with blank := none })
  | none =>
    if b = Text.lf then (lineEnd, { p with blank := some 0 }) else (lineByte o b rest, p)

def view (o : Options) (p : Progress) : Text → Text × Progress
  | [] => ([], p)
  | b :: rest =>
    let (text, p) := step o p b rest
    let (after, p) := view o p rest
    (text ++ after, p)

structure Course where
  host : Host
  fine : Bool

def Course.complain (c : Course) (p : Process) (name path reason : Text) : Course :=
  ⟨p.tell c.host 2 (name ++ ": " ++ FileName.shown path ++ ": " ++ reason ++ "\n"), false⟩

def outputPlace? (p : Process) (h : Host) : Option (List Text) :=
  match h.channel? (p.descriptors.lookup 1) with
  | some (.file place _ _) => some place
  | _ => none

def isOutput (p : Process) (h : Host) (index : Nat) : Bool :=
  match h.channels[index]? with
  | some (.file place offset _) =>
    outputPlace? p h = some place && offset < (h.contentAt place).length
  | _ => false

def channelOf (p : Process) (h : Host) (path : Text) : Except Text (Nat × Host) :=
  if path = "-" then
    match p.descriptors.lookup 0 with
    | some index => .ok (index, h)
    | none => .error ChannelError.notOpen.reason
  else (h.opened p path .read).mapError FileError.reason

def contents (p : Process) (name : Text) (o : Options) (progress : Progress) (c : Course) :
    List Text → Course
  | [] => c
  | path :: rest =>
    match channelOf p c.host path with
    | .error reason => contents p name o progress (c.complain p name path reason) rest
    | .ok (index, h) =>
      let c := { c with host := h }
      if isOutput p h index then
        contents p name o progress (c.complain p name path "input file is output file") rest
      else match h.left (some index) with
        | .error e => contents p name o progress (c.complain p name path e.reason) rest
        | .ok content =>
          let (text, progress) := view o progress content
          let h := h.skip (some index) content.length
          match p.write h 1 text with
          | .error e => ⟨p.tell h 2 (name ++ ": write error: " ++ e.reason ++ "\n"), false⟩
          | .ok h => contents p name o progress { c with host := h } rest

def run : Program := fun p name args h =>
  let fails (h : Host) (message : Text) : Ending × Host :=
    (.exit 1, p.tell h 2 (name ++ ": " ++ message ++ "\n"))
  match options .none args with
  | .error e =>
    fails h (e.message ++ "\nTry '" ++ name ++ " --help' for more information.")
  | .ok (o, paths) =>
    let paths := if paths.isEmpty then [("-" : Text)] else paths
    if (p.descriptors.lookup 1).isNone then
      fails h ("standard output: " ++ ChannelError.notOpen.reason)
    else
      let c := contents p name o ⟨0, some 0⟩ ⟨h, true⟩ paths
      if paths.contains "-" && (p.descriptors.lookup 0).isNone then
        fails c.host ("closing standard input: " ++ ChannelError.notOpen.reason)
      else (.exit (if c.fine then 0 else 1), c.host)

end Cat

end LintServer
