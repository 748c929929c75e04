import LintServer.Toml.Quoted
import LintServer.Toml.Number

set_option autoImplicit false

namespace LintServer.Toml

abbrev Key := List Text

inductive Term where
  | text (value : Text)
  | boolean (value : Bool)
  | number
  | array (items : List Term)
  | table (members : List (Key × Term))
deriving Repr

inductive Statement where
  | assign (key : Key) (value : Term)
  | table (key : Key)
  | tables (key : Key)
deriving Repr

def skipBlanks (text : Text) : Text := text.dropWhile isBlank

def skipLines (comment : Bool) : Text → Text
  | [] => []
  | b :: rest =>
    if comment then skipLines (!isNewline b) rest
    else if isBlank b || isNewline b then skipLines false rest
    else if b = 0x23 then skipLines true rest
    else b :: rest

def expect? (byte : UInt8) : Text → Option Text
  | b :: rest => if b = byte then some rest else none
  | [] => none

def isBare (b : UInt8) : Bool := Text.isLetter b || Text.isDigit b || b == 0x5F || b == 0x2D

def keyPart? (text : Text) : Option (Text × Text) :=
  match text with
  | 0x22 :: rest => basic rest
  | 0x27 :: rest => literal rest
  | _ =>
    let part := text.takeWhile isBare
    if part = [] then none else some (part, text.drop part.length)

def key? : Nat → Text → Option (Key × Text)
  | 0, _ => none
  | depth + 1, text => do
    let (part, rest) ← keyPart? (skipBlanks text)
    match skipBlanks rest with
    | 0x2E :: rest =>
      let (parts, rest) ← key? depth rest
      some (part :: parts, rest)
    | rest => some ([part], rest)

mutual

def term? : Nat → Text → Option (Term × Text)
  | 0, _ => none
  | depth + 1, text =>
    match text with
    | [] => none
    | b :: rest =>
      if b = 0x5B then
        (items? depth (skipLines false rest)).map fun (items, rest) => (.array items, rest)
      else if b = 0x7B then
        match skipBlanks rest with
        | 0x7D :: rest => some (.table [], rest)
        | rest => (members? depth rest).map fun (members, rest) => (.table members, rest)
      else if b = quote ∨ b = apostrophe then
        (quoted? text).map fun (value, rest) => (.text value, rest)
      else if text.startsWith "true" then some (.boolean true, text.drop 4)
      else if text.startsWith "false" then some (.boolean false, text.drop 5)
      else (afterNumber? text).map fun rest => (.number, rest)

def items? : Nat → Text → Option (List Term × Text)
  | 0, _ => none
  | depth + 1, text =>
    match text with
    | 0x5D :: rest => some ([], rest)
    | _ => do
      let (item, rest) ← term? depth text
      match skipLines false rest with
      | 0x5D :: rest => some ([item], rest)
      | 0x2C :: rest =>
        let (items, rest) ← items? depth (skipLines false rest)
        some (item :: items, rest)
      | _ => none

def members? : Nat → Text → Option (List (Key × Term) × Text)
  | 0, _ => none
  | depth + 1, text => do
    let (key, rest) ← key? depth text
    let rest ← expect? 0x3D rest
    let (value, rest) ← term? depth (skipBlanks rest)
    match skipBlanks rest with
    | 0x7D :: rest => some ([(key, value)], rest)
    | 0x2C :: rest =>
      let (members, rest) ← members? depth (skipBlanks rest)
      some ((key, value) :: members, rest)
    | _ => none

end

def statement? (depth : Nat) (text : Text) : Option (Statement × Text) := do
  match text with
  | 0x5B :: 0x5B :: rest =>
    let (key, rest) ← key? depth rest
    let rest ← expect? 0x5D rest
    let rest ← expect? 0x5D rest
    some (.tables key, rest)
  | 0x5B :: rest =>
    let (key, rest) ← key? depth rest
    let rest ← expect? 0x5D rest
    some (.table key, rest)
  | _ =>
    let (key, rest) ← key? depth text
    let rest ← expect? 0x3D rest
    let (value, rest) ← term? depth (skipBlanks rest)
    some (.assign key value, rest)

def lineEnds (text : Text) : Bool :=
  match skipBlanks text with
  | [] => true
  | b :: _ => isNewline b || b == 0x23

def statements? : Nat → Text → Option (List Statement)
  | 0, _ => none
  | depth + 1, text =>
    match skipLines false text with
    | [] => some []
    | start => do
      let (statement, rest) ← statement? depth start
      if lineEnds rest then
        let more ← statements? depth rest
        some (statement :: more)
      else none

def controlsOk : Text → Bool
  | [] => true
  | b :: rest =>
    (if b = Text.cr then rest.head? == some Text.lf
      else b == 0x09 || b == Text.lf || (0x20 ≤ b && b != 0x7F)) && controlsOk rest

def dropMark : Text → Text
  | 0xEF :: 0xBB :: 0xBF :: rest => rest
  | 0xFF :: 0xFE :: rest => rest
  | 0xFE :: 0xFF :: rest => rest
  | text => text

def replacementFree (text : Text) : Bool :=
  text.codePoints.all fun p => p.scalar != CodePoint.replacement

def parse? (text : Text) : Option (List Statement) :=
  let text := dropMark text
  if replacementFree text ∧ controlsOk text then statements? (2 * text.length + 2) text else none

end LintServer.Toml
