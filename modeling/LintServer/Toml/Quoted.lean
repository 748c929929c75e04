import LintServer.Text.CodePoint

set_option autoImplicit false

namespace LintServer.Toml

def quote : UInt8 := 0x22

def apostrophe : UInt8 := 0x27

def backslash : UInt8 := 0x5C

def isNewline (b : UInt8) : Bool := b == Text.lf || b == Text.cr

def isBlank (b : UInt8) : Bool := b == 0x20 || b == 0x09

def escaped? (b : UInt8) : Option UInt8 :=
  [(0x62, 0x08), (0x74, 0x09), (0x6E, 0x0A), (0x66, 0x0C), (0x72, 0x0D), (quote, quote),
    (backslash, backslash)].lookup b

def digitCount? (b : UInt8) : Option Nat := [(0x75, 4), (0x55, 8)].lookup b

def isScalar (n : Nat) : Bool := n < 0xD800 || (0xDFFF < n && n ≤ 0x10FFFF)

def escape? (text : Text) : Option (Text × Nat) :=
  match text with
  | [] => none
  | b :: rest =>
    match escaped? b, digitCount? b with
    | some byte, _ => some ([byte], 1)
    | none, none => none
    | none, some count => do
      let digits := rest.take count
      let scalar ← Text.hexNumber? digits
      if digits.length = count ∧ isScalar scalar then some (CodePoint.encode scalar, count + 1)
      else none

def basicFrom (skip : Nat) : Text → Option (Text × Text)
  | [] => none
  | b :: rest =>
    match skip with
    | n + 1 => basicFrom n rest
    | 0 =>
      if b = quote then some ([], rest)
      else if isNewline b then none
      else if b = backslash then do
        let (text, length) ← escape? rest
        let (more, rest) ← basicFrom length rest
        some (text ++ more, rest)
      else do
        let (more, rest) ← basicFrom 0 rest
        some (b :: more, rest)

def basic (text : Text) : Option (Text × Text) := basicFrom 0 text

def literal : Text → Option (Text × Text)
  | [] => none
  | b :: rest =>
    if b = apostrophe then some ([], rest)
    else if isNewline b then none
    else do
      let (more, rest) ← literal rest
      some (b :: more, rest)

/-- The text that ends in a run of `run` marks is closed by the last three of them, and a run is of
`most` at most. -/
def closed? (mark : UInt8) (most run : Nat) (text : Text) : Option (Text × Text) :=
  if run ≤ most then some (List.replicate (run - 3) mark, text.drop run) else none

def run (mark : UInt8) (text : Text) : Nat := (text.takeWhile (· == mark)).length

def literalLines : Text → Option (Text × Text)
  | [] => none
  | b :: rest =>
    let count := run apostrophe (b :: rest)
    if 3 ≤ count then closed? apostrophe 5 count (b :: rest)
    else do
      let (more, rest) ← literalLines rest
      some (b :: more, rest)

def lineEnd? (text : Text) : Option Nat :=
  let skipped := text.takeWhile fun b => isBlank b || isNewline b
  if List.contains skipped Text.lf then some skipped.length else none

/-- Text in quotes on many lines, after `skip` bytes that belong to an escape. A run of quotes that
ends the text has five of them at most, or `most` if it stands right here. -/
def basicLinesFrom (most skip : Nat) : Text → Option (Text × Text)
  | [] => none
  | b :: rest =>
    match skip with
    | n + 1 => basicLinesFrom most n rest
    | 0 =>
      let count := run quote (b :: rest)
      if 3 ≤ count then closed? quote most count (b :: rest)
      else if b = backslash then
        match lineEnd? rest with
        | some length => basicLinesFrom 5 length rest
        | none => do
          let (text, length) ← escape? rest
          let (more, rest) ← basicLinesFrom (if rest.head? = some backslash then 6 else 5) length rest
          some (text ++ more, rest)
      else do
        let (more, rest) ← basicLinesFrom 5 0 rest
        some (b :: more, rest)

def dropFirstLineEnd : Text → Text
  | 0x0A :: rest => rest
  | 0x0D :: 0x0A :: rest => rest
  | text => text

def quoted? (text : Text) : Option (Text × Text) :=
  match text with
  | 0x22 :: 0x22 :: 0x22 :: rest => basicLinesFrom 5 0 (dropFirstLineEnd rest)
  | 0x22 :: rest => basic rest
  | 0x27 :: 0x27 :: 0x27 :: rest => literalLines (dropFirstLineEnd rest)
  | 0x27 :: rest => literal rest
  | _ => none

end LintServer.Toml
