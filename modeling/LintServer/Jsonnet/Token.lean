import LintServer.Text.CodePoint

set_option autoImplicit false

namespace LintServer.Jsonnet

inductive Token where
  | name (value : Text)
  | string (value written : Text)
  | block (value : Text)
  | number (literal : Text)
  | symbol (value : Text)
deriving DecidableEq, Repr

namespace Token

def isNameStart (b : UInt8) : Bool := Text.isLetter b || b == 0x5F

def isNamePart (b : UInt8) : Bool := isNameStart b || Text.isDigit b

def isBlank (b : UInt8) : Bool := b == 0x20 || b == 0x09 || b == Text.lf || b == Text.cr

def unit? : Text → Option Nat
  | 0x75 :: a :: b :: c :: d :: _ => Text.hexNumber? [a, b, c, d]
  | _ => none

def joinUnits (high low : Nat) : Text :=
  if 0xD800 ≤ high ∧ high < 0xDC00 ∧ 0xDC00 ≤ low ∧ low < 0xE000 then
    CodePoint.encode (0x10000 + (high - 0xD800) * 0x400 + (low - 0xDC00))
  else CodePoint.encode CodePoint.replacement

def unitEscape? (text : Text) : Option (Text × Nat) := do
  let unit ← unit? text
  if 0xD800 ≤ unit ∧ unit < 0xE000 then
    match text.drop 5 with
    | 0x5C :: rest => some (joinUnits unit (← unit? rest), 11)
    | _ => none
  else some (CodePoint.encode unit, 5)

def escape? (text : Text) : Option (Text × Nat) :=
  match text with
  | [] => none
  | 0x75 :: rest => unitEscape? (0x75 :: rest)
  | b :: _ => do
    let byte ← [(0x22, 0x22), (0x27, 0x27), (0x5C, 0x5C), (0x2F, 0x2F), (0x62, 0x08),
      (0x66, 0x0C), (0x6E, 0x0A), (0x72, 0x0D), (0x74, 0x09)].lookup b
    some ([byte], 1)

def quotedFrom (quote : UInt8) (skip : Nat) : Text → Option (Text × Nat)
  | [] => none
  | b :: rest =>
    match skip with
    | n + 1 => (quotedFrom quote n rest).map fun (text, length) => (text, length + 1)
    | 0 =>
      if b = quote then some ([], 1)
      else if b = 0x5C then do
        let (text, skip) ← escape? rest
        let (more, length) ← quotedFrom quote skip rest
        some (text ++ more, length + 1)
      else (quotedFrom quote 0 rest).map fun (text, length) => (b :: text, length + 1)

def verbatimFrom (quote : UInt8) (skip : Nat) : Text → Option (Text × Nat)
  | [] => none
  | b :: rest =>
    match skip with
    | n + 1 => (verbatimFrom quote n rest).map fun (text, length) => (text, length + 1)
    | 0 =>
      if b = quote then
        if rest.head? = some quote then
          (verbatimFrom quote 1 rest).map fun (text, length) => (quote :: text, length + 1)
        else some ([], 1)
      else (verbatimFrom quote 0 rest).map fun (text, length) => (b :: text, length + 1)

def isIndent (b : UInt8) : Bool := b == 0x20 || b == 0x09

def bars : Text := "|||"

/-- The lines of a text block without their indent, and its length. It ends at bars on a line that
is not indented so far; empty lines need no indent. -/
def blockLines (indent : Text) : List Text → Option (Text × Nat)
  | [] => none
  | line :: rest =>
    if line ≠ [] ∧ !indent.isPrefixOf line then
      let inner := line.dropWhile isIndent
      if Text.startsWith inner bars then some ([], line.length - inner.length + bars.length) else none
    else if rest = [] then none
    else (blockLines indent rest).map fun (text, length) =>
      (line.drop indent.length ++ Text.lf :: text, line.length + 1 + length)

def block? (text : Text) : Option (Text × Nat) :=
  let start := text.dropWhile fun b => isIndent b || b == Text.cr
  match start with
  | [] => none
  | b :: body =>
    let indent := (body.dropWhile (· == Text.lf)).takeWhile isIndent
    if b ≠ Text.lf ∨ indent = [] then none
    else (blockLines indent (Text.splitAt Text.lf body)).map fun (content, length) =>
      (content, text.length - body.length + length)

def blockComment? : Text → Option Nat
  | 0x2A :: 0x2F :: _ => some 2
  | _ :: rest => (blockComment? rest).map (· + 1)
  | [] => none

def digits (text : Text) : Text := text.takeWhile Text.isDigit

def exponentLength? (text : Text) : Option Nat :=
  match text with
  | [] => some 0
  | b :: rest =>
    if b = 0x65 ∨ b = 0x45 then
      let sign := if rest.head? = some 0x2B ∨ rest.head? = some 0x2D then 1 else 0
      let count := (digits (rest.drop sign)).length
      if count = 0 then none else some (1 + sign + count)
    else some 0

def fractionLength? (text : Text) : Option Nat :=
  match text with
  | 0x2E :: rest =>
    let count := (digits rest).length
    if count = 0 then none else some (1 + count)
  | _ => some 0

def numberLength? (text : Text) : Option Nat := do
  let whole := if text.head? = some 0x30 then 1 else (digits text).length
  let fraction ← fractionLength? (text.drop whole)
  let exponent ← exponentLength? (text.drop (whole + fraction))
  some (whole + fraction + exponent)

def isOperator (b : UInt8) : Bool := ("!$:~+-&|^=<>*/%" : Text).contains b

def operatorTail : Text → Text
  | [] => []
  | b :: rest =>
    if !isOperator b then []
    else if b = 0x2F ∧ (rest.head? = some 0x2F ∨ rest.head? = some 0x2A) then []
    else if Text.startsWith (b :: rest) bars then []
    else b :: operatorTail rest

def isUnary (b : UInt8) : Bool := ("+-~!$" : Text).contains b

/-- All operator bytes in a row, or only the first if the last one cannot be the end. -/
def operator (b : UInt8) (rest : Text) : Text :=
  let tail := operatorTail rest
  if tail.getLast?.any isUnary then [b] else b :: tail

def first? (b : UInt8) (rest : Text) : Option (Option Token × Nat) :=
  if isBlank b then some (none, 1)
  else if b = 0x23 ∨ (b = 0x2F ∧ rest.head? = some 0x2F) then
    some (none, 1 + (rest.takeWhile (· != Text.lf)).length)
  else if b = 0x2F ∧ rest.head? = some 0x2A then
    (blockComment? (rest.drop 1)).map fun length => (none, 2 + length)
  else if isNameStart b then
    let value := b :: rest.takeWhile isNamePart
    some (some (.name value), value.length)
  else if Text.isDigit b then do
    let length ← numberLength? (b :: rest)
    some (some (.number ((b :: rest).take length)), length)
  else if b = 0x22 ∨ b = 0x27 then
    (quotedFrom b 0 rest).map fun (text, length) =>
      (some (.string text (rest.take (length - 1))), 1 + length)
  else if b = 0x40 then
    match rest with
    | [] => none
    | quote :: rest =>
      if quote = 0x22 ∨ quote = 0x27 then
        (verbatimFrom quote 0 rest).map fun (text, length) =>
          (some (.string text text), 2 + length)
      else none
  else if ("\x7b\x7d[](),.;" : Text).contains b then some (some (.symbol [b]), 1)
  else if Text.startsWith (b :: rest) bars then
    (block? ((b :: rest).drop bars.length)).map fun (text, length) =>
      (some (.block text), bars.length + length)
  else if isOperator b then
    let value := operator b rest
    some (some (.symbol value), value.length)
  else none

def scanFrom? (skip : Nat) : Text → Option (List Token)
  | [] => some []
  | b :: rest =>
    match skip with
    | n + 1 => scanFrom? n rest
    | 0 => do
      let (token, length) ← first? b rest
      let more ← scanFrom? (length - 1) rest
      some (token.toList ++ more)

def scan? (text : Text) : Option (List Token) := scanFrom? 0 text

end Token

end LintServer.Jsonnet
