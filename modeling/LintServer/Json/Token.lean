import LintServer.Json.Basic
import LintServer.Text.CodePoint

set_option autoImplicit false

namespace LintServer.Json

inductive Token where
  | openBrace
  | closeBrace
  | openBracket
  | closeBracket
  | colon
  | comma
  | scalar (value : Json)
deriving Repr, Inhabited

inductive StringPiece where
  | byte (b : UInt8)
  | unit (u : Nat)
deriving DecidableEq, Repr

namespace StringPiece

def isHigh (u : Nat) : Bool := 0xD800 ≤ u && u < 0xDC00

def isLow (u : Nat) : Bool := 0xDC00 ≤ u && u < 0xE000

/-- Joins surrogate pairs; a surrogate without its partner becomes U+FFFD. -/
def join : List StringPiece → Text
  | [] => []
  | byte b :: rest => b :: join rest
  | unit u :: unit v :: rest =>
    if isHigh u ∧ isLow v then
      CodePoint.encode (0x10000 + (u - 0xD800) * 0x400 + (v - 0xDC00)) ++ join rest
    else CodePoint.encode u ++ join (unit v :: rest)
  | unit u :: rest => CodePoint.encode u ++ join rest

end StringPiece

namespace Token

def simpleEscape? (b : UInt8) : Option UInt8 :=
  match b with
  | 0x22 => some 0x22
  | 0x5C => some 0x5C
  | 0x2F => some 0x2F
  | 0x62 => some 0x08
  | 0x66 => some 0x0C
  | 0x6E => some 0x0A
  | 0x72 => some 0x0D
  | 0x74 => some 0x09
  | _ => none

/-- The pieces of a string literal after its opening quote, and how many bytes it takes up to and
with the closing one. -/
def stringPieces? : Text → Option (List StringPiece × Nat)
  | [] => none
  | b :: rest =>
    if b = 0x22 then some ([], 1)
    else if b < 0x20 then none
    else if b = 0x5C then
      match rest with
      | [] => none
      | e :: rest =>
        match simpleEscape? e with
        | some c => (stringPieces? rest).map fun (pieces, n) => (.byte c :: pieces, n + 2)
        | none =>
          if e = 0x75 then
            match rest with
            | h1 :: h2 :: h3 :: h4 :: rest =>
              match Text.hexNumber? [h1, h2, h3, h4] with
              | some u => (stringPieces? rest).map fun (pieces, n) => (.unit u :: pieces, n + 6)
              | none => none
            | _ => none
          else none
    else (stringPieces? rest).map fun (pieces, n) => (.byte b :: pieces, n + 1)

def string? (text : Text) : Option (Token × Nat) :=
  (stringPieces? text).map fun (pieces, n) =>
    (scalar (.string (StringPiece.join pieces).repair), n + 1)

def digits (text : Text) : Nat := (text.takeWhile Text.isDigit).length

def wholeLength? : Text → Option Nat
  | [] => none
  | b :: rest =>
    if b = 0x30 then some 1 else if Text.isDigit b then some (digits (b :: rest)) else none

def fractionLength? : Text → Option Nat
  | 0x2E :: rest => if digits rest = 0 then none else some (digits rest + 1)
  | _ => some 0

def exponentLength? : Text → Option Nat
  | b :: rest =>
    if b = 0x65 ∨ b = 0x45 then
      let sign := match rest with
        | s :: _ => if s = 0x2B ∨ s = 0x2D then 1 else 0
        | [] => 0
      let n := digits (rest.drop sign)
      if n = 0 then none else some (1 + sign + n)
    else some 0
  | [] => some 0

def numberLength? (text : Text) : Option Nat := do
  let sign := if text.head? = some 0x2D then 1 else 0
  let whole ← wholeLength? (text.drop sign)
  let fraction ← fractionLength? (text.drop (sign + whole))
  let exponent ← exponentLength? (text.drop (sign + whole + fraction))
  return sign + whole + fraction + exponent

def word? (text : Text) : Option (Token × Nat) :=
  if text.startsWith "null" then some (scalar .null, 4)
  else if text.startsWith "true" then some (scalar (.bool true), 4)
  else if text.startsWith "false" then some (scalar (.bool false), 5)
  else none

def first? (b : UInt8) (rest : Text) : Option (Token × Nat) :=
  match b with
  | 0x7B => some (openBrace, 1)
  | 0x7D => some (closeBrace, 1)
  | 0x5B => some (openBracket, 1)
  | 0x5D => some (closeBracket, 1)
  | 0x3A => some (colon, 1)
  | 0x2C => some (comma, 1)
  | 0x22 => string? rest
  | _ =>
    if b = 0x2D ∨ Text.isDigit b then
      (numberLength? (b :: rest)).map fun n => (scalar (.number ((b :: rest).take n)), n)
    else word? (b :: rest)

def isSpace (b : UInt8) : Bool := b == 0x20 || b == 0x09 || b == 0x0A || b == 0x0D

def scanFrom (skip : Nat) : Text → Option (List Token)
  | [] => some []
  | b :: rest =>
    match skip with
    | n + 1 => scanFrom n rest
    | 0 =>
      if isSpace b then scanFrom 0 rest
      else match first? b rest with
        | none => none
        | some (token, n) => (scanFrom (n - 1) rest).map (token :: ·)

def scan (text : Text) : Option (List Token) := scanFrom 0 text

end Token

end LintServer.Json
