import LintServer.Text.Basic

set_option autoImplicit false

namespace LintServer

namespace Echo

def isOctal (b : UInt8) : Bool := 0x30 ≤ b && b ≤ 0x37

def octalByte (digits : Text) : UInt8 :=
  (digits.foldl (fun (sum : Nat) b => sum * 8 + (b.toNat - 0x30)) 0).toUInt8

def letter? (b : UInt8) : Option UInt8 :=
  [(0x61, 0x07), (0x62, 0x08), (0x65, 0x1B), (0x66, 0x0C), (0x6E, 0x0A), (0x72, 0x0D),
    (0x74, 0x09), (0x76, 0x0B), (0x5C, 0x5C)].lookup b

structure Escapes where
  afterZero : Bool
  bare : Bool
  stops : Bool
  hexadecimal : Bool
deriving DecidableEq, Repr

structure Unescaped where
  text : Text
  stopped : Bool
deriving DecidableEq, Repr

def Unescaped.before (u : Unescaped) (b : UInt8) : Unescaped := { u with text := b :: u.text }

def escape? (e : Escapes) (text : Text) : Option (UInt8 × Nat) :=
  match text with
  | [] => none
  | b :: rest =>
    match letter? b with
    | some byte => some (byte, 1)
    | none =>
      let digits (text : Text) : Text := (text.take 3).takeWhile isOctal
      let hex := (rest.take 2).takeWhile Text.isHex
      if e.afterZero ∧ b = 0x30 then some (octalByte (digits rest), 1 + (digits rest).length)
      else if e.bare ∧ isOctal b then some (octalByte (digits text), (digits text).length)
      else if e.hexadecimal ∧ b = 0x78 ∧ hex ≠ [] then
        (Text.hexNumber? hex).map fun n => (n.toUInt8, 1 + hex.length)
      else none

def unescapeFrom (e : Escapes) (skip : Nat) : Text → Unescaped
  | [] => ⟨[], false⟩
  | b :: rest =>
    match skip with
    | n + 1 => unescapeFrom e n rest
    | 0 =>
      if b ≠ 0x5C then (unescapeFrom e 0 rest).before b
      else if e.stops ∧ rest.head? = some 0x63 then ⟨[], true⟩
      else match escape? e rest with
        | some (byte, length) => (unescapeFrom e length rest).before byte
        | none => (unescapeFrom e 0 rest).before b

def unescape (e : Escapes) (text : Text) : Unescaped := unescapeFrom e 0 text

def line (escapes : Option Escapes) (lineEnd : Bool) (args : List Text) : Text :=
  let text := Text.joinWith " " args
  let written := match escapes with
    | some e => unescape e text
    | none => ⟨text, false⟩
  if lineEnd && !written.stopped then written.text ++ [Text.lf] else written.text

def isOption (arg : Text) : Bool :=
  match arg with
  | 0x2D :: letters => letters ≠ [] && letters.all fun b => ("neE" : Text).contains b
  | _ => false

def output (args : List Text) : Text :=
  let options := args.takeWhile isOption
  let letters := options.flatMap fun option => option.drop 1
  let escapes := (letters.filter (· != 0x6E)).getLast? == some 0x65
  line (if escapes then some ⟨true, true, true, true⟩ else none) (!List.contains letters 0x6E)
    (args.drop options.length)

def shellOutput (args : List Text) : Text :=
  let escapes : Escapes := ⟨true, true, true, false⟩
  if args.head? = some ("-n" : Text) then line (some escapes) false args.tail
  else line (some escapes) true args

end Echo

end LintServer
