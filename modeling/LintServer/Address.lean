import LintServer.Text.Basic

set_option autoImplicit false

namespace LintServer.Address

def isGroup (text : Text) : Bool := text ≠ [] && text.length ≤ 4 && text.all Text.isHex

def isOctet (text : Text) : Bool :=
  match Text.decimal? text with
  | some n => n < 256 && (text.length = 1 || text.head? ≠ some 0x30)
  | none => false

def isDotted (text : Text) : Bool :=
  let octets := text.splitAt 0x2E
  octets.length = 4 && octets.all isOctet

def splitGap : Text → Text × Option Text
  | [] => ([], none)
  | 0x3A :: 0x3A :: rest => ([], some rest)
  | b :: rest => let (left, right) := splitGap rest; (b :: left, right)

def pieces (text : Text) : List Text := if text = [] then [] else text.splitAt 0x3A

def groupCount? : List Text → Option Nat
  | [] => some 0
  | [last] => if isGroup last then some 1 else if isDotted last then some 2 else none
  | piece :: rest => if isGroup piece then (groupCount? rest).map (· + 1) else none

def isPlainAddress (text : Text) : Bool :=
  match splitGap text with
  | (whole, none) => groupCount? (pieces whole) = some 8
  | (left, some right) =>
    match groupCount? (pieces right) with
    | some count => (pieces left).all isGroup && (pieces left).length + count < 8
    | none => false

def isValid (text : Text) : Bool :=
  let (address, zone) := text.cut 0x25
  isPlainAddress address && zone ≠ some []

end LintServer.Address
