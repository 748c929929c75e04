set_option autoImplicit false

namespace LintServer

/-- Text is a sequence of bytes. What a file, a process or a percent-decoded path yields need not
be well-formed UTF-8, and offsets into a document count bytes. -/
abbrev Text := List UInt8

namespace Text

def ofString (s : String) : Text := s.toByteArray.data.toList

instance : Coe String Text := ⟨ofString⟩

def lf : UInt8 := 0x0A

def cr : UInt8 := 0x0D

def slash : UInt8 := 0x2F

def ofNat (n : Nat) : Text := ofString (Nat.repr n)

def ofInt : Int → Text
  | .ofNat n => ofNat n
  | .negSucc n => 0x2D :: ofNat (n + 1)

def isDigit (b : UInt8) : Bool := 0x30 ≤ b && b ≤ 0x39

def isUpper (b : UInt8) : Bool := 0x41 ≤ b && b ≤ 0x5A

def isLower (b : UInt8) : Bool := 0x61 ≤ b && b ≤ 0x7A

def isLetter (b : UInt8) : Bool := isUpper b || isLower b

def toLower (b : UInt8) : UInt8 := if isUpper b then b + 0x20 else b

def toUpper (b : UInt8) : UInt8 := if isLower b then b - 0x20 else b

def hexValue? (b : UInt8) : Option Nat :=
  if isDigit b then some (b.toNat - 0x30)
  else if 0x41 ≤ b && b ≤ 0x46 then some (b.toNat - 0x37)
  else if 0x61 ≤ b && b ≤ 0x66 then some (b.toNat - 0x57)
  else none

def isHex (b : UInt8) : Bool := (hexValue? b).isSome

def hexNumber? (digits : Text) : Option Nat :=
  digits.foldl (fun sum b => do
    let sum ← sum
    let digit ← hexValue? b
    some (sum * 16 + digit)) (some 0)

def decimal? : Text → Option Nat
  | [] => none
  | digits =>
    if digits.all isDigit then
      some (digits.foldl (fun sum b => sum * 10 + (b.toNat - 0x30)) 0)
    else none

def upperHexDigit (n : Nat) : UInt8 :=
  if n % 16 < 10 then (0x30 + n % 16).toUInt8 else (0x37 + n % 16).toUInt8

def lowerHexDigit (n : Nat) : UInt8 :=
  if n % 16 < 10 then (0x30 + n % 16).toUInt8 else (0x57 + n % 16).toUInt8

def lowerHex (n : Nat) : Nat → Text
  | 0 => []
  | width + 1 => lowerHexDigit (n / Nat.pow 16 width) :: lowerHex n width

def startsWith (text start : Text) : Bool := start.isPrefixOf text

def splitAt (separator : UInt8) (text : Text) : List Text :=
  text.foldr (fun b pieces =>
    if b = separator then [] :: pieces
    else match pieces with
      | [] => [[b]]
      | piece :: rest => (b :: piece) :: rest) [[]]

def cut (separator : UInt8) (text : Text) : Text × Option Text :=
  match text.dropWhile (· != separator) with
  | [] => (text, none)
  | _ :: rest => (text.takeWhile (· != separator), some rest)

def joinWith (separator : Text) : List Text → Text
  | [] => []
  | [piece] => piece
  | piece :: rest => piece ++ separator ++ joinWith separator rest

def replaceFrom (old new : Text) (skip : Nat) : Text → Text
  | [] => []
  | b :: rest =>
    match skip with
    | n + 1 => replaceFrom old new n rest
    | 0 =>
      if old ≠ [] ∧ old.isPrefixOf (b :: rest) then
        new ++ replaceFrom old new (old.length - 1) rest
      else b :: replaceFrom old new 0 rest

def replace (old new text : Text) : Text := replaceFrom old new 0 text

end Text

end LintServer
