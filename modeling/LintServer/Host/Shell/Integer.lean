import LintServer.Text.Basic

set_option autoImplicit false

namespace LintServer

namespace Integer

def isSpace (b : UInt8) : Bool := b == 0x20 || (0x09 ≤ b && b ≤ 0x0D)

def isOctal (b : UInt8) : Bool := 0x30 ≤ b && b ≤ 0x37

def octal (digits : Text) : Nat := digits.foldl (fun n b => n * 8 + (b.toNat - 0x30)) 0

/-- The value of digits, without a sign, and what follows them. With any base a zero in front means
octal digits, and `0x` hexadecimal ones. -/
def digits? (anyBase : Bool) (text : Text) : Option (Nat × Text) :=
  let hex := (text.drop 2).takeWhile Text.isHex
  if anyBase ∧ text.head? = some 0x30 then
    if (text.drop 1).head?.any (fun b => b == 0x78 || b == 0x58) ∧ hex ≠ [] then
      some ((Text.hexNumber? hex).getD 0, text.drop (2 + hex.length))
    else some (octal (text.takeWhile isOctal), text.dropWhile isOctal)
  else
    let found := text.takeWhile Text.isDigit
    if found = [] then none else some ((Text.decimal? found).getD 0, text.drop found.length)

structure Reading where
  negative : Bool
  magnitude : Nat
  rest : Text
deriving DecidableEq, Repr

def read (anyBase : Bool) (text : Text) : Reading :=
  let unsigned := text.dropWhile isSpace
  let negative := unsigned.head? == some 0x2D
  let signed : Bool := negative || unsigned.head? == some 0x2B
  match digits? anyBase (if signed then unsigned.drop 1 else unsigned) with
  | some (n, rest) => ⟨negative, n, rest⟩
  | none => ⟨false, 0, text⟩

def greatest : Nat := 9223372036854775807

def greatestUnsigned : Nat := 18446744073709551615

namespace Reading

def isInRange (r : Reading) : Bool := r.magnitude ≤ if r.negative then greatest + 1 else greatest

def isInUnsignedRange (r : Reading) : Bool := r.magnitude ≤ greatestUnsigned

def value (r : Reading) : Int :=
  if r.negative then -(min r.magnitude (greatest + 1) : Nat) else (min r.magnitude greatest : Nat)

def unsignedValue (r : Reading) : Nat :=
  if !r.isInUnsignedRange then greatestUnsigned
  else if r.negative then (greatestUnsigned + 1 - r.magnitude) % (greatestUnsigned + 1)
  else r.magnitude

end Reading

def whole? (anyBase : Bool) (text : Text) : Option Int :=
  let r := read anyBase text
  let found : Bool := r.rest.length < text.length
  if (found || anyBase) && r.isInRange && r.rest.all isSpace then some r.value else none

end Integer

end LintServer
