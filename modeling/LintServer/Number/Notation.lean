import LintServer.Number.Decimal

set_option autoImplicit false

namespace LintServer

inductive Floating where
  | finite (value : Double)
  | infinite (negative : Bool)
  | undefined (negative : Bool)
deriving DecidableEq, Repr

namespace Floating

structure Reading where
  value : Floating
  rest : Text
  inRange : Bool

/-- The number nearest to a quotient. What is too large is infinite, and what is too small for full
precision counts as out of range too. -/
def ofQuotient (negative : Bool) (numerator denominator : Nat) (rest : Text) : Reading :=
  match Double.ofQuotient? negative numerator denominator with
  | none => ⟨.infinite negative, rest, false⟩
  | some d => ⟨.finite d, rest, numerator = 0 || Nat.pow 2 52 ≤ d.mantissa || -1074 < d.exponent⟩

def fraction (isDigit : UInt8 → Bool) : Text → Text × Text
  | 0x2E :: rest => (rest.takeWhile isDigit, rest.dropWhile isDigit)
  | text => ([], text)

def exponent (letter : UInt8) (text : Text) : Int × Text :=
  match text with
  | [] => (0, text)
  | b :: rest =>
    let (negative, digits) := Decimal.sign rest
    match Text.decimal? (digits.takeWhile Text.isDigit) with
    | some n =>
      if Text.toLower b = letter then
        (if negative then -(n : Int) else n, digits.dropWhile Text.isDigit)
      else (0, text)
    | none => (0, text)

def farthest : Nat := 20000

def readHex? (negative : Bool) (text : Text) : Option Reading :=
  match text with
  | 0x30 :: x :: unsigned =>
    let whole := unsigned.takeWhile Text.isHex
    let (part, rest) := fraction Text.isHex (unsigned.drop whole.length)
    if Text.toLower x ≠ 0x78 ∨ whole ++ part = [] then none
    else
      let (power, rest) := exponent 0x70 rest
      let power := max (-(farthest : Int)) (min farthest power) - 4 * part.length
      let mantissa := (Text.hexNumber? (whole ++ part)).getD 0
      some (ofQuotient negative (mantissa * Nat.pow 2 power.toNat) (Nat.pow 2 (-power).toNat) rest)
  | _ => none

def readDecimal? (negative : Bool) (text : Text) : Option Reading :=
  let whole := text.takeWhile Text.isDigit
  let (part, rest) := fraction Text.isDigit (text.drop whole.length)
  (Text.decimal? (whole ++ part)).map fun mantissa =>
    let (power, rest) := exponent 0x65 rest
    let d : Decimal := ⟨negative, mantissa, power - part.length⟩
    match d.toDouble? with
    | none => ⟨.infinite negative, rest, false⟩
    | some v =>
      ⟨.finite v, rest, mantissa = 0 || Nat.pow 2 52 ≤ v.mantissa || -1074 < v.exponent⟩

def readName? (negative : Bool) (text : Text) : Option Reading :=
  let lower := text.map Text.toLower
  if Text.startsWith lower "infinity" then some ⟨.infinite negative, text.drop 8, true⟩
  else if Text.startsWith lower "inf" then some ⟨.infinite negative, text.drop 3, true⟩
  else if Text.startsWith lower "nan" then some ⟨.undefined negative, text.drop 3, true⟩
  else none

def read (text : Text) : Reading :=
  let (negative, unsigned) :=
    Decimal.sign (text.dropWhile fun b => b == 0x20 || (0x09 ≤ b && b ≤ 0x0D))
  match (readHex? negative unsigned).orElse fun _ =>
      (readDecimal? negative unsigned).orElse fun _ => readName? negative unsigned with
  | some r => r
  | none => ⟨.finite ⟨false, 0, 0⟩, text, true⟩

end Floating

namespace Double

def quotient (a : Double) : Nat × Nat :=
  (a.mantissa * Nat.pow 2 a.exponent.toNat, Nat.pow 2 (-a.exponent).toNat)

def zeros (count : Nat) : Text := List.replicate count 0x30

def pointed (places : Nat) (point : Bool) (n : Nat) : Text :=
  let digits := Text.ofNat n
  let digits := zeros (places + 1 - digits.length) ++ digits
  let whole := digits.take (digits.length - places)
  whole ++ (if places > 0 || point then 0x2E :: digits.drop whole.length else [])

def fixed (a : Double) (places : Nat) (point : Bool) : Text :=
  let (n, d) := a.quotient
  pointed places point (nearest (n * Nat.pow 10 places) d)

def inTens (a : Double) (power : Int) : Nat :=
  let (n, d) := a.quotient
  nearest (n * Nat.pow 10 (-power).toNat) (d * Nat.pow 10 power.toNat)

def magnitude (a : Double) : Int :=
  let (n, d) := a.quotient
  if n < d then -((Text.ofNat (d / n)).length : Int) else (Text.ofNat (n / d)).length - 1

def digitsAndPower (a : Double) (places : Nat) : Nat × Int :=
  if a.mantissa = 0 then (0, 0)
  else
    let limit := Nat.pow 10 (places + 1)
    let power := a.magnitude
    let digits := a.inTens (power - places)
    if limit ≤ digits then (a.inTens (power + 1 - places), power + 1) else (digits, power)

def signed (power : Int) (least : Nat) : Text :=
  let digits := Text.ofNat power.natAbs
  (if power < 0 then 0x2D else 0x2B) :: zeros (least - digits.length) ++ digits

def scientific (a : Double) (places : Nat) (point : Bool) : Text :=
  let (digits, power) := a.digitsAndPower places
  pointed places point digits ++ 0x65 :: signed power 2

def trimmed (text : Text) : Text :=
  if List.contains text 0x2E then
    let kept := (text.reverse.dropWhile (· == 0x30)).reverse
    if kept.getLast? = some 0x2E then kept.dropLast else kept
  else text

def general (a : Double) (precision : Nat) (point : Bool) : Text :=
  let precision := max precision 1
  let (digits, power) := a.digitsAndPower (precision - 1)
  if -4 ≤ power ∧ power < precision then
    let text := a.fixed ((precision : Int) - 1 - power).toNat point
    if point then text else trimmed text
  else
    let text := pointed (precision - 1) point digits
    (if point then text else trimmed text) ++ 0x65 :: signed power 2

def hexDigits (count n : Nat) : Text :=
  let digits : Text := (Nat.toDigits 16 n).map fun c => c.toNat.toUInt8
  zeros (count - digits.length) ++ digits

def hexadecimal (a : Double) (precision : Option Nat) (point : Bool) : Text :=
  let shift := 52 - a.mantissa.log2
  let mantissa := a.mantissa * Nat.pow 2 shift
  let power : Int := if a.mantissa = 0 then 0 else a.exponent - shift + 52
  let tiny : Bool := power < -1022
  let mantissa := if tiny then mantissa / Nat.pow 2 (-1022 - power).toNat else mantissa
  let power := if tiny then -1022 else power
  let places := precision.getD 13
  let rounded :=
    if places < 13 then nearest mantissa (Nat.pow 16 (13 - places))
    else mantissa * Nat.pow 16 (places - 13)
  let digits := hexDigits (places + 1) rounded
  let part := digits.drop (digits.length - places)
  let part := if precision.isNone then (part.reverse.dropWhile (· == 0x30)).reverse else part
  "0x" ++ digits.take (digits.length - places) ++
    (if part ≠ [] || point then 0x2E :: part else []) ++ 0x70 :: signed power 1

end Double

end LintServer
