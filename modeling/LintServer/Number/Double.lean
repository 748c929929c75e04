import LintServer.Text.Basic

set_option autoImplicit false

namespace LintServer

structure Double where
  negative : Bool
  mantissa : Nat
  exponent : Int
deriving DecidableEq, Repr

namespace Double

def minExponent : Int := -1074

def maxBits : Nat := 1024

def precision : Nat := 53

def inUnits (numerator denominator : Nat) (exponent : Int) : Nat × Nat :=
  (numerator * Nat.pow 2 (-exponent).toNat, denominator * Nat.pow 2 exponent.toNat)

def nearest (numerator denominator : Nat) : Nat :=
  let floor := numerator / denominator
  let twice := 2 * (numerator % denominator)
  if denominator < twice ∨ denominator = twice ∧ floor % 2 = 1 then floor + 1 else floor

def exponentOf (numerator denominator : Nat) : Int :=
  let guess := max ((numerator.log2 : Int) - denominator.log2 - precision) minExponent
  let (n, d) := inUnits numerator denominator guess
  if n / d < Nat.pow 2 precision then guess else guess + 1

def ofQuotient? (negative : Bool) (numerator denominator : Nat) : Option Double :=
  if numerator = 0 then some ⟨negative, 0, 0⟩
  else
    let exponent := exponentOf numerator denominator
    let (n, d) := inUnits numerator denominator exponent
    let mantissa := nearest n d
    if mantissa * Nat.pow 2 exponent.toNat < Nat.pow 2 maxBits then
      some ⟨negative, mantissa, exponent⟩
    else none

def neg (a : Double) : Double := { a with negative := !a.negative }

def units (a : Double) (exponent : Int) : Int :=
  let magnitude : Int := (a.mantissa * Nat.pow 2 (a.exponent - exponent).toNat : Nat)
  if a.negative then -magnitude else magnitude

def add? (a b : Double) : Option Double :=
  let exponent := min a.exponent b.exponent
  let sum := a.units exponent + b.units exponent
  let negative := if sum = 0 then a.negative && b.negative else decide (sum < 0)
  ofQuotient? negative (sum.natAbs * Nat.pow 2 exponent.toNat) (Nat.pow 2 (-exponent).toNat)

def split (a : Double) : Nat × Nat :=
  let unit := Nat.pow 2 (-a.exponent).toNat
  let scaled := a.mantissa * Nat.pow 2 a.exponent.toNat
  (scaled / unit, scaled % unit)

def isWhole (a : Double) : Bool := a.split.2 = 0

/-- The digits of `n`, cut to at most `most` of them by rounding, and how many there were before:
one more if rounding makes a longer number. -/
def roundedDigits (most n : Nat) : Text × Nat :=
  let digits := Text.ofNat n
  if digits.length ≤ most then (digits, digits.length)
  else
    let cut := digits.length - most
    let rounded := Text.ofNat (nearest n (Nat.pow 10 cut))
    (rounded, rounded.length + cut)

def trimZeros (digits : Text) : Text := (digits.reverse.dropWhile (· == 0x30)).reverse

/-- Digits with the point after the first `point` of them, which may be negative. An exponent is
written for numbers below a ten-thousandth. -/
def positional (digits : Text) (point : Int) : Text :=
  if point < -3 then
    let exponent := Text.ofNat (1 - point).toNat
    let fraction := digits.drop 1
    digits.take 1 ++ (if fraction = [] then [] else 0x2E :: fraction) ++ [0x65, 0x2D] ++
      List.replicate (2 - exponent.length) 0x30 ++ exponent
  else if point ≤ 0 then 0x30 :: 0x2E :: (List.replicate (-point).toNat 0x30 ++ digits)
  else digits.take point.toNat ++ 0x2E :: digits.drop point.toNat

def text (a : Double) : Text :=
  let sign : Text := if a.negative then "-" else ""
  if a.isWhole then sign ++ Text.ofNat a.split.1
  else
    let places := (-a.exponent).toNat
    let (digits, length) := roundedDigits 17 (a.mantissa * Nat.pow 5 places)
    sign ++ positional (trimZeros digits) ((length : Int) - places)

end Double

end LintServer
