import LintServer.Number.Double

set_option autoImplicit false

namespace LintServer

structure Decimal where
  negative : Bool
  mantissa : Nat
  exponent : Int
deriving DecidableEq, Repr

namespace Decimal

def sign : Text → Bool × Text
  | 0x2B :: rest => (false, rest)
  | 0x2D :: rest => (true, rest)
  | text => (false, text)

def exponent? : Text → Option Int
  | [] => some 0
  | _ :: rest =>
    let (negative, digits) := sign rest
    (Text.decimal? digits).map fun n => if negative then -(n : Int) else n

def read? (literal : Text) : Option Decimal := do
  let (negative, unsigned) := sign literal
  let significand := unsigned.takeWhile fun b => Text.toLower b != 0x65
  let whole := significand.takeWhile (· != 0x2E)
  let fraction := significand.drop (whole.length + 1)
  let mantissa ← Text.decimal? (whole ++ fraction)
  let exponent ← exponent? (unsigned.drop significand.length)
  return ⟨negative, mantissa, exponent - fraction.length⟩

/-- The number of double precision nearest to it; `none` if it is too large. Magnitudes from
`10 ^ 310` on are, and those below `10 ^ (-330)` are nearest to zero. -/
def toDouble? (d : Decimal) : Option Double :=
  let magnitude := ((Text.ofNat d.mantissa).length : Int) + d.exponent
  if d.mantissa = 0 ∨ magnitude < -330 then some ⟨d.negative, 0, 0⟩
  else if 310 < magnitude then none
  else Double.ofQuotient? d.negative (d.mantissa * Nat.pow 10 d.exponent.toNat)
    (Nat.pow 10 (-d.exponent).toNat)

def isInRange (literal : Text) : Bool := ((read? literal).bind toDouble?).isSome

end Decimal

end LintServer
