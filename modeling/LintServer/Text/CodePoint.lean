import LintServer.Text.Basic

set_option autoImplicit false

namespace LintServer

/-- Every text has code points: a byte that starts no well-formed UTF-8 sequence is one of its own,
read as U+FFFD. -/
structure CodePoint where
  bytes : Text
  scalar : Nat
deriving DecidableEq, Repr

namespace CodePoint

def replacement : Nat := 0xFFFD

def stray (b : UInt8) : CodePoint := ⟨[b], replacement⟩

def isTail (b : UInt8) : Bool := 0x80 ≤ b && b ≤ 0xBF

def isPair (a b : UInt8) : Bool := 0xC2 ≤ a && a ≤ 0xDF && isTail b

/-- Neither overlong nor a surrogate. -/
def isTriple (a b c : UInt8) : Bool :=
  0xE0 ≤ a && a ≤ 0xEF && isTail b && isTail c &&
    (a != 0xE0 || 0xA0 ≤ b) && (a != 0xED || b ≤ 0x9F)

/-- Neither overlong nor above U+10FFFF. -/
def isQuad (a b c d : UInt8) : Bool :=
  0xF0 ≤ a && a ≤ 0xF4 && isTail b && isTail c && isTail d &&
    (a != 0xF0 || 0x90 ≤ b) && (a != 0xF4 || b ≤ 0x8F)

def first (a : UInt8) (rest : Text) : CodePoint :=
  if a < 0x80 then ⟨[a], a.toNat⟩
  else match rest with
    | [] => stray a
    | b :: rest =>
      if isPair a b then ⟨[a, b], (a.toNat - 0xC0) * 0x40 + (b.toNat - 0x80)⟩
      else match rest with
        | [] => stray a
        | c :: rest =>
          if isTriple a b c then
            ⟨[a, b, c], (a.toNat - 0xE0) * 0x1000 + (b.toNat - 0x80) * 0x40 + (c.toNat - 0x80)⟩
          else match rest with
            | [] => stray a
            | d :: _ =>
              if isQuad a b c d then
                ⟨[a, b, c, d], (a.toNat - 0xF0) * 0x40000 + (b.toNat - 0x80) * 0x1000 +
                  (c.toNat - 0x80) * 0x40 + (d.toNat - 0x80)⟩
              else stray a

def wellFormed (p : CodePoint) : Bool :=
  match p.bytes with
  | [b] => b < 0x80
  | _ => true

def units (p : CodePoint) : Nat := if p.scalar < 0x10000 then 1 else 2

def encode (scalar : Nat) : Text :=
  if scalar < 0x80 then [scalar.toUInt8]
  else if scalar < 0x800 then
    [(0xC0 + scalar / 0x40).toUInt8, (0x80 + scalar % 0x40).toUInt8]
  else if (0xD800 ≤ scalar ∧ scalar ≤ 0xDFFF) ∨ 0x10FFFF < scalar then [0xEF, 0xBF, 0xBD]
  else if scalar < 0x10000 then
    [(0xE0 + scalar / 0x1000).toUInt8, (0x80 + scalar / 0x40 % 0x40).toUInt8,
      (0x80 + scalar % 0x40).toUInt8]
  else
    [(0xF0 + scalar / 0x40000).toUInt8, (0x80 + scalar / 0x1000 % 0x40).toUInt8,
      (0x80 + scalar / 0x40 % 0x40).toUInt8, (0x80 + scalar % 0x40).toUInt8]

end CodePoint

namespace Text

def codePointsFrom (skip : Nat) : Text → List CodePoint
  | [] => []
  | b :: rest =>
    match skip with
    | n + 1 => codePointsFrom n rest
    | 0 => CodePoint.first b rest :: codePointsFrom ((CodePoint.first b rest).bytes.length - 1) rest

def codePoints (text : Text) : List CodePoint := codePointsFrom 0 text

def ofCodePoints (points : List CodePoint) : Text := points.flatMap CodePoint.bytes

def isUtf8 (text : Text) : Bool := text.codePoints.all CodePoint.wellFormed

def repair (text : Text) : Text := text.codePoints.flatMap fun p => CodePoint.encode p.scalar

def utf16Length (text : Text) : Nat := 
  text.codePoints.foldr (fun p units => p.units + units) 0

def advance (units : Int) : List CodePoint → Nat
  | [] => 0
  | p :: rest => if units ≤ 0 then 0 else p.bytes.length + advance (units - p.units) rest

/-- The byte offset reached after `units` UTF-16 code units, or the length of a shorter text. A
unit inside a surrogate pair rounds up past the pair. -/
def byteOffset (text : Text) (units : Int) : Nat := advance units text.codePoints

@[simp]
theorem codePointsFrom_nil (skip : Nat) : codePointsFrom skip [] = [] := rfl

theorem codePointsFrom_eq_drop (skip : Nat) (text : Text) :
    codePointsFrom skip text = codePoints (text.drop skip) := by
  induction text generalizing skip with
  | nil => simp [codePoints]
  | cons b rest ih =>
    cases skip with
    | zero => rfl
    | succ n => simp [codePointsFrom, ih]

@[simp]
theorem codePoints_nil : codePoints [] = [] := rfl

theorem codePoints_cons (b : UInt8) (rest : Text) :
    codePoints (b :: rest) = CodePoint.first b rest ::
      codePoints (rest.drop ((CodePoint.first b rest).bytes.length - 1)) := by
  rw [← codePointsFrom_eq_drop]
  rfl

end Text

end LintServer
