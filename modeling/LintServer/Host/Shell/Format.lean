import LintServer.Host.Echo
import LintServer.Host.Shell.Integer
import LintServer.Number.Notation

set_option autoImplicit false

namespace LintServer

namespace Format

structure Directive where
  flags : Text
  width : Nat
  precision : Option Nat
deriving DecidableEq, Repr

namespace Directive

def has (d : Directive) (flag : UInt8) : Bool := List.contains d.flags flag

def padded (d : Directive) (value : Text) : Text :=
  let fill : Text := List.replicate (d.width - value.length) 0x20
  if d.has 0x2D then value ++ fill else fill ++ value

def filled (d : Directive) (sign digits : Text) : Text :=
  if d.has 0x30 ∧ !d.has 0x2D then
    sign ++ List.replicate (d.width - sign.length - digits.length) 0x30 ++ digits
  else d.padded (sign ++ digits)

def sign (d : Directive) (negative : Bool) : Text :=
  if negative then "-" else if d.has 0x2B then "+" else if d.has 0x20 then " " else []

def integer (d : Directive) (sign digits : Text) : Text :=
  match d.precision with
  | none => d.filled sign digits
  | some n =>
    let digits := if n = 0 ∧ digits = "0" then [] else digits
    d.padded (sign ++ List.replicate (n - digits.length) 0x30 ++ digits)

end Directive

def digitsIn (base n : Nat) : Text := (Nat.toDigits base n).map fun c => c.toNat.toUInt8

inductive Complaint where
  | notNumeric (arg : Text)
  | notConverted (arg : Text)
  | outOfRange (arg : Text)
deriving DecidableEq, Repr

def Complaint.message : Complaint → Text
  | notNumeric arg => arg ++ ": expected numeric value"
  | notConverted arg => arg ++ ": not completely converted"
  | outOfRange arg => arg ++ ": Numerical result out of range"

inductive Fault where
  | missing
  | directive (text : Text)
deriving DecidableEq, Repr

def Fault.message : Fault → Text
  | missing => "missing format character"
  | directive text => text ++ ": invalid directive"

def complaint? (arg rest : Text) (inRange : Bool) : Option Complaint :=
  if rest ≠ [] then
    some (if rest.length = arg.length then .notNumeric arg else .notConverted arg)
  else if inRange then none
  else some (.outOfRange arg)

def quotedByte? : Text → Option Nat
  | 0x22 :: rest | 0x27 :: rest => some ((rest.head?.map UInt8.toNat).getD 0)
  | _ => none

structure State where
  args : List Text
  output : Text
  complaints : List Complaint
  stopped : Bool
  fault : Option Fault
deriving DecidableEq, Repr

namespace State

def write (s : State) (text : Text) : State := { s with output := s.output ++ text }

def argument (s : State) : Text × State := (s.args.headD [], { s with args := s.args.tail })

def number (s : State) (signed : Bool) : Int × State :=
  let (arg, s) := s.argument
  match quotedByte? arg with
  | some n => (n, s)
  | none =>
    let r := Integer.read true arg
    let inRange := if signed then r.isInRange else r.isInUnsignedRange
    let value : Int := if signed then r.value else r.unsignedValue
    (value, { s with complaints := s.complaints ++ (complaint? arg r.rest inRange).toList })

def floating (s : State) : Floating × State :=
  let (arg, s) := s.argument
  match quotedByte? arg with
  | some n => (.finite ⟨false, n, 0⟩, s)
  | none =>
    let r := Floating.read arg
    (r.value, { s with complaints := s.complaints ++ (complaint? arg r.rest r.inRange).toList })

end State

def floatingText (d : Directive) (conversion : UInt8) (value : Floating) : Text :=
  let kind := Text.toLower conversion
  let cased (text : Text) : Text := if kind = conversion then text else text.map Text.toUpper
  match value with
  | .infinite negative => d.padded (cased (d.sign negative ++ "inf"))
  | .undefined negative => d.padded (cased (d.sign negative ++ "nan"))
  | .finite v =>
    let point := d.has 0x23
    let places := d.precision.getD 6
    let digits := if kind = 0x66 then v.fixed places point
      else if kind = 0x65 then v.scientific places point
      else if kind = 0x67 then v.general places point
      else v.hexadecimal d.precision point
    if kind = 0x61 then
      d.filled (cased (d.sign v.negative ++ digits.take 2)) (cased (digits.drop 2))
    else d.filled (d.sign v.negative) (cased digits)

def convert (d : Directive) (conversion : UInt8) (s : State) : State :=
  let cut (text : Text) : Text := match d.precision with
    | some n => text.take n
    | none => text
  if conversion = 0x73 then
    let (arg, s) := s.argument
    s.write (d.padded (cut arg))
  else if conversion = 0x62 then
    let (arg, s) := s.argument
    let u := Echo.unescape ⟨true, true, true, false⟩ arg
    { s.write (d.padded (cut u.text)) with stopped := u.stopped }
  else if conversion = 0x63 then
    let (arg, s) := s.argument
    s.write (d.padded (if arg = [] then [0] else arg.take 1))
  else if conversion = 0x64 ∨ conversion = 0x69 then
    let (n, s) := s.number true
    s.write (d.integer (d.sign (n < 0)) (Text.ofNat n.natAbs))
  else if ("ouxX" : Text).contains conversion then
    let (n, s) := s.number false
    let n := n.toNat
    if conversion = 0x75 then s.write (d.integer [] (Text.ofNat n))
    else if conversion = 0x6F then
      let digits := digitsIn 8 n
      let zero : Bool := d.has 0x23 && n ≠ 0 && (d.precision.getD 0) ≤ digits.length
      let kept := if d.has 0x23 ∧ n = 0 then { d with precision := none } else d
      s.write (kept.integer [] (if zero then 0x30 :: digits else digits))
    else
      let marked : Text := if d.has 0x23 ∧ n ≠ 0 then "0x" else []
      let raised (text : Text) : Text :=
        if conversion = 0x58 then text.map Text.toUpper else text
      s.write (d.integer (raised marked) (raised (digitsIn 16 n)))
  else
    let (value, s) := s.floating
    s.write (floatingText d conversion value)

def size (s : State) (text : Text) : Option Int × Text × State :=
  match text with
  | 0x2A :: rest =>
    let (n, s) := s.number true
    (some (Int32.ofInt n).toInt, rest, s)
  | _ => ((Text.decimal? (text.takeWhile Text.isDigit)).map (↑·),
    text.dropWhile Text.isDigit, s)

def once : Nat → Text → State → State
  | 0, _, s => s
  | _ + 1, [], s => s
  | fuel + 1, b :: rest, s =>
    if s.stopped || s.fault.isSome then s
    else if b = 0x5C then
      match Echo.escape? ⟨false, true, true, false⟩ rest with
      | some (byte, length) => once fuel (rest.drop length) (s.write [byte])
      | none => once fuel rest (s.write [b])
    else if b ≠ 0x25 then once fuel rest (s.write [b])
    else if rest.head? = some 0x25 then once fuel rest.tail (s.write [b])
    else
      let flags := rest.takeWhile fun b => ("-+ #0" : Text).contains b
      let (width, after, s) := size s (rest.drop flags.length)
      let flags := if (width.getD 0) < 0 then 0x2D :: flags else flags
      let (precision, after, s) : Option Nat × Text × State := match after with
        | 0x2E :: after =>
          let (n, after, s) := size s after
          (if n.getD 0 < 0 then none else some (n.getD 0).toNat, after, s)
        | _ => (none, after, s)
      match after with
      | [] => { s with fault := some .missing }
      | conversion :: after =>
        if ("sbcdiouxXaAeEfFgG" : Text).contains conversion then
          once fuel after (convert ⟨flags, (width.getD 0).natAbs, precision⟩ conversion s)
        else
          { s with
            fault := some (.directive (0x25 :: rest.take (rest.length - after.length))) }

def repeated (format : Text) : Nat → State → State
  | 0, s => s
  | count + 1, s =>
    let t := once (format.length + 1) format s
    if t.stopped || t.fault.isSome || t.args.isEmpty || t.args.length == s.args.length then t
    else repeated format count t

def printed (format : Text) (args : List Text) : State :=
  repeated format (args.length + 1) ⟨args, [], [], false, none⟩

end Format

end LintServer
