import LintServer.Host.Script.Tree
import LintServer.Host.Shell.Integer

set_option autoImplicit false

namespace LintServer

namespace Arithmetic

inductive Lexeme where
  | number (value : Int)
  | name (text : Text)
  | mark (text : Text)
  | unknown
  | finish
deriving DecidableEq, Repr

inductive Fault where
  | primary
  | ending
  | parenthesis
  | colon
  | division
  | overflow
  | value (text : Text)
  | fixed (name : Text)
deriving DecidableEq, Repr

def Fault.message (expression : Text) : Fault → Text
  | primary => about "expecting primary"
  | ending => about "expecting EOF"
  | parenthesis => about "expecting ')'"
  | colon => about "expecting ':'"
  | division => about "division by zero"
  | overflow => about "overflow"
  | value text => "Illegal number: " ++ text
  | fixed name => name ++ ": is read only"
where
  about (problem : Text) : Text :=
    "arithmetic expression: " ++ problem ++ ": \"" ++ expression ++ "\""

def wrap (n : Int) : Int := (Int64.ofInt n).toInt

def marks : List Text :=
  (["<<=", ">>=", "<<", ">>", "<=", ">=", "==", "!=", "&&", "||", "+=", "-=", "*=", "/=", "%=", "&=",
    "^=", "|="] : List Text) ++ ("<>+-*/%&^|!~()?:=" : Text).map fun b => [b]

def lex (text : Text) : Lexeme × Text :=
  match text.dropWhile fun b => b == 0x20 || b == 0x09 || b == 0x0A with
  | [] => (.finish, [])
  | b :: rest =>
    let text := b :: rest
    if Text.isDigit b then
      let r := Integer.read true text
      (.number r.value, r.rest)
    else if Script.isNameStart b then
      (.name (text.takeWhile Script.isNamePart), text.dropWhile Script.isNamePart)
    else match marks.find? fun m => Text.startsWith text m with
      | some m => (.mark m, text.drop m.length)
      | none => (.unknown, text)

def assigning : List Text := ["=", "<<=", ">>=", "+=", "-=", "*=", "/=", "%=", "&=", "^=", "|="]

def looseness? (m : Text) : Option Nat :=
  ([["*", "/", "%"], ["+", "-"], ["<<", ">>"], ["<", "<=", ">", ">="], ["==", "!="], ["&"], ["^"],
    ["|"]] : List (List Text)).findIdx? fun level => level.contains m

def loosest : Nat := 8

def ofBool (b : Bool) : Int := if b then 1 else 0

def bits (f : BitVec 64 → BitVec 64 → BitVec 64) (a b : Int) : Int :=
  (f (BitVec.ofInt 64 a) (BitVec.ofInt 64 b)).toInt

def quotient (f : Int → Int → Int) (a b : Int) : Except Fault Int :=
  if b = 0 then .error .division
  else if b = -1 ∧ a < -(Integer.greatest : Int) then .error .overflow
  else .ok (f a b)

def apply (m : Text) (a b : Int) : Except Fault Int :=
  if m = "+" then .ok (wrap (a + b))
  else if m = "-" then .ok (wrap (a - b))
  else if m = "*" then .ok (wrap (a * b))
  else if m = "/" then quotient Int.tdiv a b
  else if m = "%" then quotient Int.tmod a b
  else if m = "==" then .ok (ofBool (a = b))
  else if m = "!=" then .ok (ofBool (a ≠ b))
  else if m = "<" then .ok (ofBool (a < b))
  else if m = "<=" then .ok (ofBool (a ≤ b))
  else if m = ">" then .ok (ofBool (a > b))
  else if m = ">=" then .ok (ofBool (a ≥ b))
  else if m = "&" then .ok (bits (· &&& ·) a b)
  else if m = "|" then .ok (bits (· ||| ·) a b)
  else if m = "^" then .ok (bits (· ^^^ ·) a b)
  else if m = "<<" then .ok (bits (fun x y => x <<< (y.toNat % 64)) a b)
  else .ok (bits (fun x y => x.sshiftRight (y.toNat % 64)) a b)

structure Variables where
  value? : Text → Option Text
  isFixed : Text → Bool

structure State where
  next : Lexeme
  rest : Text
  assigned : List (Text × Int)

abbrev Reading := ExceptT Fault (StateM State)

namespace Reading

def advance : Reading Unit := modify fun s =>
  let (next, rest) := lex s.rest
  { s with next := next, rest := rest }

def take : Reading Lexeme := do
  let found := (← get).next
  advance
  return found

def mark? (m : Text) : Reading Bool := do
  if (← get).next = .mark m then
    advance
    return true
  return false

def valueOf (v : Variables) (name : Text) : Reading Int := do
  match (← get).assigned.lookup name with
  | some n => return n
  | none =>
    let text := (v.value? name).getD []
    match Integer.whole? true text with
    | some n => return n
    | none => throw (.value text)

def assign (v : Variables) (name : Text) (value : Int) : Reading Int := do
  if v.isFixed name then throw (.fixed name)
  modify fun s => { s with assigned := (name, value) :: s.assigned }
  return value

mutual

def whole (v : Variables) (idle : Bool) : Nat → Reading Int
  | 0 => throw .primary
  | fuel + 1 => do
    match ← take, (← get).next with
    | .name name, .mark m =>
      if assigning.contains m then
        advance
        let value ← whole v idle fuel
        if idle then return value
        else if m = "=" then assign v name value
        else assign v name (← apply m.dropLast (← valueOf v name) value)
      else condition v idle fuel (.name name)
    | first, _ => condition v idle fuel first

def condition (v : Variables) (idle : Bool) : Nat → Lexeme → Reading Int
  | 0, _ => throw .primary
  | fuel + 1, first => do
    let a ← either v idle fuel first
    if ← mark? "?" then
      let b ← whole v (idle || a = 0) fuel
      if !(← mark? ":") then throw .colon
      let c ← condition v (idle || a ≠ 0) fuel (← take)
      return if a ≠ 0 then b else c
    else return a

def either (v : Variables) (idle : Bool) : Nat → Lexeme → Reading Int
  | 0, _ => throw .primary
  | fuel + 1, first => do
    let a ← both v idle fuel first
    if ← mark? "||" then
      let b ← either v (idle || a ≠ 0) fuel (← take)
      return ofBool (a ≠ 0 || b ≠ 0)
    else return a

def both (v : Variables) (idle : Bool) : Nat → Lexeme → Reading Int
  | 0, _ => throw .primary
  | fuel + 1, first => do
    let a ← binary v idle fuel loosest (← operand v idle fuel first)
    if ← mark? "&&" then
      let b ← both v (idle || a = 0) fuel (← take)
      return ofBool (a ≠ 0 && b ≠ 0)
    else return a

def binary (v : Variables) (idle : Bool) : Nat → Nat → Int → Reading Int
  | 0, _, a => return a
  | fuel + 1, least, a => do
    match (← get).next with
    | .mark m =>
      match looseness? m with
      | some level =>
        if level < least then
          advance
          let b ← operand v idle fuel (← take)
          let b ← binary v idle fuel level b
          let a ← if idle then pure b else apply m a b
          binary v idle fuel least a
        else return a
      | none => return a
    | _ => return a

def operand (v : Variables) (idle : Bool) : Nat → Lexeme → Reading Int
  | 0, _ => throw .primary
  | fuel + 1, first => do
    match first with
    | .number n => return n
    | .name name => if idle then return 1 else valueOf v name
    | .mark m =>
      if m = "(" then
        let a ← whole v idle fuel
        if !(← mark? ")") then throw .parenthesis
        return a
      else if m = "+" then operand v idle fuel (← take)
      else if m = "-" then return wrap (-(← operand v idle fuel (← take)))
      else if m = "!" then return ofBool ((← operand v idle fuel (← take)) = 0)
      else if m = "~" then return -(← operand v idle fuel (← take)) - 1
      else throw .primary
    | _ => throw .primary

end

end Reading

def evaluate (v : Variables) (text : Text) : Except Fault Int × List (Text × Int) :=
  let reading : Reading Int := do
    Reading.advance
    let value ← Reading.whole v false (8 * text.length + 8)
    if (← get).next ≠ .finish then throw .ending
    return value
  let (result, s) := reading.run.run ⟨.finish, text, []⟩
  (result, s.assigned.reverse)

end Arithmetic

end LintServer
