import LintServer.Host.Effect
import LintServer.Host.Shell.Integer

set_option autoImplicit false

namespace LintServer

namespace Condition

inductive Fault where
  | number (text : Text)
  | operator (text : Text)
  | missing (text : Text)
  | parenthesis
deriving DecidableEq, Repr

def Fault.message : Fault → Text
  | number text => "Illegal number: " ++ text
  | operator text => if text = [] then "unexpected operator" else text ++ ": unexpected operator"
  | missing text => text ++ ": argument expected"
  | parenthesis => "closing paren expected"

inductive Kind where
  | unary
  | binary
  | negation
  | both
  | either
  | opening
  | closing
deriving DecidableEq, Repr

def unaryOperators : List Text :=
  ["-r", "-w", "-x", "-f", "-d", "-c", "-b", "-p", "-u", "-g", "-k", "-s", "-t", "-z", "-n", "-h",
    "-L", "-O", "-G", "-S", "-e"]

def binaryOperators : List Text :=
  ["=", "!=", "<", ">", "-eq", "-ne", "-ge", "-gt", "-le", "-lt", "-nt", "-ot", "-ef"]

def kind? (text : Text) : Option Kind :=
  if unaryOperators.contains text then some .unary
  else if binaryOperators.contains text then some .binary
  else ([("!", .negation), ("-a", .both), ("-o", .either), ("(", .opening), (")", .closing)] :
    List (Text × Kind)).lookup text

structure Facts where
  host : Host
  directory : Text

def number (text : Text) : Except Fault Int :=
  match Integer.whole? false text with
  | some n => .ok n
  | none => .error (.number text)

def unary (f : Facts) (operator operand : Text) : Except Fault Bool :=
  let among (operators : List Text) : Bool := operators.contains operator
  if operator = "-z" then .ok (operand = [])
  else if operator = "-n" then .ok (operand ≠ [])
  else if operator = "-t" then (number operand).map fun _ => false
  else .ok (match f.host.kind f.directory operand with
    | .error _ => false
    | .ok .directory => among ["-e", "-r", "-w", "-x", "-d", "-s", "-O", "-G"]
    | .ok (.file content) =>
      among ["-e", "-r", "-w", "-f", "-O", "-G"] || (operator = "-s" && content ≠ [])
    | .ok (.program _) => among ["-e", "-r", "-w", "-x", "-f", "-s", "-O", "-G"]
    | .ok (.device _) => among ["-e", "-r", "-w", "-c", "-O", "-G"])

def isSame (f : Facts) (a b : Text) : Bool :=
  (f.host.kind f.directory a).isOk && (f.host.kind f.directory b).isOk &&
    Path.absolute f.directory a == Path.absolute f.directory b

def binary (f : Facts) (a operator b : Text) : Except Fault Bool :=
  let compared (holds : Int → Int → Bool) : Except Fault Bool := do
    return holds (← number a) (← number b)
  if operator = "=" then .ok (a = b)
  else if operator = "!=" then .ok (a ≠ b)
  else if operator = "<" then .ok (a < b)
  else if operator = ">" then .ok (b < a)
  else if operator = "-eq" then compared fun x y => x == y
  else if operator = "-ne" then compared fun x y => x != y
  else if operator = "-ge" then compared fun x y => decide (y ≤ x)
  else if operator = "-gt" then compared fun x y => decide (y < x)
  else if operator = "-le" then compared fun x y => decide (x ≤ y)
  else if operator = "-lt" then compared fun x y => decide (x < y)
  else .ok (operator = "-ef" && isSame f a b)

inductive Lexeme where
  | finish
  | operand
  | operator (text : Text) (kind : Kind)
deriving DecidableEq, Repr

def isOperand (args : Array Text) (i : Nat) : Bool :=
  match args[i + 1]?, args[i + 2]? with
  | none, _ => true
  | some _, none => false
  | some next, some _ => kind? next = some .binary

def lexeme (args : Array Text) (i : Nat) : Lexeme :=
  match args[i]? with
  | none => .finish
  | some text =>
    match kind? text with
    | none => .operand
    | some kind =>
      if kind = .unary ∧ isOperand args i then .operand
      else if kind = .opening ∧ args[i + 1]?.isNone then .operand
      else .operator text kind

abbrev Reading := StateT Nat (Except Fault)

def operand (args : Array Text) : Reading Text := return (args[← get]?).getD []

mutual

def anyOf (f : Facts) (args : Array Text) : Nat → Lexeme → Reading Bool
  | 0, _ => return false
  | fuel + 1, first => do
    let a ← allOf f args fuel first
    match lexeme args ((← get) + 1) with
    | .operator _ .either =>
      modify (· + 2)
      let b ← anyOf f args fuel (lexeme args (← get))
      return a || b
    | _ => return a

def allOf (f : Facts) (args : Array Text) : Nat → Lexeme → Reading Bool
  | 0, _ => return false
  | fuel + 1, first => do
    let a ← negatable f args fuel first
    match lexeme args ((← get) + 1) with
    | .operator _ .both =>
      modify (· + 2)
      let b ← allOf f args fuel (lexeme args (← get))
      return a && b
    | _ => return a

def negatable (f : Facts) (args : Array Text) : Nat → Lexeme → Reading Bool
  | 0, _ => return false
  | fuel + 1, first => do
    match first with
    | .operator _ .negation =>
      let next := lexeme args ((← get) + 1)
      if next ≠ .finish then modify (· + 1)
      return !(← negatable f args fuel next)
    | _ => primary f args fuel first

def primary (f : Facts) (args : Array Text) : Nat → Lexeme → Reading Bool
  | 0, _ => return false
  | fuel + 1, first => do
    match first with
    | .finish => return false
    | .operator _ .opening =>
      modify (· + 1)
      match lexeme args (← get) with
      | .operator _ .closing => return false
      | next =>
        let value ← anyOf f args fuel next
        modify (· + 1)
        match lexeme args (← get) with
        | .operator _ .closing => return value
        | _ => throw .parenthesis
    | .operator text .unary =>
      modify (· + 1)
      if args[← get]?.isNone then throw (.missing text)
      unary f text (← operand args)
    | _ =>
      match lexeme args ((← get) + 1) with
      | .operator text .binary =>
        let a ← operand args
        modify (· + 2)
        if args[← get]?.isNone then throw (.missing text)
        binary f a text (← operand args)
      | _ => return (← operand args) ≠ []

end

def evaluated (f : Facts) (args : Array Text) (first : Lexeme) : Except Fault Bool := do
  let (value, last) ← (anyOf f args (4 * args.size + 8) first).run 0
  if args[last]?.isSome ∧ args[last + 1]?.isSome then throw (.operator ((args[last]?).getD []))
  return value

def bare : List Text → Bool × Array Text × Lexeme
  | [a, operator, b] =>
    if kind? operator = some .binary then (false, #[a, operator, b], .operand)
    else if a = "(" ∧ b = ")" then direct false [operator]
    else if a = "!" then direct true [operator, b]
    else direct false [a, operator, b]
  | args => direct false args
where
  direct (negated : Bool) (args : List Text) : Bool × Array Text × Lexeme :=
    (negated, args.toArray, lexeme args.toArray 0)

/-- Whether a condition holds. Three and four arguments have a meaning of their own if an operator
stands in the middle, or a negation or parentheses around them. -/
def holds (f : Facts) (args : List Text) : Except Fault Bool :=
  let (negated, args, first) := match args with
    | [a, b, c, d] =>
      if a = "(" ∧ d = ")" then bare.direct false [b, c]
      else if a = "!" then (true, (bare [b, c, d]).2)
      else bare args
    | _ => bare args
  if args.isEmpty then .ok negated else (evaluated f args first).map (· != negated)

end Condition

end LintServer
