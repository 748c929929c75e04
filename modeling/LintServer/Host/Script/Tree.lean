import LintServer.Text.Basic

set_option autoImplicit false

namespace LintServer.Script

inductive Use where
  | value
  | length
  | orElse
  | ifSet
  | orFail
  | orAssign
  | withoutStart (longest : Bool)
  | withoutEnd (longest : Bool)
  | invalid
deriving DecidableEq, Repr

mutual

inductive Piece where
  | byte (b : UInt8) (quoted : Bool)
  | mark
  | parameter (name : Text) (use : Use) (colon : Bool) (operand : List Piece)
  | command (body : Command)
  | arithmetic (expression : List Piece)

inductive Redirect where
  | read (descriptor : Nat) (path : List Piece)
  | write (descriptor : Nat) (path : List Piece)
  | replace (descriptor : Nat) (path : List Piece)
  | append (descriptor : Nat) (path : List Piece)
  | update (descriptor : Nat) (path : List Piece)
  | copy (descriptor : Nat) (source : List Piece)
  | document (descriptor : Nat) (id : Nat)

inductive Command where
  | nothing
  | simple (line : Nat) (assignments words : List (List Piece)) (redirects : List Redirect)
  | redirected (line : Nat) (body : Command) (redirects : List Redirect)
  | pipe (commands : List Command) (background : Bool)
  | negated (body : Command)
  | both (first second : Command)
  | either (first second : Command)
  | sequence (first second : Command)
  | background (line : Nat) (body : Command) (redirects : List Redirect)
  | subshell (line : Nat) (body : Command) (redirects : List Redirect)
  | choice (condition body : Command) (otherwise : Option Command)
  | loop (whileTrue : Bool) (condition body : Command)
  | each (line : Nat) (name : Text) (words : List (List Piece)) (body : Command)
  | select (line : Nat) (word : List Piece) (branches : List (List (List Piece) × Command))
  | define (name : Text) (line : Nat) (body : Command)

end

abbrev Word := List Piece

instance : Inhabited Command := ⟨.nothing⟩

def isNameStart (b : UInt8) : Bool := Text.isLetter b || b == 0x5F

def isNamePart (b : UInt8) : Bool := isNameStart b || Text.isDigit b

def isName (text : Text) : Bool := text.head?.any isNameStart && text.all isNamePart

def isSign (b : UInt8) : Bool := ("#?$!-*@" : Text).contains b || Text.isDigit b

namespace Word

def plain? : Word → Option Text
  | [] => some []
  | .byte b false :: rest => (plain? rest).map (b :: ·)
  | _ => none

def bytes : Word → Text
  | [] => []
  | .byte b _ :: rest => b :: bytes rest
  | _ :: rest => bytes rest

def assignment? (w : Word) : Option (Text × Word) :=
  let rec name : Word → Option (Text × Word)
    | .byte b false :: rest =>
      if b = 0x3D then some ([], rest)
      else if isNamePart b then (name rest).map fun (text, rest) => (b :: text, rest)
      else none
    | _ => none
  match name w with
  | some (text, rest) => if isName text then some (text, rest) else none
  | none => none

end Word

inductive Document where
  | plain (text : Text)
  | expanded (body : Word)

inductive SyntaxError where
  | openQuote
  | openBackquote
  | openBrace
  | openArithmetic
  | unexpected (found : Text) (expected : Option Text)
  | loopVariable
  | functionName
deriving DecidableEq, Repr

def SyntaxError.message : SyntaxError → Text
  | openQuote => "Unterminated quoted string"
  | openBackquote => "EOF in backquote substitution"
  | openBrace => "Missing '\x7d'"
  | openArithmetic => "Missing '))'"
  | unexpected found none => found ++ " unexpected"
  | unexpected found (some expected) => found ++ " unexpected (expecting " ++ expected ++ ")"
  | loopVariable => "Bad for loop variable"
  | functionName => "Bad function name"

structure Fault where
  line : Nat
  left : Nat
  error : SyntaxError
deriving DecidableEq, Repr

end LintServer.Script
