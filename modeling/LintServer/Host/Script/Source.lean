import LintServer.Host.Script.Tree

set_option autoImplicit false

namespace LintServer.Script

inductive Direction where
  | input
  | output
  | replace
  | append
  | update
  | copy
  | document (indented : Bool)
deriving DecidableEq, Repr

inductive Token where
  | endOfFile
  | newline
  | semicolon
  | ampersand
  | both
  | either
  | bar
  | leftParen
  | rightParen
  | endCase
  | redirect (direction : Direction) (descriptor : Nat)
  | word (w : Word) (quoted : Bool)
  | keyword (name : Text)

def reserved : List Text :=
  [":", ".", "break", "continue", "eval", "exec", "exit", "export", "readonly", "return", "set",
    "shift", "times", "trap", "unset", "local"]

def keywords : List Text :=
  ["!", "case", "do", "done", "elif", "else", "esac", "fi", "for", "if", "in", "then", "until",
    "while", "\x7b", "\x7d"]

namespace Token

def inQuotes (text : Text) : Text := "\"" ++ text ++ "\""

def title : Token → Text
  | endOfFile => "end of file"
  | newline => "newline"
  | semicolon => inQuotes ";"
  | ampersand => inQuotes "&"
  | both => inQuotes "&&"
  | either => inQuotes "||"
  | bar => inQuotes "|"
  | leftParen => inQuotes "("
  | rightParen => inQuotes ")"
  | endCase => inQuotes ";;"
  | redirect _ _ => "redirection"
  | word _ _ => "word"
  | keyword name => inQuotes name

def endsList : Token → Bool
  | endOfFile | rightParen | endCase => true
  | keyword name =>
    (["do", "done", "elif", "else", "esac", "fi", "then", "\x7d"] : List Text).contains name
  | _ => false

end Token

structure Mark where
  text : Text
  indented : Bool

structure Awaited where
  id : Nat
  mark : Mark
  plain : Bool

structure Source where
  rest : Text
  line : Nat
  returned : Option Token
  awaited : List Awaited
  documents : List (Nat × Document)
  count : Nat
  aliases : List (Text × Text)
  active : List (Text × Nat)

namespace Source

def ofText (text : Text) : Source := ⟨text, 1, none, [], [], 0, [], []⟩

def dropJoins : Text → Nat → Text × Nat
  | 0x5C :: 0x0A :: rest, line => dropJoins rest (line + 1)
  | rest, line => (rest, line)

def around (s : Source) (word : Text) : List (Text × Nat) :=
  s.active.filter fun a => a.2 < s.rest.length + word.length

def isActive (s : Source) (word : Text) : Bool := (s.around word).any fun a => a.1 = word

def endsBlank (text : Text) : Bool := text.getLast?.any fun b => b == 0x20 || b == 0x09

def expand (s : Source) (name text : Text) : Source :=
  { s with
    rest := text ++ s.rest
    active := (name, s.rest.length) :: s.around name }

def passedBlank (s : Source) (before after : Nat) : Bool :=
  s.active.any fun (name, left) => left < before && after ≤ left &&
    (s.aliases.lookup name).any endsBlank

end Source

abbrev Reader := StateT Source (Except Fault)

namespace Reader

def fail {α : Type} (e : SyntaxError) : Reader α := do
  let s ← get
  throw ⟨s.line, s.rest.length, e⟩

def peek : Reader (Option UInt8) := fun s =>
  let (rest, line) := Source.dropJoins s.rest s.line
  .ok (rest.head?, { s with rest := rest, line := line })

def peekRaw : Reader (Option UInt8) := fun s => .ok (s.rest.head?, s)

def take : Reader Unit := modify fun s =>
  match s.rest with
  | [] => s
  | b :: rest => { s with rest := rest, line := if b = Text.lf then s.line + 1 else s.line }

def takeUncounted : Reader Unit := modify fun s => { s with rest := s.rest.drop 1 }

def upTo (stops : UInt8 → Bool) : Reader Text := fun s =>
  let found := s.rest.takeWhile fun b => !stops b
  .ok (found, { s with
    rest := s.rest.drop found.length
    line := s.line + (found.filter (· = Text.lf)).length })

def take? (b : UInt8) : Reader Bool := do
  if (← peek) = some b then
    take
    return true
  else return false

def names (isPart : UInt8 → Bool) : Nat → Reader Text
  | 0 => return []
  | fuel + 1 => do
    match ← peek with
    | some b =>
      if isPart b then
        take
        return b :: (← names isPart fuel)
      else return []
    | none => return []

def giveBack (t : Token) : Reader Unit := modify fun s => { s with returned := some t }

def unexpected {α : Type} (t : Token) (expected : Option Token) : Reader α :=
  fail (.unexpected t.title (expected.map Token.title))

def bytes (quoted : Bool) (text : Text) : Word := text.map fun b => .byte b quoted

def await (mark : Mark) (plain : Bool) : Reader Nat := fun s =>
  .ok (s.count, { s with
    awaited := s.awaited ++ [⟨s.count, mark, plain⟩]
    count := s.count + 1 })

def keep (id : Nat) (d : Document) : Reader Unit :=
  modify fun s => { s with documents := (id, d) :: s.documents }

def dropTabs (m : Mark) : Reader Bool := fun s =>
  let rest := if m.indented then s.rest.dropWhile (· = 0x09) else s.rest
  .ok (rest.length < s.rest.length, { s with rest := rest })

def atMark (m : Mark) : Reader Bool := fun s =>
  if s.rest.isEmpty then .ok (true, s)
  else if s.rest.startsWith m.text then
    match s.rest.drop m.text.length with
    | [] => .ok (true, { s with rest := [], line := s.line + 1 })
    | b :: rest =>
      if b = Text.lf then .ok (true, { s with rest := rest, line := s.line + 1 }) else .ok (false, s)
  else .ok (false, s)

/-- Starts a line of a document: `none` at its end. A line end that would be joined stands for
itself right after tabs that were dropped. -/
def startLine (m : Mark) : Reader (Option Word) := do
  let _ ← peek
  let dropped ← dropTabs m
  if ← atMark m then return none
  let s ← get
  match dropped, s.rest with
  | true, 0x5C :: 0x0A :: rest =>
    set { s with rest := rest }
    return some (bytes true [0x5C, 0x0A])
  | _, _ => return some []

def plainLines (m : Mark) : Nat → Reader Text
  | 0 => return []
  | fuel + 1 => do
    let _ ← dropTabs m
    if ← atMark m then return []
    let line ← upTo (· = Text.lf)
    let ended := (← peekRaw).isSome
    take
    return line ++ (if ended then [Text.lf] else []) ++ (← plainLines m fuel)

end Reader

end LintServer.Script
