import LintServer.Jsonnet.Token

set_option autoImplicit false

namespace LintServer.Jsonnet

inductive Visibility where
  | inherited
  | hidden
  | shown
deriving DecidableEq, Repr

inductive UnaryOp where
  | minus
  | plus
  | not
deriving DecidableEq, Repr

inductive Expr where
  | null
  | boolean (value : Bool)
  | number (literal : Text)
  | string (value : Text)
  | array (items : List Expr)
  | object (locals : List (Text × Expr)) (fields : List (Text × Visibility × Expr))
  | reference (name : Text)
  | bind (locals : List (Text × Expr)) (body : Expr)
  | choose (condition yes no : Expr)
  | add (left right : Expr)
  | unary (op : UnaryOp) (operand : Expr)
  | field (target : Expr) (name : Text)
  | index (target key : Expr)
  | apply (function : Expr) (arguments : List (Option Text × Expr))
  | external
  | failure (message : Expr)
  | file (path : Text)
deriving Inhabited, Repr

def keywords : List Text := ["assert", "else", "error", "false", "for", "function", "if", "import",
  "importstr", "importbin", "in", "local", "null", "self", "super", "tailstrict", "then", "true"]

namespace Expr

def symbol? (value : Text) : List Token → Option (List Token)
  | .symbol s :: rest => if s = value then some rest else none
  | _ => none

def word? (value : Text) : List Token → Option (List Token)
  | .name s :: rest => if s = value then some rest else none
  | _ => none

def visibility? (mark : Text) : Option Visibility :=
  [((":" : Text), .inherited), (("::" : Text), .hidden), ((":::" : Text), .shown)].lookup mark

def fieldName? : List Token → Option (Text × Text × List Token)
  | .name name :: rest => if keywords.contains name then none else some (name, name, rest)
  | .string name written :: rest => some (name, written, rest)
  | .block name :: rest => some (name, name, rest)
  | _ => none

def argumentName : List Token → Option Text × List Token
  | .name name :: .symbol s :: rest =>
    if s = "=" ∧ !keywords.contains name then (some name, rest)
    else (none, .name name :: .symbol s :: rest)
  | tokens => (none, tokens)

def unaryOp? (s : Text) : Option UnaryOp :=
  [(("-" : Text), .minus), (("+" : Text), .plus), (("!" : Text), .not)].lookup s

structure Parts where
  locals : List (Text × Expr)
  fields : List (Text × Visibility × Expr)
  written : List Text

def distinct (names : List Text) : Bool := decide names.Nodup

/-- The object of its parts. No two names of fields are written alike; that two of them stand for
one name shows when the object is evaluated. -/
def Parts.object? (p : Parts) : Option Expr :=
  if distinct p.written then some (.object p.locals p.fields) else none

mutual

def sum? : Nat → List Token → Option (Expr × List Token)
  | 0, _ => none
  | depth + 1, tokens => do
    let (left, rest) ← operand? depth tokens
    addends? depth left rest

def addends? : Nat → Expr → List Token → Option (Expr × List Token)
  | 0, _, _ => none
  | depth + 1, left, tokens =>
    match symbol? "+" tokens with
    | none => some (left, tokens)
    | some rest => do
      let (right, rest) ← operand? depth rest
      addends? depth (.add left right) rest

/-- What stands on a side of `+`. An expression that starts with a word such as `if` reaches as far
as it can. -/
def operand? : Nat → List Token → Option (Expr × List Token)
  | 0, _ => none
  | depth + 1, tokens =>
    match tokens with
    | .name word :: rest =>
      if word = "local" then do
        let (locals, rest) ← locals? depth rest
        let rest ← symbol? ";" rest
        let (body, rest) ← sum? depth rest
        some (.bind locals body, rest)
      else if word = "if" then do
        let (condition, rest) ← sum? depth rest
        let rest ← word? "then" rest
        let (yes, rest) ← sum? depth rest
        match word? "else" rest with
        | none => some (.choose condition yes .null, rest)
        | some rest =>
          let (no, rest) ← sum? depth rest
          some (.choose condition yes no, rest)
      else if word = "error" then do
        let (message, rest) ← sum? depth rest
        some (.failure message, rest)
      else if word = "import" then
        match rest with
        | .string _ _ :: _ => do
          match ← sum? depth rest with
          | (.string path, rest) => some (.file path, rest)
          | _ => none
        | _ => none
      else do
        let (start, rest) ← atom? depth tokens
        accesses? depth start rest
    | .symbol s :: rest =>
      match unaryOp? s with
      | some op => (operand? depth rest).map fun (operand, rest) => (.unary op operand, rest)
      | none => do
        let (start, rest) ← atom? depth tokens
        accesses? depth start rest
    | _ => do
      let (start, rest) ← atom? depth tokens
      accesses? depth start rest

def atom? : Nat → List Token → Option (Expr × List Token)
  | 0, _ => none
  | depth + 1, tokens =>
    match tokens with
    | .name word :: rest =>
      if word = "null" then some (.null, rest)
      else if word = "true" then some (.boolean true, rest)
      else if word = "false" then some (.boolean false, rest)
      else if keywords.contains word then none
      else some (.reference word, rest)
    | .string value _ :: rest | .block value :: rest => some (.string value, rest)
    | .number literal :: rest => some (.number literal, rest)
    | .symbol s :: rest =>
      if s = "(" then do
        let (inner, rest) ← sum? depth rest
        let rest ← symbol? ")" rest
        some (inner, rest)
      else if s = "[" then
        (items? depth rest).map fun (items, rest) => (.array items, rest)
      else if s = "\x7b" then do
        let (parts, rest) ← parts? depth rest
        some (← parts.object?, rest)
      else none
    | [] => none

def accesses? : Nat → Expr → List Token → Option (Expr × List Token)
  | 0, _, _ => none
  | depth + 1, target, tokens =>
    match tokens with
    | .symbol s :: rest =>
      if s = "." then
        match rest with
        | .name name :: rest =>
          if keywords.contains name then none else accesses? depth (.field target name) rest
        | _ => none
      else if s = "[" then do
        let (key, rest) ← sum? depth rest
        let rest ← symbol? "]" rest
        accesses? depth (.index target key) rest
      else if s = "(" then do
        let (arguments, rest) ← arguments? depth rest
        let rest := (word? "tailstrict" rest).getD rest
        accesses? depth (.apply target arguments) rest
      else if s = "\x7b" then do
        let (parts, rest) ← parts? depth rest
        accesses? depth (.add target (← parts.object?)) rest
      else some (target, tokens)
    | _ => some (target, tokens)

def arguments? : Nat → List Token → Option (List (Option Text × Expr) × List Token)
  | 0, _ => none
  | depth + 1, tokens =>
    match symbol? ")" tokens with
    | some rest => some ([], rest)
    | none => do
      let (name, rest) := argumentName tokens
      let (value, rest) ← sum? depth rest
      match symbol? "," rest with
      | some rest =>
        let (arguments, rest) ← arguments? depth rest
        if name.isSome ∧ arguments.any (fun a => a.1.isNone) then none
        else some ((name, value) :: arguments, rest)
      | none =>
        let rest ← symbol? ")" rest
        some ([(name, value)], rest)

def items? : Nat → List Token → Option (List Expr × List Token)
  | 0, _ => none
  | depth + 1, tokens =>
    match symbol? "]" tokens with
    | some rest => some ([], rest)
    | none => do
      let (item, rest) ← sum? depth tokens
      match symbol? "," rest with
      | some rest =>
        let (items, rest) ← items? depth rest
        some (item :: items, rest)
      | none =>
        let rest ← symbol? "]" rest
        some ([item], rest)

def parts? : Nat → List Token → Option (Parts × List Token)
  | 0, _ => none
  | depth + 1, tokens =>
    match symbol? "\x7d" tokens with
    | some rest => some (⟨[], [], []⟩, rest)
    | none => do
      let (part, rest) ← part? depth tokens
      match symbol? "," rest with
      | some rest =>
        let (parts, rest) ← parts? depth rest
        some (⟨part.locals ++ parts.locals, part.fields ++ parts.fields,
          part.written ++ parts.written⟩, rest)
      | none =>
        let rest ← symbol? "\x7d" rest
        some (part, rest)

def part? : Nat → List Token → Option (Parts × List Token)
  | 0, _ => none
  | depth + 1, tokens =>
    match word? "local" tokens with
    | some rest => do
      let (bound, rest) ← local? depth rest
      some (⟨[bound], [], []⟩, rest)
    | none => do
      match ← fieldName? tokens with
      | (name, written, .symbol mark :: rest) =>
        let visibility ← visibility? mark
        let (value, rest) ← sum? depth rest
        some (⟨[], [(name, visibility, value)], [written]⟩, rest)
      | _ => none

def local? : Nat → List Token → Option ((Text × Expr) × List Token)
  | 0, _ => none
  | depth + 1, tokens =>
    match tokens with
    | .name name :: rest =>
      if keywords.contains name then none
      else do
        let rest ← symbol? "=" rest
        let (value, rest) ← sum? depth rest
        some ((name, value), rest)
    | _ => none

def locals? : Nat → List Token → Option (List (Text × Expr) × List Token)
  | 0, _ => none
  | depth + 1, tokens => do
    let (bound, rest) ← local? depth tokens
    match symbol? "," rest with
    | none => some ([bound], rest)
    | some rest =>
      let (more, rest) ← locals? depth rest
      some (bound :: more, rest)

end

mutual

def wellScoped (scope : List Text) : Expr → Bool
  | .null | .boolean _ | .number _ | .string _ | .file _ => true
  | .array items => allScoped scope items
  | .object locals fields =>
    let inner := locals.map Prod.fst ++ scope
    distinct (locals.map Prod.fst) && boundScoped inner locals && fieldsScoped inner fields
  | .reference name => scope.contains name
  | .bind locals body =>
    let inner := locals.map Prod.fst ++ scope
    distinct (locals.map Prod.fst) && boundScoped inner locals && wellScoped inner body
  | .choose condition yes no =>
    wellScoped scope condition && wellScoped scope yes && wellScoped scope no
  | .add left right => wellScoped scope left && wellScoped scope right
  | .unary _ operand => wellScoped scope operand
  | .field target _ => wellScoped scope target
  | .index target key => wellScoped scope target && wellScoped scope key
  | .apply function arguments => wellScoped scope function && argumentsScoped scope arguments
  | .external => true
  | .failure message => wellScoped scope message

def allScoped (scope : List Text) : List Expr → Bool
  | [] => true
  | item :: rest => wellScoped scope item && allScoped scope rest

def boundScoped (scope : List Text) : List (Text × Expr) → Bool
  | [] => true
  | (_, value) :: rest => wellScoped scope value && boundScoped scope rest

def argumentsScoped (scope : List Text) : List (Option Text × Expr) → Bool
  | [] => true
  | (_, value) :: rest => wellScoped scope value && argumentsScoped scope rest

def fieldsScoped (scope : List Text) : List (Text × Visibility × Expr) → Bool
  | [] => true
  | (_, _, value) :: rest => wellScoped scope value && fieldsScoped scope rest

end

def libraryName : Text := "std"

def parse? (text : Text) : Option Expr := do
  let tokens ← Token.scan? text
  match ← sum? (4 * tokens.length + 4) tokens with
  | (expr, []) => if wellScoped [libraryName] expr then some expr else none
  | _ => none

end Expr

end LintServer.Jsonnet
