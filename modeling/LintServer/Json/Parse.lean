import LintServer.Json.Token

set_option autoImplicit false

namespace LintServer.Json

/-- An open array with its items so far, or an open object with its members so far and the name of
the member being read. Both are kept last first. -/
inductive Frame where
  | items (done : List Json)
  | members (done : List (Text × Json)) (name : Text)
deriving Repr

inductive Reading where
  | value
  | firstItem
  | name (done : List (Text × Json))
  | colon (done : List (Text × Json)) (name : Text)
  | after (value : Json)
deriving Repr

def maxDepth : Nat := 10000

def beginValue (stack : List Frame) : Token → Option (List Frame × Reading)
  | .scalar v => some (stack, .after v)
  | .openBracket => if stack.length < maxDepth then some (.items [] :: stack, .firstItem) else none
  | .openBrace => if stack.length < maxDepth then some (stack, .name []) else none
  | _ => none

def endValue (value : Json) : List Frame → Token → Option (List Frame × Reading)
  | .items done :: stack, .comma => some (.items (value :: done) :: stack, .value)
  | .items done :: stack, .closeBracket => some (stack, .after (.array (value :: done).reverse))
  | .members done name :: stack, .comma => some (stack, .name ((name, value) :: done))
  | .members done name :: stack, .closeBrace =>
    some (stack, .after (.object ((name, value) :: done).reverse))
  | _, _ => none

def step (stack : List Frame) (reading : Reading) (token : Token) :
    Option (List Frame × Reading) :=
  match reading with
  | .value => beginValue stack token
  | .firstItem =>
    match stack, token with
    | .items [] :: stack, .closeBracket => some (stack, .after (.array []))
    | stack, token => beginValue stack token
  | .name done =>
    match done, token with
    | [], .closeBrace => some (stack, .after (.object []))
    | done, .scalar (.string name) => some (stack, .colon done name)
    | _, _ => none
  | .colon done name =>
    match token with
    | .colon => some (.members done name :: stack, .value)
    | _ => none
  | .after v => endValue v stack token

def run (stack : List Frame) (reading : Reading) : List Token → Option (List Frame × Reading)
  | [] => some (stack, reading)
  | token :: rest => do
    let (stack, reading) ← step stack reading token
    run stack reading rest

def parse? (text : Text) : Option Json := do
  let tokens ← Token.scan text
  match ← run [] .value tokens with
  | ([], .after v) => some v
  | _ => none

def read? {ε α : Type} (ofJson : Json → Except ε α) (text : Text) : Option α :=
  (parse? text).bind fun json => (ofJson json).toOption

end LintServer.Json
