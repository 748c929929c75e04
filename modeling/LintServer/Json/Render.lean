import LintServer.Json.Basic
import LintServer.Text.CodePoint

set_option autoImplicit false

namespace LintServer.Json

def shortEscape? (scalar : Nat) : Option UInt8 :=
  [(0x22, 0x22), (0x5C, 0x5C), (0x08, 0x62), (0x0C, 0x66), (0x0A, 0x6E), (0x0D, 0x72),
    (0x09, 0x74)].lookup scalar

/-- Whether a character is written by its number: controls, `<`, `>`, `&` and two line ends. -/
def isNumbered (scalar : Nat) : Bool :=
  scalar < 0x20 || [0x3C, 0x3E, 0x26, 0x2028, 0x2029].contains scalar

def escape (p : CodePoint) : Text :=
  match shortEscape? p.scalar with
  | some letter => [0x5C, letter]
  | none =>
    if isNumbered p.scalar || !p.wellFormed then "\\u" ++ Text.lowerHex p.scalar 4 else p.bytes

def renderString (text : Text) : Text := "\"" ++ text.codePoints.flatMap escape ++ "\""

mutual

def render : Json → Text
  | null => "null"
  | bool true => "true"
  | bool false => "false"
  | number literal => literal
  | string value => renderString value
  | array items => "[" ++ renderItems items ++ "]"
  | object members => "\x7b" ++ renderMembers members ++ "\x7d"

def renderItems : List Json → Text
  | [] => []
  | [item] => render item
  | item :: rest => render item ++ "," ++ renderItems rest

def renderMembers : List (Text × Json) → Text
  | [] => []
  | [(name, value)] => renderString name ++ ":" ++ render value
  | (name, value) :: rest => renderString name ++ ":" ++ render value ++ "," ++ renderMembers rest

end

end LintServer.Json
