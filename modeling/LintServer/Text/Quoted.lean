import LintServer.Text.Printable

set_option autoImplicit false

namespace LintServer

namespace Quoted

def escape (p : CodePoint) : Text :=
  match p.bytes with
  | [0x22] => "\\\""
  | [0x5C] => "\\\\"
  | [0x07] => "\\a"
  | [0x08] => "\\b"
  | [0x0C] => "\\f"
  | [0x0A] => "\\n"
  | [0x0D] => "\\r"
  | [0x09] => "\\t"
  | [0x0B] => "\\v"
  | bytes =>
    if !p.wellFormed then "\\x" ++ bytes.flatMap fun b => Text.lowerHex b.toNat 2
    else if CodePoint.isPrintable p.scalar then bytes
    else if p.scalar < 0x80 then "\\x" ++ Text.lowerHex p.scalar 2
    else if p.scalar < 0x10000 then "\\u" ++ Text.lowerHex p.scalar 4
    else "\\U" ++ Text.lowerHex p.scalar 8

def encode (text : Text) : Text := "\"" ++ text.codePoints.flatMap escape ++ "\""

def encodeByte (b : UInt8) : Text :=
  let shown :=
    if b = 0x22 then [b]
    else if b = 0x27 then [0x5C, b]
    else (Text.codePoints (CodePoint.encode b.toNat)).flatMap escape
  "'" ++ shown ++ "'"

end Quoted

end LintServer
