import LintServer.Text.Basic

set_option autoImplicit false

namespace LintServer.FileName

def isPrintable (b : UInt8) : Bool := 0x20 ≤ b && b ≤ 0x7E

def asksForQuotes (name : Text) : Bool :=
  name.isEmpty || (name.any fun b => !isPrintable b || (" !\"$&'()*:;<=>?[\\^`|" : Text).contains b) ||
    name.head?.any (fun b => b == 0x23 || b == 0x7E) || name == [0x7B] || name == [0x7D]

def fitsDoubleQuotes (name : Text) : Bool :=
  name.all (fun b => isPrintable b && !("!\"$&()*;<=>?[\\^`|\x7b\x7d" : Text).contains b) &&
    !(name.drop 1).any fun b => b == 0x23 || b == 0x7E

def escape (b : UInt8) : Text :=
  match [(0x07, 0x61), (0x08, 0x62), (0x0C, 0x66), (0x0A, 0x6E), (0x0D, 0x72), (0x09, 0x74),
      (0x0B, 0x76)].lookup b with
  | some letter => [0x5C, letter]
  | none =>
    let digit (n : UInt8) : UInt8 := 0x30 + n % 8
    [0x5C, digit (b / 64), digit (b / 8), digit b]

def quotedFrom (escaping : Bool) : Text → Text
  | [] => [0x27]
  | b :: rest =>
    if b = 0x27 then [0x27, 0x5C, 0x27, 0x27] ++ quotedFrom false rest
    else if isPrintable b then (if escaping then [0x27, 0x27] else []) ++ (b :: quotedFrom false rest)
    else (if escaping then [] else [0x27, 0x24, 0x27]) ++ escape b ++ quotedFrom true rest

def shown (name : Text) : Text :=
  if !asksForQuotes name then name
  else if List.contains name 0x27 && fitsDoubleQuotes name then 0x22 :: name ++ [0x22]
  else 0x27 :: quotedFrom false name

end LintServer.FileName
