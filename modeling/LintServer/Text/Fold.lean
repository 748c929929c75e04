import LintServer.Text.CodePoint

set_option autoImplicit false

namespace LintServer

/-- The names looked for are ASCII, so folding only has to reach ASCII letters: besides the letters
themselves, the long s and the Kelvin sign fold to one. -/
def CodePoint.fold (p : CodePoint) : Text :=
  if p.scalar = 0x17F then [0x53]
  else if p.scalar = 0x212A then [0x4B]
  else p.bytes.map Text.toUpper

namespace Text

def fold (name : Text) : Text := name.codePoints.flatMap CodePoint.fold

def sameName (a b : Text) : Bool := a.fold == b.fold

end Text

end LintServer
