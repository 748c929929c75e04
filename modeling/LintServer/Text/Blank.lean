import LintServer.Text.CodePoint

set_option autoImplicit false

namespace LintServer

def CodePoint.isBlank (p : CodePoint) : Bool :=
  (0x09 ≤ p.scalar && p.scalar ≤ 0x0D) || p.scalar == 0x20 || p.scalar == 0x85 ||
    p.scalar == 0xA0 || p.scalar == 0x1680 || (0x2000 ≤ p.scalar && p.scalar ≤ 0x200A) ||
    p.scalar == 0x2028 || p.scalar == 0x2029 || p.scalar == 0x202F || p.scalar == 0x205F ||
    p.scalar == 0x3000

namespace Text

def trim (text : Text) : Text :=
  ofCodePoints (((text.codePoints.dropWhile CodePoint.isBlank).reverse.dropWhile
    CodePoint.isBlank).reverse)

end Text

end LintServer
