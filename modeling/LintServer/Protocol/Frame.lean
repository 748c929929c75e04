import LintServer.Json.Render

set_option autoImplicit false

namespace LintServer.Frame

def lengthHeader : Text := "Content-Length: "

def encode (message : Json) : Text :=
  let body := message.render
  lengthHeader ++ Text.ofNat body.length ++ "\r\n\r\n" ++ body

def dropLineEnd (line : Text) : Text :=
  (line.reverse.dropWhile fun b => b == Text.lf || b == Text.cr).reverse

def bodyLength? (header : List Text) : Option Nat :=
  let given := header.filterMap fun line =>
    if line.startsWith lengthHeader then Text.decimal? (line.drop lengthHeader.length) else none
  given.getLast?.filter (0 < ·)

end LintServer.Frame
