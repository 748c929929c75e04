import LintServer.Json.Over
import LintServer.Position

set_option autoImplicit false

namespace LintServer

namespace Position

def toJson (p : Position) : Json :=
  .object [("line", .ofNat p.line.toNat), ("character", .ofNat p.character.toNat)]

def fields : Json.Fields Position := [
  ("line", fun p json => return { p with line := ← Json.overUInt32 p.line json }),
  ("character", fun p json => return { p with character := ← Json.overUInt32 p.character json })]

def readOver : Json.Over Position := Json.overObject .ignored fields

end Position

namespace Range

def toJson (r : Range) : Json :=
  .object [("start", r.start.toJson), ("end", r.stop.toJson)]

def fields : Json.Fields Range := [
  ("start", fun r json => return { r with start := ← Position.readOver r.start json }),
  ("end", fun r json => return { r with stop := ← Position.readOver r.stop json })]

def readOver : Json.Over Range := Json.overObject .ignored fields

end Range

def TextEdit.toJson (e : TextEdit) : Json :=
  .object [("range", e.range.toJson), ("newText", .string e.newText)]

end LintServer
