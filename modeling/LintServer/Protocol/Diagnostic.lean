import LintServer.Diagnostic.Aggregator
import LintServer.Protocol.Geometry

set_option autoImplicit false

namespace LintServer

def Diagnostic.toJson (d : Diagnostic) : Json :=
  .ofFields [("range", some d.range.toJson),
    ("severity", d.severity.map .ofInt),
    ("code", d.code.map .string),
    ("source", some (.string "tycheck")),
    ("message", some (.string d.message))]

def QuickFix.toJson (f : QuickFix) : Json :=
  .object [("title", .string f.diagnostic.message),
    ("kind", .string "quickfix"),
    ("diagnostics", .array [f.diagnostic.toJson]),
    ("isPreferred", .bool f.preferred),
    ("edit", .object [("changes", .object [(f.uri, .array [
      TextEdit.toJson ⟨f.diagnostic.range, f.replacement⟩])])])]

def Publish.toJson (p : Publish) : Json :=
  .object [("uri", .string p.uri), ("diagnostics", .array (p.diagnostics.map Diagnostic.toJson))]

end LintServer
