import LintServer.Edit.Minimal
import LintServer.Tool

set_option autoImplicit false

namespace LintServer

inductive FormatError where
  | failed (status : Int) (stderr : Text)
  | formatter (message : Text)
  | notUtf8
  | edit (e : EditError)
deriving DecidableEq, Repr

def FormatError.message : FormatError → Text
  | failed status _ => "formatter failed with status " ++ Text.ofInt status
  | formatter message => "formatter: " ++ message
  | notUtf8 => "formatter output is not valid UTF-8"
  | edit e => e.message

def formatEdits (minimal : Bool) (text : Text) (run : ToolRun) :
    Except FormatError (List TextEdit) :=
  match run.failure with
  | some (.exit _ status stderr) => .error (.failed status stderr)
  | some (.other message) => .error (.formatter message)
  | none =>
    if run.output.isUtf8 then
      (if minimal then minimalEdits text run.output else wholeEdit text run.output).mapError .edit
    else .error .notUtf8

end LintServer
