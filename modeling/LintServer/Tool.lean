import LintServer.Text.Basic

set_option autoImplicit false

namespace LintServer

inductive ToolFailure where
  | exit (name : Text) (status : Int) (stderr : Text)
  | other (message : Text)
deriving DecidableEq, Repr

def ToolFailure.message : ToolFailure → Text
  | exit name status _ => name ++ " exited with status " ++ Text.ofInt status
  | other message => message

structure ToolRun where
  output : Text
  failure : Option ToolFailure
deriving DecidableEq, Repr

structure Command where
  name : Text
  args : List Text
  directory : Text
deriving DecidableEq, Repr

namespace Command

def ofWords? (directory : Text) : List Text → Option Command
  | [] => none
  | name :: args => some ⟨name, args, directory⟩

def text (c : Command) : Text := Text.joinWith " " (c.name :: c.args)

end Command

end LintServer
