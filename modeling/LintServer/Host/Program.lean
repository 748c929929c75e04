import LintServer.Host.Cat
import LintServer.Host.Echo
import LintServer.Host.Shell.Invocation

set_option autoImplicit false

namespace LintServer

namespace Program

def echo : Program := fun p name args h =>
  match p.write h 1 (Echo.output args) with
  | .ok h => (.exit 0, h)
  | .error e => (.exit 1, p.tell h 2 (name ++ ": write error: " ++ e.reason ++ "\n"))

def named? (depth : Nat) (name : Text) : Option Program :=
  if name = "cat" then some Cat.run
  else if name = "echo" then some echo
  else if name = "true" then some fun _ _ _ h => (.exit 0, h)
  else if name = "false" then some fun _ _ _ h => (.exit 1, h)
  else if name = "sh" then
    match depth with
    | 0 => none
    | depth + 1 => some (Shell.run (named? depth))
  else none

end Program

end LintServer
