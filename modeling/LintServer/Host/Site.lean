import LintServer.CommandLine.Basic
import LintServer.Config.Decode
import LintServer.Host.Command

set_option autoImplicit false

namespace LintServer.CommandLine

def Site.ofFiles (files : Files) (working : Text) : Site where
  files := files
  working := working
  decoders := .ofFiles files working
  invoke command input := (command.run files working input).1

end LintServer.CommandLine
