import LintServer.Proofs.Check.Location
import LintServer.Proofs.Path

set_option autoImplicit false

namespace LintServer

namespace Path

end Path

end LintServer
