import LintServer.Proofs.Diagnostic.Conversion
import LintServer.Proofs.Diagnostic.Place
import LintServer.Proofs.Diagnostic.ReadBack

set_option autoImplicit false

namespace LintServer

namespace Span

end Span

namespace Place

def uri (p : Place) : Uri := p.span.uri p.directory

def entry (p : Place) : Entry :=
  ⟨⟨p.span.range, Severity.toProtocol (Severity.ofLevel? p.node.level), p.node.code,
    p.span.messageOf p.node.message⟩, p.span.replacement, p.span.applicability.getD .unspecified⟩

theorem entry?_eq (p : Place) :
    p.entry? = if p.span.Converts then some (p.uri, p.entry) else none := by
  unfold entry? Node.entry? Span.finding
  rw [p.span.range?_eq]
  by_cases converts : p.span.Converts
  · rw [if_pos converts, if_pos converts]
    rfl
  · rw [if_neg converts, if_neg converts]
    rfl

theorem filterMap_entry? (places : List Place) : places.filterMap entry? =
    (places.filter (·.span.Converts)).map fun p => (p.uri, p.entry) := by
  rw [← List.filterMap_eq_map, List.filterMap_filter]
  simp only [entry?_eq, decide_eq_true_eq]
  rfl

end Place

namespace Node

variable (root : Text) (node : Node)

def places : List Place := node.preorder.flatMap fun n => n.spans.map fun s => ⟨root, n, s⟩

end Node

end LintServer
