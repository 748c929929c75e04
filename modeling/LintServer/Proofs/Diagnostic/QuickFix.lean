import Mathlib.Data.List.Forall2
import LintServer.Proofs.Diagnostic.View
import LintServer.Proofs.Position
import LintServer.Protocol.Diagnostic

set_option autoImplicit false

namespace LintServer

namespace Range

theorem within_iff {inner outer : Range} :
    inner.within outer ↔ outer.start ≤ inner.start ∧ inner.stop ≤ outer.stop := by
  simp [within]

theorem within_refl (r : Range) : r.within r := by
  simp [within_iff, Position.le_iff]

theorem within_trans {a b c : Range} (ab : a.within b) (bc : b.within c) : a.within c := by
  rw [within_iff] at *
  exact ⟨Position.le_trans bc.1 ab.1, Position.le_trans ab.2 bc.2⟩

theorem within_antisymm {a b : Range} (ab : a.within b) (ba : b.within a) : a = b := by
  rw [within_iff] at ab ba
  have start : a.start = b.start := Position.le_antisymm ba.1 ab.1
  have stop : a.stop = b.stop := Position.le_antisymm ab.2 ba.2
  cases a
  cases b
  rw [mk.injEq]
  exact ⟨start, stop⟩

end Range

namespace QuickFix

-- A replacement that is missing is as good as an empty one.
def Fixable (requested : Range) (e : Entry) : Prop :=
  e.replacement.getD [] ≠ [] ∧ e.diagnostic.range.within requested

instance (requested : Range) : DecidablePred (Fixable requested) := fun _ =>
  inferInstanceAs (Decidable (_ ∧ _))

def ofEntry (uri : Uri) (e : Entry) : QuickFix :=
  ⟨uri, e.diagnostic, e.replacement.getD [], e.applicability == .machineApplicable⟩

theorem ofEntry?_eq (uri : Uri) (requested : Range) (e : Entry) :
    ofEntry? uri requested e = if Fixable requested e then some (ofEntry uri e) else none := by
  obtain ⟨diagnostic, replacement, applicability⟩ := e
  unfold ofEntry? Fixable ofEntry
  rcases replacement with _ | _ | ⟨b, text⟩ <;> simp

def changes? (fix : QuickFix) : Option Json := (fix.toJson.get? "edit").bind (Json.get? "changes")

theorem changes?_eq (fix : QuickFix) : fix.changes? =
    some (.object [(fix.uri, .array [TextEdit.toJson ⟨fix.diagnostic.range, fix.replacement⟩])]) := by
  rfl

end QuickFix

namespace Aggregator

theorem quickFixes_eq (a : Aggregator) (uri : Uri) (requested : Range) :
    a.quickFixes uri requested =
      ((a.published uri).filter (QuickFix.Fixable requested)).map (QuickFix.ofEntry uri) := by
  rw [quickFixes, ← List.filterMap_eq_map, List.filterMap_filter]
  simp only [QuickFix.ofEntry?_eq, decide_eq_true_eq]
  rfl

theorem quickFixes_mono (a : Aggregator) (uri : Uri) {narrow wide : Range}
    (inside : narrow.within wide) : (a.quickFixes uri narrow).Sublist (a.quickFixes uri wide) := by
  rw [quickFixes_eq, quickFixes_eq]
  refine (List.monotone_filter_right _ fun e fixable => ?_).map _
  obtain ⟨filled, within⟩ := of_decide_eq_true fixable
  exact decide_eq_true ⟨filled, Range.within_trans within inside⟩

-- The fixes and the entries they are for go in pairs. Lying inside is a partial order also of
-- ranges that end before they start.
theorem quickFixes_exact (root : Text) (runs : List ToolRun) (uri : Uri) :
    let entries := (lastReported root runs).of uri
    let offered := ((start root).afterRuns runs).quickFixes uri
    (∀ requested : Range, List.Forall₂ (fun e fix =>
        fix.diagnostic = e.diagnostic ∧ e.replacement = some fix.replacement ∧
          (fix.preferred ↔ e.applicability = .machineApplicable) ∧
          fix.changes? = some (.object [(uri, .array [
            TextEdit.toJson ⟨e.diagnostic.range, fix.replacement⟩])]))
      (entries.filter fun e => e.replacement.getD [] ≠ [] ∧
        requested.start ≤ e.diagnostic.range.start ∧ e.diagnostic.range.stop ≤ requested.stop)
      (offered requested)) ∧
    (∀ r : Range, r.within r) ∧
    (∀ r s : Range, r.within s → s.within r → r = s) ∧
    (∀ r s t : Range, r.within s → s.within t → r.within t) ∧
    ∀ narrow wide : Range, narrow.within wide → (offered narrow).Sublist (offered wide) := by
  intro entries offered
  have published : ((start root).afterRuns runs).published uri = entries := by
    rw [Aggregator.published, afterRuns_snapshot]
  refine ⟨fun requested => ?_, Range.within_refl, fun r s => Range.within_antisymm,
    fun r s t => Range.within_trans, fun narrow wide => quickFixes_mono _ uri⟩
  have fixable : entries.filter (fun e => e.replacement.getD [] ≠ [] ∧
      requested.start ≤ e.diagnostic.range.start ∧ e.diagnostic.range.stop ≤ requested.stop) =
        entries.filter (QuickFix.Fixable requested) := by
    simp only [QuickFix.Fixable, Range.within_iff]
  simp only [offered]
  rw [quickFixes_eq, published, fixable, List.forall₂_map_right_iff, List.forall₂_same]
  intro e member
  obtain ⟨filled, -⟩ := of_decide_eq_true (List.mem_filter.mp member).2
  refine ⟨rfl, ?_, by simp [QuickFix.ofEntry], QuickFix.changes?_eq _⟩
  cases held : e.replacement with
  | none => simp [held] at filled
  | some text => simp [QuickFix.ofEntry, held]

theorem quickFixes_exact_first_line :
    let run : ToolRun := ⟨"\x7b\"message\":\x7b\"level\":\"error\",\"spans\":[" ++
      "\x7b\"file_name\":\"a\",\"suggested_replacement\":\"x\"\x7d," ++
      "\x7b\"file_name\":\"a\",\"line_start\":3,\"line_end\":3,\"suggested_replacement\":\"y\"\x7d]\x7d\x7d", none⟩
    let offered := ((start "/r").afterRuns [run]).quickFixes "file:///r/a"
    let narrow : Range := ⟨⟨0, 0⟩, ⟨0, 9⟩⟩
    let wide : Range := ⟨⟨0, 0⟩, ⟨9, 0⟩⟩
    narrow.within wide ∧ (offered narrow).map QuickFix.replacement = [[0x78]] ∧
      (offered wide).map QuickFix.replacement = [[0x78], [0x79]] ∧
      (offered narrow).Sublist (offered wide) := by
  intro run offered narrow wide
  have inside : narrow.within wide := by decide
  obtain ⟨-, -, -, -, mono⟩ := quickFixes_exact "/r" [run] "file:///r/a"
  exact ⟨inside, by decide +kernel, by decide +kernel, mono narrow wide inside⟩

end Aggregator

end LintServer
