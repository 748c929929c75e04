import LintServer.Check
import LintServer.Proofs.Diagnostic.Place
import LintServer.Proofs.Diagnostic.View

set_option autoImplicit false

namespace LintServer

namespace Lists

theorem diagnostics_eq (lists : Lists) :
    diagnostics lists = (Groups.flatten lists).map fun p => (p.1, p.2.diagnostic) := by
  rw [diagnostics, Groups.flatten, List.map_flatMap]
  simp only [List.map_map]
  rfl

theorem map_entries (root output : Text) :
    (Finding.entries (Finding.ofOutput root output)).map (fun p => (p.1, p.2.diagnostic)) =
      (Place.ofOutput root output).filterMap Place.diagnostic? := by
  rw [Finding.entries_ofOutput, List.map_filterMap]
  rfl

theorem filter_diagnostics (root output : Text) (uri : Uri) :
    (diagnostics (Finding.lists (Finding.ofOutput root output))).filter (·.1 = uri) =
      ((Place.ofOutput root output).filterMap Place.diagnostic?).filter (·.1 = uri) := by
  rw [diagnostics_eq, ← map_entries, List.filter_map, List.filter_map, Finding.lists_eq]
  exact congrArg _ (Groups.filter_flatten_ofList _ uri)

theorem diagnostics_perm (root output : Text) :
    (diagnostics (Finding.lists (Finding.ofOutput root output))).Perm
      ((Place.ofOutput root output).filterMap Place.diagnostic?) := by
  rw [diagnostics_eq, ← map_entries, Finding.lists_eq]
  exact (Groups.flatten_ofList_perm _).map _

theorem errorCount_eq (root output : Text) :
    errorCount (Finding.lists (Finding.ofOutput root output)) =
      (Place.ofOutput root output).countP (Place.IsError ·) := by
  rw [errorCount, (diagnostics_perm root output).countP_eq, List.countP_filterMap]
  simp only [Place.decide_isError]

end Lists

theorem check_eq (color : Bool) (root : Text) {run : ToolRun}
    (ran : ∀ message, run.failure ≠ some (.other message)) :
    check color root run = .ok ⟨Lists.print color root (Aggregator.reported root run),
      Lists.errorCount (Aggregator.reported root run)⟩ := by
  unfold check
  split
  · next message failed => exact absurd failed (ran message)
  · rfl

def Publish.items (p : Publish) : List (Uri × Diagnostic) := p.diagnostics.map (p.uri, ·)

namespace Aggregator

theorem publishes_start (root : Text) (run : ToolRun) :
    (start root).publishes run = ((start root).refresh run).current := by
  have none : (start root).clears = [] := rfl
  rw [publishes, none, List.nil_append]

theorem items_publishes_start (root : Text) (run : ToolRun) :
    ((start root).publishes run).flatMap Publish.items =
      Lists.diagnostics (reported root run) := by
  rw [publishes_start, current, List.flatMap_map, Lists.diagnostics]
  simp only [Publish.items, List.map_map]
  rfl

theorem uris_publishes_start (root : Text) (run : ToolRun) :
    ((start root).publishes run).map Publish.uri = (reported root run).keys := by
  rw [publishes_start, current_eq, List.map_map]
  exact List.map_id _

end Aggregator

theorem check_agrees_with_refresh (color : Bool) (root : Text) (run : ToolRun)
    (ran : ∀ message, run.failure ≠ some (.other message)) :
    let publishes := (Aggregator.start root).publishes run
    let published := publishes.flatMap Publish.items
    let places := Place.ofOutput root run.output
    ∃ report, check color root run = .ok report ∧
      report.errors = published.countP (fun d => d.2.severity = some 1) ∧
      report.errors = places.countP (Place.IsError ·) ∧
      report.output = published.flatMap (fun d => d.2.line color (displayName root d.1)) ∧
      (publishes.map Publish.uri).Pairwise (· < ·) ∧
      ∀ uri, published.filter (·.1 = uri) =
        (places.filterMap Place.diagnostic?).filter (·.1 = uri) := by
  intro publishes published places
  have shown : published = Lists.diagnostics (Aggregator.reported root run) :=
    Aggregator.items_publishes_start root run
  have first (d : Uri × Diagnostic) :
      decide (d.2.severity = some 1) = (Severity.ofProtocol d.2.severity == some .error) := by
    rw [Bool.eq_iff_iff, decide_eq_true_iff, beq_iff_eq, Severity.ofProtocol_eq_some_iff]
    rfl
  refine ⟨_, check_eq color root ran, ?_, Lists.errorCount_eq root run.output, ?_, ?_,
    fun uri => ?_⟩
  · simp only [shown, first]
    rfl
  · rw [shown]
    rfl
  · rw [Aggregator.uris_publishes_start]
    exact keys_increasing _
  · rw [shown]
    exact Lists.filter_diagnostics root run.output uri

theorem check_agrees_with_refresh_nested :
    let run : ToolRun := ⟨"\x7b\"message\":\x7b\"level\":\"warning\"," ++
      "\"spans\":[\x7b\"file_name\":\"b\"\x7d],\"children\":[\x7b\"level\":\"error\",\"spans\":[\x7b\"file_name\":\"a\"\x7d," ++
      "\x7b\"file_name\":\"a\",\"line_end\":4294967297\x7d]\x7d]\x7d\x7d",
      some (.exit "lint" 101 [])⟩
    let published := ((Aggregator.start "/r").publishes run).flatMap Publish.items
    (∀ message, run.failure ≠ some (.other message)) ∧
      check false "/r" run = .ok ⟨"a:1:1: error: \nb:1:1: warning: \n", 1⟩ ∧
      published.map Prod.fst = (["file:///r/a", "file:///r/b"] : List Uri) ∧
      1 = published.countP (fun d => d.2.severity = some 1) ∧
      1 = (Place.ofOutput "/r" run.output).countP (Place.IsError ·) ∧
      "a:1:1: error: \nb:1:1: warning: \n" =
        published.flatMap fun d => d.2.line false (displayName "/r" d.1) := by
  intro run published
  have ran : ∀ message, run.failure ≠ some (.other message) := by simp [run]
  have checked : check false "/r" run = .ok ⟨"a:1:1: error: \nb:1:1: warning: \n", 1⟩ := by
    rw [check_eq false "/r" ran, Except.ok.injEq]
    decide +kernel
  obtain ⟨report, same, severe, places, lines, -⟩ := check_agrees_with_refresh false "/r" run ran
  obtain rfl := Except.ok.inj (same.symm.trans checked)
  exact ⟨ran, checked, by decide +kernel, severe, places, lines⟩

end LintServer
