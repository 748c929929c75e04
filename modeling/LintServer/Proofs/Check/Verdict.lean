import LintServer.CommandLine.Basic
import LintServer.Proofs.Check
import LintServer.Proofs.Diagnostic.Preorder
import LintServer.Proofs.Text.Lines

set_option autoImplicit false

namespace LintServer

open Text (lf)

theorem recordLines_of_long {limit : Nat} {body : Text} (noFeed : lf ∉ body)
    (long : limit ≤ body.length) (rest : Text) : recordLines limit (body ++ lf :: rest) = [] := by
  have whole : Text.dropLf (body ++ [lf]) = body := by simp [Text.dropLf, Text.endsInLf]
  rw [recordLines, Text.lines_append_lf noFeed, shortLines, whole, if_neg (by omega)]
  rfl

namespace Node

def ofText (text : Text) : List Node :=
  (Json.read? Record.ofJson text).toList.flatMap fun r => r.diagnostic?.toList.flatMap preorder

def ofOutput (output : Text) : List Node :=
  (recordLines Finding.maxLine output).flatMap fun line => ofText line.text

-- An error is written on some line, whether or not the line is read.
def ErrorWritten (output : Text) : Prop :=
  ∃ line ∈ output.lines, ∃ node ∈ ofText line.trim, node.level ∈ Severity.errorLevels

end Node

namespace Place

theorem isError_iff (p : Place) :
    p.IsError ↔ p.node.level ∈ Severity.errorLevels ∧ p.span.Converts := by
  rw [IsError, p.span.range?_eq]
  by_cases converts : p.span.Converts <;> simp [converts]

theorem countP_isError_ofRecord (root : Text) (r : Record) :
    (ofRecord root r).countP (IsError ·) =
      (((r.diagnostic?.toList.flatMap Node.preorder).filter
        (·.level ∈ Severity.errorLevels)).flatMap Node.spans).countP (·.Converts) := by
  rw [ofRecord]
  generalize r.diagnostic?.toList.flatMap Node.preorder = nodes
  induction nodes with
  | nil => rfl
  | cons node nodes ih =>
    rw [List.flatMap_cons, List.countP_append, ih, List.countP_map]
    by_cases severe : node.level ∈ Severity.errorLevels
    · simp [severe, isError_iff, Function.comp_def]
    · simp [severe, isError_iff, Function.comp_def]

theorem countP_isError_ofOutput (root output : Text) :
    (ofOutput root output).countP (IsError ·) =
      (((Node.ofOutput output).filter (·.level ∈ Severity.errorLevels)).flatMap
        Node.spans).countP (·.Converts) := by
  rw [ofOutput, Node.ofOutput]
  induction recordLines Finding.maxLine output with
  | nil => rfl
  | cons line lines ih =>
    rw [List.flatMap_cons, List.filter_append, List.flatMap_append, List.countP_append, ← ih,
      Node.ofText]
    cases read : Json.read? Record.ofJson line.text with
    | none => simp [read]
    | some r => simp [read, countP_isError_ofRecord]

end Place

namespace CommandLine

theorem runCheck_failure {site : Site} {options : Options} {config : Config} {log : Log}
    (opened : setUp site options = .ok (config, log)) (word : Text) {directory : Option Text}
    {report : CheckReport}
    (checked : check (word = "on") (checkRoot site config directory)
      (runTool site (checkRoot site config directory) config.linter []) = .ok report) :
    (runCheck site options word directory).failure =
      if report.errors = 0 then none else some (.findings report.errors) := by
  rw [runCheck, opened]
  simp only [checked]

end CommandLine

theorem check_of_entries_nil (color : Bool) {root : Text} {run : ToolRun}
    (ran : ∀ message, run.failure ≠ some (.other message))
    (none : Finding.entries (Finding.ofOutput root run.output) = []) :
    check color root run = .ok ⟨[], 0⟩ := by
  have empty : Aggregator.reported root run = ∅ := by
    rw [Aggregator.reported, Finding.lists_eq, none]
    rfl
  rw [check_eq color root ran, empty]
  rfl

-- The last part is about the command: it fails exactly if there is such a place.
theorem check_counts_placed_errors (color : Bool) (root : Text) (run : ToolRun)
    (ran : ∀ message, run.failure ≠ some (.other message)) :
    let errors := (Node.ofOutput run.output).filter (·.level ∈ Severity.errorLevels)
    ∃ report, check color root run = .ok report ∧
      report.errors = (errors.flatMap Node.spans).countP (·.Converts) ∧
      (1 ≤ report.errors ↔ ∃ node ∈ errors, ∃ s ∈ node.spans, s.Converts) ∧
      ∀ (site : CommandLine.Site) options word directory config log,
        CommandLine.setUp site options = .ok (config, log) →
        CommandLine.checkRoot site config directory = root →
        CommandLine.runTool site root config.linter [] = run →
        (CommandLine.runCheck site options word directory).failure =
          if report.errors = 0 then none else some (.findings report.errors) := by
  intro errors
  have count : Lists.errorCount (Aggregator.reported root run) =
      (errors.flatMap Node.spans).countP (·.Converts) :=
    (Lists.errorCount_eq root run.output).trans (Place.countP_isError_ofOutput root run.output)
  refine ⟨_, check_eq color root ran, count, ?_, ?_⟩
  · rw [count, Nat.one_le_iff_ne_zero, ← Nat.pos_iff_ne_zero, List.countP_pos_iff]
    simp only [List.mem_flatMap, decide_eq_true_eq]
    constructor
    · rintro ⟨s, ⟨node, member, own⟩, converts⟩
      exact ⟨node, member, s, own, converts⟩
    · rintro ⟨node, member, s, own, converts⟩
      exact ⟨s, ⟨node, member, own⟩, converts⟩
  · rintro site options word directory config log opened rfl rfl
    -- How the command is told to colour its output changes the report, but not the number of
    -- errors.
    rw [CommandLine.runCheck_failure opened word (check_eq _ _ ran)]

theorem check_counts_placed_errors_nested :
    let run : ToolRun := ⟨"\x7b\"message\":\x7b\"level\":\"note\",\"children\":[" ++
      "\x7b\"level\":\"error\",\"spans\":[\x7b\"file_name\":\"a\"\x7d]\x7d]\x7d\x7d\n",
      some (.exit "cargo" 101 [])⟩
    let site : CommandLine.Site := ⟨Files.empty, "/w", ⟨fun _ _ => none, fun _ => none⟩,
      fun command _ => if command.name = "cargo" then run else ⟨[], some (.other "not there")⟩⟩
    (∀ message, run.failure ≠ some (.other message)) ∧
      ∃ report, check false "/w" run = .ok report ∧ report.errors = 1 ∧
        (∃ node ∈ (Node.ofOutput run.output).filter (·.level ∈ Severity.errorLevels),
          ∃ s ∈ node.spans, s.Converts) ∧
        (CommandLine.runCheck site ⟨[], none, none, false⟩ "auto" none).failure =
          some (.findings 1) := by
  intro run site
  have ran : ∀ message, run.failure ≠ some (.other message) := by simp [run]
  obtain ⟨report, checked, count, failing, command⟩ := check_counts_placed_errors false "/w" run ran
  have one : report.errors = 1 := by
    rw [count]
    decide +kernel
  have searched : CommandLine.configPath site ⟨[], none, none, false⟩ = .ok none := by
    decide +kernel
  have opened : CommandLine.setUp site ⟨[], none, none, false⟩ =
      .ok (Config.defaults, ⟨none, .info, []⟩) := by
    rw [CommandLine.setUp, searched]
    rfl
  have failed := command site _ "auto" none _ _ opened (by decide +kernel) (by decide +kernel)
  rw [one] at failed
  exact ⟨ran, report, checked, one, failing.mp (by omega), failed⟩

-- Errors that a check does not see: without a place, with a place that is out of range, and after a
-- line that is too long.
theorem check_passes_unplaced_errors :
    let unplaced : Text := "\x7b\"message\":\x7b\"level\":\"error\"\x7d\x7d"
    let outside : Text := "\x7b\"message\":\x7b\"level\":\"error\",\"spans\":[" ++
      "\x7b\"file_name\":\"a\",\"line_start\":4294967297\x7d]\x7d\x7d"
    let placed : Text :=
      "\x7b\"message\":\x7b\"level\":\"error\",\"spans\":[\x7b\"file_name\":\"a\"\x7d]\x7d\x7d"
    let unread : Text := List.replicate Finding.maxLine 0x20 ++ lf :: placed
    let checked (output : Text) := check false "/r" ⟨output, some (.exit "lint" 101 [])⟩
    (Node.ErrorWritten unplaced ∧ checked unplaced = .ok ⟨[], 0⟩) ∧
      (Node.ErrorWritten outside ∧ checked outside = .ok ⟨[], 0⟩) ∧
      Node.ErrorWritten unread ∧ checked unread = .ok ⟨[], 0⟩ := by
  intro unplaced outside placed unread checked
  have passes (output line : Text) (member : line ∈ output.lines)
      (severe : (Node.ofText line.trim).any (·.level ∈ Severity.errorLevels))
      (none : Finding.entries (Finding.ofOutput "/r" output) = []) :
      Node.ErrorWritten output ∧ checked output = .ok ⟨[], 0⟩ :=
    ⟨⟨line, member, by simpa using severe⟩, check_of_entries_nil false (by simp) none⟩
  have blank : lf ∉ List.replicate Finding.maxLine 0x20 := by
    rw [List.mem_replicate]
    exact fun feed => absurd feed.2 (by decide)
  refine ⟨?_, ?_, ?_⟩
  · exact passes unplaced unplaced (by decide) (by decide +kernel) (by decide +kernel)
  · exact passes outside outside (by decide) (by decide +kernel) (by decide +kernel)
  · refine passes unread placed ?_ (by decide +kernel) ?_
    · rw [Text.lines_append_lf blank]
      exact List.mem_cons_of_mem _ (by decide)
    · rw [Finding.entries_ofOutput, Place.ofOutput, recordLines_of_long blank (by simp)]
      rfl

end LintServer
