import LintServer.Proofs.Check
import LintServer.Proofs.FileUri

set_option autoImplicit false

namespace LintServer

namespace Finding

theorem lists_of (root output : Text) (uri : Uri) : (lists (ofOutput root output)).of uri =
    (((Place.ofOutput root output).filter (·.span.Converts)).filter (·.uri = uri)).map
      Place.entry := by
  rw [lists_eq_ofList, Groups.of_ofList, List.filter_map, List.map_map]
  rfl

theorem mem_lists_iff (root output : Text) (uri : Uri) : uri ∈ lists (ofOutput root output) ↔
    ∃ p ∈ (Place.ofOutput root output).filter (·.span.Converts), p.uri = uri := by
  rw [lists_eq_ofList, Groups.ofList, Groups.mem_foldl_add]
  simp

end Finding

theorem Lists.print_eq (color : Bool) (root : Text) (lists : Lists) : print color root lists =
    lists.keys.flatMap fun uri => (Groups.of lists uri).flatMap fun e =>
      e.diagnostic.line color (displayName root uri) := by
  rw [print, diagnostics, Groups.toList_eq, List.flatMap_map, List.flatMap_assoc]
  simp only [List.flatMap_map]

namespace Span

def shown (n : Int64) : Int := if n.toInt = 4294967296 then 0 else max n.toInt 1

-- One is taken away among signed numbers of 64 bits and given back among unsigned ones of 32.
theorem succ_before (n : Int64) (small : n.toInt ≤ 4294967296) :
    (((n.toInt - 1).toNat.toUInt32 + 1).toNat : Int) = shown n := by
  have wrapped : ((n.toInt - 1).toNat.toUInt32 + 1).toNat =
      ((n.toInt - 1).toNat + 1) % 4294967296 := by
    rw [UInt32.toNat_add, Nat.toUInt32_eq, UInt32.toNat_ofNat']
    simp
  rw [wrapped, shown]
  split <;> omega

theorem shown_eq_max_iff (n : Int64) : shown n = max n.toInt 1 ↔ n.toInt ≠ 4294967296 := by
  unfold shown
  split <;> omega

theorem Converts.lineStart {s : Span} (converts : s.Converts) :
    ((s.range.start.line + 1).toNat : Int) = shown s.lineStart :=
  succ_before _ (converts s.lineStart (by simp)).2

theorem Converts.columnStart {s : Span} (converts : s.Converts) :
    ((s.range.start.character + 1).toNat : Int) = shown s.columnStart :=
  succ_before _ (converts s.columnStart (by simp)).2

end Span

namespace Place

def line (color : Bool) (root : Text) (p : Place) : Text :=
  paint color "1" "22" (displayName root p.uri ++ ":" ++ Text.ofInt (Span.shown p.span.lineStart) ++
    ":" ++ Text.ofInt (Span.shown p.span.columnStart)) ++ ": " ++
    p.entry.diagnostic.paintHeading color ++ ": " ++ p.entry.diagnostic.message ++ "\n"

theorem line_diagnostic {p : Place} (converts : p.span.Converts) (color : Bool) (root : Text) :
    p.entry.diagnostic.line color (displayName root p.uri) = p.line color root := by
  rw [line, ← converts.lineStart, ← converts.columnStart]
  rfl

end Place

theorem Lists.print_reported (color : Bool) (root : Text) (run : ToolRun) :
    let accepted := (Place.ofOutput root run.output).filter (·.span.Converts)
    print color root (Aggregator.reported root run) =
      (Aggregator.reported root run).keys.flatMap fun uri =>
        (accepted.filter (·.uri = uri)).flatMap (Place.line color root) := by
  intro accepted
  rw [print_eq]
  apply List.flatMap_congr
  intro uri _
  rw [Aggregator.reported, Finding.lists_of, List.flatMap_map]
  apply List.flatMap_congr
  intro p member
  obtain ⟨member, own⟩ := List.mem_filter.mp member
  have converts : p.span.Converts := by simpa using (List.mem_filter.mp member).2
  rw [← Place.line_diagnostic converts, of_decide_eq_true own]

-- One line for each span that has a range, by document and in a document in the order of the
-- output. The last part says for which of them the numbers are not those of the linter.
theorem check_prints_locations (color : Bool) (root : Text) (run : ToolRun)
    (ran : ∀ message, run.failure ≠ some (.other message)) :
    let accepted := (Place.ofOutput root run.output).filter (·.span.Converts)
    ∃ (report : CheckReport) (uris : List Uri), check color root run = .ok report ∧
      uris.Pairwise (· < ·) ∧ (∀ uri, uri ∈ uris ↔ ∃ p ∈ accepted, p.uri = uri) ∧
      (report.output = uris.flatMap fun uri =>
        (accepted.filter (·.uri = uri)).flatMap (Place.line color root)) ∧
      ∀ p ∈ accepted,
        (Span.shown p.span.lineStart = max p.span.lineStart.toInt 1 ↔
          p.span.lineStart.toInt ≠ 4294967296) ∧
        (Span.shown p.span.columnStart = max p.span.columnStart.toInt 1 ↔
          p.span.columnStart.toInt ≠ 4294967296) := by
  intro accepted
  refine ⟨_, (Aggregator.reported root run).keys, check_eq color root ran, keys_increasing _,
    fun uri => ?_, Lists.print_reported color root run,
    fun p _ => ⟨Span.shown_eq_max_iff _, Span.shown_eq_max_iff _⟩⟩
  rw [Std.ExtTreeMap.mem_keys]
  exact Finding.mem_lists_iff root run.output uri

theorem check_prints_locations_clamped :
    let run : ToolRun := ⟨"\x7b\"message\":\x7b\"level\":\"note\",\"spans\":[" ++
      "\x7b\"file_name\":\"b\",\"line_start\":-3,\"column_start\":0\x7d," ++
      "\x7b\"file_name\":\"a\",\"line_start\":7,\"column_start\":4294967295\x7d," ++
      "\x7b\"file_name\":\"b\",\"line_start\":1,\"column_start\":2\x7d]\x7d\x7d",
      some (.exit "lint" 101 [])⟩
    let output : Text := "a:7:4294967295: info: \nb:1:1: info: \nb:1:2: info: \n"
    let accepted := (Place.ofOutput "/r" run.output).filter (·.span.Converts)
    (∀ message, run.failure ≠ some (.other message)) ∧
      check false "/r" run = .ok ⟨output, 0⟩ ∧
      ∃ uris : List Uri, output =
        uris.flatMap fun uri => (accepted.filter (·.uri = uri)).flatMap (Place.line false "/r") := by
  intro run output accepted
  have ran : ∀ message, run.failure ≠ some (.other message) := by simp [run]
  have checked : check false "/r" run = .ok ⟨output, 0⟩ := by
    rw [check_eq false "/r" ran, Except.ok.injEq]
    decide +kernel
  obtain ⟨report, uris, same, -, -, lines, -⟩ := check_prints_locations false "/r" run ran
  obtain rfl := Except.ok.inj (same.symm.trans checked)
  exact ⟨ran, checked, uris, lines⟩

-- A line that has a range and is printed as zero.
theorem check_prints_locations_wrapped :
    let run : ToolRun := ⟨"\x7b\"message\":\x7b\"level\":\"error\",\"spans\":[" ++
      "\x7b\"file_name\":\"a\",\"line_start\":4294967296,\"column_start\":1\x7d]\x7d\x7d",
      some (.exit "lint" 101 [])⟩
    (Place.ofOutput "/r" run.output).map (fun p => (p.span.lineStart, decide p.span.Converts)) =
        [(4294967296, true)] ∧
      check false "/r" run = .ok ⟨"a:0:1: error: \n", 1⟩ ∧
      max (4294967296 : Int64).toInt 1 = 4294967296 := by
  intro run
  refine ⟨by decide +kernel, ?_, by decide⟩
  rw [check_eq false "/r" (by simp [run]), Except.ok.injEq]
  decide +kernel

end LintServer
