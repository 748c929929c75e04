import LintServer.Diagnostic.Finding
import LintServer.Proofs.Grouping
import LintServer.Proofs.Text.Records

set_option autoImplicit false

namespace LintServer

open Text (lf)

namespace Complaint

def isMalformed : Complaint → Bool
  | malformed _ => true
  | _ => false

def shift (count : Nat) : Complaint → Complaint
  | malformed line => malformed (line + count)
  | other => other

theorem shift_eq {c : Complaint} (other : c.isMalformed = false) (count : Nat) :
    c.shift count = c := by
  cases c <;> simp_all [isMalformed, shift]

end Complaint

namespace Finding

def isMalformed : Finding → Bool
  | .error c => c.isMalformed
  | .ok _ => false

def shift (count : Nat) (f : Finding) : Finding := f.mapError (Complaint.shift count)

theorem shift_eq {f : Finding} (other : f.isMalformed = false) (count : Nat) :
    f.shift count = f := by
  cases f with
  | error c => exact congrArg Except.error (c.shift_eq other count)
  | ok entry => rfl

end Finding

theorem Span.finding_isMalformed (root : Text) (severity : Option Severity) (code : Option Text)
    (message : Text) (s : Span) : (s.finding root severity code message).isMalformed = false := by
  unfold finding
  split <;> rfl

namespace Node

mutual

theorem findings_isMalformed (root : Text) :
    (node : Node) → ∀ f ∈ node.findings root, f.isMalformed = false
  | ⟨level, message, spans, code, children⟩ => by
    intro f member
    rw [findings, List.mem_append, List.mem_append] at member
    rcases member with (unknown | span) | child
    · split at unknown
      · rw [List.mem_singleton.mp unknown]
        rfl
      · simp at unknown
    · obtain ⟨s, -, rfl⟩ := List.mem_map.mp span
      exact s.finding_isMalformed ..
    · exact findingsAll_isMalformed root children f child

theorem findingsAll_isMalformed (root : Text) :
    (nodes : List Node) → ∀ f ∈ findingsAll root nodes, f.isMalformed = false
  | [] => by simp [findingsAll]
  | node :: rest => by
    intro f member
    rw [findingsAll, List.mem_append] at member
    rcases member with first | later
    · exact findings_isMalformed root node f first
    · exact findingsAll_isMalformed root rest f later

end

end Node

namespace Finding

theorem ofRecord_isMalformed (root : Text) (r : Record) :
    ∀ f ∈ ofRecord root r, f.isMalformed = false := by
  unfold ofRecord
  split
  · simp
  · next node _ => exact node.findings_isMalformed _

theorem ofLine_shift (root : Text) (count : Nat) (line : RecordLine) :
    ofLine root (line.shift count) = (ofLine root line).map (shift count) := by
  unfold ofLine
  apply RecordLine.read_shift
  · intro number
    rfl
  · intro number record
    have same := List.map_congr_left fun f member =>
      shift_eq (ofRecord_isMalformed root record f member) count
    exact (same.trans (List.map_id' _)).symm

theorem maxLine_pos : 0 < maxLine := by decide

theorem ofOutput_line {line : Text} (noFeed : lf ∉ line) (small : line.length < maxLine) (root : Text) :
    ofOutput root line = if line.trim = [] then [] else ofLine root ⟨1, line.trim⟩ := by
  have short : Short maxLine line := short_of_not_mem noFeed small
  rw [ofOutput, readRecords_of_short short, short.recordLines, Text.splitAt_of_not_mem noFeed]
  simp only [List.zipIdx_singleton, List.filterMap_cons, List.filterMap_nil,
    RecordLine.ofPiece?, RecordLine.ofLine?]
  by_cases blank : line.trim = [] <;> simp [blank]

theorem ofOutput_append (root : Text) {x y : Text} (short : Short maxLine (x ++ lf :: y)) :
    ofOutput root (x ++ lf :: y) =
      ofOutput root x ++ (ofOutput root y).map (shift (x.count lf + 1)) :=
  readRecords_append (ofLine_shift root) short

def entries (findings : List Finding) : List (Uri × Entry) := findings.filterMap Except.toOption

theorem lists_eq (findings : List Finding) : lists findings = Groups.ofList (entries findings) := rfl

theorem entries_append (a b : List Finding) : entries (a ++ b) = entries a ++ entries b :=
  List.filterMap_append

theorem entries_ofOutput_append (root : Text) {x y : Text} (short : Short maxLine (x ++ lf :: y)) :
    entries (ofOutput root (x ++ lf :: y)) =
      entries (ofOutput root x) ++ entries (ofOutput root y) :=
  values_readRecords_append (ofLine_shift root) short

def Silent (line : Text) : Prop :=
  line.trim = [] ∨ Json.read? Record.ofJson line.trim = none ∨
    ∃ record, Json.read? Record.ofJson line.trim = some record ∧
      (record.message = none ∨ record.reason ≠ [] ∧ record.reason ≠ "compiler-message")

theorem Silent.entries {line : Text} (silent : Silent line) (noFeed : lf ∉ line)
    (small : line.length < maxLine) (root : Text) : entries (ofOutput root line) = [] := by
  rw [ofOutput_line noFeed small]
  split
  · rfl
  · next blank =>
    rw [ofLine, RecordLine.read]
    rcases silent with empty | malformed | ⟨record, found, other⟩
    · exact absurd empty blank
    · rw [malformed]
      rfl
    · have none : record.diagnostic? = none := by
        unfold Record.diagnostic?
        rcases other with missing | ⟨filled, otherReason⟩
        · simp [missing]
        · simp [filled, otherReason]
      simp [found, ofRecord, none, Finding.entries]

theorem ofOutput_line_by_line (root x y : Text)
    (short : ∀ line ∈ (x ++ lf :: y).lines, line.dropLf.length < maxLine) :
    let parsed := fun output => lists (ofOutput root output)
    let errors := fun output => complaints (ofOutput root output)
    (∀ uri, (parsed (x ++ lf :: y)).of uri = (parsed x).of uri ++ (parsed y).of uri) ∧
      errors (x ++ lf :: y) = errors x ++ (errors y).map (Complaint.shift (x.count lf + 1)) ∧
      ∀ line, lf ∉ line → line.length < maxLine → Silent line →
        parsed (x ++ lf :: line ++ lf :: y) = parsed (x ++ lf :: y) ∧
          parsed (line ++ lf :: y) = parsed y ∧ parsed (x ++ lf :: line) = parsed x := by
  intro parsed errors
  obtain ⟨first, second⟩ := (short_append_iff maxLine_pos).mp short
  refine ⟨fun uri => ?_, ?_, fun line noFeed small silent => ?_⟩
  · simp only [parsed, lists_eq, Groups.of_ofList, entries_ofOutput_append root short,
      List.filter_append, List.map_append]
  · exact failures_readRecords_append (ofLine_shift root) short
  · have none := silent.entries noFeed small root
    have inserted : Short maxLine line := short_of_not_mem noFeed small
    have before : Short maxLine (line ++ lf :: y) :=
      (short_append_iff maxLine_pos).mpr ⟨inserted, second⟩
    have after : Short maxLine (x ++ lf :: line) :=
      (short_append_iff maxLine_pos).mpr ⟨first, inserted⟩
    have between : Short maxLine (x ++ lf :: line ++ lf :: y) :=
      (short_append_iff maxLine_pos).mpr ⟨after, second⟩
    have same {a b : Text} (equal : entries (ofOutput root a) = entries (ofOutput root b)) :
        parsed a = parsed b := congrArg Groups.ofList equal
    refine ⟨same ?_, same ?_, same ?_⟩
    · rw [entries_ofOutput_append root between, entries_ofOutput_append root after, none,
        List.append_nil, entries_ofOutput_append root short]
    · rw [entries_ofOutput_append root before, none, List.nil_append]
    · rw [entries_ofOutput_append root after, none, List.append_nil]

theorem ofOutput_line_by_line_cut :
    let x : Text := "[\r"
    let y : Text := "\n\x7b\"message\":\x7b\"spans\":[\x7b\x7d]\x7d\x7d\n]"
    let parsed := fun output => lists (ofOutput "/r" output)
    let errors := fun output => complaints (ofOutput "/r" output)
    (∀ line ∈ (x ++ lf :: y).lines, line.dropLf.length < maxLine) ∧
      ((parsed y).of "file:///r").length = 1 ∧
      (parsed (x ++ lf :: y)).of "file:///r" =
        (parsed x).of "file:///r" ++ (parsed y).of "file:///r" ∧
      errors y = [.unknownLevel [], .malformed 3] ∧
      errors (x ++ lf :: y) = errors x ++ (errors y).map (Complaint.shift 1) ∧
      parsed (x ++ lf :: [0x20] ++ lf :: y) = parsed (x ++ lf :: y) := by
  intro x y parsed errors
  have short : ∀ line ∈ (x ++ lf :: y).lines, line.dropLf.length < maxLine := by decide
  obtain ⟨joined, counted, inserted⟩ := ofOutput_line_by_line "/r" x y short
  exact ⟨short, by decide +kernel, joined _, by decide +kernel, counted,
    (inserted [0x20] (by decide) (by decide) (.inl (by decide))).1⟩

end Finding

end LintServer
