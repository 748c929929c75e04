import LintServer.Proofs.Diagnostic.Output
import LintServer.Proofs.Diagnostic.Written
import LintServer.Proofs.Json.Compact

set_option autoImplicit false

namespace LintServer

open Text (lf)

def Span.flattenInto (root : Text) (severity : Option Severity) (code : Option Text) (message : Text)
    (flat : Lists × List Complaint) (s : Span) : Lists × List Complaint :=
  match s.range? with
  | none => (flat.1, flat.2 ++ [.outOfRange s.fileName])
  | some range =>
    (flat.1.add (s.uri root) ⟨⟨range, Severity.toProtocol severity, code, s.messageOf message⟩,
      s.replacement, s.applicability.getD .unspecified⟩, flat.2)

namespace Node

mutual

def flattenInto (root : Text) : Node → Lists × List Complaint → Lists × List Complaint
  | ⟨level, message, spans, code, children⟩, (lists, complaints) =>
    let severity := Severity.ofLevel? level
    let complaints := if severity = none then complaints ++ [.unknownLevel level] else complaints
    flattenAll root children
      (spans.foldl (Span.flattenInto root severity code message) (lists, complaints))

def flattenAll (root : Text) : List Node → Lists × List Complaint → Lists × List Complaint
  | [], flat => flat
  | node :: rest, flat => flattenAll root rest (flattenInto root node flat)

end

end Node

-- Adds what a record says, if it is a diagnostic: file names are relative to its own root, to
-- the directory of its manifest, or else to `fallback`.
def Record.flattenInto (fallback : Text) (flat : Lists × List Complaint) (r : Record) :
    Lists × List Complaint :=
  match r.message with
  | none => flat
  | some node =>
    if r.reason = [] ∨ r.reason = "compiler-message" then
      let root :=
        if r.root ≠ [] then r.root
        else if r.manifestPath ≠ [] then Path.directory r.manifestPath
        else fallback
      node.flattenInto root flat
    else flat

namespace Finding

def collect (flat : Lists × List Complaint) : Finding → Lists × List Complaint
  | .ok (uri, entry) => (flat.1.add uri entry, flat.2)
  | .error complaint => (flat.1, flat.2 ++ [complaint])

theorem foldl_collect (findings : List Finding) (groups : Lists) (earlier : List Complaint) :
    findings.foldl collect (groups, earlier) =
      ((entries findings).foldl (fun groups p => groups.add p.1 p.2) groups,
        earlier ++ complaints findings) := by
  induction findings generalizing groups earlier with
  | nil => simp [entries, complaints, failures]
  | cons f findings ih =>
    rw [List.foldl_cons]
    cases f with
    | ok placed =>
      obtain ⟨uri, entry⟩ := placed
      exact ih (groups.add uri entry) earlier
    | error complaint =>
      refine (ih groups (earlier ++ [complaint])).trans ?_
      rw [List.append_assoc]
      rfl

theorem foldl_collect_empty (findings : List Finding) :
    findings.foldl collect (∅, []) = (lists findings, complaints findings) :=
  foldl_collect findings ∅ []

end Finding

open Finding (collect)

theorem Span.flattenInto_eq (root : Text) (severity : Option Severity) (code : Option Text)
    (message : Text) (flat : Lists × List Complaint) (s : Span) :
    s.flattenInto root severity code message flat =
      collect flat (s.finding root severity code message) := by
  unfold flattenInto finding
  cases s.range? <;> rfl

theorem Node.flattenInto_eq (root : Text) (node : Node) (flat : Lists × List Complaint) :
    node.flattenInto root flat = (node.findings root).foldl collect flat := by
  induction node using nestedInduction generalizing flat with
  | node level message spans code children ih =>
    have all (flat : Lists × List Complaint) :
        flattenAll root children flat = (findingsAll root children).foldl collect flat := by
      induction children generalizing flat with
      | nil => rfl
      | cons child rest more =>
        rw [flattenAll, findingsAll, List.foldl_append, ih child (by simp),
          more fun child member => ih child (by simp [member])]
    have places (flat : Lists × List Complaint) (severity : Option Severity) :
        spans.foldl (Span.flattenInto root severity code message) flat =
          (spans.map (Span.finding root severity code message)).foldl collect flat := by
      rw [List.foldl_map]
      congr 1
      funext flat s
      exact s.flattenInto_eq ..
    obtain ⟨lists, complaints⟩ := flat
    simp only [flattenInto, findings, List.foldl_append, all, places]
    cases Severity.ofLevel? level <;> rfl

theorem Record.flattenInto_eq (fallback : Text) (flat : Lists × List Complaint) (r : Record) :
    r.flattenInto fallback flat = (Finding.ofRecord fallback r).foldl collect flat := by
  unfold flattenInto Finding.ofRecord diagnostic? directory
  cases message : r.message with
  | none => simp
  | some node =>
    by_cases named : r.reason = [] ∨ r.reason = "compiler-message"
    · simp [named, node.flattenInto_eq]
    · simp [named]

namespace Finding

theorem foldl_flattenInto (fallback : Text) (records : List Record) :
    records.foldl (Record.flattenInto fallback) (∅, []) =
      (lists (records.flatMap (ofRecord fallback)), complaints (records.flatMap (ofRecord fallback))) := by
  rw [← foldl_collect_empty, List.foldl_flatMap]
  congr 1
  funext flat r
  exact r.flattenInto_eq fallback flat

end Finding

def Record.WrittenAs (r : Record) (line : Text) : Prop :=
  ∃ json, r.Written json ∧ json.depth ≤ 10000 ∧ json.Compact line

theorem Record.writtenAs_render {r : Record} (plain : r.toJson.isPlain)
    (shallow : r.toJson.depth ≤ 10000) : r.WrittenAs r.toJson.render :=
  ⟨r.toJson, r.written_toJson, shallow, Json.compact_render r.toJson plain⟩

namespace Record.WrittenAs

variable {r : Record} {line : Text}

theorem not_mem (written : r.WrittenAs line) : lf ∉ line := by
  obtain ⟨json, -, -, compact⟩ := written
  intro feed
  exact absurd (compact.visible lf feed) (by decide)

theorem trim_eq (written : r.WrittenAs line) : line.trim = line ∧ line ≠ [] := by
  obtain ⟨json, ⟨members, rfl, -⟩, -, compact⟩ := written
  obtain ⟨body, rfl⟩ := compact.object
  exact ⟨Text.trim_braces body, by simp⟩

theorem read? (written : r.WrittenAs line) : Json.read? Record.ofJson line = some r := by
  obtain ⟨json, written, shallow, compact⟩ := written
  rw [Json.read?, compact.parse? shallow, Option.bind_some, ofJson_written written]
  rfl

theorem ofOutput (written : r.WrittenAs line) (small : line.length < Finding.maxLine) (root : Text) :
    Finding.ofOutput root line = Finding.ofRecord root r := by
  rw [Finding.ofOutput_line written.not_mem small, written.trim_eq.1, if_neg written.trim_eq.2,
    Finding.ofLine, RecordLine.read, written.read?]

end Record.WrittenAs

namespace Finding

theorem joinWith_lf (line next : Text) (lines : List Text) :
    Text.joinWith [lf] (line :: next :: lines) = line ++ lf :: Text.joinWith [lf] (next :: lines) :=
  List.append_assoc ..

theorem short_joinWith {records : List Record} {lines : List Text}
    (written : List.Forall₂ Record.WrittenAs records lines)
    (small : ∀ line ∈ lines, line.length < maxLine) : Short maxLine (Text.joinWith [lf] lines) := by
  induction written with
  | nil => exact short_of_not_mem (by simp [Text.joinWith]) maxLine_pos
  | @cons r line records lines here more ih =>
    have first : Short maxLine line := short_of_not_mem here.not_mem (small line (by simp))
    cases lines with
    | nil => exact first
    | cons next lines =>
      have later := ih fun line member => small line (by simp [member])
      rw [joinWith_lf]
      exact (short_append_iff maxLine_pos).mpr ⟨first, later⟩

theorem flatMap_ofRecord_isMalformed (root : Text) (records : List Record) :
    ∀ f ∈ records.flatMap (ofRecord root), f.isMalformed = false := by
  intro f member
  obtain ⟨r, -, inside⟩ := List.mem_flatMap.mp member
  exact ofRecord_isMalformed root r f inside

theorem ofOutput_joinWith (root : Text) {records : List Record} {lines : List Text}
    (written : List.Forall₂ Record.WrittenAs records lines)
    (small : ∀ line ∈ lines, line.length < maxLine) :
    ofOutput root (Text.joinWith [lf] lines) = records.flatMap (ofRecord root) := by
  have short := short_joinWith written small
  induction written with
  | nil => rfl
  | @cons r line records lines here more ih =>
    have first := here.ofOutput (small line (by simp)) root
    cases lines with
    | nil =>
      cases more
      simpa [Text.joinWith] using first
    | cons next lines =>
      have later := fun line member => small line (List.mem_cons_of_mem _ member)
      have rest := ih later (short_joinWith more later)
      -- The records that follow complain about no line, so their numbers do not show.
      have unmoved := List.map_congr_left fun f member =>
        shift_eq (flatMap_ofRecord_isMalformed root records f member) (line.count lf + 1)
      rw [joinWith_lf] at short ⊢
      rw [ofOutput_append root short, first, rest, unmoved, List.map_id', List.flatMap_cons]

theorem ofOutput_of_written (root : Text) {records : List Record} {lines : List Text}
    (written : List.Forall₂ Record.WrittenAs records lines)
    (small : ∀ line ∈ lines, line.length < 64 * 1024 * 1024) :
    let findings := ofOutput root (Text.joinWith [lf] lines)
    (∀ number, .malformed number ∉ complaints findings) ∧
      (lists findings, complaints findings) = records.foldl (Record.flattenInto root) (∅, []) := by
  intro findings
  have read : findings = records.flatMap (ofRecord root) := ofOutput_joinWith root written small
  refine ⟨fun number malformed => ?_, by rw [read, foldl_flattenInto]⟩
  obtain ⟨f, member, complaint⟩ := List.mem_filterMap.mp malformed
  rw [read] at member
  have wellFormed := flatMap_ofRecord_isMalformed root records f member
  cases f with
  | ok => simp at complaint
  | error c =>
    obtain rfl := Option.some.inj complaint
    exact absurd wellFormed (by simp [isMalformed, Complaint.isMalformed])

theorem ofOutput_of_written_two :
    let span : Span := ⟨"a b.rs", 2, 2, 1, 4, some "é\n", none, some .maybeIncorrect⟩
    let note : Node :=
      ⟨"note", [], [⟨"/c.rs", -9223372036854775808, 1, 1, 1, none, none, none⟩], none, []⟩
    let warned : Record :=
      ⟨"compiler-message", "/w/Cargo.toml", [], some ⟨"odd", "a\"b", [span], some "E1", [note]⟩⟩
    let finished : Record := ⟨"build-finished", [], [], none⟩
    let lines : List Text := [warned.toJson.render,
      "\x7b\"message\":null,\"root\":\"\",\"reason\":\"build-finished\",\"manifest_path\":\"\"\x7d"]
    let findings := ofOutput "/r" (Text.joinWith [lf] lines)
    List.Forall₂ Record.WrittenAs [warned, finished] lines ∧
      (∀ line ∈ lines, line.length < 64 * 1024 * 1024) ∧
      complaints findings = [.unknownLevel "odd", .outOfRange "/c.rs"] ∧
      (lists findings, complaints findings) =
        [warned, finished].foldl (Record.flattenInto "/r") (∅, []) := by
  intro span note warned finished lines findings
  have first : warned.WrittenAs warned.toJson.render :=
    Record.writtenAs_render (by decide +kernel) (by decide +kernel)
  let json : Json := .object [("message", .null), ("root", .string []),
    ("reason", .string "build-finished"), ("manifest_path", .string [])]
  have unordered : finished.Written json := by
    refine ⟨_, rfl, by decide, ?_, ?_⟩
    · simp +decide [Record.spec, finished, Json.Stands, Text.Written]
    · simp +decide [Record.spec, finished]
  have second : finished.WrittenAs json.render :=
    ⟨json, unordered, by decide +kernel, Json.compact_render json (by decide +kernel)⟩
  have written : List.Forall₂ Record.WrittenAs [warned, finished] lines :=
    .cons first (.cons second .nil)
  have small : ∀ line ∈ lines, line.length < 64 * 1024 * 1024 := by decide +kernel
  exact ⟨written, small, by decide +kernel, (ofOutput_of_written "/r" written small).2⟩

end Finding

end LintServer
