import LintServer.Proofs.Diagnostic.Output

set_option autoImplicit false

namespace LintServer

namespace Severity

theorem ofNumber?_number (s : Severity) : ofNumber? s.number = some s := by
  cases s <;> rfl

@[simp]
theorem ofProtocol_toProtocol (severity : Option Severity) :
    ofProtocol (toProtocol severity) = severity := by
  cases severity with
  | none => rfl
  | some s => exact ofNumber?_number s

theorem number_of_ofNumber? {n : Int} {s : Severity} (found : ofNumber? n = some s) : s.number = n := by
  unfold ofNumber? at found
  split at found <;> cases found <;> rfl

theorem ofProtocol_eq_some_iff {number : Option Int} {s : Severity} :
    ofProtocol number = some s ↔ number = some s.number := by
  rw [ofProtocol, Option.bind_eq_some_iff]
  constructor
  · rintro ⟨n, rfl, found⟩
    rw [number_of_ofNumber? found]
  · rintro rfl
    exact ⟨_, rfl, ofNumber?_number s⟩

def errorLevels : List Text :=
  ["error", "internal-compiler-error", "error: internal compiler error"]

theorem ofLevel?_eq_error_iff {level : Text} :
    ofLevel? level = some error ↔ level ∈ errorLevels := by
  have named : level ∈ errorLevels ↔ level = "error" ∨ level = "internal-compiler-error" ∨
      level = "error: internal compiler error" := by
    simp only [errorLevels, List.mem_cons, List.not_mem_nil, or_false]
  unfold ofLevel?
  split
  · next one => exact iff_of_true rfl (named.mpr one)
  · next other =>
    refine iff_of_false (fun read => ?_) fun member => other (named.mp member)
    repeat' split at read
    all_goals cases read

end Severity

namespace Node

mutual

def preorder : Node → List Node
  | ⟨level, message, spans, code, children⟩ =>
    ⟨level, message, spans, code, children⟩ :: preorderAll children

def preorderAll : List Node → List Node
  | [] => []
  | node :: rest => preorder node ++ preorderAll rest

end

def ownFindings (root : Text) (node : Node) : List Finding :=
  (if (Severity.ofLevel? node.level).isNone then [.error (.unknownLevel node.level)] else []) ++
    node.spans.map (Span.finding root (Severity.ofLevel? node.level) node.code node.message)

mutual

theorem findings_eq (root : Text) : (node : Node) →
    node.findings root = node.preorder.flatMap (ownFindings root)
  | ⟨level, message, spans, code, children⟩ => by
    rw [findings, preorder, List.flatMap_cons, findingsAll_eq root children]
    rfl

theorem findingsAll_eq (root : Text) : (nodes : List Node) →
    findingsAll root nodes = (preorderAll nodes).flatMap (ownFindings root)
  | [] => rfl
  | node :: rest => by
    rw [findingsAll, preorderAll, List.flatMap_append, findings_eq root node, findingsAll_eq root rest]

end

def entry? (directory : Text) (node : Node) (s : Span) : Option (Uri × Entry) :=
  (s.finding directory (Severity.ofLevel? node.level) node.code node.message).toOption

theorem entries_findings (directory : Text) (node : Node) :
    Finding.entries (node.findings directory) =
      node.preorder.flatMap fun n => n.spans.filterMap (n.entry? directory) := by
  have own (n : Node) : (n.ownFindings directory).filterMap Except.toOption =
      n.spans.filterMap (n.entry? directory) := by
    rw [ownFindings, List.filterMap_append, List.filterMap_map]
    -- An unknown level is a complaint, no entry.
    split <;> rfl
  simp only [findings_eq, Finding.entries, List.filterMap_flatMap, own]

end Node

-- A span, the node that it is of and the directory that its file name is relative to.
structure Place where
  directory : Text
  node : Node
  span : Span

namespace Place

def ofRecord (root : Text) (r : Record) : List Place :=
  (r.diagnostic?.toList.flatMap Node.preorder).flatMap fun node =>
    node.spans.map fun span => ⟨r.directory root, node, span⟩

def ofOutput (root output : Text) : List Place :=
  ((recordLines Finding.maxLine output).filterMap (Json.read? Record.ofJson ·.text)).flatMap (ofRecord root)

def entry? (p : Place) : Option (Uri × Entry) := p.node.entry? p.directory p.span

def diagnostic? (p : Place) : Option (Uri × Diagnostic) :=
  p.entry?.map fun e => (e.1, e.2.diagnostic)

-- A span out of range is reported, but it is no error of the program.
def IsError (p : Place) : Prop :=
  p.node.level ∈ Severity.errorLevels ∧ p.span.range? ≠ none

instance : DecidablePred IsError := fun _ => inferInstanceAs (Decidable (_ ∧ _))

theorem diagnostic?_severity (p : Place) : p.diagnostic?.map (·.2.severity) =
    p.span.range?.map fun _ => Severity.toProtocol (Severity.ofLevel? p.node.level) := by
  unfold diagnostic? entry? Node.entry? Span.finding
  cases p.span.range? <;> rfl

theorem decide_isError (p : Place) : decide p.IsError =
    (p.diagnostic?.map fun d => Severity.ofProtocol d.2.severity == some .error).getD false := by
  have severity := p.diagnostic?_severity
  rw [Bool.eq_iff_iff, decide_eq_true_iff, IsError, ← Severity.ofLevel?_eq_error_iff]
  cases found : p.span.range? with
  | none =>
    rw [found] at severity
    simp [Option.map_eq_none_iff.mp severity]
  | some range =>
    rw [found] at severity
    obtain ⟨d, held, level⟩ := Option.map_eq_some_iff.mp severity
    simp [held, level]

end Place

namespace Finding

theorem entries_ofRecord (root : Text) (r : Record) :
    entries (ofRecord root r) = (Place.ofRecord root r).filterMap Place.entry? := by
  unfold ofRecord Place.ofRecord
  cases r.diagnostic? with
  | none => rfl
  | some node =>
    simp [Node.entries_findings, List.filterMap_flatMap, List.filterMap_map]
    rfl

theorem entries_ofLine (root : Text) (line : RecordLine) : entries (ofLine root line) =
    ((Json.read? Record.ofJson line.text).toList.flatMap (Place.ofRecord root)).filterMap Place.entry? := by
  rw [ofLine, RecordLine.read]
  cases Json.read? Record.ofJson line.text with
  | none => rfl
  | some record => simp [entries_ofRecord]

theorem entries_ofOutput (root output : Text) :
    entries (ofOutput root output) = (Place.ofOutput root output).filterMap Place.entry? := by
  have lines (list : List RecordLine) : entries (list.flatMap (ofLine root)) =
      ((list.filterMap (Json.read? Record.ofJson ·.text)).flatMap (Place.ofRecord root)).filterMap Place.entry? := by
    induction list with
    | nil => rfl
    | cons line rest ih =>
      simp only [List.flatMap_cons, entries_append, entries_ofLine, ih]
      cases read : Json.read? Record.ofJson line.text <;> simp [read]
  have long : entries (if hasLongLine maxLine output then [.error .lineTooLong] else []) = [] := by
    split <;> rfl
  simp only [ofOutput, readRecords, entries_append, lines, long, List.append_nil]
  rfl

end Finding

end LintServer
