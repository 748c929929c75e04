import LintServer.Diagnostic.Record
import LintServer.Proofs.Json.Members

set_option autoImplicit false

namespace LintServer

open Json (ObjectOf ArrayOf Stands given given_cons given_option overMember_of_find)

def Text.Written (text : Text) (json : Json) : Prop := json = .string text

theorem Text.Written.ne_null {text : Text} {json : Json} (written : text.Written json) :
    json ≠ .null := by
  simp [show json = _ from written]

def Int64.Written (n : Int64) (json : Json) : Prop := json = .ofInt n.toInt

namespace Json

theorem overText_written {old text : Text} {json : Json} (written : text.Written json) :
    overText old json = .ok text := by
  rw [written]
  rfl

theorem overInt64_written {old n : Int64} {json : Json} (written : Int64.Written n json) :
    overInt64 old json = .ok n := by
  rw [written, overInt64_ofInt]

theorem overOption_written {old value : Option Text} {json : Json}
    (stands : Stands (value.map Text.Written) json) : overOption [] overText old json = .ok value :=
  overOption_stands (fun _ => Text.Written.ne_null) (fun _ => overText_written) stands

end Json

namespace Applicability

def Written (a : Applicability) (json : Json) : Prop := json = .string a.name

theorem Written.ne_null {a : Applicability} {json : Json} (written : a.Written json) :
    json ≠ .null := by
  simp [show json = _ from written]

theorem readOver_written {old a : Applicability} {json : Json} (written : a.Written json) :
    readOver old json = .ok a := by
  rw [written]
  cases a <;> rfl

end Applicability

namespace Span

def spec (s : Span) : Json.Spec := [
  ("file_name", some s.fileName.Written),
  ("line_start", some (Int64.Written s.lineStart)),
  ("line_end", some (Int64.Written s.lineEnd)),
  ("column_start", some (Int64.Written s.columnStart)),
  ("column_end", some (Int64.Written s.columnEnd)),
  ("label", s.label.map Text.Written),
  ("suggested_replacement", s.replacement.map Text.Written),
  ("suggestion_applicability", s.applicability.map Applicability.Written)]

def Written (s : Span) : Json → Prop := ObjectOf s.spec

def toJson (s : Span) : Json := .ofFields [
  ("file_name", some (.string s.fileName)),
  ("line_start", some (.ofInt s.lineStart.toInt)),
  ("line_end", some (.ofInt s.lineEnd.toInt)),
  ("column_start", some (.ofInt s.columnStart.toInt)),
  ("column_end", some (.ofInt s.columnEnd.toInt)),
  ("label", s.label.map .string),
  ("suggested_replacement", s.replacement.map .string),
  ("suggestion_applicability", s.applicability.map fun a => .string a.name)]

theorem written_toJson (s : Span) : s.Written s.toJson := by
  refine Json.objectOf_ofFields ?_ (by simp +decide [spec])
  have text (text : Text) : text.Written (.string text) := rfl
  have applicability (a : Applicability) : a.Written (.string a.name) := rfl
  simp only [spec, List.forall₂_cons, true_and]
  exact ⟨.some rfl, .some rfl, .some rfl, .some rfl, .some rfl, Json.rel_map text _,
    Json.rel_map text _, Json.rel_map applicability _, .nil⟩

-- The span with only the members of these names.
def seen (s : Span) (names : List Text) : Span where
  fileName := given names "file_name" s.fileName []
  lineStart := given names "line_start" s.lineStart 0
  lineEnd := given names "line_end" s.lineEnd 0
  columnStart := given names "column_start" s.columnStart 0
  columnEnd := given names "column_end" s.columnEnd 0
  label := given names "label" s.label none
  replacement := given names "suggested_replacement" s.replacement none
  applicability := given names "suggestion_applicability" s.applicability none

theorem overMember_seen (s : Span) (names : List Text) (field : Text × Option (Json → Prop))
    (json : Json) (listed : field ∈ s.spec) (stands : Stands field.2 json) :
    Json.overMember .ignored fields (s.seen names) field.1 json = .ok (s.seen (field.1 :: names)) := by
  have applicability {old : Option Applicability}
      (stands : Stands (s.applicability.map Applicability.Written) json) :
      Json.overOption .unspecified Applicability.readOver old json = .ok s.applicability :=
    Json.overOption_stands (fun _ written => Applicability.Written.ne_null written)
      (fun _ => Applicability.readOver_written) stands
  -- One case for each member: its reader gives the field, and no other field changes.
  simp only [spec, List.mem_cons, List.not_mem_nil, or_false] at listed
  rcases listed with rfl | rfl | rfl | rfl | rfl | rfl | rfl | rfl
  · exact overMember_of_find rfl (Json.overText_written stands) (by simp +decide [seen, given_cons])
  · exact overMember_of_find rfl (Json.overInt64_written stands) (by simp +decide [seen, given_cons])
  · exact overMember_of_find rfl (Json.overInt64_written stands) (by simp +decide [seen, given_cons])
  · exact overMember_of_find rfl (Json.overInt64_written stands) (by simp +decide [seen, given_cons])
  · exact overMember_of_find rfl (Json.overInt64_written stands) (by simp +decide [seen, given_cons])
  · exact overMember_of_find rfl (Json.overOption_written stands) (by simp +decide [seen, given_cons])
  · exact overMember_of_find rfl (Json.overOption_written stands) (by simp +decide [seen, given_cons])
  · exact overMember_of_find rfl (applicability stands) (by simp +decide [seen, given_cons])

theorem seen_all (s : Span) {names : List Text}
    (complete : ∀ field ∈ s.spec, field.2.isSome → field.1 ∈ names) : s.seen names = s := by
  simp only [spec, List.forall_mem_cons, Option.isSome_some, Option.isSome_map, forall_const]
    at complete
  obtain ⟨fileName, lineStart, lineEnd, columnStart, columnEnd, label, replacement, applicability, -⟩ :=
    complete
  simp only [seen, given_option label, given_option replacement, given_option applicability]
  simp [given, fileName, lineStart, lineEnd, columnStart, columnEnd]

theorem readOver_written {s : Span} {json : Json} (written : s.Written json) :
    readOver zero json = .ok s := by
  obtain ⟨names, complete, read⟩ := written.overObject s.seen
    fun names field json listed stands _ => s.overMember_seen names field json listed stands
  rw [s.seen_all complete] at read
  exact read

end Span

namespace Node

theorem nestedInduction {motive : Node → Prop}
    (node : ∀ level message spans code children, (∀ child ∈ children, motive child) →
      motive ⟨level, message, spans, code, children⟩) (n : Node) : motive n := by
  refine @Node.rec motive (fun nodes => ∀ n ∈ nodes, motive n) node (by simp) ?_ n
  intro first rest here later
  exact List.forall_mem_cons.mpr ⟨here, later⟩

def codeSpec (code : Text) : Json.Spec := [("code", some code.Written)]

def spec (level message : Text) (spans : List Span) (code : Option Text) (children : Json → Prop) :
    Json.Spec := [
  ("level", some level.Written),
  ("message", some message.Written),
  ("spans", some (ArrayOf Span.Written spans)),
  ("code", code.map fun code => ObjectOf (codeSpec code)),
  ("children", some children)]

mutual

def Written : Node → Json → Prop
  | ⟨level, message, spans, code, children⟩ => ObjectOf (spec level message spans code fun json =>
    ∃ items, json = .array items ∧ WrittenAll children items)

def WrittenAll : List Node → List Json → Prop
  | [], [] => True
  | node :: nodes, json :: items => node.Written json ∧ WrittenAll nodes items
  | _, _ => False

end

theorem Written.ne_null {node : Node} {json : Json} (written : node.Written json) : json ≠ .null := by
  cases node
  rw [Written] at written
  exact written.ne_null

mutual

def toJson : Node → Json
  | ⟨level, message, spans, code, children⟩ => .ofFields [
    ("level", some (.string level)),
    ("message", some (.string message)),
    ("spans", some (.array (spans.map Span.toJson))),
    ("code", code.map fun code => .ofFields [("code", some (.string code))]),
    ("children", some (.array (allToJson children)))]

def allToJson : List Node → List Json
  | [] => []
  | node :: rest => toJson node :: allToJson rest

end

theorem written_toJson (node : Node) : node.Written node.toJson := by
  induction node using nestedInduction with
  | node level message spans code children ih =>
    have all : WrittenAll children (allToJson children) := by
      induction children with
      | nil => trivial
      | cons child rest more =>
        exact ⟨ih child (by simp), more fun child member => ih child (by simp [member])⟩
    have places : ArrayOf Span.Written spans (.array (spans.map Span.toJson)) :=
      ⟨_, rfl, List.forall₂_map_right_iff.mpr (List.forall₂_same.mpr fun s _ => s.written_toJson)⟩
    have named (code : Text) : ObjectOf (codeSpec code) (.ofFields [("code", some (.string code))]) :=
      Json.objectOf_ofFields (.cons ⟨rfl, .some rfl⟩ .nil) (by simp [codeSpec])
    rw [Written, toJson]
    refine Json.objectOf_ofFields ?_ (by simp +decide [spec])
    simp only [spec, List.forall₂_cons, true_and]
    exact ⟨.some rfl, .some rfl, .some places, Json.rel_map named _, .some ⟨_, rfl, all⟩, .nil⟩

namespace Draft

mutual

-- The node as it is read over nothing: no slot holds anything from before.
def ofNode : Node → Draft
  | ⟨level, message, spans, code, children⟩ =>
    ⟨level, message, ⟨spans, []⟩, code, ofNodes children, []⟩

def ofNodes : List Node → List Draft
  | [] => []
  | node :: rest => ofNode node :: ofNodes rest

end

theorem ofDraft_ofNode (node : Node) : ofDraft (ofNode node) = node := by
  induction node using nestedInduction with
  | node level message spans code children ih =>
    have all : ofDrafts (ofNodes children) = children := by
      induction children with
      | nil => rfl
      | cons child rest more =>
        rw [ofNodes, ofDrafts, ih child (by simp), more fun child member => ih child (by simp [member])]
    rw [ofNode, ofDraft, all]

def seen (draft : Draft) (names : List Text) : Draft where
  level := given names "level" draft.level []
  message := given names "message" draft.message []
  spans := given names "spans" draft.spans .empty
  code := given names "code" draft.code none
  children := given names "children" draft.children []
  spareChildren := []

theorem overMembers_nil (old : Draft) : overMembers old [] = pure old := by
  rw [overMembers]
  rfl

theorem overMembers_cons (old : Draft) (member : Text × Json) (rest : List (Text × Json)) :
    overMembers old (member :: rest) = overMembers old [member] >>= (overMembers · rest) := by
  obtain ⟨name, json⟩ := member
  rw [overMembers.eq_def, overMembers.eq_def old [(name, json)]]
  dsimp only
  split
  · split <;> simp [overMembers_nil]
  · simp [overMembers_nil]

theorem overMembers_eq_foldlM (old : Draft) (members : List (Text × Json)) :
    overMembers old members = members.foldlM (fun old member => overMembers old [member]) old := by
  induction members generalizing old with
  | nil => rfl
  | cons member rest ih =>
    rw [List.foldlM_cons, overMembers_cons]
    simp only [ih]

theorem overMembers_single (old : Draft) {name : Text} (other : Text.sameName "children" name = false)
    (json : Json) : overMembers old [(name, json)] = Json.overMember .ignored fields old name json := by
  rw [overMembers.eq_def]
  simp [other, overMembers_nil]

theorem overMembers_children {old : Draft} (empty : old.children = [] ∧ old.spareChildren = [])
    {items : List Json} {children : List Draft} (read : overChildren [] items = .ok ⟨children, []⟩) :
    overMembers old [("children", .array items)] = .ok { old with children := children } := by
  have named : Text.sameName "children" "children" = true := rfl
  cases items with
  | nil =>
    obtain rfl : [] = children := by simpa [overChildren] using read
    simp [overMembers, named, fillChildren, Json.Slots.empty, empty]
  | cons item items =>
    rw [overMembers, if_pos named, empty.1, empty.2, List.append_nil, read]
    simp [overMembers_nil, fillChildren]

theorem overChildren_written {children : List Node}
    (reads : ∀ child ∈ children, ∀ json, child.Written json → readOver zero json = .ok (ofNode child))
    {items : List Json} (written : WrittenAll children items) :
    overChildren [] items = .ok ⟨ofNodes children, []⟩ := by
  induction children generalizing items with
  | nil =>
    cases items with
    | nil => rfl
    | cons => exact written.elim
  | cons child rest ih =>
    cases items with
    | nil => exact written.elim
    | cons json items =>
      have first := reads child (by simp) json written.1
      have more := ih (fun child member => reads child (by simp [member])) written.2
      rw [overChildren, List.headD_nil, first, List.tail_nil]
      simp [more]
      rfl

theorem overCode_written {old code : Text} {json : Json}
    (written : ObjectOf (codeSpec code) json) : overCode old json = .ok code := by
  have step (names : List Text) (field : Text × Option (Json → Prop)) (json : Json)
      (listed : field ∈ codeSpec code) (stands : Stands field.2 json) :
      Json.overMember .ignored [("code", Json.overText)] (given names "code" code old) field.1 json =
        .ok (given (field.1 :: names) "code" code old) := by
    obtain rfl := List.mem_singleton.mp listed
    rw [given_cons, if_pos rfl]
    exact Json.overText_written stands
  obtain ⟨names, complete, read⟩ := written.overObject (fun names => given names "code" code old)
    fun names field json listed stands _ => step names field json listed stands
  have all : given names "code" code old = code :=
    if_pos (complete ("code", some code.Written) (by simp [codeSpec]) rfl)
  rw [all] at read
  exact read

theorem overMembers_seen {level message : Text} {spans : List Span} {code : Option Text}
    {children : List Node}
    (reads : ∀ child ∈ children, ∀ json, child.Written json → readOver zero json = .ok (ofNode child))
    (names : List Text) (field : Text × Option (Json → Prop)) (json : Json)
    (listed : field ∈ spec level message spans code fun json =>
      ∃ items, json = .array items ∧ WrittenAll children items)
    (stands : Stands field.2 json) (unseen : field.1 ∉ names) :
    let whole := ofNode ⟨level, message, spans, code, children⟩
    overMembers (whole.seen names) [(field.1, json)] = .ok (whole.seen (field.1 :: names)) := by
  intro whole
  simp only [spec, List.mem_cons, List.not_mem_nil, or_false] at listed
  rcases listed with rfl | rfl | rfl | rfl | rfl
  · rw [overMembers_single _ rfl]
    exact overMember_of_find rfl (Json.overText_written stands)
      (by simp +decide [seen, given_cons, whole, ofNode])
  · rw [overMembers_single _ rfl]
    exact overMember_of_find rfl (Json.overText_written stands)
      (by simp +decide [seen, given_cons, whole, ofNode])
  · -- Spans are read over what their slots hold: nothing, as they come for the first time.
    have empty : (whole.seen names).spans = .empty := if_neg unseen
    have read : Json.overSlots .zero Span.readOver (whole.seen names).spans json = .ok ⟨spans, []⟩ := by
      rw [empty]
      exact Json.overSlots_arrayOf (fun _ _ => Span.readOver_written) stands
    rw [overMembers_single _ rfl]
    exact overMember_of_find rfl read (by simp +decide [seen, given_cons, whole, ofNode])
  · have read : Json.overOption [] overCode (whole.seen names).code json = .ok code :=
      Json.overOption_stands (fun _ => ObjectOf.ne_null) (fun _ => overCode_written) stands
    rw [overMembers_single _ rfl]
    exact overMember_of_find rfl read (by simp +decide [seen, given_cons, whole, ofNode])
  · obtain ⟨items, rfl, written⟩ := stands
    have empty : (whole.seen names).children = [] := if_neg unseen
    exact (overMembers_children ⟨empty, rfl⟩ (overChildren_written reads written)).trans
      (by simp +decide [seen, given_cons, whole, ofNode])

theorem seen_all {level message : Text} {spans : List Span} {code : Option Text}
    {children : List Node} {written : Json → Prop} {names : List Text}
    (complete : ∀ field ∈ spec level message spans code written, field.2.isSome → field.1 ∈ names) :
    let whole := ofNode ⟨level, message, spans, code, children⟩
    whole.seen names = whole := by
  simp only [spec, List.forall_mem_cons, Option.isSome_some, Option.isSome_map, forall_const]
    at complete
  obtain ⟨level, message, spans, code, children, -⟩ := complete
  simp only [ofNode, seen, given_option code]
  simp [given, level, message, spans, children]

theorem readOver_written (node : Node) :
    ∀ json, node.Written json → readOver zero json = .ok (ofNode node) := by
  induction node using nestedInduction with
  | node level message spans code children reads =>
    intro json written
    rw [Written] at written
    obtain ⟨members, names, rfl, complete, folded⟩ := written.foldlM
      (fun old member => overMembers old [member])
      (ofNode ⟨level, message, spans, code, children⟩).seen (overMembers_seen reads)
    rw [readOver, overMembers_eq_foldlM]
    exact folded.trans (congrArg _ (seen_all complete))

end Draft

end Node

namespace Record

def spec (r : Record) : Json.Spec := [
  ("reason", some r.reason.Written),
  ("manifest_path", some r.manifestPath.Written),
  ("root", some r.root.Written),
  ("message", r.message.map Node.Written)]

def Written (r : Record) : Json → Prop := ObjectOf r.spec

def toJson (r : Record) : Json := .ofFields [
  ("reason", some (.string r.reason)),
  ("manifest_path", some (.string r.manifestPath)),
  ("root", some (.string r.root)),
  ("message", r.message.map Node.toJson)]

theorem written_toJson (r : Record) : r.Written r.toJson := by
  refine Json.objectOf_ofFields ?_ (by simp +decide [spec])
  simp only [spec, List.forall₂_cons, true_and]
  exact ⟨.some rfl, .some rfl, .some rfl, Json.rel_map Node.written_toJson _, .nil⟩

def seen (r : Record) (names : List Text) : Draft where
  reason := given names "reason" r.reason []
  manifestPath := given names "manifest_path" r.manifestPath []
  root := given names "root" r.root []
  message := given names "message" (r.message.map Node.Draft.ofNode) none

theorem overMember_seen (r : Record) (names : List Text) (field : Text × Option (Json → Prop))
    (json : Json) (listed : field ∈ r.spec) (stands : Stands field.2 json) (unseen : field.1 ∉ names) :
    Json.overMember .ignored fields (r.seen names) field.1 json = .ok (r.seen (field.1 :: names)) := by
  simp only [spec, List.mem_cons, List.not_mem_nil, or_false] at listed
  rcases listed with rfl | rfl | rfl | rfl
  · exact overMember_of_find rfl (Json.overText_written stands) (by simp +decide [seen, given_cons])
  · exact overMember_of_find rfl (Json.overText_written stands) (by simp +decide [seen, given_cons])
  · exact overMember_of_find rfl (Json.overText_written stands) (by simp +decide [seen, given_cons])
  · have empty : (r.seen names).message = none := if_neg unseen
    have read : Json.overOption .zero Node.Draft.readOver (r.seen names).message json =
        .ok (r.message.map Node.Draft.ofNode) := by
      rw [empty]
      cases message : r.message with
      | none =>
        rw [message] at stands
        rw [show json = .null from stands]
        rfl
      | some node =>
        rw [message] at stands
        have written : node.Written json := stands
        rw [Json.overOption_of_ne_null _ _ _ written.ne_null]
        exact congrArg _ (Node.Draft.readOver_written node json written)
    exact overMember_of_find rfl read (by simp +decide [seen, given_cons])

theorem ofDraft_seen (r : Record) {names : List Text}
    (complete : ∀ field ∈ r.spec, field.2.isSome → field.1 ∈ names) : ofDraft (r.seen names) = r := by
  simp only [spec, List.forall_mem_cons, Option.isSome_some, Option.isSome_map, forall_const]
    at complete
  obtain ⟨reason, manifestPath, root, message, -⟩ := complete
  have node : Node.ofDraft ∘ Node.Draft.ofNode = id := funext Node.Draft.ofDraft_ofNode
  rw [seen, given_option (by simpa using message), ofDraft]
  simp [given, reason, manifestPath, root, node]

theorem ofJson_written {r : Record} {json : Json} (written : r.Written json) :
    ofJson json = .ok r := by
  obtain ⟨names, complete, read⟩ := written.overObject r.seen r.overMember_seen
  have start : r.seen [] = ⟨[], [], [], none⟩ := rfl
  rw [start] at read
  rw [ofJson, read]
  exact congrArg _ (r.ofDraft_seen complete)

end Record

end LintServer
