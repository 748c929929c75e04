import LintServer.Proofs.Document.Refinement
import LintServer.Proofs.Edit.LineEdit

set_option autoImplicit false

namespace LintServer

open Text (WellSplit)

def TextEdit.toChange (e : TextEdit) : Change := ⟨some e.range, e.newText⟩

def editedText (old : Text) (edits : List TextEdit) : Text :=
  edits.foldr (fun e text => Texts.change text e.toChange) old

@[simp]
theorem editedText_nil (old : Text) : editedText old [] = old := rfl

@[simp]
theorem editedText_cons (old : Text) (e : TextEdit) (edits : List TextEdit) :
    editedText old (e :: edits) = Texts.change (editedText old edits) e.toChange := rfl

namespace Segment

-- Later edits come first, so the text behind a segment is new when its own edit is made. The lines
-- before it are those of the old text still, which is all that its positions depend on.
theorem editedText_lineEdits {segments : List Segment} (spaced : Spaced segments)
    (before : List Text) (split : WellSplit (before ++ oldLines segments))
    (fits : Addressable (before ++ oldLines segments)) :
    editedText (before ++ oldLines segments).flatten
        ((lineEdits before.length segments).map (LineEdit.toEdit (before ++ oldLines segments))) =
      before.flatten ++ (newLines segments).flatten := by
  induction spaced generalizing before with
  | nil => simp [lineEdits]
  | @keep lines rest kept spaced ih =>
    have later := ih (before ++ lines) (by simpa [Segment.old] using split)
      (by simpa [Segment.old] using fits)
    simpa [lineEdits, Segment.old, Segment.new] using later
  | @change rest old new next spaced ih =>
    have atEnd (empty : oldLines rest = []) : rest = [] := spaced.eq_nil next empty
    simp only [oldLines_cons, Segment.old] at split fits
    have start : Walk.point ((before ++ old).flatten ++ (newLines rest).flatten)
        (lineStart (before ++ (old ++ oldLines rest)) before.length) = before.flatten.length := by
      rw [List.flatten_append, List.append_assoc]
      apply Walk.point_lineStart split fits
      intro empty
      rw [List.append_eq_nil_iff] at empty
      simp [empty.1, atEnd empty.2]
    rw [← List.append_assoc] at split fits
    have stop : Walk.point ((before ++ old).flatten ++ (newLines rest).flatten)
        (lineStart (before ++ old ++ oldLines rest) (before ++ old).length) =
          (before ++ old).flatten.length := by
      apply Walk.point_lineStart split fits
      intro empty
      simp [atEnd empty]
    have later := ih (before ++ old) split fits
    simp only [lineEdits, oldLines_cons, newLines_cons, Segment.old, Segment.new, List.map_cons,
      editedText_cons]
    rw [List.length_append, List.append_assoc] at later stop
    have order : before.flatten.length ≤ (before ++ old).flatten.length := by simp
    rw [later]
    simp only [Texts.change, TextEdit.toChange, LineEdit.toEdit, LineEdit.stop, start, stop]
    rw [Nat.min_eq_left order, Nat.max_eq_right order, List.drop_left, List.flatten_append,
      List.append_assoc before.flatten, List.take_left, List.flatten_append, List.append_assoc]

end Segment

theorem eq_reverse_of_descending {edits order : List TextEdit}
    (increasing : edits.Pairwise fun a b => a.range.start < b.range.start) (perm : order.Perm edits)
    (descending : order.Pairwise fun a b => b.range.start ≤ a.range.start) :
    order = edits.reverse := by
  have apart {a b : TextEdit} (less : a.range.start < b.range.start) :
      a.range.start ≠ b.range.start := by
    intro same
    rw [Position.lt_iff, same] at less
    omega
  have unique : ∀ a ∈ edits, ∀ b ∈ edits, a.range.start = b.range.start → a = b := by
    intro a inside b
    apply List.Pairwise.forall_of_forall_of_flip
      (R := fun a b : TextEdit => a.range.start = b.range.start → a = b) (fun _ _ _ => rfl) _ _ inside
    · exact increasing.imp fun less same => absurd same (apart less)
    · exact increasing.imp fun less same => absurd same.symm (apart less)
  apply List.Perm.eq_of_pairwise _ descending _ (perm.trans edits.reverse_perm.symm)
  · intro a b inOrder inEdits below above
    exact unique a (perm.mem_iff.mp inOrder) b (List.mem_reverse.mp inEdits)
      (Position.le_antisymm above below)
  · rw [List.pairwise_reverse]
    apply increasing.imp
    intro a b less
    rw [Position.lt_iff] at less
    rw [Position.le_iff]
    omega

theorem lineEditsOf_increasing {old : Text} (fits : Addressable old.lines) (new : Text) :
    ((lineEditsOf old new).map (LineEdit.toEdit old.lines)).Pairwise
      fun a b => a.range.start < b.range.start := by
  rw [List.pairwise_map]
  apply List.Pairwise.imp_of_mem _ (lineEditsOf_apart old new)
  intro a b _ inB less
  exact lineStart_lt (Text.wellSplit_lines old) fits (Nat.lt_of_le_of_lt a.start_le_stop less)
    (Nat.le_trans b.start_le_stop (stop_le_of_mem inB))

theorem edit_descending (store : Store) (uri : Uri) {old new : Text} {edits : List TextEdit}
    (increasing : edits.Pairwise fun a b => a.range.start < b.range.start)
    (edited : editedText old edits = new) {order : List TextEdit} (perm : order.Perm edits)
    (descending : order.Pairwise fun a b => b.range.start ≤ a.range.start) :
    ∃ next, (store.put uri old).edit uri (order.map TextEdit.toChange) = .ok next ∧
      next.text? uri = some new := by
  obtain rfl := eq_reverse_of_descending increasing perm descending
  obtain ⟨next, result, texts⟩ := Store.edit_of_text?_some
    (show (store.put uri old).text? uri = some old by simp [Store.text?_put])
    (edits.reverse.map TextEdit.toChange)
  refine ⟨next, result, ?_⟩
  rw [texts, if_pos rfl, List.foldl_map, List.foldl_reverse]
  exact congrArg some edited

theorem editedText_minimal {old : Text} (fits : Addressable old.lines) (new : Text) :
    editedText old ((lineEditsOf old new).map (LineEdit.toEdit old.lines)) = new := by
  obtain ⟨spaced, oldAll, newAll⟩ := Segment.script_spec old.lines new.lines
  have edited := Segment.editedText_lineEdits spaced []
    (by simpa [oldAll] using Text.wellSplit_lines old) (by simpa [oldAll] using fits)
  simpa only [lineEditsOf, List.nil_append, List.length_nil, List.flatten_nil, oldAll, newAll,
    Text.flatten_lines] using edited

-- Whatever order a client gives edits of equal start, there is none here to choose from.
theorem edit_minimalEdits (store : Store) (uri : Uri) (old new : Text)
    (lineCount : old.lines.length < UInt32.size)
    (lastLine : ∀ line ∈ old.lines.getLast?, line.utf16Length < UInt32.size) :
    ∃ edits, minimalEdits old new = .ok edits ∧
      edits.Pairwise (fun a b => a.range.start < b.range.start) ∧
      ∀ order : List TextEdit, order.Perm edits →
        order.Pairwise (fun a b => b.range.start ≤ a.range.start) →
        ∃ next, (store.put uri old).edit uri (order.map TextEdit.toChange) = .ok next ∧
          next.text? uri = some new := by
  have fits : Addressable old.lines := ⟨lineCount, lastLine⟩
  have increasing := lineEditsOf_increasing fits new
  exact ⟨_, minimalEdits_eq fits new, increasing,
    fun order => edit_descending store uri increasing (editedText_minimal fits new)⟩

-- A line with CRLF goes and the last line, a surrogate pair without terminator, is replaced.
theorem edit_minimalEdits_unterminated :
    let old : Text := [0x61, 0x0D, 0x0A, 0x62, 0x0A, 0xF0, 0x9F, 0x98, 0x80]
    let new : Text := [0x62, 0x0A, 0x63, 0x0A]
    let edits : List TextEdit :=
      [⟨⟨⟨0, 0⟩, ⟨1, 0⟩⟩, []⟩, ⟨⟨⟨2, 0⟩, ⟨2, 2⟩⟩, [0x63, 0x0A]⟩]
    old.lines.length < UInt32.size ∧
      (∀ line ∈ old.lines.getLast?, line.utf16Length < UInt32.size) ∧
      minimalEdits old new = .ok edits ∧
      ∃ next, (Store.empty.put [0x75] old).edit [0x75] (edits.reverse.map TextEdit.toChange) =
        .ok next ∧ next.text? [0x75] = some new := by
  intro old new edits
  have lineCount : old.lines.length < UInt32.size := by decide
  have lastLine : ∀ line ∈ old.lines.getLast?, line.utf16Length < UInt32.size := by decide
  have computed : minimalEdits old new = .ok edits := by decide +kernel
  obtain ⟨result, found, -, performed⟩ :=
    edit_minimalEdits Store.empty [0x75] old new lineCount lastLine
  obtain rfl : edits = result := Except.ok.inj (computed.symm.trans found)
  exact ⟨lineCount, lastLine, computed,
    performed edits.reverse edits.reverse_perm (by decide)⟩

end LintServer
