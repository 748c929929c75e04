import LintServer.Proofs.Edit.Apart

set_option autoImplicit false

namespace LintServer

def TextEdit.removed (text : Text) (e : TextEdit) : Text :=
  let offset := (Document.ofText text).offset
  (text.take (offset e.range.stop)).drop (offset e.range.start)

theorem lines_split {old new : Text} {e : LineEdit} (member : e ∈ lineEditsOf old new) :
    (∃ before after, old.lines = before ++ e.removed ++ after ∧ e.start = before.length) ∧
      ∃ before after, new.lines = before ++ e.inserted ++ after := by
  obtain ⟨before, after, split, start⟩ := Segment.exists_change member
  obtain ⟨-, oldAll, newAll⟩ := Segment.script_spec old.lines new.lines
  rw [split] at oldAll newAll
  refine ⟨⟨Segment.oldLines before, Segment.oldLines after, ?_, by omega⟩,
    ⟨Segment.newLines before, Segment.newLines after, ?_⟩⟩
  · simpa [Segment.old] using oldAll.symm
  · simpa [Segment.new] using newAll.symm

theorem removed_toEdit {old new : Text} {e : LineEdit} (member : e ∈ lineEditsOf old new)
    (placed : e.Placed old.lines) : (e.toEdit old.lines).removed old = e.removed.flatten := by
  obtain ⟨⟨before, after, split, start⟩, -⟩ := lines_split member
  have bound := stop_le_of_mem member
  have first : lineOffset old e.start = before.flatten.length := by
    rw [lineOffset, split, start, List.append_assoc, List.take_left]
  have last : lineOffset old e.stop = (before ++ e.removed).flatten.length := by
    rw [lineOffset, split, LineEdit.stop, start, ← List.length_append, List.take_left]
  have whole := congrArg List.flatten split
  rw [Text.flatten_lines, List.flatten_append] at whole
  simp only [TextEdit.removed, LineEdit.toEdit]
  rw [offset_linePosition bound placed.2,
    offset_linePosition (Nat.le_trans e.start_le_stop bound) placed.1, first, last, whole,
    List.take_left, List.flatten_append, List.drop_left]

-- Lines that are too common in a longer text start no block, so one may be removed and inserted
-- again farther inside an edit; but common or not, the first lines of an edit differ.
theorem minimalEdits_rewrite_unmatched (old new : Text) :
    (old.lines.length < UInt32.size →
      (∀ line ∈ old.lines.getLast?, line.utf16Length < UInt32.size) →
      ∃ edits, minimalEdits old new = .ok edits) ∧
    ∀ edits, minimalEdits old new = .ok edits → ∀ e ∈ edits,
      let removed := (e.removed old).lines
      let inserted := e.newText.lines
      removed <:+: old.lines ∧ inserted <:+: new.lines ∧
        (∀ a ∈ removed.head?, ∀ b ∈ inserted.head?, a ≠ b) ∧
        (new.lines.length < 200 → ∀ line ∈ removed, line ∉ inserted) := by
  refine ⟨fun lineCount lastLine => ⟨_, minimalEdits_eq ⟨lineCount, lastLine⟩ new⟩, ?_⟩
  intro edits made _ there
  obtain ⟨rfl, placed⟩ := minimalEdits_eq_ok_iff.mp made
  obtain ⟨e, member, rfl⟩ := List.mem_map.mp there
  obtain ⟨⟨before, after, oldSplit, -⟩, newBefore, newAfter, newSplit⟩ := lines_split member
  obtain ⟨unmatched, -⟩ := unmatched_of_mem member
  have oldLines := Text.wellSplit_lines old
  have newLines := Text.wellSplit_lines new
  rw [oldSplit] at oldLines
  rw [newSplit] at newLines
  have removed : ((e.toEdit old.lines).removed old).lines = e.removed := by
    rw [removed_toEdit member (placed e member)]
    exact oldLines.of_append.1.of_append.2.lines_flatten
  have inserted : (e.toEdit old.lines).newText.lines = e.inserted :=
    newLines.of_append.1.of_append.2.lines_flatten
  dsimp only
  rw [removed, inserted]
  refine ⟨⟨before, after, oldSplit.symm⟩, ⟨newBefore, newAfter, newSplit.symm⟩, unmatched.first, ?_⟩
  intro short line member
  exact unmatched.rest line member (tooCommon_of_short short line)

theorem minimalEdits_rewrite_unmatched_inside :
    let old : Text := "k\na\nb\na\nk\n"
    let new : Text := "k\nx\ny\na\nk\n"
    let e : TextEdit := ⟨⟨⟨1, 0⟩, ⟨3, 0⟩⟩, "x\ny\n"⟩
    old.lines.length < UInt32.size ∧
      (∀ line ∈ old.lines.getLast?, line.utf16Length < UInt32.size) ∧
      minimalEdits old new = .ok [e] ∧ (e.removed old).lines = (["a\n", "b\n"] : List Text) ∧
      new.lines.length < 200 ∧ ∀ line ∈ (e.removed old).lines, line ∉ e.newText.lines := by
  intro old new e
  have lineCount : old.lines.length < UInt32.size := by decide +kernel
  have lastLine : ∀ line ∈ old.lines.getLast?, line.utf16Length < UInt32.size := by decide +kernel
  obtain ⟨total, exact⟩ := minimalEdits_rewrite_unmatched old new
  obtain ⟨edits, made⟩ := total lineCount lastLine
  have computed : minimalEdits old new = .ok [e] := by decide +kernel
  obtain rfl : [e] = edits := Except.ok.inj (computed.symm.trans made)
  obtain ⟨-, -, -, kept⟩ := exact _ made e (by simp)
  exact ⟨lineCount, lastLine, computed, by decide +kernel, by decide +kernel, kept (by decide +kernel)⟩

end LintServer
