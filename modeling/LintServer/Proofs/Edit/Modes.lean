import LintServer.Proofs.Edit.RoundTrip
import LintServer.Proofs.Edit.Unchanged

set_option autoImplicit false

namespace LintServer

theorem minimalEdits_eq_nil_iff {old : Text} (fits : Addressable old.lines) (new : Text) :
    minimalEdits old new = .ok [] ↔ old = new := by
  rw [minimalEdits_eq fits, Except.ok.injEq]
  constructor
  · intro none
    have edited := editedText_minimal fits new
    rwa [none] at edited
  · rintro rfl
    rw [lineEditsOf, Segment.script_self]
    split <;> rfl

theorem wholeEdit_eq {old new : Text} (fits : Addressable old.lines) (differ : old ≠ new) :
    wholeEdit old new = .ok [⟨⟨⟨0, 0⟩, lineStart old.lines old.lines.length⟩, new⟩] := by
  rw [wholeEdit, if_neg differ, linePosition_eq_lineStart fits (Nat.le_refl _)]
  rfl

theorem wholeEdit_eq_nil_iff {old : Text} (fits : Addressable old.lines) (new : Text) :
    wholeEdit old new = .ok [] ↔ old = new := by
  by_cases same : old = new
  · simp [wholeEdit, same]
  · simp [wholeEdit_eq fits same, same]

theorem point_lineStart_length {text : Text} (fits : Addressable text.lines) :
    Walk.point text (lineStart text.lines text.lines.length) = text.length := by
  have split : Text.WellSplit (text.lines ++ []) := by simpa using Text.wellSplit_lines text
  have ending := Walk.point_lineStart split (by simpa using fits) (fun _ => rfl)
  simpa using ending

theorem editedText_whole {old : Text} (fits : Addressable old.lines) (new : Text) :
    editedText old [⟨⟨⟨0, 0⟩, lineStart old.lines old.lines.length⟩, new⟩] = new := by
  have start : Walk.point old ⟨0, 0⟩ = 0 := by simp [Walk.point]
  simp [editedText, Texts.change, TextEdit.toChange, start, point_lineStart_length fits]

theorem minimalEdits_agree_wholeEdit (store : Store) (uri : Uri) (old new : Text)
    (lineCount : old.lines.length < UInt32.size)
    (lastLine : ∀ line ∈ old.lines.getLast?, line.utf16Length < UInt32.size) :
    (minimalEdits old new = .ok [] ↔ old = new) ∧ (wholeEdit old new = .ok [] ↔ old = new) ∧
      (old ≠ new → ∃ stop, wholeEdit old new = .ok [⟨⟨⟨0, 0⟩, stop⟩, new⟩] ∧
        (Document.ofText old).offset stop = old.length) ∧
      ∀ edits, edits = minimalEdits old new ∨ edits = wholeEdit old new →
        ∃ list, edits = .ok list ∧ ∀ order : List TextEdit, order.Perm list →
          order.Pairwise (fun a b => b.range.start ≤ a.range.start) →
          ∃ next, (store.put uri old).edit uri (order.map TextEdit.toChange) = .ok next ∧
            next.text? uri = some new := by
  have fits : Addressable old.lines := ⟨lineCount, lastLine⟩
  refine ⟨minimalEdits_eq_nil_iff fits new, wholeEdit_eq_nil_iff fits new, ?_, ?_⟩
  · intro differ
    refine ⟨_, wholeEdit_eq fits differ, ?_⟩
    rw [Walk.offset_eq_point, Document.ofText_text, point_lineStart_length fits]
  · rintro edits (rfl | rfl)
    · exact ⟨_, minimalEdits_eq fits new, fun order =>
        edit_descending store uri (lineEditsOf_increasing fits new) (editedText_minimal fits new)⟩
    · by_cases same : old = new
      · exact ⟨[], (wholeEdit_eq_nil_iff fits new).mpr same,
          fun order => edit_descending store uri .nil same⟩
      · exact ⟨_, wholeEdit_eq fits same,
          fun order => edit_descending store uri (List.pairwise_singleton ..)
            (editedText_whole fits new)⟩

theorem minimalEdits_agree_wholeEdit_unterminated :
    let old : Text := [0x61, 0x0D, 0x0A, 0x62, 0x0A, 0xF0, 0x9F, 0x98, 0x80]
    let new : Text := [0x61, 0x0D, 0x0A, 0x63]
    old.lines.length < UInt32.size ∧
      (∀ line ∈ old.lines.getLast?, line.utf16Length < UInt32.size) ∧
      minimalEdits old new = .ok [⟨⟨⟨1, 0⟩, ⟨2, 2⟩⟩, [0x63]⟩] ∧
      wholeEdit old new = .ok [⟨⟨⟨0, 0⟩, ⟨2, 2⟩⟩, new⟩] ∧
      ¬ minimalEdits old new = .ok [] ∧ minimalEdits old old = .ok [] ∧
      ∃ next, (Store.empty.put [0x75] old).edit [0x75] [⟨some ⟨⟨0, 0⟩, ⟨2, 2⟩⟩, new⟩] = .ok next ∧
        next.text? [0x75] = some new := by
  intro old new
  have lineCount : old.lines.length < UInt32.size := by decide
  have lastLine : ∀ line ∈ old.lines.getLast?, line.utf16Length < UInt32.size := by decide
  have whole : wholeEdit old new = .ok [⟨⟨⟨0, 0⟩, ⟨2, 2⟩⟩, new⟩] := by decide +kernel
  obtain ⟨changed, -, -, performed⟩ :=
    minimalEdits_agree_wholeEdit Store.empty [0x75] old new lineCount lastLine
  obtain ⟨unchanged, -⟩ := minimalEdits_agree_wholeEdit Store.empty [0x75] old old lineCount lastLine
  obtain ⟨list, result, order⟩ := performed _ (.inr rfl)
  obtain rfl := Except.ok.inj (whole.symm.trans result)
  have minimal : minimalEdits old new = .ok [⟨⟨⟨1, 0⟩, ⟨2, 2⟩⟩, [0x63]⟩] := by decide +kernel
  have differ : ¬ minimalEdits old new = .ok [] := fun none => absurd (changed.mp none) (by decide)
  have edited := order [⟨⟨⟨0, 0⟩, ⟨2, 2⟩⟩, new⟩] (.refl _) (List.pairwise_singleton ..)
  exact ⟨lineCount, lastLine, minimal, whole, differ, unchanged.mpr rfl, edited⟩

end LintServer
