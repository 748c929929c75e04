import LintServer.Proofs.Edit.Gap
import LintServer.Proofs.Edit.LinePosition

set_option autoImplicit false

namespace LintServer

-- Some lines of a text, from line `start` on, that others replace.
structure LineEdit where
  start : Nat
  removed : List Text
  inserted : List Text

namespace LineEdit

def stop (e : LineEdit) : Nat := e.start + e.removed.length

theorem start_le_stop (e : LineEdit) : e.start ≤ e.stop := Nat.le_add_right _ _

def edit (lines : List Text) (e : LineEdit) : Except EditError TextEdit := do
  return ⟨← lineRange lines e.start e.stop, e.inserted.flatten⟩

def toEdit (lines : List Text) (e : LineEdit) : TextEdit :=
  ⟨⟨lineStart lines e.start, lineStart lines e.stop⟩, e.inserted.flatten⟩

def Placed (lines : List Text) (e : LineEdit) : Prop :=
  linePosition lines e.start = .ok (lineStart lines e.start) ∧
    linePosition lines e.stop = .ok (lineStart lines e.stop)

theorem edit_eq_ok_iff {lines : List Text} {e : LineEdit} {t : TextEdit} :
    e.edit lines = .ok t ↔ t = e.toEdit lines ∧ e.Placed lines := by
  constructor
  · intro made
    obtain ⟨range, found, made⟩ := ok_of_bind_eq_ok made
    obtain ⟨first, start, found⟩ := ok_of_bind_eq_ok found
    obtain ⟨last, stop, found⟩ := ok_of_bind_eq_ok found
    obtain rfl := linePosition_eq_ok_lineStart start
    obtain rfl := linePosition_eq_ok_lineStart stop
    obtain rfl := Except.ok.inj found
    exact ⟨(Except.ok.inj made).symm, start, stop⟩
  · rintro ⟨rfl, start, stop⟩
    rw [edit, lineRange, start, stop]
    rfl

theorem edit_eq_error {lines : List Text} {e : LineEdit} {error : EditError}
    (failed : e.edit lines = .error error) : error = .outOfRange := by
  unfold edit at failed
  revert failed
  exact of_bind_eq_error (fun _ => lineRange_eq_error) fun _ _ => of_pure_eq_error

end LineEdit

namespace Segment

def lineEdits : Nat → List Segment → List LineEdit
  | _, [] => []
  | i, keep lines :: rest => lineEdits (i + lines.length) rest
  | i, change old new :: rest => ⟨i, old, new⟩ :: lineEdits (i + old.length) rest

theorem exists_change {segments : List Segment} {i : Nat} {e : LineEdit}
    (member : e ∈ lineEdits i segments) :
    ∃ before after, segments = before ++ change e.removed e.inserted :: after ∧
      e.start = i + (oldLines before).length := by
  induction segments generalizing i with
  | nil => simp [lineEdits] at member
  | cons s rest ih =>
    have deeper {k : Nat} (there : e ∈ lineEdits (i + k) rest) (size : s.old.length = k) :
        ∃ before after, s :: rest = before ++ change e.removed e.inserted :: after ∧
          e.start = i + (oldLines before).length := by
      obtain ⟨before, after, rfl, start⟩ := ih there
      refine ⟨s :: before, after, rfl, ?_⟩
      rw [start, oldLines_cons, List.length_append, size]
      omega
    cases s with
    | keep lines => exact deeper member rfl
    | change old new =>
      rcases List.mem_cons.mp member with rfl | later
      · exact ⟨[], rest, rfl, rfl⟩
      · exact deeper later rfl

theorem stop_le {segments : List Segment} {i : Nat} {e : LineEdit}
    (member : e ∈ lineEdits i segments) :
    i ≤ e.start ∧ e.stop ≤ i + (oldLines segments).length := by
  obtain ⟨before, after, rfl, start⟩ := exists_change member
  simp only [LineEdit.stop, oldLines_append, oldLines_cons, List.length_append, old]
  omega

-- The lines kept in between put a whole line between two edits.
theorem lineEdits_apart {segments : List Segment} (spaced : Spaced segments) (i : Nat) :
    (lineEdits i segments).Pairwise fun a b => a.stop < b.start := by
  induction spaced generalizing i with
  | nil => exact .nil
  | keep _ _ ih => exact ih _
  | @change rest old new next spaced ih =>
    refine .cons (fun e member => ?_) (ih _)
    cases spaced with
    | nil => simp [lineEdits] at member
    | change => simp [isKeep] at next
    | @keep lines rest kept =>
      have positive := List.length_pos_iff.mpr kept
      have low := (stop_le (i := i + old.length + lines.length) member).1
      simp only [LineEdit.stop]
      omega

theorem hunk_edit? (lines : List Text) (s : Segment) (i j : Nat) :
    (Hunk.mk (Hunk.tagOf s) i (i + s.old.length) j (j + s.new.length)).edit? lines s.new.flatten =
      match s with
      | keep _ => .ok none
      | change old new => some <$> LineEdit.edit lines ⟨i, old, new⟩ := by
  match s with
  | keep _ => rfl
  | change [] new =>
    simp only [LineEdit.edit, lineRange, LineEdit.stop, Hunk.edit?, Hunk.tagOf]
    cases linePosition lines i <;> rfl
  | change (line :: old) [] =>
    simp only [LineEdit.edit, LineEdit.stop, Hunk.edit?, Hunk.tagOf, Segment.old]
    cases lineRange lines i (i + (line :: old).length) <;> rfl
  | change (line :: old) (other :: new) =>
    simp only [LineEdit.edit, LineEdit.stop, Hunk.edit?, Hunk.tagOf, Segment.old]
    cases lineRange lines i (i + (line :: old).length) <;> rfl

-- The cursor stands where the new lines of the first segment start, so no check on it fails.
theorem editsFrom_eq (lines : List Text) {new : List Text} (segments : List Segment) (i : Nat) {j : Nat}
    (newRest : new.drop j = newLines segments) (cursor : j ≤ new.length) :
    editsFrom lines new j (Hunk.ofSegments i j segments) =
      (lineEdits i segments).mapM (LineEdit.edit lines) := by
  induction segments generalizing i j with
  | nil =>
    have atEnd : j = new.length := by
      have length := congrArg List.length newRest
      simp at length
      omega
    simp [Hunk.ofSegments, editsFrom, atEnd, lineEdits]
    rfl
  | cons s rest ih =>
    have length := congrArg List.length newRest
    simp only [newLines_cons, List.length_append, List.length_drop] at length
    have text : (new.drop j).take (j + s.new.length - j) = s.new := by
      rw [newRest, newLines_cons, Nat.add_sub_cancel_left, List.take_left]
    have next : j + (j + s.new.length) - j = j + s.new.length := by omega
    have later := ih (i + s.old.length) (j := j + s.new.length)
      (by rw [← List.drop_drop, newRest, newLines_cons, List.drop_left]) (by omega)
    simp only [Hunk.ofSegments, editsFrom, next, text, later, hunk_edit?, ne_eq, not_true_eq_false,
      if_false]
    cases s with
    | keep kept =>
      simp only [lineEdits, old]
      cases (lineEdits (i + kept.length) rest).mapM (LineEdit.edit lines) <;> rfl
    | change removed inserted =>
      simp only [lineEdits, old, List.mapM_cons]
      cases LineEdit.edit lines ⟨i, removed, inserted⟩ with
      | error _ => rfl
      | ok edit =>
        cases (lineEdits (i + removed.length) rest).mapM (LineEdit.edit lines) <;> rfl

end Segment

def lineEditsOf (old new : Text) : List LineEdit := Segment.lineEdits 0 (script old.lines new.lines)

theorem minimalEdits_eq_mapM (old new : Text) :
    minimalEdits old new = (lineEditsOf old new).mapM (LineEdit.edit old.lines) :=
  Segment.editsFrom_eq old.lines _ 0 (by simp [(Segment.script_spec old.lines new.lines).2.2])
    (Nat.zero_le _)

theorem minimalEdits_eq_ok_iff {old new : Text} {edits : List TextEdit} :
    minimalEdits old new = .ok edits ↔
      edits = (lineEditsOf old new).map (LineEdit.toEdit old.lines) ∧
        ∀ e ∈ lineEditsOf old new, e.Placed old.lines := by
  rw [minimalEdits_eq_mapM, mapM_eq_ok_iff fun e t made => (LineEdit.edit_eq_ok_iff.mp made).1]
  simp only [LineEdit.edit_eq_ok_iff, true_and]

-- No hunk is skipped or left over, and none has a tag that is not known.
theorem minimalEdits_eq_error {old new : Text} {e : EditError}
    (failed : minimalEdits old new = .error e) : e = .outOfRange := by
  rw [minimalEdits_eq_mapM] at failed
  exact mapM_eq_error (fun _ _ => LineEdit.edit_eq_error) failed

theorem stop_le_of_mem {old new : Text} {e : LineEdit} (member : e ∈ lineEditsOf old new) :
    e.stop ≤ old.lines.length := by
  have bound := (Segment.stop_le member).2
  rwa [(Segment.script_spec old.lines new.lines).2.1, Nat.zero_add] at bound

theorem lineEditsOf_apart (old new : Text) :
    (lineEditsOf old new).Pairwise fun a b => a.stop < b.start :=
  Segment.lineEdits_apart (Segment.script_spec old.lines new.lines).1 0

theorem minimalEdits_eq {old : Text} (fits : Addressable old.lines) (new : Text) :
    minimalEdits old new = .ok ((lineEditsOf old new).map (LineEdit.toEdit old.lines)) := by
  refine minimalEdits_eq_ok_iff.mpr ⟨rfl, fun e member => ?_⟩
  have bound := stop_le_of_mem member
  exact ⟨linePosition_eq_lineStart fits (Nat.le_trans e.start_le_stop bound),
    linePosition_eq_lineStart fits bound⟩

theorem unmatched_of_mem {old new : Text} {e : LineEdit} (member : e ∈ lineEditsOf old new) :
    Block.Unmatched (tooCommon new.lines) e.removed e.inserted ∧
      (e.removed ≠ [] ∨ e.inserted ≠ []) := by
  obtain ⟨before, after, split, -⟩ := Segment.exists_change member
  have inside : .change e.removed e.inserted ∈ script old.lines new.lines := by
    rw [split]
    simp
  exact Segment.script_unmatched inside

end LintServer
