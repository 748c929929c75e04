import LintServer.Proofs.Edit.LineEdit

set_option autoImplicit false

namespace LintServer

open Text (lf WellSplit)

namespace Segment

theorem Spaced.before_change {before after : List Segment} {old new : List Text}
    (spaced : Spaced (before ++ .change old new :: after)) :
    before = [] ∨ ∃ earlier lines, before = earlier ++ [.keep lines] ∧ lines ≠ [] := by
  induction before with
  | nil => exact .inl rfl
  | cons s before ih =>
    right
    cases spaced with
    | @keep lines _ kept spaced =>
      rcases ih spaced with rfl | ⟨earlier, last, rfl, filled⟩
      · exact ⟨[], lines, rfl, kept⟩
      · exact ⟨.keep lines :: earlier, last, rfl, filled⟩
    | change o n next spaced =>
      rcases ih spaced with rfl | ⟨earlier, last, rfl, filled⟩
      · simp [isKeep] at next
      · exact ⟨.change o n :: earlier, last, rfl, filled⟩

theorem Spaced.after_change {before after : List Segment} {old new : List Text}
    (spaced : Spaced (before ++ .change old new :: after)) :
    after.head?.all isKeep ∧ Spaced after := by
  induction before with
  | nil =>
    cases spaced with
    | change _ _ next spaced => exact ⟨next, spaced⟩
  | cons s before ih =>
    cases spaced with
    | keep _ spaced => exact ih spaced
    | change _ _ _ spaced => exact ih spaced

end Segment

-- Lines could only be inserted behind an unterminated last line if that line were kept. But then it
-- would be a line of the new text with more behind it, and these are terminated.
theorem terminated_of_insertion {old new : Text} {before : List Segment} {inserted : List Text}
    (spaced : Segment.Spaced (before ++ [.change [] inserted])) (filled : inserted ≠ [])
    (oldAll : Segment.oldLines before = old.lines)
    (newAll : Segment.newLines before ++ inserted = new.lines) :
    ∀ line ∈ old.lines, Text.Terminated line := by
  rcases spaced.before_change with rfl | ⟨earlier, kept, rfl, some⟩
  · simp [← oldAll]
  · rcases (Text.wellSplit_lines old).ending with all | ⟨first, last, split, -, -, noFeed⟩
    · exact all
    · exfalso
      have inKept : last ∈ kept := by
        have ending := congrArg List.getLast? (oldAll.trans split)
        simp only [Segment.oldLines_append, Segment.oldLines_cons, Segment.oldLines_nil, Segment.old,
          List.append_nil, List.getLast?_append, List.getLast?_singleton, Option.some_or,
          List.getLast?_eq_some_getLast some] at ending
        exact Option.some.inj ending ▸ List.getLast_mem some
      have newSplit := Text.wellSplit_lines new
      rw [← newAll] at newSplit
      obtain ⟨body, rfl, -⟩ := newSplit.terminated_of_append filled last
        (by simp [Segment.new, inKept])
      simp at noFeed

theorem lineStart_character {text : Text} {index : Nat} (inside : index ≤ text.lines.length) :
    (lineStart text.lines index).character = 0 ∨
      index = text.lines.length ∧ text.endsInLf = false := by
  rcases Nat.lt_or_eq_of_le inside with less | rfl
  · exact .inl (by rw [lineStart_of_lt less])
  · rcases (Text.wellSplit_lines text).ending with all | ⟨before, last, split, -, filled, noFeed⟩
    · exact .inl (by rw [lineStart_of_terminated all])
    · refine .inr ⟨rfl, ?_⟩
      have whole := congrArg List.flatten split
      rw [Text.flatten_lines, List.flatten_append, List.flatten_singleton] at whole
      rw [Text.endsInLf, beq_eq_false_iff_ne, whole, List.getLast?_append_of_ne_nil _ filled]
      exact fun last => noFeed (List.mem_of_getLast? last)

theorem start_character {old new : Text} {e : LineEdit} (member : e ∈ lineEditsOf old new) :
    (lineStart old.lines e.start).character = 0 := by
  obtain ⟨before, after, split, start⟩ := Segment.exists_change member
  obtain ⟨spaced, oldAll, newAll⟩ := Segment.script_spec old.lines new.lines
  have filled := (unmatched_of_mem member).2
  rw [split] at spaced oldAll newAll
  have count := congrArg List.length oldAll
  simp only [Segment.oldLines_append, Segment.oldLines_cons, Segment.old, List.length_append] at count
  by_cases inside : e.start < old.lines.length
  · rw [lineStart_of_lt inside]
  · -- Nothing of the old text is left, so the edit inserts lines at its end.
    have nothing : e.removed = [] := List.length_eq_zero_iff.mp (by omega)
    have rest : Segment.oldLines after = [] := List.length_eq_zero_iff.mp (by omega)
    obtain rfl := spaced.after_change.2.eq_nil spaced.after_change.1 rest
    rw [nothing] at spaced filled oldAll newAll
    rw [lineStart_of_terminated (terminated_of_insertion spaced (filled.resolve_left (by simp))
      (by simpa [Segment.old] using oldAll) (by simpa [Segment.new] using newAll))]

theorem toEdit_not_void {old new : Text} (fits : Addressable old.lines) {e : LineEdit}
    (member : e ∈ lineEditsOf old new) :
    ¬ (lineStart old.lines e.start = lineStart old.lines e.stop ∧ e.inserted.flatten = []) := by
  rintro ⟨same, empty⟩
  obtain ⟨before, after, split, -⟩ := Segment.exists_change member
  obtain ⟨-, -, newAll⟩ := Segment.script_spec old.lines new.lines
  rcases (unmatched_of_mem member).2 with removes | inserts
  · have less : e.start < e.stop := by
      have positive := List.length_pos_iff.mpr removes
      simp only [LineEdit.stop]
      omega
    have apart := lineStart_lt (Text.wellSplit_lines old) fits less (stop_le_of_mem member)
    rw [same, Position.lt_iff] at apart
    omega
  · obtain ⟨line, there⟩ := List.exists_mem_of_ne_nil _ inserts
    have inNew : line ∈ new.lines := by
      rw [← newAll, split]
      simp [Segment.new, there]
    exact (Text.wellSplit_lines new).ne_nil line inNew (List.flatten_eq_nil_iff.mp empty line there)

theorem disjoint_of_mem {old new : Text} {a b : LineEdit} (inA : a ∈ lineEditsOf old new)
    (inB : b ∈ lineEditsOf old new) : a = b ∨ a.stop < b.start ∨ b.stop < a.start := by
  have apart := lineEditsOf_apart old new
  exact List.Pairwise.forall_of_forall_of_flip (R := fun a b : LineEdit =>
    a = b ∨ a.stop < b.start ∨ b.stop < a.start) (fun _ _ => .inl rfl)
    (apart.imp fun less => .inr (.inl less)) (apart.imp fun less => .inr (.inr less)) inA inB

-- No edit touches the line that an edit stops at.
theorem stop_untouched {old new : Text} {a e : LineEdit} (inA : a ∈ lineEditsOf old new)
    (member : e ∈ lineEditsOf old new) : e.stop ≤ a.stop ∨ a.stop < e.start := by
  have order := a.start_le_stop
  rcases disjoint_of_mem inA member with rfl | later | earlier
  · exact .inl (Nat.le_refl _)
  · exact .inr later
  · exact .inl (by omega)

theorem offset_toEdit {old new : Text} (fits : Addressable old.lines) {e : LineEdit}
    (member : e ∈ lineEditsOf old new) :
    (Document.ofText old).offset (e.toEdit old.lines).range.start = lineOffset old e.start ∧
      (Document.ofText old).offset (e.toEdit old.lines).range.stop = lineOffset old e.stop := by
  have bound := stop_le_of_mem member
  exact ⟨offset_lineStart fits (Nat.le_trans e.start_le_stop bound), offset_lineStart fits bound⟩

theorem stop_character {old new : Text} (fits : Addressable old.lines) {e : LineEdit}
    (member : e ∈ lineEditsOf old new) :
    (lineStart old.lines e.stop).character = 0 ∨
      (Document.ofText old).offset (lineStart old.lines e.stop) = old.length ∧
        old.endsInLf = false := by
  have bound := stop_le_of_mem member
  rcases lineStart_character bound with zero | ⟨atEnd, unterminated⟩
  · exact .inl zero
  · refine .inr ⟨?_, unterminated⟩
    rw [offset_lineStart fits bound, atEnd, lineOffset_length]

theorem minimalEdits_apart (old new : Text) (lineCount : old.lines.length < UInt32.size)
    (lastLine : ∀ line ∈ old.lines.getLast?, line.utf16Length < UInt32.size) :
    let offset := (Document.ofText old).offset
    ∃ edits, minimalEdits old new = .ok edits ∧
      edits.Pairwise (fun a b => a.range.start < b.range.start ∧ a.range.stop < b.range.start ∧
        ∃ n < old.lines.length, offset a.range.stop ≤ lineOffset old n ∧
          lineOffset old (n + 1) ≤ offset b.range.start ∧
          ∀ e ∈ edits, offset e.range.stop ≤ lineOffset old n ∨
            lineOffset old (n + 1) ≤ offset e.range.start) ∧
      ∀ e ∈ edits, e.range.start ≤ e.range.stop ∧ e.range.start.character = 0 ∧
        (e.range.stop.character = 0 ∨
          offset e.range.stop = old.length ∧ old.endsInLf = false) ∧
        (∃ n ≤ old.lines.length, offset e.range.start = lineOffset old n) ∧
        (∃ n ≤ old.lines.length, offset e.range.stop = lineOffset old n) ∧
        ¬ (e.range.start = e.range.stop ∧ e.newText = []) := by
  intro offset
  have split := Text.wellSplit_lines old
  have fits : Addressable old.lines := ⟨lineCount, lastLine⟩
  refine ⟨_, minimalEdits_eq fits new, ?_, ?_⟩
  · rw [List.pairwise_map]
    apply List.Pairwise.imp_of_mem _ (lineEditsOf_apart old new)
    intro a b inA inB less
    have inside := Nat.le_trans b.start_le_stop (stop_le_of_mem inB)
    refine ⟨lineStart_lt split fits (Nat.lt_of_le_of_lt a.start_le_stop less) inside,
      lineStart_lt split fits less inside, a.stop, by omega, ?_, ?_, ?_⟩
    · exact Nat.le_of_eq (offset_toEdit fits inA).2
    · exact Nat.le_trans (lineOffset_mono old less) (Nat.le_of_eq (offset_toEdit fits inB).1.symm)
    · intro _ there
      obtain ⟨e, member, rfl⟩ := List.mem_map.mp there
      obtain ⟨start, stop⟩ := offset_toEdit fits member
      simp only [offset, start, stop]
      exact (stop_untouched inA member).imp (lineOffset_mono old) (lineOffset_mono old)
  · intro _ there
    obtain ⟨e, member, rfl⟩ := List.mem_map.mp there
    have bound := stop_le_of_mem member
    obtain ⟨start, stop⟩ := offset_toEdit fits member
    exact ⟨lineStart_mono split fits e.start_le_stop bound, start_character member,
      stop_character fits member, ⟨e.start, Nat.le_trans e.start_le_stop bound, start⟩,
      ⟨e.stop, bound, stop⟩, toEdit_not_void fits member⟩

theorem minimalEdits_apart_unterminated :
    let old : Text := "a\nb\nc"
    let new : Text := "x\na\nb\nd\n"
    let first : TextEdit := ⟨⟨⟨0, 0⟩, ⟨0, 0⟩⟩, "x\n"⟩
    let second : TextEdit := ⟨⟨⟨2, 0⟩, ⟨2, 1⟩⟩, "d\n"⟩
    let offset := (Document.ofText old).offset
    old.lines.length < UInt32.size ∧
      (∀ line ∈ old.lines.getLast?, line.utf16Length < UInt32.size) ∧
      minimalEdits old new = .ok [first, second] ∧
      first.range.stop < second.range.start ∧
      (∃ n < old.lines.length, offset first.range.stop ≤ lineOffset old n ∧
        lineOffset old (n + 1) ≤ offset second.range.start) ∧
      second.range.stop.character ≠ 0 ∧ offset second.range.stop = old.length ∧
      old.endsInLf = false ∧ ¬ (first.range.start = first.range.stop ∧ first.newText = []) := by
  intro old new first second offset
  have lineCount : old.lines.length < UInt32.size := by decide +kernel
  have lastLine : ∀ line ∈ old.lines.getLast?, line.utf16Length < UInt32.size := by decide +kernel
  obtain ⟨edits, made, apart, each⟩ := minimalEdits_apart old new lineCount lastLine
  have computed : minimalEdits old new = .ok [first, second] := by decide +kernel
  obtain rfl : [first, second] = edits := Except.ok.inj (computed.symm.trans made)
  obtain ⟨-, less, n, inside, before, after, -⟩ :=
    List.rel_of_pairwise_cons apart (List.mem_singleton_self second)
  obtain ⟨-, -, -, -, -, filled⟩ := each first (by simp)
  obtain ⟨-, -, ending, -⟩ := each second (by simp)
  have inLine : second.range.stop.character ≠ 0 := by decide
  obtain ⟨atEnd, unterminated⟩ := ending.resolve_left inLine
  exact ⟨lineCount, lastLine, computed, less, ⟨n, inside, before, after⟩, inLine, atEnd,
    unterminated, filled⟩

end LintServer
