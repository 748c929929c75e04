import LintServer.Edit.Minimal
import LintServer.Proofs.Document.Refinement
import LintServer.Proofs.Fold
import LintServer.Proofs.Position
import LintServer.Proofs.Text.Lines

set_option autoImplicit false

namespace LintServer

open Text (lf Terminated WellSplit)

structure Addressable (lines : List Text) : Prop where
  count : lines.length < UInt32.size
  last : ∀ line ∈ lines.getLast?, line.utf16Length < UInt32.size

-- The last line, where `index` is past it and it has no terminator.
def openLine? (lines : List Text) (index : Nat) : Option Text :=
  if index = lines.length then lines.getLast?.filter (!·.endsInLf) else none

def lineStart (lines : List Text) (index : Nat) : Position :=
  match openLine? lines index with
  | some line => ⟨(index - 1).toUInt32, line.utf16Length.toUInt32⟩
  | none => ⟨index.toUInt32, 0⟩

theorem mem_openLine? {lines : List Text} {index : Nat} {line : Text}
    (found : line ∈ openLine? lines index) : index = lines.length ∧ line ∈ lines.getLast? := by
  unfold openLine? at found
  split at found
  · next atEnd => exact ⟨atEnd, (Option.filter_eq_some_iff.mp found).1⟩
  · simp at found

theorem linePosition_eq (lines : List Text) (index : Nat) : linePosition lines index =
    match openLine? lines index with
    | some line => do return ⟨← toUInt32 (index - 1), ← toUInt32 line.utf16Length⟩
    | none => do return ⟨← toUInt32 index, 0⟩ := rfl

theorem linePosition_of_fits {lines : List Text} {index : Nat} (small : index < UInt32.size)
    (few : ∀ line ∈ openLine? lines index, line.utf16Length < UInt32.size) :
    linePosition lines index = .ok (lineStart lines index) := by
  have convert (n : Nat) (small : n < UInt32.size) : toUInt32 n = .ok n.toUInt32 := if_pos small
  rw [linePosition_eq, lineStart]
  cases found : openLine? lines index with
  | some line =>
    simp only [convert (index - 1) (by omega), convert _ (few line found)]
    rfl
  | none =>
    simp only [convert index small]
    rfl

theorem linePosition_eq_lineStart {lines : List Text} (fits : Addressable lines) {index : Nat}
    (inside : index ≤ lines.length) : linePosition lines index = .ok (lineStart lines index) :=
  linePosition_of_fits (Nat.lt_of_le_of_lt inside fits.count) fun line found =>
    fits.last line (mem_openLine? found).2

theorem openLine?_of_lt {lines : List Text} {index : Nat} (inside : index < lines.length) :
    openLine? lines index = none := by
  simp [openLine?, Nat.ne_of_lt inside]

theorem openLine?_of_terminated {lines : List Text} (all : ∀ line ∈ lines, Terminated line)
    (index : Nat) : openLine? lines index = none := by
  have none : lines.getLast?.filter (!·.endsInLf) = none := by
    rw [Option.filter_eq_none_iff]
    intro line last
    simp [(all line (List.mem_of_getLast? last)).endsInLf]
  simp [openLine?, none]

theorem openLine?_of_unterminated (before : List Text) {last : Text} (noFeed : lf ∉ last) :
    openLine? (before ++ [last]) (before.length + 1) = some last := by
  simp [openLine?, Option.filter, Text.endsInLf_eq_false noFeed]

theorem lineStart_of_lt {lines : List Text} {index : Nat} (inside : index < lines.length) :
    lineStart lines index = ⟨index.toUInt32, 0⟩ := by
  rw [lineStart, openLine?_of_lt inside]

theorem lineStart_of_terminated {lines : List Text} (all : ∀ line ∈ lines, Terminated line)
    (index : Nat) : lineStart lines index = ⟨index.toUInt32, 0⟩ := by
  rw [lineStart, openLine?_of_terminated all]

theorem lineStart_of_unterminated (before : List Text) {last : Text} (noFeed : lf ∉ last) :
    lineStart (before ++ [last]) (before.length + 1) =
      ⟨before.length.toUInt32, last.utf16Length.toUInt32⟩ := by
  rw [lineStart, openLine?_of_unterminated before noFeed, Nat.add_sub_cancel]

theorem linePosition_eq_ok {lines : List Text} {index : Nat} {p : Position}
    (found : linePosition lines index = .ok p) :
    match openLine? lines index with
    | some line => index - 1 < UInt32.size ∧ line.utf16Length < UInt32.size ∧
        p = ⟨(index - 1).toUInt32, line.utf16Length.toUInt32⟩
    | none => index < UInt32.size ∧ p = ⟨index.toUInt32, 0⟩ := by
  have convert {n : Nat} {m : UInt32} (ok : toUInt32 n = .ok m) :
      n < UInt32.size ∧ m = n.toUInt32 := by
    unfold toUInt32 at ok
    split at ok
    · next small => exact ⟨small, (Except.ok.inj ok).symm⟩
    · cases ok
  rw [linePosition_eq] at found
  revert found
  cases openLine? lines index with
  | some line =>
    intro found
    obtain ⟨first, start, found⟩ := ok_of_bind_eq_ok found
    obtain ⟨second, units, found⟩ := ok_of_bind_eq_ok found
    obtain ⟨small, rfl⟩ := convert start
    obtain ⟨few, rfl⟩ := convert units
    exact ⟨small, few, (Except.ok.inj found).symm⟩
  | none =>
    intro found
    obtain ⟨first, start, found⟩ := ok_of_bind_eq_ok found
    obtain ⟨small, rfl⟩ := convert start
    exact ⟨small, (Except.ok.inj found).symm⟩

theorem linePosition_eq_ok_lineStart {lines : List Text} {index : Nat} {p : Position}
    (found : linePosition lines index = .ok p) :
    p = lineStart lines index := by
  have position := linePosition_eq_ok found
  rw [lineStart]
  cases line : openLine? lines index with
  | some line =>
    simp only [line] at position
    exact position.2.2
  | none =>
    simp only [line] at position
    exact position.2

theorem linePosition_eq_error {lines : List Text} {index : Nat} {e : EditError}
    (failed : linePosition lines index = .error e) : e = .outOfRange := by
  have convert (n : Nat) (e : EditError) (failed : toUInt32 n = .error e) : e = .outOfRange := by
    unfold toUInt32 at failed
    split at failed
    · cases failed
    · exact (Except.error.inj failed).symm
  rw [linePosition_eq] at failed
  revert failed
  cases openLine? lines index with
  | some line =>
    exact of_bind_eq_error (convert _) fun _ e =>
      of_bind_eq_error (convert _) fun _ _ => of_pure_eq_error
  | none => exact of_bind_eq_error (convert _) fun _ _ => of_pure_eq_error

theorem lineRange_eq_error {lines : List Text} {start stop : Nat} {e : EditError}
    (failed : lineRange lines start stop = .error e) : e = .outOfRange := by
  unfold lineRange at failed
  revert failed
  exact of_bind_eq_error (fun _ => linePosition_eq_error) fun _ _ =>
    of_bind_eq_error (fun _ => linePosition_eq_error) fun _ _ => of_pure_eq_error

namespace Walk

theorem skip_flatten {before : List Text} (all : ∀ line ∈ before, Terminated line) (tail : Text) :
    skip before.length (before.flatten ++ tail) = before.flatten.length := by
  induction before with
  | nil => simp
  | cons line before ih =>
    obtain ⟨body, rfl, noFeed⟩ := all line (by simp)
    rw [List.length_cons, List.flatten_cons, List.append_assoc, List.append_assoc,
      List.singleton_append, skip_line _ _ _ noFeed, ih fun line member => all line (by simp [member])]
    simp
    omega

theorem point_line_start {before : List Text} (all : ∀ line ∈ before, Terminated line)
    (small : before.length < UInt32.size) (tail : Text) :
    point (before.flatten ++ tail) ⟨before.length.toUInt32, 0⟩ = before.flatten.length := by
  have line : before.length.toUInt32.toNat = before.length := UInt32.toNat_ofNat_of_lt' small
  simp [point, line, skip_flatten all]

theorem point_text_end {before : List Text} {last : Text} (all : ∀ line ∈ before, Terminated line)
    (noFeed : lf ∉ last) (small : before.length < UInt32.size)
    (units : last.utf16Length < UInt32.size) :
    point (before.flatten ++ last) ⟨before.length.toUInt32, last.utf16Length.toUInt32⟩ =
      (before ++ [last]).flatten.length := by
  have line : before.length.toUInt32.toNat = before.length := UInt32.toNat_ofNat_of_lt' small
  have character : last.utf16Length.toUInt32.toNat = last.utf16Length :=
    UInt32.toNat_ofNat_of_lt' units
  have firstLine : FirstLine last last [] := ⟨by simp, noFeed, .inl rfl⟩
  simp only [point, line, character, skip_flatten all, List.drop_left]
  rw [← firstLine.byteOffset_body, Text.byteOffset_utf16Length]
  simp

-- The start of a line is found in every text that begins with the lines before it; the end of the
-- text is found in the text itself.
theorem point_linePosition {before after : List Text} (split : WellSplit (before ++ after))
    {p : Position} (found : linePosition (before ++ after) before.length = .ok p) {tail : Text}
    (atEnd : after = [] → tail = []) :
    point (before.flatten ++ tail) p = before.flatten.length := by
  have position := linePosition_eq_ok found
  by_cases more : after = []
  · obtain rfl := more
    obtain rfl := atEnd rfl
    simp only [List.append_nil] at split position ⊢
    rcases split.ending with all | ⟨before, last, rfl, all, -, noFeed⟩
    · rw [openLine?_of_terminated all] at position
      obtain ⟨small, rfl⟩ := position
      simpa using point_line_start all small []
    · rw [List.length_append, List.length_singleton, openLine?_of_unterminated before noFeed,
        Nat.add_sub_cancel] at position
      obtain ⟨small, units, rfl⟩ := position
      simpa using point_text_end all noFeed small units
  · have all := split.terminated_of_append more
    have inside : before.length < (before ++ after).length := by
      simp [List.length_pos_iff.mpr more]
    rw [openLine?_of_lt inside] at position
    obtain ⟨small, rfl⟩ := position
    exact point_line_start all small tail

theorem point_lineStart {before after : List Text} (split : WellSplit (before ++ after))
    (fits : Addressable (before ++ after)) {tail : Text} (atEnd : after = [] → tail = []) :
    point (before.flatten ++ tail) (lineStart (before ++ after) before.length) =
      before.flatten.length :=
  point_linePosition split (linePosition_eq_lineStart fits (by simp)) atEnd

end Walk

theorem lineStart_lt {lines : List Text} (split : WellSplit lines) (fits : Addressable lines)
    {i j : Nat} (less : i < j) (inside : j ≤ lines.length) : lineStart lines i < lineStart lines j := by
  have count := fits.count
  have small (n : Nat) (bound : n ≤ lines.length) : n.toUInt32.toNat = n :=
    UInt32.toNat_ofNat_of_lt' (by omega)
  rw [lineStart_of_lt (by omega), Position.lt_iff]
  have start := small i (by omega)
  by_cases atEnd : j < lines.length
  · simp only [lineStart_of_lt atEnd, start, small j inside]
    omega
  · rcases split.ending with all | ⟨before, last, rfl, -, filled, noFeed⟩
    · simp only [lineStart_of_terminated all, start, small j inside]
      omega
    · -- The end of the last line comes after its start, for it is not empty.
      rw [List.length_append, List.length_singleton] at inside atEnd
      obtain rfl : j = before.length + 1 := by omega
      have units := Text.utf16Length_pos filled
      have character : (Text.utf16Length last).toUInt32.toNat = Text.utf16Length last :=
        UInt32.toNat_ofNat_of_lt' (fits.last last (by simp))
      simp only [lineStart_of_unterminated before noFeed, start, small before.length (by simp),
        character, UInt32.toNat_zero]
      omega

theorem lineStart_mono {lines : List Text} (split : WellSplit lines) (fits : Addressable lines)
    {i j : Nat} (less : i ≤ j) (inside : j ≤ lines.length) : lineStart lines i ≤ lineStart lines j := by
  rw [Position.le_iff]
  rcases Nat.eq_or_lt_of_le less with rfl | less
  · omega
  · have apart := lineStart_lt split fits less inside
    rw [Position.lt_iff] at apart
    omega

def lineOffset (text : Text) (index : Nat) : Nat := (text.lines.take index).flatten.length

theorem lineOffset_mono (text : Text) {i j : Nat} (less : i ≤ j) :
    lineOffset text i ≤ lineOffset text j := by
  obtain ⟨k, rfl⟩ := Nat.exists_eq_add_of_le less
  simp [lineOffset, List.take_add]

theorem lineOffset_length (text : Text) : lineOffset text text.lines.length = text.length := by
  simp [lineOffset]

theorem offset_linePosition {text : Text} {index : Nat} (inside : index ≤ text.lines.length)
    {p : Position} (found : linePosition text.lines index = .ok p) :
    (Document.ofText text).offset p = lineOffset text index := by
  have cut := List.take_append_drop index text.lines
  have count : (text.lines.take index).length = index := by simp [inside]
  have split : WellSplit (text.lines.take index ++ text.lines.drop index) := by
    rw [cut]
    exact Text.wellSplit_lines text
  have there : linePosition (text.lines.take index ++ text.lines.drop index)
      (text.lines.take index).length = .ok p := by
    rw [cut, count]
    exact found
  have point := Walk.point_linePosition split there (congrArg List.flatten)
  rw [← List.flatten_append, cut, Text.flatten_lines] at point
  rw [Walk.offset_eq_point, Document.ofText_text, point, lineOffset]

theorem offset_lineStart {text : Text} (fits : Addressable text.lines) {index : Nat}
    (inside : index ≤ text.lines.length) :
    (Document.ofText text).offset (lineStart text.lines index) = lineOffset text index :=
  offset_linePosition inside (linePosition_eq_lineStart fits inside)

theorem linePosition_denotes_start (text : Text) :
    text.lines.flatten = text ∧
    (∀ line ∈ text.lines.dropLast, Terminated line) ∧
    (∀ line ∈ text.lines.getLast?, Terminated line ∨ line ≠ [] ∧ lf ∉ line) ∧
    ∀ index ≤ text.lines.length, index < UInt32.size →
      (index = text.lines.length →
        ∀ line ∈ text.lines.getLast?, line.utf16Length < UInt32.size) →
      ∃ p, linePosition text.lines index = .ok p ∧
        (Document.ofText text).offset p = (text.lines.take index).flatten.length := by
  obtain ⟨early, late⟩ := (Text.wellSplit_lines text).dropLast_getLast?
  refine ⟨Text.flatten_lines text, early, late, ?_⟩
  intro index inside small few
  have found : linePosition text.lines index = .ok (lineStart text.lines index) := by
    apply linePosition_of_fits small
    intro line unterminated
    obtain ⟨atEnd, last⟩ := mem_openLine? unterminated
    exact few atEnd line last
  exact ⟨_, found, offset_linePosition inside found⟩

-- The end of a last line without a terminator, behind a stray byte, a surrogate pair and a CR.
theorem linePosition_denotes_start_unterminated :
    let text : Text := [0x78, 0x0D, 0x0A, 0xFF, 0xF0, 0x9F, 0x98, 0x80, 0x0D]
    text.lines = [[0x78, 0x0D, 0x0A], [0xFF, 0xF0, 0x9F, 0x98, 0x80, 0x0D]] ∧
      (∀ line ∈ text.lines.getLast?, line.utf16Length < UInt32.size) ∧
      linePosition text.lines 2 = .ok ⟨1, 4⟩ ∧ (Document.ofText text).offset ⟨1, 4⟩ = 9 := by
  intro text
  have few : ∀ line ∈ text.lines.getLast?, line.utf16Length < UInt32.size := by decide
  obtain ⟨-, -, -, denotes⟩ := linePosition_denotes_start text
  obtain ⟨p, found, offset⟩ := denotes 2 (by decide) (by decide) fun _ => few
  have computed : linePosition text.lines 2 = .ok ⟨1, 4⟩ := by decide
  obtain rfl := Except.ok.inj (computed.symm.trans found)
  exact ⟨by decide, few, computed, offset⟩

end LintServer
