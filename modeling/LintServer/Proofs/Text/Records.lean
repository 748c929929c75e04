import LintServer.Proofs.Text.CodePoint
import LintServer.Text.Records

set_option autoImplicit false

namespace LintServer

namespace Text

theorem splitAt_cons (separator b : UInt8) (text : Text) :
    splitAt separator (b :: text) = if b = separator then [] :: splitAt separator text
      else match splitAt separator text with
        | [] => [[b]]
        | piece :: rest => (b :: piece) :: rest := rfl

theorem splitAt_ne_nil (separator : UInt8) (text : Text) : splitAt separator text ≠ [] := by
  cases text with
  | nil => simp [splitAt]
  | cons b text =>
    rw [splitAt_cons]
    split
    · simp
    · split <;> simp

theorem splitAt_append (separator : UInt8) (x y : Text) :
    splitAt separator (x ++ separator :: y) = splitAt separator x ++ splitAt separator y := by
  induction x with
  | nil => simp [splitAt]
  | cons b x ih =>
    rw [List.cons_append, splitAt_cons, splitAt_cons, ih]
    obtain ⟨piece, rest, pieces⟩ := List.exists_cons_of_ne_nil (splitAt_ne_nil separator x)
    split <;> simp [pieces]

theorem splitAt_of_not_mem {separator : UInt8} {text : Text} (missing : separator ∉ text) :
    splitAt separator text = [text] := by
  induction text with
  | nil => rfl
  | cons b text ih =>
    rw [List.mem_cons, not_or] at missing
    rw [splitAt_cons, if_neg (Ne.symm missing.1), ih missing.2]

theorem length_splitAt (separator : UInt8) (text : Text) :
    (splitAt separator text).length = text.count separator + 1 := by
  induction text with
  | nil => rfl
  | cons b text ih =>
    rw [splitAt_cons, List.count_cons]
    obtain ⟨piece, rest, pieces⟩ := List.exists_cons_of_ne_nil (splitAt_ne_nil separator text)
    by_cases feed : b = separator
    · simp [feed, ih]
    · simpa [feed, pieces] using ih

theorem dropLf_cons {b : UInt8} (other : b ≠ lf) (line : Text) :
    dropLf (b :: line) = b :: dropLf line := by
  cases line with
  | nil => simp [dropLf, endsInLf, other]
  | cons c line =>
    simp only [dropLf, endsInLf, List.getLast?_cons_cons, List.dropLast_cons_cons]
    exact (apply_ite (b :: ·) ..).symm

theorem splitAt_lf (text : Text) :
    ∃ rest, (rest = [] ∨ rest = [[]]) ∧ splitAt lf text = text.lines.map dropLf ++ rest := by
  induction text with
  | nil => exact ⟨[[]], .inr rfl, rfl⟩
  | cons b text ih =>
    obtain ⟨rest, ending, pieces⟩ := ih
    rw [splitAt_cons, lines_cons]
    unfold consLine
    split
    · next feed => exact ⟨rest, ending, by simp [pieces, feed, dropLf, endsInLf]⟩
    · next other =>
      cases found : lines text with
      | nil =>
        obtain rfl : text = [] := by rw [← flatten_lines text, found, List.flatten_nil]
        exact ⟨[], .inl rfl, by simp [splitAt, dropLf, endsInLf, other]⟩
      | cons line more => exact ⟨rest, ending, by simp [pieces, found, dropLf_cons other]⟩

theorem trim_append_lf (line : Text) : trim (line ++ [lf]) = trim line := by
  have points : (line ++ [lf]).codePoints = line.codePoints ++ [⟨[lf], 10⟩] := by
    rw [codePoints_append line [lf] rfl, codePoints_ascii_cons (by decide)]
    rfl
  have blank : CodePoint.isBlank ⟨[lf], 10⟩ = true := rfl
  rw [trim, trim, points, List.dropWhile_append]
  split
  · next empty => simp [blank, List.isEmpty_iff.mp empty]
  · simp [blank]

theorem trim_dropLf (line : Text) : trim (dropLf line) = trim line := by
  unfold dropLf
  split
  · next ended =>
    obtain ⟨body, rfl⟩ := List.getLast?_eq_some_iff.mp (beq_iff_eq.mp ended)
    rw [List.dropLast_concat, trim_append_lf]
  · rfl

theorem trim_braces (body : Text) : trim (0x7B :: body ++ [0x7D]) = 0x7B :: body ++ [0x7D] := by
  have points : codePoints (0x7B :: body ++ [0x7D]) =
      ⟨[0x7B], 0x7B⟩ :: (body.codePoints ++ [⟨[0x7D], 0x7D⟩]) := by
    rw [List.cons_append, codePoints_ascii_cons (by decide), codePoints_append body [0x7D] rfl,
      codePoints_ascii_cons (by decide)]
    rfl
  have opens : CodePoint.isBlank ⟨[0x7B], 0x7B⟩ = false := rfl
  have closes : CodePoint.isBlank ⟨[0x7D], 0x7D⟩ = false := rfl
  have whole := ofCodePoints_codePoints (0x7B :: body ++ [0x7D])
  rw [points] at whole
  rw [trim, points]
  simpa [opens, closes] using whole

end Text

open Text (lf)

def Short (limit : Nat) (output : Text) : Prop := ∀ line ∈ output.lines, line.dropLf.length < limit

theorem short_iff {limit : Nat} (positive : 0 < limit) {output : Text} :
    Short limit output ↔ ∀ piece ∈ Text.splitAt lf output, piece.length < limit := by
  obtain ⟨rest, ending, pieces⟩ := Text.splitAt_lf output
  have small : ∀ piece ∈ rest, piece.length < limit := by
    rcases ending with rfl | rfl <;> simp [positive]
  rw [pieces, List.forall_mem_append, List.forall_mem_map]
  exact (and_iff_left small).symm

theorem short_append_iff {limit : Nat} (positive : 0 < limit) {x y : Text} :
    Short limit (x ++ lf :: y) ↔ Short limit x ∧ Short limit y := by
  rw [short_iff positive, short_iff positive, short_iff positive, Text.splitAt_append,
    List.forall_mem_append]

theorem Short.of_append {limit : Nat} {x y : Text} (short : Short limit (x ++ lf :: y)) :
    Short limit x ∧ Short limit y := by
  obtain ⟨line, member⟩ := List.exists_mem_of_ne_nil (x ++ lf :: y).lines fun none => by
    simpa [none] using Text.flatten_lines (x ++ lf :: y)
  exact (short_append_iff (Nat.zero_lt_of_lt (short line member))).mp short

theorem short_of_not_mem {limit : Nat} {line : Text} (missing : lf ∉ line)
    (small : line.length < limit) : Short limit line := by
  rw [short_iff (by omega), Text.splitAt_of_not_mem missing]
  simpa using small

theorem Short.hasLongLine {limit : Nat} {output : Text} (short : Short limit output) :
    hasLongLine limit output = false := by
  rw [LintServer.hasLongLine, List.any_eq_false]
  intro line member
  simpa using short line member

theorem Short.shortLines {limit : Nat} {lines : List Text} (number : Nat)
    (short : ∀ line ∈ lines, line.dropLf.length < limit) :
    shortLines limit number lines = (lines.zipIdx number).map Prod.swap := by
  induction lines generalizing number with
  | nil => rfl
  | cons line lines ih =>
    rw [LintServer.shortLines, if_pos (short line (by simp)),
      ih (number + 1) fun line member => short line (by simp [member])]
    rfl

namespace RecordLine

def ofPiece? (piece : Text × Nat) : Option RecordLine := ofLine? (piece.2, piece.1)

def shift (count : Nat) (line : RecordLine) : RecordLine := { line with number := line.number + count }

theorem ofPiece?_nil (number : Nat) : ofPiece? ([], number) = none := rfl

theorem ofPiece?_dropLf (line : Text) (number : Nat) :
    ofPiece? (line.dropLf, number) = ofPiece? (line, number) := by
  simp only [ofPiece?, ofLine?, Text.trim_dropLf]

theorem ofPiece?_add (piece : Text) (number count : Nat) :
    ofPiece? (piece, number + count) = (ofPiece? (piece, number)).map (shift count) := by
  simp only [ofPiece?, ofLine?]
  split <;> rfl

theorem filterMap_ofPiece?_add (pieces : List Text) (number count : Nat) :
    (pieces.zipIdx (number + count)).filterMap ofPiece? =
      ((pieces.zipIdx number).filterMap ofPiece?).map (shift count) := by
  induction pieces generalizing number with
  | nil => rfl
  | cons piece pieces ih =>
    have later := ih (number + 1)
    rw [Nat.add_right_comm] at later
    rw [List.zipIdx_cons, List.zipIdx_cons, List.filterMap_cons, List.filterMap_cons, later,
      ofPiece?_add]
    cases ofPiece? (piece, number) <;> rfl

end RecordLine

open RecordLine

theorem Short.recordLines {limit : Nat} {output : Text} (short : Short limit output) :
    recordLines limit output = ((Text.splitAt lf output).zipIdx 1).filterMap ofPiece? := by
  obtain ⟨rest, ending, pieces⟩ := Text.splitAt_lf output
  have none : (rest.zipIdx (1 + output.lines.length)).filterMap ofPiece? = [] := by
    rcases ending with rfl | rfl <;> simp [ofPiece?_nil]
  rw [LintServer.recordLines, Short.shortLines 1 short, pieces, List.zipIdx_append,
    List.filterMap_append, List.length_map, none, List.append_nil, List.zipIdx_map,
    List.filterMap_map, List.filterMap_map]
  congr 1
  funext ⟨line, number⟩
  exact (ofPiece?_dropLf line number).symm

theorem recordLines_append {limit : Nat} {x y : Text} (short : Short limit (x ++ lf :: y)) :
    recordLines limit (x ++ lf :: y) =
      recordLines limit x ++ (recordLines limit y).map (shift (x.count lf + 1)) := by
  obtain ⟨first, second⟩ := short.of_append
  rw [short.recordLines, first.recordLines, second.recordLines, Text.splitAt_append,
    List.zipIdx_append, List.filterMap_append, Text.length_splitAt, filterMap_ofPiece?_add]

theorem recordLines_of_short {limit : Nat} {output : Text} (short : Short limit output) :
    recordLines limit output = ((output.lines.zipIdx 1).filter (·.1.trim ≠ [])).map fun line =>
      ⟨line.2, line.1.trim⟩ := by
  rw [recordLines, Short.shortLines 1 short, List.filterMap_map, ← List.filterMap_eq_map,
    List.filterMap_filter]
  congr 1
  funext ⟨line, number⟩
  by_cases blank : line.trim = [] <;> simp [ofLine?, blank]

section Outcomes

variable {ε α : Type} (outcomes : List (Except ε α))

theorem filterMap_toOption_mapError (f : ε → ε) :
    (outcomes.map (Except.mapError f)).filterMap Except.toOption =
      outcomes.filterMap Except.toOption := by
  rw [List.filterMap_map]
  congr 1
  funext outcome
  cases outcome <;> rfl

theorem failures_append (more : List (Except ε α)) :
    failures (outcomes ++ more) = failures outcomes ++ failures more :=
  List.filterMap_append

theorem failures_mapError (f : ε → ε) :
    failures (outcomes.map (Except.mapError f)) = (failures outcomes).map f := by
  rw [failures, List.filterMap_map, failures, List.map_filterMap]
  congr 1
  funext outcome
  cases outcome <;> rfl

theorem length_eq_add_failures :
    outcomes.length = (outcomes.filterMap Except.toOption).length + (failures outcomes).length := by
  induction outcomes with
  | nil => rfl
  | cons outcome outcomes ih =>
    cases outcome with
    | error e =>
      change outcomes.length + 1 =
        (outcomes.filterMap Except.toOption).length + ((failures outcomes).length + 1)
      omega
    | ok a =>
      change outcomes.length + 1 =
        (outcomes.filterMap Except.toOption).length + 1 + (failures outcomes).length
      omega

end Outcomes

section Read

variable {ε ρ α β : Type}

-- Numbers are all that a line of a later part differs by.
theorem RecordLine.read_shift {ofJson : Json → Except ε ρ} {malformed : Nat → β}
    {report : Nat → ρ → β} {count : Nat} {move : β → β}
    (unread : ∀ number, malformed (number + count) = move (malformed number))
    (reported : ∀ number record, report (number + count) record = move (report number record))
    (line : RecordLine) :
    read ofJson malformed report (line.shift count) = move (read ofJson malformed report line) := by
  simp only [read, RecordLine.shift]
  cases Json.read? ofJson line.text with
  | none => exact unread line.number
  | some record => exact reported line.number record

variable {limit : Nat} {tooLong : ε} {read : RecordLine → List (Except ε α)}

theorem readRecords_of_short {output : Text} (short : Short limit output) :
    readRecords limit tooLong read output = (recordLines limit output).flatMap read := by
  simp [readRecords, short.hasLongLine]

variable {move : Nat → ε → ε} {x y : Text}
  (shifts : ∀ count line, read (line.shift count) = (read line).map (Except.mapError (move count)))
  (short : Short limit (x ++ lf :: y))

include shifts short

theorem readRecords_append :
    readRecords limit tooLong read (x ++ lf :: y) = readRecords limit tooLong read x ++
      (readRecords limit tooLong read y).map (Except.mapError (move (x.count lf + 1))) := by
  obtain ⟨first, second⟩ := short.of_append
  rw [readRecords_of_short short, readRecords_of_short first, readRecords_of_short second,
    recordLines_append short, List.flatMap_append, List.flatMap_map, List.map_flatMap]
  simp only [shifts]

theorem values_readRecords_append :
    (readRecords limit tooLong read (x ++ lf :: y)).filterMap Except.toOption =
      (readRecords limit tooLong read x).filterMap Except.toOption ++
        (readRecords limit tooLong read y).filterMap Except.toOption := by
  rw [readRecords_append shifts short, List.filterMap_append, filterMap_toOption_mapError]

theorem failures_readRecords_append :
    failures (readRecords limit tooLong read (x ++ lf :: y)) =
      failures (readRecords limit tooLong read x) ++
        (failures (readRecords limit tooLong read y)).map (move (x.count lf + 1)) := by
  rw [readRecords_append shifts short, failures_append, failures_mapError]

end Read

end LintServer
