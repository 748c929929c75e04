import Mathlib.Data.List.DropRight
import LintServer.Proofs.Document.Cut
import LintServer.Proofs.Position

set_option autoImplicit false

namespace LintServer

open Text (lf cr)

namespace Walk

theorem along_units (body rest : List CodePoint) (noFeed : ∀ p ∈ body, p.bytes ≠ [lf])
    (noReturn : body.getLast?.any (·.bytes == [cr]) → ¬ rest.head?.any (·.bytes == [lf])) :
    along (Text.width body) (body ++ rest) = (Text.ofCodePoints body).length := by
  induction body with
  | nil => simp [Text.ofCodePoints]
  | cons p body ih =>
    have later := ih (fun q member => noFeed q (by simp [member])) (by
      intro last
      apply noReturn
      cases body <;> simp_all)
    have going := atTerminator_append noFeed noReturn
    have positive := p.units_pos
    rw [Text.width_cons, List.cons_append, along, if_neg (by simp [going]; omega),
      Nat.add_sub_cancel_left, later, Text.length_ofCodePoints_cons]

theorem skip_count {lines : Text} (ended : lines = [] ∨ lines.getLast? = some lf) (rest : Text) :
    skip (lines.count lf) (lines ++ rest) = lines.length := by
  induction lines with
  | nil => simp
  | cons b lines ih =>
    by_cases feed : b = lf
    · have later := ih (by cases lines <;> simp_all)
      simp [skip, feed, later]
    · have last : lines.getLast? = some lf := by cases lines <;> simp_all
      have more : 0 < lines.count lf := List.count_pos_iff.mpr (List.mem_of_getLast? last)
      have later := ih (.inr last)
      obtain ⟨count, counted⟩ := Nat.exists_eq_succ_of_ne_zero (Nat.ne_of_gt more)
      rw [List.count_cons_of_ne feed]
      rw [counted] at later ⊢
      simp [skip, feed, later]

theorem codePoints_append_line {lines : Text} (ended : lines = [] ∨ lines.getLast? = some lf)
    (rest : Text) : (lines ++ rest).codePoints = lines.codePoints ++ rest.codePoints := by
  rcases ended with rfl | last
  · rfl
  · obtain ⟨before, rfl⟩ := List.getLast?_eq_some_iff.mp last
    exact Text.codePoints_append_ascii (by decide) before rest

theorem point_of_line {lines line rest : Text} (ended : lines = [] ∨ lines.getLast? = some lf)
    (noFeed : lf ∉ line) (cut : CleanCut (lines ++ line ++ rest) (lines ++ line).length)
    {p : Position} (count : p.line.toNat = lines.count lf)
    (units : p.character.toNat = line.utf16Length) :
    point (lines ++ line ++ rest) p = (lines ++ line).length := by
  have points : (line ++ rest).codePoints = line.codePoints ++ rest.codePoints := by
    have whole := cut.boundary.codePoints_eq
    rw [List.take_left, List.drop_left, List.append_assoc, codePoints_append_line ended,
      codePoints_append_line ended, List.append_assoc] at whole
    exact List.append_cancel_left whole
  have walked := along_units line.codePoints rest.codePoints
    (fun p member bytes => noFeed (Text.mem_of_mem_bytes member (by simp [bytes]))) (by
      intro last next
      obtain ⟨q, last, carriage⟩ := (Option.any_eq_true _ _).mp last
      obtain ⟨body, rfl⟩ := List.getLast?_eq_some_iff.mp
        (Text.getLast?_of_codePoints last (by simpa using carriage))
      cases rest with
      | nil => simp at next
      | cons b rest =>
        obtain ⟨tail, bytes, -⟩ := CodePoint.first_bytes b rest
        obtain ⟨rfl, -⟩ : b = lf ∧ tail = [] := by
          simpa [Text.codePoints_cons, bytes] using next
        exact cut.outsideCrLf (lines ++ body) rest (by simp) (by simp; omega))
  rw [Text.ofCodePoints_codePoints] at walked
  rw [point, count, units, List.append_assoc, skip_count ended, List.drop_left, points,
    Text.utf16Length_eq_width, walked, List.length_append]

theorem skip_mono {n m : Nat} (le : n ≤ m) (text : Text) : skip n text ≤ skip m text := by
  obtain ⟨k, rfl⟩ := Nat.exists_eq_add_of_le le
  rw [skip_add]
  exact Nat.le_add_right ..

theorem along_mono {u v : Nat} (le : u ≤ v) (points : List CodePoint) :
    along u points ≤ along v points := by
  induction points generalizing u v with
  | nil => simp [along]
  | cons p points ih =>
    have later := ih (Nat.sub_le_sub_right le p.units)
    by_cases stop : u = 0 ∨ atTerminator (p :: points)
    · rw [along, if_pos stop]
      exact Nat.zero_le _
    · have further : ¬ (v = 0 ∨ atTerminator (p :: points)) := fun ends =>
        stop (ends.imp_left (by omega))
      rw [along, along, if_neg stop, if_neg further]
      omega

theorem along_le_skip_one (units : Nat) (text : Text) : along units text.codePoints ≤ skip 1 text := by
  obtain ⟨body, rest, line, -⟩ := exists_firstLine (.ofText text) (Nat.zero_le _)
  rw [skip_zero, List.drop_zero, Document.ofText_text] at line
  have inside := (Text.boundary_byteOffset body units).le_length
  rw [line.byteOffset_body] at inside
  obtain ⟨rfl, noFeed, rfl | ⟨after, rfl⟩ | ⟨⟨after, rfl⟩, -⟩⟩ := line
  · rw [skip_of_count_lt (by simp [List.count_eq_zero.mpr noFeed]), List.append_nil]
    simpa using inside
  · have next := skip_line 0 (body ++ [cr]) after (by simp [noFeed, show lf ≠ cr by decide])
    rw [List.append_assoc, List.singleton_append] at next
    rw [next]
    simp
    omega
  · rw [skip_line 0 body after noFeed]
    omega

theorem point_mono (text : Text) {p q : Position} (le : p ≤ q) : point text p ≤ point text q := by
  unfold point
  rcases Position.le_iff.mp le with above | ⟨same, left⟩
  · calc
      skip p.line.toNat text + along p.character.toNat
            (Text.codePoints (text.drop (skip p.line.toNat text)))
        ≤ skip p.line.toNat text + skip 1 (text.drop (skip p.line.toNat text)) :=
          Nat.add_le_add_left (along_le_skip_one ..) _
      _ = skip (p.line.toNat + 1) text := (skip_add _ 1 text).symm
      _ ≤ skip q.line.toNat text := skip_mono above text
      _ ≤ _ := Nat.le_add_right ..
  · rw [same]
    exact Nat.add_le_add_left (along_mono left _) _

end Walk

namespace Text

def lineAt (text : Text) (n : Nat) : Nat := (text.take n).count lf

-- The UTF-16 code units between the last line feed before a byte offset and the offset.
def characterAt (text : Text) (n : Nat) : Nat :=
  utf16Length ((text.take n).rtakeWhile (· ≠ lf))

theorem exists_lastLine (text : Text) : ∃ lines, text = lines ++ text.rtakeWhile (· ≠ lf) ∧
    (lines = [] ∨ lines.getLast? = some lf) ∧ lf ∉ text.rtakeWhile (· ≠ lf) := by
  refine ⟨text.rdropWhile (· ≠ lf), List.rdropWhile_append_rtakeWhile.symm, ?_, fun member => ?_⟩
  · by_cases empty : text.rdropWhile (· ≠ lf) = []
    · exact .inl empty
    · have last := List.rdropWhile_last_not (· ≠ lf) text empty
      exact .inr (by rw [List.getLast?_eq_some_getLast empty]; simpa using last)
  · simpa using List.mem_rtakeWhile_imp member

end Text

namespace Document

theorem offset_positionAt (text : Text) (n : Nat) (cut : CleanCut text n)
    (lines : text.lineAt n < UInt32.size) (units : text.characterAt n < UInt32.size) :
    (ofText text).offset ⟨(text.lineAt n).toUInt32, (text.characterAt n).toUInt32⟩ = n := by
  obtain ⟨earlier, before, ended, noFeed⟩ := Text.exists_lastLine (text.take n)
  have count : text.lineAt n = earlier.count lf := by
    rw [Text.lineAt, before, List.count_append, List.count_eq_zero.mpr noFeed, Nat.add_zero]
  have line : text.characterAt n = Text.utf16Length ((text.take n).rtakeWhile (· ≠ lf)) := rfl
  generalize (text.take n).rtakeWhile (· ≠ lf) = last at before noFeed line
  have whole : earlier ++ last ++ text.drop n = text := by rw [← before, List.take_append_drop]
  have length : (earlier ++ last).length = n := by
    rw [← before, List.length_take_of_le cut.boundary.le_length]
  have found := Walk.point_of_line ended noFeed (by rwa [whole, length])
    (p := ⟨(text.lineAt n).toUInt32, (text.characterAt n).toUInt32⟩)
    ((UInt32.toNat_ofNat_of_lt' lines).trans count) ((UInt32.toNat_ofNat_of_lt' units).trans line)
  rwa [whole, length, ← ofText_text text, ← Walk.offset_eq_point] at found

-- Behind a stray byte and a surrogate pair, on a line that ends in CRLF.
theorem offset_positionAt_pair :
    let text : Text := [0x78, 0x0D, 0x0A, 0xFF, 0xF0, 0x9F, 0x98, 0x80, 0x0D, 0x0A]
    CleanCut text 8 ∧ text.lineAt 8 = 1 ∧ text.characterAt 8 = 3 ∧
      (ofText text).offset ⟨1, 3⟩ = 8 := by
  intro text
  have cut : CleanCut text 8 := by
    refine ⟨⟨text.codePoints.take 5, text.codePoints.drop 5, by simp, rfl⟩, ?_⟩
    intro before after split inside
    have byte := congrArg (fun bytes : Text => bytes[7]?) split
    rw [List.getElem?_append_right (by omega), show 7 - before.length = 0 by omega] at byte
    exact absurd (Option.some.inj byte) (by decide)
  exact ⟨cut, by decide, by decide, offset_positionAt text 8 cut (by decide) (by decide)⟩

theorem offset_mono (d : Document) {p q : Position} (le : p ≤ q) : d.offset p ≤ d.offset q := by
  rw [Walk.offset_eq_point, Walk.offset_eq_point]
  exact Walk.point_mono d.text le

theorem offset_le_length (d : Document) (p : Position) : d.offset p ≤ d.text.length :=
  (d.offset_cleanCut p).boundary.le_length

theorem eq_ofText (d : Document) : d = ofText d.text := by
  obtain ⟨text, starts, rfl⟩ := d
  rfl

theorem changedText_of_le (d : Document) {range : Range} (ordered : range.start ≤ range.stop)
    (new : Text) : d.changedText ⟨some range, new⟩ =
      d.text.take (d.offset range.start) ++ new ++ d.text.drop (d.offset range.stop) := by
  have le := d.offset_mono ordered
  simp only [changedText, Nat.min_eq_left le, Nat.max_eq_right le]

theorem changedText_comm (d : Document) (a b : Position) (new : Text) :
    d.changedText ⟨some ⟨a, b⟩, new⟩ = d.changedText ⟨some ⟨b, a⟩, new⟩ := by
  simp only [changedText, Nat.min_comm (d.offset a), Nat.max_comm (d.offset a)]

end Document

namespace Store

theorem edit_concat {s before : Store} {uri : Uri} {earlier : List Change} {text : Text}
    (edited : s.edit uri earlier = .ok before) (held : before.text? uri = some text) (c : Change) :
    s.edit uri (earlier ++ [c]) = .ok (before.put uri ((Document.ofText text).changedText c)) := by
  unfold edit at edited ⊢
  cases found : s.documents[uri]? with
  | none => simp [found] at edited
  | some d =>
    simp only [found, Except.ok.injEq] at edited ⊢
    subst edited
    have current : (earlier.foldl Document.apply d).text = text := by simpa [text?] using held
    have same := (earlier.foldl Document.apply d).eq_ofText
    rw [current] at same
    rw [List.foldl_append, List.foldl_cons, List.foldl_nil, same, put]
    congr 1
    apply Std.ExtTreeMap.ext_getElem?
    intro key
    simp only [Std.ExtTreeMap.getElem?_insert]
    split <;> rfl

theorem edit_between_offsets :
    (∀ (text : Text) (p q : Position), p ≤ q →
      (Document.ofText text).offset p ≤ (Document.ofText text).offset q) ∧
    ∀ (s before : Store) (uri : Uri) (earlier : List Change) (text : Text),
      s.edit uri earlier = .ok before → before.text? uri = some text → ∀ (range : Range) (new : Text),
        let d := Document.ofText text
        let low := min (d.offset range.start) (d.offset range.stop)
        let high := max (d.offset range.start) (d.offset range.stop)
        ∃ after result, s.edit uri (earlier ++ [⟨some range, new⟩]) = .ok after ∧
          s.edit uri (earlier ++ [⟨some ⟨range.stop, range.start⟩, new⟩]) = .ok after ∧
          after.text? uri = some result ∧
          (range.start ≤ range.stop → result =
            text.take (d.offset range.start) ++ new ++ text.drop (d.offset range.stop)) ∧
          low ≤ high ∧ high ≤ text.length ∧
          result.length = low + new.length + (text.length - high) ∧
          result.take low = text.take low ∧ result.drop (low + new.length) = text.drop high := by
  refine ⟨fun text p q le => (Document.ofText text).offset_mono le, ?_⟩
  intro s before uri earlier text edited held range new d low high
  have result : d.changedText ⟨some range, new⟩ = text.take low ++ new ++ text.drop high := rfl
  have ordered : low ≤ high := by omega
  have inside : high ≤ text.length :=
    Nat.max_le.mpr ⟨d.offset_le_length range.start, d.offset_le_length range.stop⟩
  have start : (text.take low).length = low := List.length_take_of_le (by omega)
  refine ⟨before.put uri (d.changedText ⟨some range, new⟩), d.changedText ⟨some range, new⟩,
    edit_concat edited held _, ?_, ?_, fun forward => d.changedText_of_le forward new, ordered,
    inside, ?_, ?_, ?_⟩
  · rw [edit_concat edited held, Document.changedText_comm]
  · simp [text?_put]
  · rw [result, List.length_append, List.length_append, start, List.length_drop]
  · rw [result, List.append_assoc, List.take_left' start]
  · rw [result, List.drop_left' (by rw [List.length_append, start])]

-- After another change, from inside a surrogate pair back to behind the end of a line with CRLF.
theorem edit_between_offsets_reversed :
    let text : Text := [0x78, 0x0D, 0x0A, 0xF0, 0x9F, 0x98, 0x80, 0x79]
    let s := empty.put [0x61] []
    let d := Document.ofText text
    (⟨0, 9⟩ : Position) ≤ ⟨1, 1⟩ ∧ d.offset ⟨0, 9⟩ = 1 ∧ d.offset ⟨1, 1⟩ = 7 ∧
      d.offset ⟨0, 9⟩ ≤ d.offset ⟨1, 1⟩ ∧
      ∃ after, s.edit [0x61] [⟨none, text⟩, ⟨some ⟨⟨1, 1⟩, ⟨0, 9⟩⟩, [0x2D]⟩] = .ok after ∧
        s.edit [0x61] [⟨none, text⟩, ⟨some ⟨⟨0, 9⟩, ⟨1, 1⟩⟩, [0x2D]⟩] = .ok after ∧
        after.text? [0x61] = some [0x78, 0x2D, 0x79] := by
  intro text s d
  obtain ⟨mono, between⟩ := edit_between_offsets
  obtain ⟨after, result, edited, mirrored, held, forward, -⟩ :=
    between s (s.put [0x61] text) [0x61] [⟨none, text⟩] text rfl (by rw [text?_put, if_pos rfl])
      ⟨⟨0, 9⟩, ⟨1, 1⟩⟩ [0x2D]
  have ordered : (⟨0, 9⟩ : Position) ≤ ⟨1, 1⟩ := by decide
  have joined : result = [0x78, 0x2D, 0x79] := (forward ordered).trans (by decide)
  exact ⟨ordered, by decide, by decide, mono text _ _ ordered, after, mirrored, edited, joined ▸ held⟩

end Store

end LintServer
