import LintServer.Proofs.Document.Refinement
import LintServer.Proofs.Text.Boundary

set_option autoImplicit false

namespace LintServer

open Text (lf cr)

structure CleanCut (text : Text) (n : Nat) : Prop where
  boundary : text.Boundary n
  outsideCrLf : ∀ before after, text = before ++ cr :: lf :: after → n ≠ before.length + 1

theorem cleanCut_length (text : Text) : CleanCut text text.length := by
  refine ⟨text.boundary_length, ?_⟩
  rintro before after rfl
  simp

namespace Walk

theorem skip_cases (n : Nat) (text : Text) : skip n text = 0 ∨ skip n text = text.length ∨
    ∃ line rest, text = line ++ [lf] ++ rest ∧ skip n text = (line ++ [lf]).length := by
  induction text generalizing n with
  | nil => simp
  | cons b text ih =>
    cases n with
    | zero => simp
    | succ n =>
      right
      by_cases feed : b = lf
      · rcases ih n with zero | all | ⟨line, rest, rfl, here⟩
        · exact .inr ⟨[], text, by simp [feed], by simp [skip, feed, zero]⟩
        · exact .inl (by simp [skip, feed, all])
        · exact .inr ⟨b :: line, rest, by simp, by simpa [skip, feed] using here⟩
      · rcases ih (n + 1) with zero | all | ⟨line, rest, rfl, here⟩
        · cases text with
          | nil => exact .inl (by simp [skip, feed])
          | cons => simp [skip] at zero
        · exact .inl (by simp [skip, feed, all])
        · exact .inr ⟨b :: line, rest, by simp, by simpa [skip, feed] using here⟩

theorem codePoints_skip (n : Nat) (text : Text) :
    Text.codePoints (text.take (skip n text) ++ text.drop (skip n text)) =
      Text.codePoints (text.take (skip n text)) ++ Text.codePoints (text.drop (skip n text)) := by
  rcases skip_cases n text with start | stop | ⟨line, rest, rfl, here⟩
  · simp [start]
  · simp [stop]
  · rw [here, List.take_left, List.drop_left, Text.codePoints_append_ascii (by decide)]

theorem skip_ne_afterCr {n : Nat} {text before after : Text}
    (split : text = before ++ cr :: lf :: after) : skip n text ≠ before.length + 1 := by
  intro inside
  rcases skip_cases n text with start | stop | ⟨line, rest, lines, here⟩
  · omega
  · rw [stop, split] at inside
    simp at inside
  · have same : line.length = before.length := by simpa [here] using inside
    rw [lines, List.append_assoc] at split
    obtain ⟨-, rest⟩ := List.append_inj split same
    exact absurd (List.cons.inj rest).1 (by decide)

theorem FirstLine.codePoints_append {text body rest : Text} (line : FirstLine text body rest) :
    (body ++ rest).codePoints = body.codePoints ++ rest.codePoints := by
  apply Text.codePoints_append
  rcases line.ending with rfl | ⟨after, rfl⟩ | ⟨⟨after, rfl⟩, -⟩ <;> rfl

-- A point of a line at which CR and LF meet would be the end of its body, which has its terminator
-- after it and no CR before.
theorem FirstLine.not_feed {text body rest : Text} (line : FirstLine text body rest) {k : Nat}
    (inside : k < body.length) (here : text[k]? = some cr) : text[k + 1]? ≠ some lf := by
  obtain ⟨rfl, noFeed, ending⟩ := line
  intro feed
  by_cases last : k + 1 < body.length
  · rw [List.getElem?_append_left last] at feed
    exact noFeed (List.mem_of_getElem? feed)
  · have length : body.length = k + 1 := by omega
    have carriage : body.getLast? = some cr := by
      rw [List.getElem?_append_left inside] at here
      rw [List.getLast?_eq_getElem?, length, Nat.add_sub_cancel, here]
    rw [List.getElem?_append_right (by omega), length, Nat.sub_self] at feed
    rcases ending with rfl | ⟨after, rfl⟩ | ⟨-, other⟩
    · simp at feed
    · exact absurd (Option.some.inj feed) (by decide)
    · exact other carriage

end Walk

namespace Document

open Walk

theorem offset_of_firstLine {d : Document} {p : Position} {body rest : Text}
    (within : p.line.toNat ≤ d.text.count lf)
    (line : FirstLine (d.text.drop (skip p.line.toNat d.text)) body rest)
    (stop : d.lineEnd p.line.toNat (skip p.line.toNat d.text) =
      skip p.line.toNat d.text + body.length) :
    d.offset p = skip p.line.toNat d.text + body.byteOffset p.character.toNat := by
  unfold offset
  rw [starts_getElem?, if_pos within]
  simp only [stop, Nat.add_sub_cancel_left]
  rw [line.split, List.take_left]

theorem offset_cleanCut (d : Document) (p : Position) : CleanCut d.text (d.offset p) := by
  by_cases within : p.line.toNat ≤ d.text.count lf
  · obtain ⟨body, rest, line, stop⟩ := exists_firstLine d within
    rw [offset_of_firstLine within line stop]
    have bound := skip_le_length p.line.toNat d.text
    have apart := codePoints_skip p.line.toNat d.text
    have notAfterCr := @skip_ne_afterCr p.line.toNat d.text
    generalize skip p.line.toNat d.text = start at *
    have walked := Text.boundary_byteOffset body p.character.toNat
    generalize body.byteOffset p.character.toNat = k at *
    constructor
    · have inLine : Text.Boundary (d.text.drop start) k :=
        line.split ▸ walked.append_right line.codePoints_append
      have whole := inLine.append_left apart
      rwa [List.take_append_drop, List.length_take_of_le bound] at whole
    · intro before after split inside
      -- The cut is not at the start of the line, so CR is a byte of the line itself.
      have positive : k ≠ 0 := by
        rintro rfl
        exact notAfterCr split (by omega)
      obtain ⟨j, rfl⟩ := Nat.exists_eq_succ_of_ne_zero positive
      have before_length : start + j = before.length := by omega
      have bytes (i : Nat) : (d.text.drop start)[j + i]? = (cr :: lf :: after)[i]? := by
        rw [List.getElem?_drop, ← Nat.add_assoc, before_length, split,
          List.getElem?_append_right (by omega), Nat.add_sub_cancel_left]
      exact line.not_feed walked.le_length (bytes 0) (bytes 1)
  · have past : d.offset p = d.text.length := by
      unfold offset
      rw [starts_getElem?, if_neg within]
    rw [past]
    exact cleanCut_length d.text

end Document

structure Splice where
  text : Text
  start : Nat
  stop : Nat
  inserted : Text

namespace Splice

def result (s : Splice) : Text := s.text.take s.start ++ s.inserted ++ s.text.drop s.stop

structure Clean (s : Splice) : Prop where
  ordered : s.start ≤ s.stop
  start : CleanCut s.text s.start
  stop : CleanCut s.text s.stop

theorem Clean.isUtf8_result {s : Splice} (clean : s.Clean) (unicode : s.text.isUtf8)
    (inserted : s.inserted.isUtf8) : s.result.isUtf8 :=
  Text.isUtf8_append
    (Text.isUtf8_append (clean.start.boundary.isUtf8_take unicode) inserted)
    (clean.stop.boundary.isUtf8_drop unicode)

end Splice

namespace Document

-- A change without a range replaces the text and cuts nothing.
def splice? (d : Document) (c : Change) : Option Splice :=
  c.range.map fun range =>
    let a := d.offset range.start
    let b := d.offset range.stop
    ⟨d.text, min a b, max a b, c.text⟩

theorem changedText_eq (d : Document) (c : Change) :
    d.changedText c = ((d.splice? c).map Splice.result).getD c.text := by
  unfold changedText splice?
  cases c.range <;> rfl

theorem splice?_clean {d : Document} {c : Change} {s : Splice} (cut : d.splice? c = some s) :
    s.Clean := by
  obtain ⟨range, -, rfl⟩ := Option.map_eq_some_iff.mp cut
  have first := d.offset_cleanCut range.start
  have second := d.offset_cleanCut range.stop
  rcases Nat.le_total (d.offset range.start) (d.offset range.stop) with forward | backward
  · exact ⟨by dsimp only; omega, by simpa [forward] using first, by simpa [forward] using second⟩
  · exact ⟨by dsimp only; omega, by simpa [backward] using second, by simpa [backward] using first⟩

theorem isUtf8_apply {d : Document} {c : Change} (unicode : d.text.isUtf8)
    (inserted : c.text.isUtf8) : (d.apply c).text.isUtf8 := by
  rw [apply, ofText_text, changedText_eq]
  cases cut : d.splice? c with
  | none => exact inserted
  | some s =>
    obtain ⟨range, -, rfl⟩ := Option.map_eq_some_iff.mp cut
    exact (splice?_clean cut).isUtf8_result unicode inserted

theorem isUtf8_foldl_apply {d : Document} {changes : List Change} (unicode : d.text.isUtf8)
    (inserted : ∀ c ∈ changes, c.text.isUtf8) : (changes.foldl apply d).text.isUtf8 := by
  induction changes generalizing d with
  | nil => exact unicode
  | cons c changes ih =>
    exact ih (isUtf8_apply unicode (inserted c (by simp)))
      fun later member => inserted later (by simp [member])

def splices (d : Document) : List Change → List Splice
  | [] => []
  | c :: rest => (d.splice? c).toList ++ splices (d.apply c) rest

theorem splices_clean (d : Document) (changes : List Change) :
    ∀ s ∈ d.splices changes, s.Clean := by
  induction changes generalizing d with
  | nil => simp [splices]
  | cons c changes ih =>
    intro s member
    rcases List.mem_append.mp member with here | later
    · exact splice?_clean (Option.mem_toList.mp here)
    · exact ih (d.apply c) s later

end Document

namespace Store

def Call.texts : Call → List Text
  | put _ opened => [opened]
  | edit _ changes => changes.map Change.text
  | close _ | text _ | uris => []

def callSplices (s : Store) : Call → List Splice
  | .edit uri changes => (s.documents[uri]?.map fun d => d.splices changes).getD []
  | _ => []

def splices (s : Store) : List Call → List Splice
  | [] => []
  | call :: rest => s.callSplices call ++ splices (s.respond call).1 rest

theorem callSplices_clean (s : Store) (call : Call) :
    ∀ splice ∈ s.callSplices call, splice.Clean := by
  intro splice member
  cases call with
  | edit uri changes =>
    rw [callSplices] at member
    cases held : s.documents[uri]? with
    | none => simp [held] at member
    | some d => exact d.splices_clean changes splice (by simpa [held] using member)
  | put | close | text | uris => simp [callSplices] at member

theorem splices_clean (s : Store) (calls : List Call) :
    ∀ splice ∈ s.splices calls, splice.Clean := by
  induction calls generalizing s with
  | nil => simp [splices]
  | cons call calls ih =>
    intro splice member
    rcases List.mem_append.mp member with here | later
    · exact s.callSplices_clean call splice here
    · exact ih (s.respond call).1 splice later

def IsUtf8 (s : Store) : Prop := ∀ (uri : Uri) d, s.documents[uri]? = some d → d.text.isUtf8

theorem IsUtf8.insert {s : Store} (unicode : s.IsUtf8) {uri : Uri} {d : Document}
    (inserted : d.text.isUtf8) : IsUtf8 ⟨s.documents.insert uri d⟩ := by
  intro key e held
  rw [Std.ExtTreeMap.getElem?_insert] at held
  split at held
  · exact Option.some.inj held ▸ inserted
  · exact unicode key e held

theorem IsUtf8.respond {s : Store} (unicode : s.IsUtf8) {call : Call}
    (given : ∀ text ∈ call.texts, text.isUtf8) : (s.respond call).1.IsUtf8 := by
  cases call with
  | put uri text => exact unicode.insert (given text (by simp [Call.texts]))
  | close uri =>
    rw [Store.respond, close]
    cases s.documents[uri]? with
    | none => exact unicode
    | some d =>
      intro key e held
      simp only [outcome, Std.ExtTreeMap.getElem?_erase] at held
      split at held
      · simp at held
      · exact unicode key e held
  | edit uri changes =>
    rw [Store.respond, edit]
    cases held : s.documents[uri]? with
    | none => exact unicode
    | some d =>
      exact unicode.insert (Document.isUtf8_foldl_apply (unicode uri d held)
        fun c member => given c.text (List.mem_map_of_mem member))
  | text uri => exact unicode
  | uris => exact unicode

theorem IsUtf8.stateAfter {s : Store} (unicode : s.IsUtf8) {calls : List Call}
    (given : ∀ call ∈ calls, ∀ text ∈ call.texts, text.isUtf8) :
    (stateAfter Store.respond s calls).IsUtf8 := by
  induction calls generalizing s with
  | nil => exact unicode
  | cons call calls ih =>
    exact ih (unicode.respond (given call (by simp)))
      fun later member => given later (by simp [member])

theorem empty_isUtf8 : empty.IsUtf8 := by
  intro uri d held
  simp [empty] at held

theorem splices_cut_no_character (calls : List Call) :
    (∀ splice ∈ empty.splices calls, splice.start ≤ splice.stop ∧
      ∀ n ∈ [splice.start, splice.stop], n ≤ splice.text.length ∧ splice.text.Boundary n ∧
        ∀ before after, splice.text = before ++ cr :: lf :: after → n ≠ before.length + 1) ∧
      (∀ (d : Document) c, (d.apply c).text = ((d.splice? c).map Splice.result).getD c.text ∧
        ∀ splice, d.splice? c = some splice → splice.text = d.text ∧ splice.inserted = c.text) ∧
      ((∀ call ∈ calls, ∀ text ∈ call.texts, text.isUtf8) →
        ∀ uri text, (stateAfter respond empty calls).text? uri = some text → text.isUtf8) := by
  refine ⟨fun splice member => ?_, fun d c => ⟨d.changedText_eq c, fun splice cut => ?_⟩,
    fun given uri text held => ?_⟩
  · have clean := empty.splices_clean calls splice member
    have described {n : Nat} (cut : CleanCut splice.text n) :=
      And.intro cut.boundary.le_length (And.intro cut.boundary cut.outsideCrLf)
    refine ⟨clean.ordered, fun n either => ?_⟩
    rcases List.mem_pair.mp either with rfl | rfl
    · exact described clean.start
    · exact described clean.stop
  · obtain ⟨range, -, rfl⟩ := Option.map_eq_some_iff.mp cut
    exact ⟨rfl, rfl⟩
  · obtain ⟨d, found, rfl⟩ := Option.map_eq_some_iff.mp held
    exact empty_isUtf8.stateAfter given uri d found

-- A reversed range from inside a surrogate pair back to behind the CR of the line before.
theorem splices_cut_no_character_reversed :
    let text : Text := [0x78, 0x0D, 0x0A, 0xF0, 0x9F, 0x98, 0x80, 0x79]
    let calls : List Call :=
      [.put [0x61] text, .edit [0x61] [⟨some ⟨⟨1, 1⟩, ⟨0, 2⟩⟩, [0xC3, 0xA9]⟩]]
    let splice : Splice := ⟨text, 1, 7, [0xC3, 0xA9]⟩
    let d := Document.ofText text
    splice ∈ empty.splices calls ∧ text.Boundary 1 ∧ text.Boundary 7 ∧
      d.splice? ⟨some ⟨⟨1, 1⟩, ⟨0, 2⟩⟩, [0xC3, 0xA9]⟩ = some splice ∧ splice.text = d.text ∧
      (∀ call ∈ calls, ∀ text ∈ call.texts, text.isUtf8) ∧
      (stateAfter respond empty calls).text? [0x61] = some [0x78, 0xC3, 0xA9, 0x79] ∧
      Text.isUtf8 [0x78, 0xC3, 0xA9, 0x79] := by
  intro text calls splice d
  obtain ⟨cuts, replaced, unicode⟩ := splices_cut_no_character calls
  have member : splice ∈ empty.splices calls := List.mem_singleton.mpr rfl
  have given : ∀ call ∈ calls, ∀ text ∈ call.texts, text.isUtf8 := by decide
  have clean := (cuts splice member).2
  have cut : d.splice? ⟨some ⟨⟨1, 1⟩, ⟨0, 2⟩⟩, [0xC3, 0xA9]⟩ = some splice := rfl
  exact ⟨member, (clean 1 (by decide)).2.1, (clean 7 (by decide)).2.1, cut,
    ((replaced d _).2 splice cut).1, given, rfl, unicode given [0x61] _ rfl⟩

end Store

end LintServer
