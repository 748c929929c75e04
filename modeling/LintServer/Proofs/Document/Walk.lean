import LintServer.Document.Basic
import LintServer.Proofs.Text.CodePoint

set_option autoImplicit false

namespace LintServer.Walk

open Text (lf cr)

-- Bytes up to and with the first `n` line feeds; the whole text if it has fewer.
def skip : Nat → Text → Nat
  | 0, _ => 0
  | _ + 1, [] => 0
  | n + 1, b :: rest => (if b = lf then skip n rest else skip (n + 1) rest) + 1

def atTerminator : List CodePoint → Bool
  | [] => false
  | p :: rest => p.bytes == [lf] || p.bytes == [cr] && rest.head?.any (·.bytes == [lf])

-- Bytes walked along a line until `units` UTF-16 code units are consumed or the line ends.
def along (units : Nat) : List CodePoint → Nat
  | [] => 0
  | p :: rest =>
    if units = 0 ∨ atTerminator (p :: rest) then 0
    else p.bytes.length + along (units - p.units) rest

def point (text : Text) (p : Position) : Nat :=
  let start := skip p.line.toNat text
  start + along p.character.toNat (Text.codePoints (text.drop start))

@[simp]
theorem skip_zero (text : Text) : skip 0 text = 0 := by
  cases text <;> rfl

@[simp]
theorem skip_nil (n : Nat) : skip n [] = 0 := by
  cases n <;> rfl

@[simp]
theorem along_zero (points : List CodePoint) : along 0 points = 0 := by
  cases points <;> simp [along]

theorem skip_le_length (n : Nat) (text : Text) : skip n text ≤ text.length := by
  induction text generalizing n with
  | nil => simp
  | cons b rest ih =>
    cases n with
    | zero => simp
    | succ n =>
      have here := ih n
      have there := ih (n + 1)
      simp only [skip, List.length_cons]
      split <;> omega

theorem skip_of_count_lt {n : Nat} {text : Text} (few : text.count lf < n) :
    skip n text = text.length := by
  induction text generalizing n with
  | nil => simp
  | cons b rest ih =>
    cases n with
    | zero => omega
    | succ n =>
      by_cases feed : b = lf
      · simp only [feed, List.count_cons_self] at few
        simp [skip, feed, ih (n := n) (by omega)]
      · rw [List.count_cons_of_ne feed] at few
        simp [skip, feed, ih few]

theorem skip_line (n : Nat) (line rest : Text) (noFeed : lf ∉ line) :
    skip (n + 1) (line ++ lf :: rest) = line.length + 1 + skip n rest := by
  induction line with
  | nil => simp [skip, Nat.add_comm]
  | cons b line ih =>
    rw [List.mem_cons, not_or] at noFeed
    simp only [List.cons_append, skip, if_neg (Ne.symm noFeed.1), ih noFeed.2, List.length_cons]
    omega

theorem skip_add (n m : Nat) (text : Text) :
    skip (n + m) text = skip n text + skip m (text.drop (skip n text)) := by
  induction text generalizing n with
  | nil => simp
  | cons b rest ih =>
    cases n with
    | zero => simp
    | succ n =>
      rw [show n + 1 + m = n + m + 1 by omega]
      by_cases feed : b = lf
      · simp only [skip, if_pos feed, ih n, List.drop_succ_cons]
        omega
      · have later := ih (n + 1)
        rw [show n + 1 + m = n + m + 1 by omega] at later
        simp only [skip, if_neg feed, later, List.drop_succ_cons]
        omega

theorem count_drop_skip (n : Nat) (text : Text) :
    (text.drop (skip n text)).count lf = text.count lf - n := by
  induction text generalizing n with
  | nil => simp
  | cons b rest ih =>
    cases n with
    | zero => simp
    | succ n =>
      by_cases feed : b = lf
      · simp [skip, feed, ih]
      · simp [skip, feed, ih, List.count_cons_of_ne feed]

theorem getElem?_lineStartsAfter (base n : Nat) (text : Text) :
    (lineStartsAfter base text)[n]? =
      if n < text.count lf then some (base + skip (n + 1) text) else none := by
  induction text generalizing base n with
  | nil => simp [lineStartsAfter]
  | cons b rest ih =>
    by_cases feed : b = lf
    · cases n with
      | zero => simp [lineStartsAfter, skip, feed]
      | succ n =>
        simp only [lineStartsAfter, feed, if_true, List.getElem?_cons_succ, ih, skip,
          List.count_cons_self, Nat.add_lt_add_iff_right]
        split <;> simp
        omega
    · simp only [lineStartsAfter, feed, if_false, ih, skip, List.count_cons_of_ne feed]
      split <;> simp
      omega

theorem getElem?_lineStarts (n : Nat) (text : Text) :
    (lineStarts text)[n]? = if n ≤ text.count lf then some (skip n text) else none := by
  cases n with
  | zero => simp [lineStarts]
  | succ n =>
    rw [lineStarts, List.getElem?_cons_succ, getElem?_lineStartsAfter]
    simp only [Nat.zero_add, Nat.succ_le_iff]

theorem atTerminator_append {p : CodePoint} {body rest : List CodePoint}
    (noFeed : ∀ q ∈ p :: body, q.bytes ≠ [lf])
    (noReturn : (p :: body).getLast?.any (·.bytes == [cr]) → ¬ rest.head?.any (·.bytes == [lf])) :
    atTerminator (p :: (body ++ rest)) = false := by
  have here := noFeed p (by simp)
  cases body with
  | nil => grind [atTerminator]
  | cons q body =>
    have next := noFeed q (by simp)
    simp [atTerminator, here, next]

-- Where no terminator comes before the end of the line, units alone decide where the walk stops.
theorem along_append (units : Nat) (body rest : List CodePoint)
    (noFeed : ∀ p ∈ body, p.bytes ≠ [lf])
    (noReturn : body.getLast?.any (·.bytes == [cr]) → ¬ rest.head?.any (·.bytes == [lf]))
    (ending : rest = [] ∨ atTerminator rest) :
    along units (body ++ rest) = Text.advance units body := by
  induction body generalizing units with
  | nil =>
    rcases ending with rfl | ending
    · rfl
    · cases rest <;> simp_all [along, Text.advance]
  | cons p body ih =>
    have later := ih (units - p.units) (fun q member => noFeed q (by simp [member])) (by
      intro last
      apply noReturn
      cases body <;> simp_all)
    have inside := atTerminator_append noFeed noReturn
    simp only [List.cons_append, along, inside, Text.advance]
    by_cases zero : units = 0
    · simp [zero]
    · have positive : ¬ (units : Int) ≤ 0 := by omega
      simp only [zero, positive, later]
      -- A code point wider than what is left ends the walk in both.
      by_cases wide : units < p.units
      · rw [Text.advance_nonpos (by omega), Text.advance_nonpos (by omega)]
        simp
      · rw [Int.ofNat_sub (by omega)]
        simp

-- The first line of a text: what stands before its terminator, and the rest of the text.
structure FirstLine (text body rest : Text) : Prop where
  split : text = body ++ rest
  noFeed : lf ∉ body
  ending : rest = [] ∨ (∃ after, rest = cr :: lf :: after) ∨
    (∃ after, rest = lf :: after) ∧ body.getLast? ≠ some cr

theorem FirstLine.byteOffset_body {text body rest : Text} (line : FirstLine text body rest)
    (units : Nat) : body.byteOffset units = along units text.codePoints := by
  obtain ⟨rfl, noFeed, ending⟩ := line
  have feed (after : Text) : Text.codePoints (lf :: after) = ⟨[lf], 10⟩ :: after.codePoints :=
    Text.codePoints_ascii_cons (by decide) after
  have carriage (after : Text) : Text.codePoints (cr :: after) = ⟨[cr], 13⟩ :: after.codePoints :=
    Text.codePoints_ascii_cons (by decide) after
  have cut : rest.head?.all (!CodePoint.isTail ·) := by
    rcases ending with rfl | ⟨after, rfl⟩ | ⟨⟨after, rfl⟩, -⟩ <;> rfl
  rw [Text.codePoints_append body rest cut, Text.byteOffset]
  symm
  apply along_append
  · intro p member bytes
    exact noFeed (Text.mem_of_mem_bytes member (by simp [bytes]))
  · intro last next
    obtain ⟨p, last, bytes⟩ := (Option.any_eq_true _ _).mp last
    have ended := Text.getLast?_of_codePoints last (by simpa using bytes)
    rcases ending with rfl | ⟨after, rfl⟩ | ⟨⟨after, rfl⟩, other⟩
    · simp at next
    · simp [carriage, show cr ≠ lf by decide] at next
    · exact other ended
  · rcases ending with rfl | ⟨after, rfl⟩ | ⟨⟨after, rfl⟩, -⟩
    · exact .inl rfl
    · simp [carriage, feed, atTerminator]
    · simp [feed, atTerminator]

theorem exists_line_of_count_pos {text : Text} (more : 0 < text.count lf) :
    ∃ line after, text = line ++ lf :: after ∧ lf ∉ line := by
  induction text with
  | nil => simp at more
  | cons b text ih =>
    by_cases feed : b = lf
    · exact ⟨[], text, by simp [feed], by simp⟩
    · rw [List.count_cons_of_ne feed] at more
      obtain ⟨line, after, rfl, noFeed⟩ := ih more
      exact ⟨b :: line, after, rfl, by simp [noFeed, Ne.symm feed]⟩

theorem starts_getElem? (d : Document) (n : Nat) :
    d.starts[n]? = if n ≤ d.text.count lf then some (skip n d.text) else none := by
  rw [d.starts_eq, getElem?_lineStarts]

theorem exists_firstLine (d : Document) {n : Nat} (within : n ≤ d.text.count lf) :
    ∃ body rest, FirstLine (d.text.drop (skip n d.text)) body rest ∧
      d.lineEnd n (skip n d.text) = skip n d.text + body.length := by
  have bound := skip_le_length n d.text
  have left := count_drop_skip n d.text
  unfold Document.lineEnd
  rw [starts_getElem?]
  by_cases last : n + 1 ≤ d.text.count lf
  · obtain ⟨line, after, tail, noFeed⟩ :=
      exists_line_of_count_pos (by omega : 0 < (d.text.drop (skip n d.text)).count lf)
    have next : skip (n + 1) d.text = skip n d.text + line.length + 1 := by
      rw [skip_add, tail, skip_line 0 line after noFeed]
      simp
      omega
    have byte (k : Nat) : d.text[skip n d.text + k]? = (line ++ lf :: after)[k]? := by
      rw [← tail, List.getElem?_drop]
    simp only [if_pos last, next, Nat.add_sub_cancel]
    by_cases carriage : line.getLast? = some cr
    · obtain ⟨body, rfl⟩ := List.getLast?_eq_some_iff.mp carriage
      refine ⟨body, cr :: lf :: after, ⟨by simp [tail], ?_, .inr (.inl ⟨after, rfl⟩)⟩, ?_⟩
      · exact fun member => noFeed (by simp [member])
      · have index : skip n d.text + (body ++ [cr]).length + 1 - 2 = skip n d.text + body.length := by
          simp
        rw [index, byte]
        simp
    · refine ⟨line, lf :: after, ⟨tail, noFeed, .inr (.inr ⟨⟨after, rfl⟩, carriage⟩)⟩, ?_⟩
      rw [if_neg]
      rintro ⟨inside, found⟩
      have index : skip n d.text + line.length + 1 - 2 = skip n d.text + (line.length - 1) := by
        omega
      rw [index, byte, List.getElem?_append_left (by omega), ← List.getLast?_eq_getElem?] at found
      exact carriage found
  · rw [if_neg last]
    refine ⟨d.text.drop (skip n d.text), [], ⟨by simp, ?_, .inl rfl⟩, ?_⟩
    · exact List.count_eq_zero.mp (by omega)
    · simp
      omega

theorem offset_eq_point (d : Document) (p : Position) : d.offset p = point d.text p := by
  unfold Document.offset point
  rw [starts_getElem?]
  by_cases within : p.line.toNat ≤ d.text.count lf
  · obtain ⟨body, rest, line, stop⟩ := exists_firstLine d within
    simp only [if_pos within, stop, Nat.add_sub_cancel_left]
    rw [← line.byteOffset_body, line.split, List.take_left]
  · simp [if_neg within, skip_of_count_lt (Nat.lt_of_not_le within), along]

end LintServer.Walk
