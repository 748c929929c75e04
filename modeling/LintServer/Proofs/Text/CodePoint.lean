import LintServer.Text.CodePoint

set_option autoImplicit false

namespace LintServer

namespace CodePoint

theorem first_bytes (a : UInt8) (rest : Text) :
    ∃ tail, (first a rest).bytes = a :: tail ∧ tail <+: rest := by
  fun_cases first a rest <;> simp [stray]

theorem first_bytes_append (a : UInt8) (rest : Text) :
    (first a rest).bytes ++ rest.drop ((first a rest).bytes.length - 1) = a :: rest := by
  obtain ⟨tail, bytes, after, rfl⟩ := first_bytes a rest
  simp [bytes]

theorem first_bytes_length (a : UInt8) (rest : Text) :
    (first a rest).bytes.length - 1 ≤ rest.length := by
  obtain ⟨tail, bytes, start⟩ := first_bytes a rest
  simpa [bytes] using start.length_le

theorem units_pos (p : CodePoint) : 0 < p.units := by
  unfold units
  split <;> omega

theorem first_ascii {a : UInt8} (ascii : a < 0x80) (rest : Text) :
    first a rest = ⟨[a], a.toNat⟩ := by
  simp [first, ascii]

theorem first_append (a : UInt8) (body rest : Text) (cut : rest.head?.all (!isTail ·)) :
    first a (body ++ rest) = first a body := by
  have noPair (c d : UInt8) (other : isTail d = false) : isPair c d = false := by
    simp [isPair, other]
  have noTriple (c d e : UInt8) (other : isTail d = false ∨ isTail e = false) :
      isTriple c d e = false := by
    rcases other with other | other <;> simp [isTriple, other]
  have noQuad (c d e f : UInt8) (other : isTail d = false ∨ isTail e = false ∨ isTail f = false) :
      isQuad c d e f = false := by
    rcases other with other | other | other <;> simp [isQuad, other]
  cases rest with
  | nil => simp
  | cons c rest =>
    simp at cut
    -- Only three bytes after the first are looked at.
    match body with
    | [] => cases rest with
      | nil => simp [first, noPair, cut]
      | cons d rest => cases rest <;> simp [first, noPair, noTriple, noQuad, cut]
    | [b] => cases rest <;> simp [first, noTriple, noQuad, cut]
    | [b, d] => simp [first, noQuad, cut]
    | b :: d :: e :: body => simp [first]

theorem first_of_le {a : UInt8} {body rest : Text}
    (inside : (first a (body ++ rest)).bytes.length ≤ body.length + 1) :
    first a body = first a (body ++ rest) := by
  revert inside
  match body, rest with
  | [], rest => fun_cases first a rest <;> grind [first, stray]
  | [b], [] | [b, c], [] => simp
  | [b], c :: rest => cases rest <;> grind [first, stray]
  | [b, c], d :: rest => grind [first, stray]
  | b :: c :: d :: body, _ => simp [first]

end CodePoint

namespace Text

open CodePoint

theorem codePoints_induction {motive : Text → Prop} (nil : motive [])
    (cons : ∀ b rest, motive (rest.drop ((first b rest).bytes.length - 1)) → motive (b :: rest))
    (text : Text) : motive text := by
  match text with
  | [] => exact nil
  | b :: rest => exact cons b rest (codePoints_induction nil cons _)
termination_by text.length
decreasing_by
  simp only [List.length_drop, List.length_cons]
  omega

theorem codePoints_ascii_cons {a : UInt8} (ascii : a < 0x80) (rest : Text) :
    codePoints (a :: rest) = ⟨[a], a.toNat⟩ :: rest.codePoints := by
  rw [codePoints_cons, first_ascii ascii]
  rfl

theorem ofCodePoints_codePoints (text : Text) : ofCodePoints text.codePoints = text := by
  induction text using codePoints_induction with
  | nil => rfl
  | cons b rest ih =>
    rw [codePoints_cons, ofCodePoints, List.flatMap_cons]
    rw [ofCodePoints] at ih
    rw [ih, first_bytes_append]

theorem codePoints_append (body rest : Text) (cut : rest.head?.all (!isTail ·)) :
    (body ++ rest).codePoints = body.codePoints ++ rest.codePoints := by
  induction body using codePoints_induction with
  | nil => simp
  | cons b body ih =>
    rw [List.cons_append, codePoints_cons, codePoints_cons, first_append b body rest cut,
      List.drop_append_of_le_length (first_bytes_length b body), ih, List.cons_append]

theorem advance_nonpos {units : Int} (done : units ≤ 0) (points : List CodePoint) :
    advance units points = 0 := by
  cases points <;> simp [advance, done]

def width (points : List CodePoint) : Nat := points.foldr (fun p units => p.units + units) 0

theorem utf16Length_eq_width (text : Text) : text.utf16Length = width text.codePoints := rfl

@[simp]
theorem width_nil : width [] = 0 := rfl

@[simp]
theorem width_cons (p : CodePoint) (points : List CodePoint) :
    width (p :: points) = p.units + width points := rfl

theorem width_append (before after : List CodePoint) :
    width (before ++ after) = width before + width after := by
  induction before with
  | nil => simp
  | cons p before ih => simp [ih, Nat.add_assoc]

theorem length_ofCodePoints_cons (p : CodePoint) (points : List CodePoint) :
    (ofCodePoints (p :: points)).length = p.bytes.length + (ofCodePoints points).length := by
  simp [ofCodePoints]

theorem advance_le {before : List CodePoint} {units : Int} (held : units ≤ width before)
    (after : List CodePoint) : advance units (before ++ after) ≤ (ofCodePoints before).length := by
  induction before generalizing units with
  | nil =>
    rw [advance_nonpos (by simpa using held)]
    exact Nat.zero_le _
  | cons p before ih =>
    rw [width_cons] at held
    have later := ih (show units - p.units ≤ width before by omega)
    rw [List.cons_append, advance, length_ofCodePoints_cons]
    split <;> omega

theorem advance_append (before after : List CodePoint) {units : Int} (beyond : 0 ≤ units) :
    advance (width before + units) (before ++ after) =
      (ofCodePoints before).length + advance units after := by
  induction before with
  | nil => simp [ofCodePoints]
  | cons p before ih =>
    have positive := units_pos p
    have rest : (width (p :: before) : Int) + units - p.units = width before + units := by
      rw [width_cons]
      omega
    rw [List.cons_append, advance, if_neg (by rw [width_cons]; omega), rest, ih,
      length_ofCodePoints_cons, Nat.add_assoc]

theorem byteOffset_utf16Length (text : Text) : text.byteOffset text.utf16Length = text.length := by
  have walked := advance_append text.codePoints [] (Int.le_refl 0)
  rwa [List.append_nil, Int.add_zero, ofCodePoints_codePoints] at walked

theorem utf16Length_pos {text : Text} (filled : text ≠ []) : 0 < text.utf16Length := by
  cases text with
  | nil => contradiction
  | cons b rest =>
    have positive := units_pos (first b rest)
    rw [utf16Length_eq_width, codePoints_cons, width_cons]
    omega

theorem getLast?_of_codePoints {p : CodePoint} {text : Text} {b : UInt8}
    (last : text.codePoints.getLast? = some p) (bytes : p.bytes = [b]) :
    text.getLast? = some b := by
  obtain ⟨before, points⟩ := List.getLast?_eq_some_iff.mp last
  have whole := ofCodePoints_codePoints text
  rw [points, ofCodePoints, List.flatMap_append, List.flatMap_singleton, bytes] at whole
  simp [← whole]

theorem mem_of_mem_bytes {p : CodePoint} {text : Text} (member : p ∈ text.codePoints) {b : UInt8}
    (inside : b ∈ p.bytes) : b ∈ text := by
  rw [← ofCodePoints_codePoints text]
  exact List.mem_flatMap.mpr ⟨p, member, inside⟩

end Text

end LintServer
