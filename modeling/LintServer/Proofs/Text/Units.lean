import LintServer.Proofs.Text.Boundary

set_option autoImplicit false

namespace LintServer.Text

open CodePoint

theorem byteOffset_pos {text : Text} (filled : text ≠ []) {units : Int} (more : 0 < units) :
    0 < text.byteOffset units := by
  cases text with
  | nil => contradiction
  | cons b rest =>
    obtain ⟨tail, bytes, -⟩ := first_bytes b rest
    rw [byteOffset, codePoints_cons, advance, if_neg (by omega), bytes, List.length_cons]
    omega

theorem byteOffset_first {text : Text} {p : CodePoint} (first : text.codePoints.head? = some p)
    {units : Int} (more : 0 < units) (inside : units ≤ p.units) :
    text.byteOffset units = p.bytes.length := by
  obtain ⟨points, split⟩ := List.head?_eq_some_iff.mp first
  rw [byteOffset, split, advance, if_neg (by omega), advance_nonpos (by omega), Nat.add_zero]

namespace Boundary

variable {text : Text} {n : Nat} (boundary : text.Boundary n)

include boundary

theorem utf16Length_add :
    text.utf16Length = utf16Length (text.take n) + utf16Length (text.drop n) := by
  simp only [utf16Length_eq_width, ← width_append, ← boundary.codePoints_eq]

theorem utf16Length_next {p : CodePoint} (first : (codePoints (text.drop n)).head? = some p) :
    utf16Length (text.take (n + p.bytes.length)) = utf16Length (text.take n) + p.units := by
  obtain ⟨before, after, points, rfl⟩ := boundary
  rw [codePoints_drop points] at first
  obtain ⟨rest, rfl⟩ := List.head?_eq_some_iff.mp first
  have longer : text.codePoints = (before ++ [p]) ++ rest := by simp [points]
  have length : (ofCodePoints (before ++ [p])).length =
      (ofCodePoints before).length + p.bytes.length := by
    simp [ofCodePoints]
  rw [← length, utf16Length_eq_width, utf16Length_eq_width, codePoints_take longer,
    codePoints_take points, width_append, width_cons, width_nil, Nat.add_zero]

theorem byteOffset_add {units : Int} (beyond : 0 ≤ units) :
    text.byteOffset (utf16Length (text.take n) + units) = n + byteOffset (text.drop n) units := by
  rw [byteOffset, boundary.codePoints_eq, utf16Length_eq_width, advance_append _ _ beyond,
    ofCodePoints_codePoints, List.length_take_of_le boundary.le_length, byteOffset]

theorem byteOffset_le {units : Int} (held : units ≤ utf16Length (text.take n)) :
    text.byteOffset units ≤ n := by
  have stop := advance_le held (codePoints (text.drop n))
  rwa [← boundary.codePoints_eq, ofCodePoints_codePoints,
    List.length_take_of_le boundary.le_length] at stop

theorem byteOffset_le_iff (units : Int) :
    text.byteOffset units ≤ n ↔ units ≤ utf16Length (text.take n) ∨ n = text.length := by
  constructor
  · intro reached
    by_cases held : units ≤ utf16Length (text.take n)
    · exact .inl held
    · -- One more unit would pass another code point, so none is left.
      obtain ⟨rest, rfl⟩ : ∃ rest : Int, units = utf16Length (text.take n) + rest :=
        ⟨units - utf16Length (text.take n), by omega⟩
      rw [boundary.byteOffset_add (by omega)] at reached
      have short := boundary.le_length
      by_cases ended : text.drop n = []
      · rw [List.drop_eq_nil_iff] at ended
        exact .inr (by omega)
      · have passed := byteOffset_pos ended (show 0 < rest by omega)
        omega
  · rintro (held | rfl)
    · exact boundary.byteOffset_le held
    · exact (boundary_byteOffset text units).le_length

end Boundary

-- The byte offset of units is the least boundary that has at least as many units before it, or the
-- end of the line. From between the two units of a surrogate pair it is behind the pair.
theorem byteOffset_least_boundary (line : Text) (units : Int) (n : Nat)
    (boundary : line.Boundary n) :
    line.Boundary (line.byteOffset units) ∧
    (line.byteOffset units ≤ n ↔ units ≤ utf16Length (line.take n) ∨ n = line.length) ∧
    (∀ p, (codePoints (line.drop n)).head? = some p → 0x10000 ≤ p.scalar →
      utf16Length (line.take (n + p.bytes.length)) = utf16Length (line.take n) + 2 ∧
      line.byteOffset (utf16Length (line.take n) + 1) = n + p.bytes.length) ∧
    line.utf16Length = utf16Length (line.take n) + utf16Length (line.drop n) := by
  refine ⟨boundary_byteOffset line units, boundary.byteOffset_le_iff units, ?_,
    boundary.utf16Length_add⟩
  intro p first pair
  have two : p.units = 2 := if_neg (Nat.not_lt.mpr pair)
  constructor
  · rw [boundary.utf16Length_next first, two]
  · rw [boundary.byteOffset_add (by omega), byteOffset_first first (by omega) (by omega)]

-- Behind a stray byte, from between the units of a pair to behind it.
theorem byteOffset_least_boundary_pair :
    let line : Text := [0xFF, 0xF0, 0x9F, 0x98, 0x80, 0x61]
    line.Boundary 1 ∧ line.Boundary (line.byteOffset 2) ∧
      (codePoints (line.drop 1)).head? = some ⟨[0xF0, 0x9F, 0x98, 0x80], 0x1F600⟩ ∧
      line.byteOffset 2 = 5 ∧ ¬ line.byteOffset 2 ≤ 1 ∧
      line.utf16Length = utf16Length (line.take 1) + utf16Length (line.drop 1) := by
  intro line
  have boundary : line.Boundary 1 :=
    ⟨line.codePoints.take 1, line.codePoints.drop 1, (List.take_append_drop 1 _).symm, rfl⟩
  obtain ⟨between, least, behind, sum⟩ := byteOffset_least_boundary line 2 1 boundary
  exact ⟨boundary, between, rfl, (behind _ rfl (by decide)).2,
    fun below => absurd (least.mp below) (by decide), sum⟩

end LintServer.Text
