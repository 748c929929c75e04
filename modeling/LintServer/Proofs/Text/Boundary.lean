import LintServer.Proofs.Text.Unicode

set_option autoImplicit false

namespace LintServer.Text

open CodePoint

def Boundary (text : Text) (n : Nat) : Prop :=
  ∃ before after, text.codePoints = before ++ after ∧ (ofCodePoints before).length = n

theorem ofCodePoints_append (before after : List CodePoint) :
    ofCodePoints (before ++ after) = ofCodePoints before ++ ofCodePoints after :=
  List.flatMap_append

theorem Boundary.le_length {text : Text} {n : Nat} (boundary : text.Boundary n) :
    n ≤ text.length := by
  obtain ⟨before, after, points, rfl⟩ := boundary
  rw [← ofCodePoints_codePoints text, points, ofCodePoints_append, List.length_append]
  omega

theorem boundary_length (text : Text) : text.Boundary text.length :=
  ⟨text.codePoints, [], by simp, by rw [ofCodePoints_codePoints]⟩

theorem boundary_byteOffset (text : Text) (units : Int) :
    text.Boundary (text.byteOffset units) := by
  have walk (points : List CodePoint) (units : Int) :
      ∃ before after, points = before ++ after ∧
        (ofCodePoints before).length = advance units points := by
    induction points generalizing units with
    | nil => exact ⟨[], [], rfl, rfl⟩
    | cons p points ih =>
      rw [advance]
      by_cases done : units ≤ 0
      · exact ⟨[], p :: points, rfl, by simp [done, ofCodePoints]⟩
      · obtain ⟨before, after, rfl, length⟩ := ih (units - p.units)
        refine ⟨p :: before, after, rfl, ?_⟩
        rw [if_neg done, ← length]
        simp [ofCodePoints]
  exact walk text.codePoints units

theorem Boundary.append_right {body : Text} {n : Nat} (boundary : body.Boundary n) {rest : Text}
    (apart : (body ++ rest).codePoints = body.codePoints ++ rest.codePoints) :
    (body ++ rest).Boundary n := by
  obtain ⟨before, after, points, length⟩ := boundary
  exact ⟨before, after ++ rest.codePoints, by rw [apart, points, List.append_assoc], length⟩

theorem Boundary.append_left {rest : Text} {n : Nat} (boundary : rest.Boundary n) {body : Text}
    (apart : (body ++ rest).codePoints = body.codePoints ++ rest.codePoints) :
    (body ++ rest).Boundary (body.length + n) := by
  obtain ⟨before, after, points, length⟩ := boundary
  refine ⟨body.codePoints ++ before, after, by rw [apart, points, List.append_assoc], ?_⟩
  rw [ofCodePoints_append, ofCodePoints_codePoints, List.length_append, length]

-- An ASCII byte is in no longer sequence, so a text may be cut after it whatever follows.
theorem codePoints_append_ascii {a : UInt8} (ascii : a < 0x80) (body rest : Text) :
    (body ++ [a] ++ rest).codePoints = (body ++ [a]).codePoints ++ rest.codePoints := by
  have noTail : isTail a = false := by
    rw [Bool.eq_false_iff, ne_eq, isTail_iff]
    have small : a.toNat < 0x80 := UInt8.lt_iff_toNat_lt.mp ascii
    omega
  rw [List.append_assoc, codePoints_append body ([a] ++ rest) (by simp [noTail]),
    codePoints_append body [a] (by simp [noTail]), List.singleton_append,
    codePoints_ascii_cons ascii, codePoints_ascii_cons ascii]
  simp

theorem codePoints_drop {text : Text} {before after : List CodePoint}
    (points : text.codePoints = before ++ after) :
    codePoints (text.drop (ofCodePoints before).length) = after := by
  induction text using codePoints_induction generalizing before with
  | nil =>
    obtain ⟨rfl, rfl⟩ := List.append_eq_nil_iff.mp points.symm
    rfl
  | cons b rest ih =>
    cases before with
    | nil => simpa [ofCodePoints] using points
    | cons p before =>
      rw [codePoints_cons, List.cons_append] at points
      obtain ⟨rfl, later⟩ := List.cons.inj points
      obtain ⟨tail, bytes, -⟩ := first_bytes b rest
      rw [← ih later, bytes, List.drop_drop]
      simp [ofCodePoints, bytes]

theorem codePoints_take {text : Text} {before after : List CodePoint}
    (points : text.codePoints = before ++ after) :
    codePoints (text.take (ofCodePoints before).length) = before := by
  induction text using codePoints_induction generalizing before with
  | nil =>
    obtain ⟨rfl, rfl⟩ := List.append_eq_nil_iff.mp points.symm
    rfl
  | cons b rest ih =>
    cases before with
    | nil => simp [ofCodePoints]
    | cons p before =>
      rw [codePoints_cons, List.cons_append] at points
      obtain ⟨rfl, later⟩ := List.cons.inj points
      have next := ih later
      obtain ⟨tail, bytes, more, rfl⟩ := first_bytes b rest
      rw [bytes, List.length_cons, Nat.add_sub_cancel, List.drop_left] at next
      have taken : (b :: (tail ++ more)).take (ofCodePoints (first b (tail ++ more) :: before)).length =
          b :: (tail ++ more.take (ofCodePoints before).length) := by
        rw [ofCodePoints, List.flatMap_cons, bytes, List.length_append, ← List.cons_append,
          List.take_length_add_append]
        rfl
      -- The first code point is the same one without what is cut off.
      have same : first b (tail ++ more.take (ofCodePoints before).length) = first b (tail ++ more) := by
        have whole : tail ++ more = tail ++ more.take (ofCodePoints before).length ++
            more.drop (ofCodePoints before).length := by simp
        rw [whole] at bytes ⊢
        apply first_of_le
        rw [bytes]
        simp
      rw [taken, codePoints_cons, same, bytes, List.length_cons, Nat.add_sub_cancel, List.drop_left,
        next]

theorem Boundary.codePoints_eq {text : Text} {n : Nat} (boundary : text.Boundary n) :
    text.codePoints = codePoints (text.take n) ++ codePoints (text.drop n) := by
  obtain ⟨before, after, points, rfl⟩ := boundary
  rw [codePoints_take points, codePoints_drop points, points]

theorem isTail_head_first {b : UInt8} {rest : Text} (wellFormed : (first b rest).wellFormed) :
    isTail b = false := by
  rw [Bool.eq_false_iff, ne_eq, isTail_iff]
  revert wellFormed
  fun_cases first b rest with
  | case1 _ ascii =>
    have small : b.toNat < 0x80 := UInt8.lt_iff_toNat_lt.mp ascii
    omega
  | case3 _ _ _ pair =>
    have bounds := isPair_iff.mp pair
    omega
  | case5 _ _ _ _ _ triple =>
    have bounds := isTriple_iff.mp triple
    omega
  | case7 _ _ _ _ _ _ _ quad =>
    have bounds := isQuad_iff.mp quad
    omega
  | _ => exact fun wellFormed => absurd wellFormed (not_wellFormed_stray ‹_›)

theorem head_of_isUtf8 {text : Text} (unicode : text.isUtf8) : text.head?.all (!isTail ·) := by
  cases text with
  | nil => rfl
  | cons b rest =>
    rw [isUtf8, codePoints_cons, List.all_cons, Bool.and_eq_true] at unicode
    simp [isTail_head_first unicode.1]

theorem isUtf8_append {a b : Text} (first : a.isUtf8) (second : b.isUtf8) : (a ++ b).isUtf8 := by
  rw [isUtf8, codePoints_append a b (head_of_isUtf8 second), List.all_append, Bool.and_eq_true]
  exact ⟨first, second⟩

theorem Boundary.isUtf8_drop {text : Text} {n : Nat} (boundary : text.Boundary n)
    (unicode : text.isUtf8) : isUtf8 (text.drop n) := by
  obtain ⟨before, after, points, rfl⟩ := boundary
  rw [isUtf8, points, List.all_append, Bool.and_eq_true] at unicode
  rw [isUtf8, codePoints_drop points]
  exact unicode.2

theorem Boundary.isUtf8_take {text : Text} {n : Nat} (boundary : text.Boundary n)
    (unicode : text.isUtf8) : isUtf8 (text.take n) := by
  obtain ⟨before, after, points, rfl⟩ := boundary
  rw [isUtf8, points, List.all_append, Bool.and_eq_true] at unicode
  rw [isUtf8, codePoints_take points]
  exact unicode.1

end LintServer.Text
