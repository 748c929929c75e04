import LintServer.Proofs.Text.CodePoint

set_option autoImplicit false

namespace LintServer

namespace CodePoint

structure Sound (p : CodePoint) : Prop where
  bytes : p.bytes = encode p.scalar
  notSurrogate : ¬ (0xD800 ≤ p.scalar ∧ p.scalar ≤ 0xDFFF)
  small : p.scalar ≤ 0x10FFFF

theorem isTail_iff {b : UInt8} : isTail b ↔ 0x80 ≤ b.toNat ∧ b.toNat ≤ 0xBF := by
  simp [isTail, UInt8.le_iff_toNat_le]

theorem isPair_iff {a b : UInt8} :
    isPair a b ↔ (0xC2 ≤ a.toNat ∧ a.toNat ≤ 0xDF) ∧ 0x80 ≤ b.toNat ∧ b.toNat ≤ 0xBF := by
  simp [isPair, isTail_iff, UInt8.le_iff_toNat_le]

theorem isTriple_iff {a b c : UInt8} :
    isTriple a b c ↔ (0xE0 ≤ a.toNat ∧ a.toNat ≤ 0xEF) ∧ (0x80 ≤ b.toNat ∧ b.toNat ≤ 0xBF) ∧
      (0x80 ≤ c.toNat ∧ c.toNat ≤ 0xBF) ∧ (a.toNat = 0xE0 → 0xA0 ≤ b.toNat) ∧
      (a.toNat = 0xED → b.toNat ≤ 0x9F) := by
  simp only [isTriple, Bool.and_eq_true, Bool.or_eq_true, decide_eq_true_eq, bne_iff_ne, ne_eq,
    isTail_iff, UInt8.le_iff_toNat_le, ← UInt8.toNat_inj, UInt8.toNat_ofNat]
  omega

theorem isQuad_iff {a b c d : UInt8} :
    isQuad a b c d ↔ (0xF0 ≤ a.toNat ∧ a.toNat ≤ 0xF4) ∧ (0x80 ≤ b.toNat ∧ b.toNat ≤ 0xBF) ∧
      (0x80 ≤ c.toNat ∧ c.toNat ≤ 0xBF) ∧ (0x80 ≤ d.toNat ∧ d.toNat ≤ 0xBF) ∧
      (a.toNat = 0xF0 → 0x90 ≤ b.toNat) ∧ (a.toNat = 0xF4 → b.toNat ≤ 0x8F) := by
  simp only [isQuad, Bool.and_eq_true, Bool.or_eq_true, decide_eq_true_eq, bne_iff_ne, ne_eq,
    isTail_iff, UInt8.le_iff_toNat_le, ← UInt8.toNat_inj, UInt8.toNat_ofNat]
  omega

theorem toUInt8_eq {b : UInt8} {n : Nat} (same : n = b.toNat) : n.toUInt8 = b := by
  simp [same]

theorem encode_ascii {a : UInt8} (ascii : a < 0x80) : encode a.toNat = [a] := by
  have small : a.toNat < 0x80 := UInt8.lt_iff_toNat_lt.mp ascii
  simp [encode, small]

theorem encode_pair {a b : UInt8} (pair : isPair a b) :
    encode ((a.toNat - 0xC0) * 0x40 + (b.toNat - 0x80)) = [a, b] := by
  rw [isPair_iff] at pair
  rw [encode, if_neg (by omega), if_pos (by omega), toUInt8_eq (b := a) (by omega),
    toUInt8_eq (b := b) (by omega)]

theorem encode_triple {a b c : UInt8} (triple : isTriple a b c) :
    encode ((a.toNat - 0xE0) * 0x1000 + (b.toNat - 0x80) * 0x40 + (c.toNat - 0x80)) = [a, b, c] := by
  rw [isTriple_iff] at triple
  rw [encode, if_neg (by omega), if_neg (by omega), if_neg (by omega), if_pos (by omega),
    toUInt8_eq (b := a) (by omega), toUInt8_eq (b := b) (by omega), toUInt8_eq (b := c) (by omega)]

theorem encode_quad {a b c d : UInt8} (quad : isQuad a b c d) :
    encode ((a.toNat - 0xF0) * 0x40000 + (b.toNat - 0x80) * 0x1000 + (c.toNat - 0x80) * 0x40 +
      (d.toNat - 0x80)) = [a, b, c, d] := by
  rw [isQuad_iff] at quad
  rw [encode, if_neg (by omega), if_neg (by omega), if_neg (by omega), if_neg (by omega),
    toUInt8_eq (b := a) (by omega), toUInt8_eq (b := b) (by omega), toUInt8_eq (b := c) (by omega),
    toUInt8_eq (b := d) (by omega)]

theorem Sound.intro {bytes : Text} {scalar : Nat} (sequence : encode scalar = bytes)
    (notSurrogate : ¬ (0xD800 ≤ scalar ∧ scalar ≤ 0xDFFF)) (small : scalar ≤ 0x10FFFF) :
    Sound ⟨bytes, scalar⟩ :=
  ⟨sequence.symm, notSurrogate, small⟩

theorem not_wellFormed_stray {a : UInt8} (high : ¬ a < 0x80) : ¬ (stray a).wellFormed := by
  simpa [stray, wellFormed] using high

theorem first_sound {a : UInt8} {rest : Text} (wellFormed : (first a rest).wellFormed) :
    (first a rest).Sound := by
  revert wellFormed
  fun_cases first a rest with
  | case1 _ ascii =>
    have small : a.toNat < 0x80 := UInt8.lt_iff_toNat_lt.mp ascii
    exact fun _ => .intro (encode_ascii ascii) (by omega) (by omega)
  | case3 high b rest pair =>
    have bounds := isPair_iff.mp pair
    exact fun _ => .intro (encode_pair pair) (by omega) (by omega)
  | case5 high b noPair c rest triple =>
    have bounds := isTriple_iff.mp triple
    exact fun _ => .intro (encode_triple triple) (by omega) (by omega)
  | case7 high b noPair c noTriple d rest quad =>
    have bounds := isQuad_iff.mp quad
    exact fun _ => .intro (encode_quad quad) (by omega) (by omega)
  | _ => exact fun wellFormed => absurd wellFormed (not_wellFormed_stray ‹_›)

theorem mem_encode {scalar : Nat} {b : UInt8} (member : b ∈ encode scalar) :
    scalar < 0x80 ∧ b = scalar.toUInt8 ∨ 0x80 ≤ b.toNat := by
  unfold encode at member
  split at member
  · next small => exact .inl ⟨small, List.mem_singleton.mp member⟩
  · right
    have large (n : Nat) (low : 0x80 ≤ n) (high : n < 0x100) : 0x80 ≤ n.toUInt8.toNat := by
      simpa [Nat.mod_eq_of_lt high] using low
    split at member
    · simp only [List.mem_cons, List.not_mem_nil, or_false] at member
      rcases member with rfl | rfl <;> exact large _ (by omega) (by omega)
    · split at member
      · simp only [List.mem_cons, List.not_mem_nil, or_false] at member
        rcases member with rfl | rfl | rfl <;> decide
      · split at member
        · simp only [List.mem_cons, List.not_mem_nil, or_false] at member
          rcases member with rfl | rfl | rfl <;> exact large _ (by omega) (by omega)
        · simp only [List.mem_cons, List.not_mem_nil, or_false] at member
          rcases member with rfl | rfl | rfl | rfl <;> exact large _ (by omega) (by omega)

end CodePoint

namespace Text

open CodePoint

theorem sound_of_mem_codePoints {text : Text} {p : CodePoint} (member : p ∈ text.codePoints)
    (wellFormed : p.wellFormed) : p.Sound := by
  induction text using codePoints_induction with
  | nil => simp at member
  | cons b rest ih =>
    rw [codePoints_cons, List.mem_cons] at member
    rcases member with rfl | later
    · exact first_sound wellFormed
    · exact ih later

theorem sound_of_isUtf8 {text : Text} (unicode : text.isUtf8) : ∀ p ∈ text.codePoints, p.Sound :=
  fun p member => sound_of_mem_codePoints member (List.all_eq_true.mp unicode p member)

theorem repair_of_isUtf8 {text : Text} (unicode : text.isUtf8) : text.repair = text := by
  have same : text.codePoints.map (fun p => encode p.scalar) = text.codePoints.map bytes :=
    List.map_congr_left fun p member => (sound_of_isUtf8 unicode p member).bytes.symm
  rw [Text.repair, List.flatMap_def, same, ← List.flatMap_def]
  exact ofCodePoints_codePoints text

end Text

end LintServer
