import LintServer.Position

set_option autoImplicit false

namespace LintServer.Position

theorem lt_iff {a b : Position} : a < b ↔ a.line.toNat < b.line.toNat ∨
    a.line.toNat = b.line.toNat ∧ a.character.toNat < b.character.toNat := by
  change lt a b = true ↔ _
  unfold lt
  split
  · next other =>
    have lines : a.line.toNat ≠ b.line.toNat := fun same => other (UInt32.toNat_inj.mp same)
    simp [lines, UInt32.lt_iff_toNat_lt]
  · next same =>
    have lines : a.line = b.line := by simpa using same
    simp [lines, UInt32.lt_iff_toNat_lt]

theorem le_iff {a b : Position} : a ≤ b ↔ a.line.toNat < b.line.toNat ∨
    a.line.toNat = b.line.toNat ∧ a.character.toNat ≤ b.character.toNat := by
  change ¬ b < a ↔ _
  rw [lt_iff]
  omega

theorem le_trans {a b c : Position} (first : a ≤ b) (second : b ≤ c) : a ≤ c := by
  rw [le_iff] at *
  omega

theorem le_total (a b : Position) : a ≤ b ∨ b ≤ a := by
  rw [le_iff, le_iff]
  omega

theorem le_antisymm {a b : Position} (below : a ≤ b) (above : b ≤ a) : a = b := by
  rw [le_iff] at below above
  have line : a.line = b.line := UInt32.toNat_inj.mp (by omega)
  have character : a.character = b.character := UInt32.toNat_inj.mp (by omega)
  cases a
  cases b
  simp_all

theorem lt_of_le_of_ne {a b : Position} (below : a ≤ b) (different : a ≠ b) : a < b :=
  Decidable.byContradiction fun above => different (le_antisymm below above)

end LintServer.Position
