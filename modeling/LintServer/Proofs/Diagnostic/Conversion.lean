import Mathlib.Logic.Basic
import LintServer.Diagnostic.Finding
import LintServer.Proofs.Position

set_option autoImplicit false

namespace LintServer.Span

-- The number before each of the four, or zero, has 32 bits. No number comes before the least one.
def Converts (s : Span) : Prop :=
  ∀ n ∈ [s.lineStart, s.columnStart, s.lineEnd, s.columnEnd],
    n ≠ Int64.minValue ∧ n.toInt ≤ 4294967296

-- By name, for the numbers of 64 bits could also be enumerated.
instance : DecidablePred Converts := fun s =>
  List.decidableBAll _ [s.lineStart, s.columnStart, s.lineEnd, s.columnEnd]

def range (s : Span) : Range :=
  let before (n : Int64) : UInt32 := (n.toInt - 1).toNat.toUInt32
  ⟨⟨before s.lineStart, before s.columnStart⟩, ⟨before s.lineEnd, before s.columnEnd⟩⟩

theorem ne_minValue_iff (n : Int64) : n ≠ Int64.minValue ↔ -9223372036854775808 < n.toInt := by
  have low := n.minValue_le_toInt
  have least : Int64.minValue.toInt = -9223372036854775808 := by decide
  rw [ne_eq, ← Int64.toInt_inj, least]
  omega

theorem toInt_sub_one {n : Int64} (before : n ≠ Int64.minValue) : (n - 1).toInt = n.toInt - 1 := by
  have low := (ne_minValue_iff n).mp before
  have high := n.toInt_lt
  rw [Int64.toInt_sub, Int64.toInt_one]
  exact Int.bmod_eq_of_le (by omega) (by omega)

theorem zeroBased?_eq (n : Int64) : zeroBased? n =
    if n ≠ Int64.minValue ∧ n.toInt ≤ 4294967296 then some (n.toInt - 1).toNat.toUInt32 else none := by
  by_cases least : n = Int64.minValue
  · subst least
    decide
  · have before := toInt_sub_one least
    have negative : n - 1 < 0 ↔ n.toInt - 1 < 0 := by
      rw [Int64.lt_iff_toInt_lt, before]
      rfl
    have clipped : (if n - 1 < 0 then 0 else n - 1).toInt = max (n.toInt - 1) 0 := by
      by_cases below : n - 1 < 0
      · rw [if_pos below, Int.max_eq_right (by have := negative.mp below; omega)]
        rfl
      · rw [if_neg below, before, Int.max_eq_left (by have := mt negative.mpr below; omega)]
    have small : max (n.toInt - 1) 0 < 4294967296 ↔ n.toInt ≤ 4294967296 := by omega
    have number : (max (n.toInt - 1) 0).toNat = (n.toInt - 1).toNat := by omega
    simp only [zeroBased?, clipped, small, number, least, ne_eq, not_false_eq_true, true_and]

theorem range?_eq (s : Span) : s.range? = if s.Converts then some s.range else none := by
  have chain {α β : Type} (p : Prop) [Decidable p] (a : α) (f : α → Option β) :
      ((if p then some a else none) >>= f) = if p then f a else none := by
    split <;> rfl
  simp only [range?, zeroBased?_eq, chain, ← ite_and, Converts, List.forall_mem_cons]
  simp [range]

theorem toNat_before {n : Int64} (small : n.toInt ≤ 4294967296) :
    ((n.toInt - 1).toNat.toUInt32.toNat : Int) = max (n.toInt - 1) 0 := by
  have fits : (n.toInt - 1).toNat < UInt32.size := by
    rw [show UInt32.size = 4294967296 from rfl]
    omega
  rw [Nat.toUInt32_eq, UInt32.toNat_ofNat_of_lt' fits]
  omega

namespace Converts

variable {s : Span} (converts : s.Converts)

include converts

theorem numbers :
    (s.range.start.line.toNat : Int) = max (s.lineStart.toInt - 1) 0 ∧
    (s.range.start.character.toNat : Int) = max (s.columnStart.toInt - 1) 0 ∧
    (s.range.stop.line.toNat : Int) = max (s.lineEnd.toInt - 1) 0 ∧
    (s.range.stop.character.toNat : Int) = max (s.columnEnd.toInt - 1) 0 := by
  refine ⟨?_, ?_, ?_, ?_⟩ <;> exact toNat_before (converts _ (by simp)).2

-- Numbers below one would all become zero.
theorem start_le_stop_iff
    (positive : ∀ n ∈ [s.lineStart, s.columnStart, s.lineEnd, s.columnEnd], 0 < n) :
    s.range.start ≤ s.range.stop ↔
      s.lineStart < s.lineEnd ∨ s.lineStart = s.lineEnd ∧ s.columnStart ≤ s.columnEnd := by
  obtain ⟨firstLine, firstColumn, lastLine, lastColumn⟩ := converts.numbers
  simp only [List.forall_mem_cons, Int64.lt_iff_toInt_lt, Int64.toInt_zero] at positive
  rw [Position.le_iff, Int64.lt_iff_toInt_lt, Int64.le_iff_toInt_le, ← Int64.toInt_inj]
  omega

end Converts

theorem range?_counts_from_zero (s : Span) :
    let numbers := [s.lineStart, s.columnStart, s.lineEnd, s.columnEnd]
    (s.range? ≠ none ↔
      ∀ n ∈ numbers, -9223372036854775808 < n.toInt ∧ n.toInt ≤ 4294967296) ∧
    ∀ r, s.range? = some r →
      (r.start.line.toNat : Int) = max (s.lineStart.toInt - 1) 0 ∧
      (r.start.character.toNat : Int) = max (s.columnStart.toInt - 1) 0 ∧
      (r.stop.line.toNat : Int) = max (s.lineEnd.toInt - 1) 0 ∧
      (r.stop.character.toNat : Int) = max (s.columnEnd.toInt - 1) 0 ∧
      ((∀ n ∈ numbers, 0 < n) → (r.start ≤ r.stop ↔
        s.lineStart < s.lineEnd ∨ s.lineStart = s.lineEnd ∧ s.columnStart ≤ s.columnEnd)) := by
  intro numbers
  constructor
  · have converts : s.Converts ↔
        ∀ n ∈ numbers, -9223372036854775808 < n.toInt ∧ n.toInt ≤ 4294967296 := by
      simp only [Converts, ne_minValue_iff, numbers]
    rw [range?_eq, ← converts]
    simp
  · intro r found
    rw [range?_eq] at found
    obtain ⟨converts, same⟩ := Option.ite_none_right_eq_some.mp found
    obtain rfl := Option.some.inj same
    obtain ⟨firstLine, firstColumn, lastLine, lastColumn⟩ := converts.numbers
    exact ⟨firstLine, firstColumn, lastLine, lastColumn, converts.start_le_stop_iff⟩

theorem range?_counts_from_zero_greatest :
    let s : Span := ⟨[], 1, 2, 4294967296, 1, none, none, none⟩
    let r : Range := ⟨⟨0, 4294967295⟩, ⟨1, 0⟩⟩
    s.range? = some r ∧ r.start ≤ r.stop ∧
      range? ⟨[], Int64.minValue, 2, 4294967296, 1, none, none, none⟩ = none := by
  intro s r
  have found : s.range? = some r := by decide
  obtain ⟨-, -, -, -, ordered⟩ := (range?_counts_from_zero s).2 r found
  have positive : ∀ n ∈ [s.lineStart, s.columnStart, s.lineEnd, s.columnEnd], 0 < n := by
    simp [s]
  exact ⟨found, (ordered positive).mpr (.inl (by decide)), by decide⟩

-- Lines zero and one are the same, so the order of the columns decides.
example : range? ⟨[], 0, 1, 5, 2, none, none, none⟩ = some ⟨⟨0, 4⟩, ⟨0, 1⟩⟩ := by decide

end LintServer.Span
