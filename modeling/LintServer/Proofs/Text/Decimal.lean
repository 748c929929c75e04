import LintServer.Text.Basic

set_option autoImplicit false

namespace LintServer.Text

theorem ofString_append (a b : List Char) :
    ofString (String.ofList (a ++ b)) = ofString (String.ofList a) ++ ofString (String.ofList b) := by
  simp [ofString, String.toByteArray_ofList]

def digit (n : Nat) : UInt8 := (0x30 + n).toUInt8

theorem ofString_digitChar : ∀ n < 10, ofString (String.ofList [n.digitChar]) = [digit n] := by
  decide

theorem digit_spec : ∀ n < 10, isDigit (digit n) ∧ (digit n).toNat - 0x30 = n := by
  decide

theorem ofNat_of_lt {n : Nat} (small : n < 10) : ofNat n = [digit n] := by
  rw [ofNat, Nat.repr, Nat.toDigits_of_lt_base small, ofString_digitChar n small]

theorem ofNat_of_le {n : Nat} (large : 10 ≤ n) : ofNat n = ofNat (n / 10) ++ [digit (n % 10)] := by
  rw [ofNat, Nat.repr, Nat.toDigits_of_base_le (by decide) large, ofString_append,
    ofString_digitChar _ (Nat.mod_lt n (by decide))]
  rfl

theorem decimal?_append {digits : Text} {n : Nat} (read : decimal? digits = some n) {d : Nat}
    (small : d < 10) : decimal? (digits ++ [digit d]) = some (n * 10 + d) := by
  obtain ⟨isDigit, value⟩ := digit_spec d small
  cases digits with
  | nil => simp [decimal?] at read
  | cons b digits =>
    simp only [decimal?] at read
    split at read
    · next all =>
      obtain rfl := Option.some.inj read
      simp only [List.cons_append, decimal?]
      rw [if_pos, ← List.cons_append, List.foldl_append]
      · simp [value]
      · rw [← List.cons_append, List.all_append, all]
        simp [isDigit]
    · simp at read

theorem decimal?_ofNat (n : Nat) : decimal? (ofNat n) = some n := by
  induction n using Nat.strongRecOn with
  | ind n ih =>
    rcases Nat.lt_or_ge n 10 with small | large
    · obtain ⟨isDigit, value⟩ := digit_spec n small
      simp [ofNat_of_lt small, decimal?, isDigit, value]
    · rw [ofNat_of_le large, decimal?_append (ih (n / 10) (by omega)) (Nat.mod_lt n (by decide))]
      congr 1
      omega

theorem ofNat_spec (n : Nat) : ∃ first rest, ofNat n = first :: rest ∧
    (∀ b ∈ ofNat n, isDigit b) ∧ (first = 0x30 → rest = []) := by
  induction n using Nat.strongRecOn with
  | ind n ih =>
    rcases Nat.lt_or_ge n 10 with small | large
    · exact ⟨digit n, [], ofNat_of_lt small, by simp [ofNat_of_lt small, digit_spec n small],
        fun _ => rfl⟩
    · obtain ⟨first, rest, split, all, zero⟩ := ih (n / 10) (by omega)
      obtain ⟨isDigit, -⟩ := digit_spec (n % 10) (Nat.mod_lt n (by decide))
      refine ⟨first, rest ++ [digit (n % 10)], by rw [ofNat_of_le large, split]; rfl, ?_, ?_⟩
      · rw [ofNat_of_le large, List.forall_mem_append]
        exact ⟨all, by simpa using isDigit⟩
      · intro leading
        -- A leading zero would make the number before the last digit zero.
        have zero : n / 10 = 0 := by
          have read := decimal?_ofNat (n / 10)
          rw [split, zero leading, leading] at read
          exact (Option.some.inj read).symm
        omega

end LintServer.Text
