import LintServer.Proofs.Edit.Script

set_option autoImplicit false

namespace LintServer

namespace Block

def stretch (common : Text → Bool) (lines : List Text) (i : Nat) : Nat :=
  ((lines.take i).reverse.takeWhile fun line => !common line).length

theorem stretch_succ {common : Text → Bool} {lines : List Text} {i : Nat} {line : Text}
    (here : lines[i]? = some line) : stretch common lines (i + 1) =
      if common line then 0 else stretch common lines i + 1 := by
  cases found : common line <;> simp [stretch, List.take_add_one, here, found]

-- What one row of sizes may hold when a text is matched with itself: no block that ends at its line
-- is larger than the stretch up to there on either side, and on the diagonal it is as large.
structure Row (common : Text → Bool) (lines : List Text) (i : Nat) (sizes : List Nat) : Prop where
  length : sizes.length = lines.length
  old : ∀ (j : Nat) size, sizes[j]? = some size → size ≤ stretch common lines i
  new : ∀ (j : Nat) size, sizes[j]? = some size → size ≤ stretch common lines (j + 1)
  diagonal : ∀ (j : Nat) size, sizes[j]? = some size → j + 1 = i → size = stretch common lines i

theorem Row.zero (common : Text → Bool) (lines : List Text) :
    Row common lines 0 (List.replicate lines.length 0) := by
  have size {j n : Nat} (found : (List.replicate lines.length 0)[j]? = some n) : n = 0 := by
    have ⟨_, zero⟩ : j < lines.length ∧ 0 = n := by simpa [List.getElem?_replicate] using found
    exact zero.symm
  exact ⟨by simp, fun j n found => by simp [size found], fun j n found => by simp [size found],
    fun j n found after => by omega⟩

theorem Row.next {common : Text → Bool} {lines : List Text} {i : Nat} {before : List Nat}
    {line : Text} (row : Row common lines i before) (here : lines[i]? = some line) :
    Row common lines (i + 1) (runs common line before lines) := by
  have later : stretch common lines (i + 1) = _ := stretch_succ here
  unfold runs
  split
  · next isCommon =>
    have size {j n : Nat} (found : (lines.map fun _ => 0)[j]? = some n) : n = 0 := by
      rw [List.getElem?_map] at found
      obtain ⟨_, -, zero⟩ := Option.map_eq_some_iff.mp found
      exact zero.symm
    exact ⟨by simp, fun j n found => by simp [size found], fun j n found => by simp [size found],
      fun j n found _ => by simp [size found, later, isCommon]⟩
  · next plain =>
    rw [if_neg plain] at later
    -- The size before position `j` is bounded by the stretches before it, and exact on the
    -- diagonal.
    have previous {j n : Nat} (found : (0 :: before)[j]? = some n) :
        n ≤ stretch common lines i ∧ n ≤ stretch common lines j ∧
          (j = i → n = stretch common lines i) := by
      cases j with
      | zero =>
        obtain rfl : 0 = n := Option.some.inj found
        refine ⟨Nat.zero_le _, Nat.zero_le _, ?_⟩
        rintro rfl
        simp [stretch]
      | succ j => exact ⟨row.old j n found, row.new j n found, row.diagonal j n found⟩
    have size {j n : Nat}
        (found : (List.zipWith (fun other size => if other = line then size + 1 else 0) lines
          (0 :: before))[j]? = some n) :
        n ≤ stretch common lines (i + 1) ∧ n ≤ stretch common lines (j + 1) ∧
          (j + 1 = i + 1 → n = stretch common lines (i + 1)) := by
      rw [List.getElem?_zipWith_eq_some] at found
      obtain ⟨other, earlier, there, found, rfl⟩ := found
      obtain ⟨old, new, diagonal⟩ := previous found
      split
      · next same =>
        rw [same] at there
        have ahead : stretch common lines (j + 1) = _ := stretch_succ there
        rw [if_neg plain] at ahead
        omega
      · next other =>
        refine ⟨Nat.zero_le _, Nat.zero_le _, ?_⟩
        intro same
        obtain rfl : j = i := by omega
        exact absurd (Option.some.inj (there.symm.trans here)) other
    refine ⟨?_, fun j n found => (size found).1, fun j n found => (size found).2.1,
      fun j n found => (size found).2.2⟩
    simp [row.length]

structure Diagonal (common : Text → Bool) (lines : List Text) (i : Nat) (best : Block) : Prop where
  same : best.old = best.new
  large : ∀ k ≤ i, stretch common lines k ≤ best.size

-- Only the size on the diagonal can be larger than the best one before it: any other one is
-- bounded by a diagonal size that has been seen.
theorem Diagonal.row {common : Text → Bool} {lines : List Text} {i : Nat} {best : Block}
    {sizes : List Nat} (diagonal : Diagonal common lines i best)
    (row : Row common lines (i + 1) sizes) (inside : i < lines.length) :
    Diagonal common lines (i + 1) (sizes.zipIdx.foldl (larger i) best) := by
  have fold (j : Nat) (best : Block) (diagonal : Diagonal common lines i best)
      (passed : i < j → stretch common lines (i + 1) ≤ best.size) (bound : j ≤ sizes.length) :
      Diagonal common lines (i + 1) (((sizes.drop j).zipIdx j).foldl (larger i) best) := by
    induction remaining : sizes.drop j generalizing j best with
    | nil =>
      have atEnd : j = sizes.length := by
        have length := congrArg List.length remaining
        simp at length
        omega
      refine ⟨diagonal.same, fun k below => ?_⟩
      rcases Nat.eq_or_lt_of_le below with rfl | below
      · exact passed (by rw [atEnd, row.length]; exact inside)
      · exact diagonal.large k (by omega)
    | cons size rest ih =>
      have here : sizes[j]? = some size := by simp [← List.head?_drop, remaining]
      have more : j < sizes.length := (List.getElem?_eq_some_iff.mp here).1
      have old := row.old j size here
      have new := row.new j size here
      have tail : sizes.drop (j + 1) = rest := by
        rw [← List.drop_drop, remaining, List.drop_one, List.tail_cons]
      rw [List.zipIdx_cons, List.foldl_cons]
      rcases Nat.lt_trichotomy j i with left | rfl | right
      · have seen := diagonal.large (j + 1) left
        rw [larger, if_neg (by omega)]
        exact ih (j + 1) best diagonal (by omega) more tail
      · have exactly := row.diagonal j size here rfl
        unfold larger
        split
        · next less =>
          refine ih (j + 1) _ ⟨rfl, fun k below => ?_⟩ (fun _ => Nat.le_of_eq exactly.symm) more tail
          exact Nat.le_trans (diagonal.large k below) (Nat.le_of_lt less)
        · next full => exact ih (j + 1) best diagonal (by omega) more tail
      · have seen := passed right
        rw [larger, if_neg (by omega)]
        exact ih (j + 1) best diagonal (fun _ => seen) more tail
  exact fold 0 best diagonal (by omega) (by omega)

theorem seed_self_diagonal (common : Text → Bool) (lines : List Text) :
    (seed common lines lines).old = (seed common lines lines).new := by
  have fold (i : Nat) (best : Block) (before : List Nat) (diagonal : Diagonal common lines i best)
      (row : Row common lines i before) :
      let last := (((lines.drop i).zipIdx i).foldl (fun state line =>
        let sizes := runs common line.1 state.2 lines
        (sizes.zipIdx.foldl (larger line.2) state.1, sizes)) (best, before)).1
      last.old = last.new := by
    induction rest : lines.drop i generalizing i best before with
    | nil => exact diagonal.same
    | cons line rest ih =>
      have here : lines[i]? = some line := by simp [← List.head?_drop, rest]
      have inside : i < lines.length := (List.getElem?_eq_some_iff.mp here).1
      have next := row.next here
      apply ih (i + 1) _ _ (diagonal.row next inside) next
      rw [← List.drop_drop, rest, List.drop_one, List.tail_cons]
  refine fold 0 ⟨0, 0, 0⟩ (List.replicate lines.length 0) ⟨rfl, ?_⟩ (.zero common lines)
  intro k start
  simp [stretch, Nat.le_zero.mp start]

theorem commonPrefix_self (lines : List Text) : commonPrefix lines lines = lines.length := by
  induction lines with
  | nil => rfl
  | cons line lines ih => simp [commonPrefix, ih]

theorem longest_self (common : Text → Bool) (lines : List Text) :
    longest common lines lines = ⟨0, 0, lines.length⟩ := by
  have same := seed_self_diagonal common lines
  obtain ⟨found, before, after, -, -, split, -, start, -, size⟩ := seed_shared common lines lines
  have length := congrArg List.length split
  simp only [List.length_append] at length
  simp only [longest, extend, ← same, commonPrefix_self, List.length_reverse, List.length_take,
    List.length_drop, mk.injEq]
  omega

end Block

namespace Segment

theorem align_nil (common : Text → Bool) : align common [] [] = [change [] []] := by
  rw [align, dif_neg]
  simp [Block.longest_self]

theorem script_self (lines : List Text) :
    script lines lines = if lines = [] then [] else [keep lines] := by
  unfold script
  cases lines with
  | nil => simp [align_nil, cons]
  | cons line rest =>
    rw [align, dif_pos (by simp [Block.longest_self])]
    simp [Block.longest_self, align_nil, cons]

end Segment

end LintServer
