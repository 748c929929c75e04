import LintServer.Proofs.Edit.Script

set_option autoImplicit false

namespace LintServer

namespace Block

def Improved (best last : Block) : Prop := last = best ∨ best.size < last.size

theorem Improved.size_le {best last : Block} (improved : Improved best last) :
    best.size ≤ last.size := by
  rcases improved with rfl | more
  · exact Nat.le_refl _
  · exact Nat.le_of_lt more

theorem Improved.trans {best next last : Block} (here : Improved best next)
    (later : Improved next last) : Improved best last := by
  rcases later with rfl | more
  · exact here
  · exact .inr (Nat.lt_of_le_of_lt here.size_le more)

theorem larger_improved (i : Nat) (best : Block) (run : Nat × Nat) :
    Improved best (larger i best run) ∧ run.1 ≤ (larger i best run).size := by
  unfold larger
  split
  · next more => exact ⟨.inr more, Nat.le_refl _⟩
  · next less => exact ⟨.inl rfl, Nat.not_lt.mp less⟩

theorem foldl_larger_improved (i : Nat) (sizes : List (Nat × Nat)) (best : Block) :
    Improved best (sizes.foldl (larger i) best) ∧
      ∀ run ∈ sizes, run.1 ≤ (sizes.foldl (larger i) best).size := by
  induction sizes generalizing best with
  | nil => exact ⟨.inl rfl, by simp⟩
  | cons run sizes ih =>
    obtain ⟨here, reached⟩ := larger_improved i best run
    obtain ⟨later, bound⟩ := ih (larger i best run)
    refine ⟨here.trans later, fun other member => ?_⟩
    rcases List.mem_cons.mp member with rfl | member
    · exact Nat.le_trans reached later.size_le
    · exact bound other member

theorem length_runs {common : Text → Bool} {line : Text} {before : List Nat} {new : List Text}
    (full : before.length = new.length) : (runs common line before new).length = new.length := by
  unfold runs
  split <;> simp [full]

theorem exists_run {common : Text → Bool} {line : Text} {before : List Nat} {new : List Text}
    (full : before.length = new.length) (plain : common line = false) (there : line ∈ new) :
    ∃ run ∈ (runs common line before new).zipIdx, 0 < run.1 := by
  obtain ⟨j, inside, found⟩ := List.getElem_of_mem there
  have bound : j < (0 :: before).length := by
    rw [List.length_cons]
    omega
  have size : (runs common line before new)[j]? = some ((0 :: before)[j] + 1) := by
    rw [runs, if_neg (by simp [plain]), List.getElem?_zipWith_eq_some]
    exact ⟨line, (0 :: before)[j], by simp [← found], List.getElem?_eq_getElem bound, by simp⟩
  refine ⟨((0 :: before)[j] + 1, j), List.mem_zipIdx_iff_getElem?.mpr size, ?_⟩
  exact Nat.succ_pos _

theorem seed_improved (common : Text → Bool) (old new : List Text) :
    Improved ⟨0, 0, 0⟩ (seed common old new) ∧
      ∀ line ∈ old, common line = false → line ∈ new → 0 < (seed common old new).size := by
  have fold (rows : List (Text × Nat)) (best : Block) (before : List Nat)
      (full : before.length = new.length) :
      let last := (rows.foldl (fun state row =>
        let sizes := runs common row.1 state.2 new
        (sizes.zipIdx.foldl (larger row.2) state.1, sizes)) (best, before)).1
      Improved best last ∧ ∀ row ∈ rows, common row.1 = false → row.1 ∈ new → 0 < last.size := by
    induction rows generalizing best before with
    | nil => exact ⟨.inl rfl, by simp⟩
    | cons row rows ih =>
      let sizes := runs common row.1 before new
      obtain ⟨here, reached⟩ := foldl_larger_improved row.2 sizes.zipIdx best
      obtain ⟨later, found⟩ := ih (sizes.zipIdx.foldl (larger row.2) best) sizes (length_runs full)
      refine ⟨here.trans later, fun other member plain there => ?_⟩
      rcases List.mem_cons.mp member with rfl | member
      · obtain ⟨run, inside, positive⟩ := exists_run full plain there
        exact Nat.lt_of_lt_of_le positive (Nat.le_trans (reached run inside) later.size_le)
      · exact found other member plain there
  obtain ⟨improved, all⟩ := fold old.zipIdx ⟨0, 0, 0⟩ (List.replicate new.length 0) (by simp)
  refine ⟨improved, fun line member plain there => ?_⟩
  obtain ⟨i, inside, rfl⟩ := List.getElem_of_mem member
  exact all (old[i], i) (List.mem_zipIdx_iff_getElem?.mpr (by simp)) plain there

structure Unmatched (common : Text → Bool) (old new : List Text) : Prop where
  first : ∀ a ∈ old.head?, ∀ b ∈ new.head?, a ≠ b
  rest : ∀ line ∈ old, common line = false → line ∉ new

theorem commonPrefix_pos {a b : Text} (same : a = b) (as bs : List Text) :
    0 < commonPrefix (a :: as) (b :: bs) := by
  rw [commonPrefix, if_pos same]
  exact Nat.succ_pos _

-- A block of no lines is one that was sought from the first lines on, where common lines count too.
theorem unmatched_of_longest {common : Text → Bool} {old new : List Text}
    (none : (longest common old new).size = 0) : Unmatched common old new := by
  obtain ⟨start, found⟩ := seed_improved common old new
  simp only [longest, extend] at none
  have empty : (seed common old new).size = 0 := by omega
  have origin : seed common old new = ⟨0, 0, 0⟩ := start.resolve_right (by simp [empty])
  rw [origin] at none
  simp only [List.drop_zero, Nat.add_zero] at none
  refine ⟨?_, fun line member plain there => ?_⟩
  · intro a inOld b inNew same
    obtain ⟨as, rfl⟩ := List.head?_eq_some_iff.mp inOld
    obtain ⟨bs, rfl⟩ := List.head?_eq_some_iff.mp inNew
    have positive := commonPrefix_pos same as bs
    omega
  · have positive := found line member plain there
    omega

end Block

namespace Segment

open Block (Unmatched)

theorem align_unmatched {common : Text → Bool} {old new o n : List Text}
    (member : change o n ∈ align common old new) : Unmatched common o n := by
  fun_induction align common old new with
  | case1 old new b found left right =>
    rcases List.mem_append.mp member with before | here
    · exact left before
    · rcases List.mem_cons.mp here with kept | after
      · cases kept
      · exact right after
  | case2 old new b none =>
    obtain ⟨rfl, rfl⟩ : o = old ∧ n = new := by simpa using member
    obtain ⟨lines, oldBefore, oldAfter, -, -, split, -, start, -, size⟩ : b.Shared o n :=
      Block.longest_shared common o n
    have length := congrArg List.length split
    simp only [List.length_append] at length
    apply Block.unmatched_of_longest
    change b.size = 0
    omega

theorem mem_cons_segment {o n : List Text} {s : Segment} {rest : List Segment}
    (member : change o n ∈ cons s rest) :
    change o n = s ∧ (o ≠ [] ∨ n ≠ []) ∨ change o n ∈ rest := by
  revert member
  fun_cases cons s rest with
  | case1 => exact .inr
  | case2 a b rest => simp
  | case3 s rest filled other =>
    intro member
    rcases List.mem_cons.mp member with rfl | later
    · refine .inl ⟨rfl, ?_⟩
      cases o with
      | nil => exact .inr fun empty => filled (by rw [empty])
      | cons line o => exact .inl (by simp)
    · exact .inr later

theorem script_unmatched {old new o n : List Text} (member : change o n ∈ script old new) :
    Unmatched (tooCommon new) o n ∧ (o ≠ [] ∨ n ≠ []) := by
  have fold (segments : List Segment) (member : change o n ∈ segments.foldr cons []) :
      change o n ∈ segments ∧ (o ≠ [] ∨ n ≠ []) := by
    induction segments with
    | nil => simp at member
    | cons s rest ih =>
      rcases mem_cons_segment member with ⟨rfl, filled⟩ | later
      · exact ⟨by simp, filled⟩
      · obtain ⟨inside, filled⟩ := ih later
        exact ⟨by simp [inside], filled⟩
  obtain ⟨inside, filled⟩ := fold _ member
  exact ⟨align_unmatched inside, filled⟩

end Segment

theorem tooCommon_of_short {lines : List Text} (short : lines.length < 200) (line : Text) :
    tooCommon lines line = false := by
  simp [tooCommon, Nat.not_le.mpr short]

end LintServer
