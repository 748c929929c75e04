import LintServer.Edit.Match

set_option autoImplicit false

namespace LintServer.Block

def Shared (old new : List Text) (b : Block) : Prop :=
  ∃ lines oldBefore oldAfter newBefore newAfter,
    old = oldBefore ++ lines ++ oldAfter ∧ new = newBefore ++ lines ++ newAfter ∧
      oldBefore.length = b.old ∧ newBefore.length = b.new ∧ lines.length = b.size

-- The last `size` of the first `i` and the first `j` lines are the same.
def EndsAt (old new : List Text) (i j size : Nat) : Prop :=
  ∃ lines, lines.length = size ∧ lines <:+ old.take i ∧ lines <:+ new.take j

theorem commonPrefix_spec (as bs : List Text) :
    ∃ shared restA restB, as = shared ++ restA ∧ bs = shared ++ restB ∧
      shared.length = commonPrefix as bs := by
  fun_induction commonPrefix as bs with
  | case1 as b bs ih =>
    obtain ⟨shared, restA, restB, rfl, rfl, size⟩ := ih
    exact ⟨b :: shared, restA, restB, rfl, rfl, by simp [size]⟩
  | case2 a as b bs other => exact ⟨[], a :: as, b :: bs, rfl, rfl, rfl⟩
  | case3 as bs => exact ⟨[], as, bs, rfl, rfl, rfl⟩

theorem EndsAt.none (old new : List Text) (i j : Nat) : EndsAt old new i j 0 :=
  ⟨[], rfl, List.nil_suffix, List.nil_suffix⟩

theorem EndsAt.next {old new : List Text} {i j size : Nat} {line : Text}
    (before : EndsAt old new i j size) (oldLine : old[i]? = some line)
    (newLine : new[j]? = some line) : EndsAt old new (i + 1) (j + 1) (size + 1) := by
  obtain ⟨lines, rfl, oldEnd, newEnd⟩ := before
  refine ⟨lines ++ [line], by simp, ?_, ?_⟩
  · rw [List.take_add_one, oldLine]
    exact List.suffix_append_self_iff.mpr oldEnd
  · rw [List.take_add_one, newLine]
    exact List.suffix_append_self_iff.mpr newEnd

theorem EndsAt.shared {old new : List Text} {i j size : Nat} (ends : EndsAt old new i j size)
    (oldBound : i ≤ old.length) (newBound : j ≤ new.length) :
    Shared old new ⟨i - size, j - size, size⟩ := by
  obtain ⟨lines, rfl, ⟨oldBefore, oldTake⟩, ⟨newBefore, newTake⟩⟩ := ends
  refine ⟨lines, oldBefore, old.drop i, newBefore, new.drop j, ?_, ?_, ?_, ?_, rfl⟩
  · rw [oldTake, List.take_append_drop]
  · rw [newTake, List.take_append_drop]
  · have length := congrArg List.length oldTake
    simp at length ⊢
    omega
  · have length := congrArg List.length newTake
    simp at length ⊢
    omega

theorem EndsAt.runs {old new : List Text} {i : Nat} {line : Text} {before : List Nat}
    (ends : ∀ j size, before[j]? = some size → EndsAt old new i (j + 1) size)
    (oldLine : old[i]? = some line) (common : Text → Bool) (j size : Nat)
    (found : (runs common line before new)[j]? = some size) :
    EndsAt old new (i + 1) (j + 1) size := by
  have shifted (j size : Nat) (found : (0 :: before)[j]? = some size) : EndsAt old new i j size := by
    cases j with
    | zero =>
      rw [← Option.some.inj found]
      exact .none old new i 0
    | succ j => exact ends j size found
  unfold Block.runs at found
  split at found
  · rw [List.getElem?_map, Option.map_eq_some_iff] at found
    obtain ⟨-, -, rfl⟩ := found
    exact .none old new (i + 1) (j + 1)
  · rw [List.getElem?_zipWith_eq_some] at found
    obtain ⟨other, previous, newLine, earlier, rfl⟩ := found
    split
    · next same => exact (shifted j previous earlier).next oldLine (same ▸ newLine)
    · exact .none old new (i + 1) (j + 1)

theorem foldl_larger_shared {old new : List Text} {i : Nat} (inside : i < old.length)
    (sizes : List (Nat × Nat)) (best : Block) (shared : best.Shared old new)
    (ends : ∀ run ∈ sizes, run.2 < new.length ∧ EndsAt old new (i + 1) (run.2 + 1) run.1) :
    (sizes.foldl (larger i) best).Shared old new := by
  induction sizes generalizing best with
  | nil => exact shared
  | cons run sizes ih =>
    apply ih
    · obtain ⟨bound, here⟩ := ends run (by simp)
      unfold larger
      split
      · exact here.shared inside bound
      · exact shared
    · exact fun run member => ends run (by simp [member])

theorem length_runs_le (common : Text → Bool) (line : Text) (before : List Nat) (new : List Text) :
    (runs common line before new).length ≤ new.length := by
  unfold runs
  split
  · exact Nat.le_of_eq (List.length_map _)
  · rw [List.length_zipWith]
    exact Nat.min_le_left ..

theorem seed_shared (common : Text → Bool) (old new : List Text) :
    (seed common old new).Shared old new := by
  -- The fold over the lines still to come, after the first `i` of them.
  have fold (i : Nat) (best : Block) (before : List Nat) (shared : best.Shared old new)
      (ends : ∀ j size, before[j]? = some size → EndsAt old new i (j + 1) size) :
      (((old.drop i).zipIdx i).foldl (fun state line =>
        let sizes := runs common line.1 state.2 new
        (sizes.zipIdx.foldl (larger line.2) state.1, sizes)) (best, before)).1.Shared old new := by
    induction rest : old.drop i generalizing i best before with
    | nil => exact shared
    | cons line rest ih =>
      have inside : i < old.length := by
        have length := congrArg List.length rest
        simp at length
        omega
      have oldLine : old[i]? = some line := by simp [← List.head?_drop, rest]
      have later := EndsAt.runs ends oldLine common
      apply ih (i + 1)
      · apply foldl_larger_shared inside _ _ shared
        rintro ⟨size, j⟩ member
        have found := List.mem_zipIdx_iff_getElem?.mp member
        have bound := length_runs_le common line before new
        have index := (List.getElem?_eq_some_iff.mp found).1
        exact ⟨Nat.lt_of_lt_of_le index bound, later j size found⟩
      · exact later
      · rw [← List.drop_drop, rest, List.drop_one, List.tail_cons]
  have start := fold 0 ⟨0, 0, 0⟩ (List.replicate new.length 0)
    ⟨[], [], old, [], new, rfl, rfl, rfl, rfl, rfl⟩ (by
      intro j size found
      obtain ⟨-, rfl⟩ : j < new.length ∧ 0 = size := by simpa [List.getElem?_replicate] using found
      exact .none old new 0 (j + 1))
  exact start

theorem take_before (before lines after : List Text) :
    (before ++ lines ++ after).take before.length = before := by
  simp

theorem drop_through (before lines after : List Text) :
    (before ++ lines ++ after).drop (before.length + lines.length) = after := by
  rw [← List.length_append, List.drop_left]

theorem take_drop_before (before lines after : List Text) :
    ((before ++ lines ++ after).drop before.length).take lines.length = lines := by
  simp

theorem extend_append (lines oldBefore oldAfter newBefore newAfter : List Text) :
    extend (oldBefore ++ lines ++ oldAfter) (newBefore ++ lines ++ newAfter)
        ⟨oldBefore.length, newBefore.length, lines.length⟩ =
      let back := commonPrefix oldBefore.reverse newBefore.reverse
      ⟨oldBefore.length - back, newBefore.length - back,
        back + lines.length + commonPrefix oldAfter newAfter⟩ := by
  simp only [extend, take_before, drop_through]

theorem Shared.extend {old new : List Text} {b : Block} (shared : b.Shared old new) :
    (extend old new b).Shared old new := by
  obtain ⟨start, newStart, size⟩ := b
  obtain ⟨lines, oldBefore, oldAfter, newBefore, newAfter, rfl, rfl, rfl, rfl, rfl⟩ := shared
  obtain ⟨back, oldFirst, newFirst, oldBack, newBack, backSize⟩ :=
    commonPrefix_spec oldBefore.reverse newBefore.reverse
  obtain ⟨ahead, oldLast, newLast, rfl, rfl, aheadSize⟩ := commonPrefix_spec oldAfter newAfter
  rw [extend_append, ← backSize, ← aheadSize]
  obtain rfl : oldBefore = oldFirst.reverse ++ back.reverse := by
    rw [← List.reverse_append, ← oldBack, List.reverse_reverse]
  obtain rfl : newBefore = newFirst.reverse ++ back.reverse := by
    rw [← List.reverse_append, ← newBack, List.reverse_reverse]
  refine ⟨back.reverse ++ lines ++ ahead, oldFirst.reverse, oldLast, newFirst.reverse, newLast,
    ?_, ?_, ?_, ?_, ?_⟩ <;> simp [Nat.add_assoc]

theorem longest_shared (common : Text → Bool) (old new : List Text) :
    (longest common old new).Shared old new :=
  (seed_shared common old new).extend

end LintServer.Block
