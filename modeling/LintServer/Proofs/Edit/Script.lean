import LintServer.Edit.Script
import LintServer.Proofs.Edit.Block

set_option autoImplicit false

namespace LintServer.Segment

def oldLines (segments : List Segment) : List Text := segments.flatMap old

def newLines (segments : List Segment) : List Text := segments.flatMap new

@[simp]
theorem oldLines_nil : oldLines [] = [] := rfl

@[simp]
theorem newLines_nil : newLines [] = [] := rfl

@[simp]
theorem oldLines_cons (s : Segment) (rest : List Segment) :
    oldLines (s :: rest) = s.old ++ oldLines rest := rfl

@[simp]
theorem newLines_cons (s : Segment) (rest : List Segment) :
    newLines (s :: rest) = s.new ++ newLines rest := rfl

@[simp]
theorem oldLines_append (a b : List Segment) : oldLines (a ++ b) = oldLines a ++ oldLines b :=
  List.flatMap_append

@[simp]
theorem newLines_append (a b : List Segment) : newLines (a ++ b) = newLines a ++ newLines b :=
  List.flatMap_append

-- Changes, void or not, around kept lines: what the matching of lines yields.
inductive Woven : List Segment → Prop where
  | last (old new : List Text) : Woven [change old new]
  | more {lines : List Text} {rest : List Segment} (old new : List Text) (kept : lines ≠ [])
      (woven : Woven rest) : Woven (change old new :: keep lines :: rest)

theorem Woven.append {a b : List Segment} {lines : List Text} (left : Woven a) (kept : lines ≠ [])
    (right : Woven b) : Woven (a ++ keep lines :: b) := by
  induction left with
  | last old new => exact .more old new kept right
  | more old new first _ ih => exact .more old new first ih

theorem align_spec (common : Text → Bool) (old new : List Text) :
    Woven (align common old new) ∧ oldLines (align common old new) = old ∧
      newLines (align common old new) = new := by
  fun_induction align common old new with
  | case1 old new b found left right =>
    obtain ⟨leftWoven, leftOld, leftNew⟩ := left
    obtain ⟨rightWoven, rightOld, rightNew⟩ := right
    obtain ⟨lines, oldBefore, oldAfter, newBefore, newAfter, oldSplit, newSplit, oldStart, newStart,
      size⟩ : b.Shared old new := Block.longest_shared common old new
    have kept : (old.drop b.old).take b.size = lines := by
      rw [oldSplit, ← oldStart, ← size, Block.take_drop_before]
    refine ⟨leftWoven.append ?_ rightWoven, ?_, ?_⟩
    · rw [kept]
      exact List.ne_nil_of_length_pos (size ▸ found.1)
    · rw [oldLines_append, oldLines_cons, leftOld, rightOld, kept, Segment.old]
      rw [oldSplit, ← oldStart, ← size, Block.take_before, Block.drop_through, List.append_assoc]
    · rw [newLines_append, newLines_cons, leftNew, rightNew, kept, Segment.new]
      rw [newSplit, ← newStart, ← size, Block.take_before, Block.drop_through, List.append_assoc]
  | case2 old new b none =>
    exact ⟨.last old new, List.append_nil old, List.append_nil new⟩

@[simp]
theorem oldLines_cons_segment (s : Segment) (rest : List Segment) :
    oldLines (cons s rest) = s.old ++ oldLines rest := by
  fun_cases cons s rest <;> simp [Segment.old]

@[simp]
theorem newLines_cons_segment (s : Segment) (rest : List Segment) :
    newLines (cons s rest) = s.new ++ newLines rest := by
  fun_cases cons s rest <;> simp [Segment.new]

def isKeep : Segment → Bool
  | keep _ => true
  | change _ _ => false

-- Kept blocks are not empty, and what follows a change, if anything does, is kept.
inductive Spaced : List Segment → Prop where
  | nil : Spaced []
  | keep {lines : List Text} {rest : List Segment} (kept : lines ≠ []) (spaced : Spaced rest) :
      Spaced (keep lines :: rest)
  | change {rest : List Segment} (old new : List Text) (next : rest.head?.all isKeep)
      (spaced : Spaced rest) : Spaced (change old new :: rest)

theorem Spaced.cons_keep {lines : List Text} {rest : List Segment} (kept : lines ≠ [])
    (spaced : Spaced rest) :
    Spaced (cons (.keep lines) rest) ∧ (cons (.keep lines) rest).head?.all isKeep := by
  cases spaced with
  | nil => exact ⟨.keep kept .nil, rfl⟩
  | keep more spaced => exact ⟨.keep (by simp [kept]) spaced, rfl⟩
  | change old new next spaced => exact ⟨.keep kept (.change old new next spaced), rfl⟩

theorem Spaced.cons_change {rest : List Segment} (old new : List Text)
    (next : rest.head?.all isKeep) (spaced : Spaced rest) : Spaced (cons (.change old new) rest) := by
  cases old with
  | cons line old => exact .change (line :: old) new next spaced
  | nil =>
    cases new with
    | cons line new => exact .change [] (line :: new) next spaced
    | nil => exact spaced

theorem Woven.spaced {segments : List Segment} (woven : Woven segments) :
    Spaced (segments.foldr cons []) := by
  induction woven with
  | last old new => exact .cons_change old new rfl .nil
  | more old new kept _ ih =>
    obtain ⟨spaced, next⟩ := ih.cons_keep kept
    exact spaced.cons_change old new next

theorem script_spec (old new : List Text) :
    Spaced (script old new) ∧ oldLines (script old new) = old ∧ newLines (script old new) = new := by
  obtain ⟨woven, oldAll, newAll⟩ := align_spec (tooCommon new) old new
  have foldOld (segments : List Segment) :
      oldLines (segments.foldr cons []) = oldLines segments := by
    induction segments <;> simp_all
  have foldNew (segments : List Segment) :
      newLines (segments.foldr cons []) = newLines segments := by
    induction segments <;> simp_all
  exact ⟨woven.spaced, (foldOld _).trans oldAll, (foldNew _).trans newAll⟩

-- Nothing follows a change at the end of the old text, for kept lines would be old lines.
theorem Spaced.eq_nil {rest : List Segment} (spaced : Spaced rest) (next : rest.head?.all isKeep)
    (atEnd : oldLines rest = []) : rest = [] := by
  cases spaced with
  | nil => rfl
  | keep kept spaced => simp_all [Segment.old]
  | change old new => simp [isKeep] at next

end LintServer.Segment
