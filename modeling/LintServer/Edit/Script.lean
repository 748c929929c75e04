import LintServer.Edit.Match

set_option autoImplicit false

namespace LintServer

inductive Segment where
  | keep (lines : List Text)
  | change (old new : List Text)
deriving DecidableEq, Repr

namespace Segment

def old : Segment → List Text
  | keep lines => lines
  | change old _ => old

def new : Segment → List Text
  | keep lines => lines
  | change _ new => new

/-- Puts a segment in front: adjacent kept blocks become one and void changes vanish. -/
def cons : Segment → List Segment → List Segment
  | change [] [], rest => rest
  | keep a, keep b :: rest => keep (a ++ b) :: rest
  | s, rest => s :: rest

def align (common : Text → Bool) (old new : List Text) : List Segment :=
  let b := Block.longest common old new
  if _h : 0 < b.size ∧ b.old + b.size ≤ old.length then
    align common (old.take b.old) (new.take b.new) ++
      keep ((old.drop b.old).take b.size) ::
        align common (old.drop (b.old + b.size)) (new.drop (b.new + b.size))
  else [change old new]
termination_by old.length
decreasing_by all_goals grind

end Segment

/-- Lines that occur more often than one time in a hundred, and once more, in a text of two hundred
lines or more. -/
def tooCommon (lines : List Text) (line : Text) : Bool :=
  200 ≤ lines.length && lines.length / 100 + 1 < lines.count line

def script (old new : List Text) : List Segment :=
  (Segment.align (tooCommon new) old new).foldr Segment.cons []

structure Hunk where
  tag : UInt8
  oldStart : Nat
  oldStop : Nat
  newStart : Nat
  newStop : Nat
deriving DecidableEq, Repr

namespace Hunk

/-- The letters e, i, d and r: equal, insert, delete and replace. -/
def tagOf : Segment → UInt8
  | .keep _ => 0x65
  | .change [] _ => 0x69
  | .change _ [] => 0x64
  | .change _ _ => 0x72

def ofSegments (i j : Nat) : List Segment → List Hunk
  | [] => []
  | s :: rest =>
    ⟨tagOf s, i, i + s.old.length, j, j + s.new.length⟩ ::
      ofSegments (i + s.old.length) (j + s.new.length) rest

end Hunk

def hunks (old new : List Text) : List Hunk := Hunk.ofSegments 0 0 (script old new)

end LintServer
