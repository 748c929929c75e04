import LintServer.Text.LowerCase

set_option autoImplicit false

namespace LintServer.CommandLine

/-- A row of the table of edit distances from its left neighbour on: `above` holds the row before
it, from the same place on. -/
def distanceRow (b : UInt8) (left : Nat) : Text → List Nat → List Nat
  | c :: text, diagonal :: up :: above =>
    let here := if b = c then diagonal else min (min left up) diagonal + 1
    here :: distanceRow b here text (up :: above)
  | _, _ => []

def nextDistances (text : Text) (b : UInt8) (distances : List Nat) : List Nat :=
  let first := distances.headD 0 + 1
  first :: distanceRow b first text distances

def distance (a b : Text) : Nat :=
  (a.foldl (fun distances byte => nextDistances b byte distances)
    (List.range (b.length + 1))).getLast?.getD 0

def maxDistance : Nat := 2

def isNear (word command : Text) : Bool :=
  distance word.small command ≤ maxDistance || command.startsWith word.small

def suggestions (commands : List Text) (word : Text) : List Text := commands.filter (isNear word)

def suggestionText : List Text → Text
  | [] => []
  | names =>
    let lines : Text := names.flatMap fun name => 0x09 :: name ++ [Text.lf]
    "\n\nDid you mean this?\n" ++ lines

end LintServer.CommandLine
