import LintServer.Position

set_option autoImplicit false

namespace LintServer

structure Symbol where
  name : Text
  type : Text
  range : Range
deriving DecidableEq, Repr, Inhabited

namespace Symbol

def isProper (s : Symbol) : Bool :=
  s.range.start.line == s.range.stop.line && s.range.start.character < s.range.stop.character

def startsInside (last s : Symbol) : Bool :=
  last.range.start.line == s.range.start.line &&
    s.range.start.character < last.range.stop.character

def isBefore (s : Symbol) (p : Position) : Bool :=
  if s.range.start.line ≠ p.line then s.range.start.line < p.line
  else s.range.stop.character ≤ p.character

/-- Whether a position lies in `s`. The end of a symbol is outside it. -/
def holds (s : Symbol) (p : Position) : Bool :=
  s.range.start.line == p.line && s.range.start.character ≤ p.character &&
    p.character < s.range.stop.character

/-- Leaves out every symbol that starts inside the last one kept. -/
def keepDisjoint (last : Option Symbol) : List Symbol → List Symbol
  | [] => []
  | s :: rest =>
    if last.any fun last => startsInside last s then keepDisjoint last rest
    else s :: keepDisjoint (some s) rest

def normalize (symbols : List Symbol) : List Symbol :=
  keepDisjoint none ((symbols.filter isProper).mergeSort fun a b => a.range.start ≤ b.range.start)

/-- The least index from `lo` to `hi` at which `p` holds, or `hi`, if `p` holds from there on. -/
def search (p : Nat → Bool) (lo hi : Nat) : Nat :=
  if lo < hi then
    let middle := (lo + hi) / 2
    if p middle then search p lo middle else search p (middle + 1) hi
  else lo
termination_by hi - lo

def find? (table : Array Symbol) (p : Position) : Option Symbol :=
  let index := search (fun n => table[n]?.all fun s => !s.isBefore p) 0 table.size
  table[index]?.filter fun s => s.holds p

end Symbol

end LintServer
