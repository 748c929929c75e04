import LintServer.Host.Shell.Pattern

set_option autoImplicit false

namespace LintServer

inductive Atom where
  | byte (b : UInt8) (quoted : Bool)
  | mark
deriving DecidableEq, Repr

namespace Atom

def text (atoms : List Atom) : Text :=
  atoms.filterMap fun
    | .byte b _ => some b
    | .mark => none

/-- The pattern that a word stands for: what is quoted stands for itself. `plain` tells that no
backslash without quotes comes right before, and `inside` that the place is between quotes. -/
def patternFrom (plain inside : Bool) : List Atom → Text
  | [] => []
  | .mark :: rest => patternFrom plain (!inside) rest
  | .byte b true :: rest =>
    let escape : Text := if plain then [0x5C] else if inside then [0x5C, 0x5C] else []
    escape ++ b :: patternFrom true inside rest
  | .byte b false :: rest => b :: patternFrom (b ≠ 0x5C || !plain) inside rest

def pattern (atoms : List Atom) : Text := patternFrom true false atoms

end Atom

structure Region where
  start : Nat
  stop : Nat
  zeroOnly : Bool
deriving DecidableEq, Repr

structure Expansion where
  atoms : Array Atom
  regions : List Region
  growing : Bool

namespace Expansion

def empty : Expansion := ⟨#[], [], false⟩

def size (e : Expansion) : Nat := e.atoms.size

def push (e : Expansion) (a : Atom) : Expansion :=
  { e with atoms := e.atoms.push a, growing := false }

def append (e : Expansion) (atoms : List Atom) : Expansion :=
  { e with atoms := e.atoms ++ atoms.toArray, growing := false }

def record (e : Expansion) (start : Nat) (zeroOnly : Bool) : Expansion :=
  { e with regions := ⟨start, e.size, zeroOnly⟩ :: e.regions, growing := false }

def pushSplit (e : Expansion) (b : UInt8) : Expansion :=
  let grown := e.atoms.push (.byte b false)
  match e.growing, e.regions with
  | true, last :: rest => ⟨grown, { last with stop := grown.size } :: rest, true⟩
  | _, regions => ⟨grown, ⟨e.size, grown.size, false⟩ :: regions, true⟩

def cut (e : Expansion) (length : Nat) : Expansion :=
  ⟨e.atoms.extract 0 length, e.regions.filterMap fun r =>
    if r.start < length then some { r with stop := min r.stop length } else none, false⟩

def text (e : Expansion) : Text := Atom.text e.atoms.toList

end Expansion

structure Splitting where
  fields : List (Nat × Nat)
  start : Nat
  afterBlank : Bool
  zeroOnly : Bool
  more : Option Nat
  stop : Option Nat

namespace Splitting

def blanks : Text := [0x20, 0x09, 0x0A]

/-- Passes over a byte at a place. A blank that separates fields may be repeated, and those at the
start do not count; `joined` tells that the region before this one ended between arguments. -/
def step (separators : Text) (joined : Bool) (s : Splitting) (i : Nat) (b : UInt8) : Splitting :=
  let separates := b == 0 || separators.contains b
  let isBlank := separates && (b == 0 || blanks.contains b)
  if s.more = some 0 then
    if isBlank then { s with stop := some (s.stop.getD i) }
    else
      { s with
        stop := if separates && s.afterBlank then s.stop else none
        afterBlank := false }
  else
    let start := if s.afterBlank then if separates then i + 1 else i else s.start
    let place := if s.afterBlank && separates then i + 1 else i
    if s.afterBlank && isBlank then { s with start := start }
    else if separates && !s.afterBlank then
      let afterBlank := if joined || s.zeroOnly then s.afterBlank else isBlank
      if place = start ∧ afterBlank then { s with start := i + 1, afterBlank := false }
      else if s.more = some 1 then
        { s with start := start, afterBlank := afterBlank, more := some 0, stop := some place }
      else
        { s with
          fields := (start, place) :: s.fields
          start := i + 1
          afterBlank := afterBlank
          more := s.more.map (· - 1) }
    else { s with start := start, afterBlank := false }

def region (separators : Text) (atoms : Array Atom) (s : Splitting) (r : Region) : Splitting :=
  let joined := s.zeroOnly
  let s := { s with zeroOnly := r.zeroOnly, afterBlank := false }
  let separators := if r.zeroOnly then [] else separators
  (List.range' r.start (r.stop - r.start)).foldl (fun (s : Splitting) (i : Nat) =>
    match atoms[i]? with
    | some (.byte b _) => step separators joined s i b
    | _ => { s with afterBlank := false }) s

end Splitting

namespace Expansion

def fields (e : Expansion) (separators : Text) (most : Option Nat) : List (List Atom) :=
  let s := e.regions.reverse.foldl (Splitting.region separators e.atoms)
    ⟨[], 0, false, false, most, none⟩
  let stop := s.stop.getD e.size
  let last : List (Nat × Nat) := if s.zeroOnly || s.start < stop then [(s.start, stop)] else []
  (s.fields.reverse ++ last).map fun (start, stop) => (e.atoms.extract start stop).toList

end Expansion

end LintServer
