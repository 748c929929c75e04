import LintServer.Position
import LintServer.Text.CodePoint

set_option autoImplicit false

namespace LintServer

def lineStartsAfter (base : Nat) : Text → List Nat
  | [] => []
  | b :: rest =>
    if b = Text.lf then (base + 1) :: lineStartsAfter (base + 1) rest
    else lineStartsAfter (base + 1) rest

def lineStarts (text : Text) : List Nat := 0 :: lineStartsAfter 0 text

structure Document where
  text : Text
  starts : List Nat
  starts_eq : starts = lineStarts text

structure Change where
  range : Option Range
  text : Text
deriving DecidableEq, Repr

namespace Document

def ofText (text : Text) : Document := ⟨text, lineStarts text, rfl⟩

/-- Where the line starting at `start` ends: before its terminator, or at the end of the text. -/
def lineEnd (d : Document) (line start : Nat) : Nat :=
  match d.starts[line + 1]? with
  | none => d.text.length
  | some next =>
    if start < next - 1 ∧ d.text[next - 2]? = some Text.cr then next - 2 else next - 1

/-- The byte offset of a position. A position past the end of its line is the end of that line, one
past the last line is the end of the text. -/
def offset (d : Document) (p : Position) : Nat :=
  match d.starts[p.line.toNat]? with
  | none => d.text.length
  | some start =>
    let stop := d.lineEnd p.line.toNat start
    start + Text.byteOffset ((d.text.drop start).take (stop - start)) p.character.toNat

def changedText (d : Document) (c : Change) : Text :=
  match c.range with
  | none => c.text
  | some range =>
    let a := d.offset range.start
    let b := d.offset range.stop
    d.text.take (min a b) ++ c.text ++ d.text.drop (max a b)

def apply (d : Document) (c : Change) : Document := ofText (d.changedText c)

end Document

end LintServer
