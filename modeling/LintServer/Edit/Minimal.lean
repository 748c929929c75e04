import LintServer.Edit.Script
import LintServer.Position
import LintServer.Text.Lines
import LintServer.Text.Quoted

set_option autoImplicit false

namespace LintServer

inductive EditError where
  | skipped (start stop : Nat)
  | incomplete (consumed total : Nat)
  | unknownTag (tag : UInt8)
  | outOfRange
deriving DecidableEq, Repr

def EditError.message : EditError → Text
  | skipped i j =>
    "edit script skips formatted lines " ++ Text.ofNat i ++ " to " ++ Text.ofNat j
  | incomplete consumed total =>
    "edit script consumed " ++ Text.ofNat consumed ++ " of " ++ Text.ofNat total ++
      " formatted lines"
  | unknownTag tag => "unknown edit script tag " ++ Quoted.encodeByte tag
  | outOfRange => "out of range"

def toUInt32 (n : Nat) : Except EditError UInt32 :=
  if n < UInt32.size then .ok n.toUInt32 else .error .outOfRange

/-- Where line `index` starts. Past the last line of a text without a final terminator that is the
end of the last line. -/
def linePosition (lines : List Text) (index : Nat) : Except EditError Position :=
  let unterminated :=
    if index = lines.length then lines.getLast?.filter fun line => !line.endsInLf else none
  match unterminated with
  | some line => do
    return ⟨← toUInt32 (index - 1), ← toUInt32 line.utf16Length⟩
  | none => do
    return ⟨← toUInt32 index, 0⟩

def lineRange (lines : List Text) (start stop : Nat) : Except EditError Range := do
  return ⟨← linePosition lines start, ← linePosition lines stop⟩

def Hunk.edit? (old : List Text) (text : Text) (h : Hunk) : Except EditError (Option TextEdit) :=
  match h.tag with
  | 0x65 => .ok none
  | 0x69 => do
    let start ← linePosition old h.oldStart
    return some ⟨⟨start, start⟩, text⟩
  | 0x64 => do
    return some ⟨← lineRange old h.oldStart h.oldStop, []⟩
  | 0x72 => do
    return some ⟨← lineRange old h.oldStart h.oldStop, text⟩
  | tag => .error (.unknownTag tag)

/-- The edits of hunks, the first of which must start at line `cursor` of the new text and the last
of which must reach its end. -/
def editsFrom (old new : List Text) (cursor : Nat) : List Hunk → Except EditError (List TextEdit)
  | [] => if cursor = new.length then .ok [] else .error (.incomplete cursor new.length)
  | h :: rest => do
    if h.newStart ≠ cursor then
      throw (.skipped cursor h.newStart)
    let next := cursor + h.newStop - h.newStart
    let edit ← h.edit? old ((new.drop cursor).take (next - cursor)).flatten
    return edit.toList ++ (← editsFrom old new next rest)

def minimalEdits (old new : Text) : Except EditError (List TextEdit) :=
  editsFrom old.lines new.lines 0 (hunks old.lines new.lines)

def wholeEdit (old new : Text) : Except EditError (List TextEdit) :=
  if old = new then .ok []
  else do
    let stop ← linePosition old.lines old.lines.length
    return [⟨⟨⟨0, 0⟩, stop⟩, new⟩]

end LintServer
