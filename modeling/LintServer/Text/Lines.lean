import LintServer.Text.Basic

set_option autoImplicit false

namespace LintServer.Text

def consLine (b : UInt8) (lines : List Text) : List Text :=
  if b = lf then [b] :: lines
  else match lines with
    | [] => [[b]]
    | line :: rest => (b :: line) :: rest

def lines (text : Text) : List Text := text.foldr consLine []

def endsInLf (line : Text) : Bool := line.getLast? == some lf

def dropLf (line : Text) : Text := if endsInLf line then line.dropLast else line

@[simp]
theorem lines_nil : lines [] = [] := rfl

theorem lines_cons (b : UInt8) (text : Text) : lines (b :: text) = consLine b (lines text) := rfl

@[simp]
theorem flatten_consLine (b : UInt8) (lines : List Text) :
    (consLine b lines).flatten = b :: lines.flatten := by
  unfold consLine
  split
  · simp
  · split <;> simp

@[simp]
theorem flatten_lines (text : Text) : text.lines.flatten = text := by
  induction text with
  | nil => rfl
  | cons b text ih => simp [lines_cons, ih]

end LintServer.Text
