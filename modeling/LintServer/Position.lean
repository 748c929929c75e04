import LintServer.Text.Basic

set_option autoImplicit false

namespace LintServer

/-- Lines and UTF-16 code units, both from zero. -/
structure Position where
  line : UInt32
  character : UInt32
deriving DecidableEq, Repr, Inhabited

namespace Position

def lt (a b : Position) : Bool :=
  if a.line ≠ b.line then a.line < b.line else a.character < b.character

instance : LT Position := ⟨fun a b => lt a b = true⟩

instance (a b : Position) : Decidable (a < b) := inferInstanceAs (Decidable (lt a b = true))

instance : LE Position := ⟨fun a b => ¬ b < a⟩

instance (a b : Position) : Decidable (a ≤ b) := inferInstanceAs (Decidable (¬ b < a))

end Position

structure Range where
  start : Position
  stop : Position
deriving DecidableEq, Repr, Inhabited

def Range.within (inner outer : Range) : Bool :=
  outer.start ≤ inner.start && inner.stop ≤ outer.stop

structure TextEdit where
  range : Range
  newText : Text
deriving DecidableEq, Repr

end LintServer
