import LintServer.Text.Basic

set_option autoImplicit false

namespace LintServer

/-- A number keeps its literal, an object its members in written order, repeated names included. -/
inductive Json where
  | null
  | bool (value : Bool)
  | number (literal : Text)
  | string (value : Text)
  | array (items : List Json)
  | object (members : List (Text × Json))
deriving Repr, Inhabited

namespace Json

def get? (name : Text) : Json → Option Json
  | object members => (members.reverse.find? fun m => m.1 = name).map Prod.snd
  | _ => none

def ofNat (n : Nat) : Json := number (Text.ofNat n)

def ofInt (n : Int) : Json := number (Text.ofInt n)

def ofFields (fields : List (Text × Option Json)) : Json :=
  object (fields.filterMap fun f => f.2.map fun value => (f.1, value))

def ofOption {α : Type} (encode : α → Json) : Option α → Json
  | none => null
  | some a => encode a

end Json

end LintServer
