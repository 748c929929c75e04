import LintServer.Json.Over
import LintServer.Number.Decimal

set_option autoImplicit false

namespace LintServer

/-- The type of a value that does not matter otherwise. Null has every shape, and members that an
object does not name may hold anything. -/
inductive Shape where
  | any
  | bool
  | text
  | signed (bits : Nat)
  | unsigned (bits : Nat)
  | list (item : Shape)
  | map
  | object (members : List (Text × Shape))
  | either (first second : Shape)
  /-- An object with the members `others` and one more, whose values are objects that are gathered
  into one. Of the members of that one only the last of each name has to have its shape. -/
  | gathered (name : Text) (inner others : List (Text × Shape))
deriving Repr, Inhabited

namespace Shape

mutual

def isInRange : Json → Bool
  | .null | .bool _ | .string _ => true
  | .number literal => Decimal.isInRange literal
  | .array items => itemsInRange items
  | .object members => membersInRange members

def itemsInRange : List Json → Bool
  | [] => true
  | item :: rest => isInRange item && itemsInRange rest

def membersInRange : List (Text × Json) → Bool
  | [] => true
  | (_, value) :: rest => isInRange value && membersInRange rest

end

def int32 : Shape := signed 32

def uint32 : Shape := unsigned 32

def fitsSigned (bits : Nat) (literal : Text) : Bool :=
  let limit : Int := (Nat.pow 2 (bits - 1) : Nat)
  match Json.integer? literal with
  | some n => -limit ≤ n && n < limit
  | none => false

def fitsUnsigned (bits : Nat) (literal : Text) : Bool :=
  match Text.decimal? literal with
  | some n => n < Nat.pow 2 bits
  | none => false

def members? : Json → Option (List (Text × Json))
  | .null => some []
  | .object members => some members
  | _ => none

def gather? (name : Text) (members : List (Text × Json)) : Option (List (Text × Json)) :=
  ((members.filter fun m => name.sameName m.1).mapM fun m => members? m.2).map List.flatten

def latest? (name : Text) (members : List (Text × Json)) : Option Json :=
  (members.reverse.find? fun m => name.sameName m.1).map Prod.snd

mutual

def accepts : Shape → Json → Bool
  | _, .null => true
  | any, json => isInRange json
  | bool, .bool _ => true
  | text, .string _ => true
  | signed bits, .number literal => fitsSigned bits literal
  | unsigned bits, .number literal => fitsUnsigned bits literal
  | list item, .array items => items.all (accepts item)
  | map, .object members => membersInRange members
  | object shapes, .object members => members.all fun m => acceptsMember shapes m.1 m.2
  | either first second, json => accepts first json || accepts second json
  | gathered name inner others, .object members =>
    (members.all fun m => name.sameName m.1 || acceptsMember others m.1 m.2) &&
      (gather? name members).any fun gathered => acceptsLatest inner gathered
  | _, _ => false

def acceptsMember : List (Text × Shape) → Text → Json → Bool
  | [], _, _ => true
  | (known, shape) :: rest, name, json =>
    if known.sameName name then accepts shape json else acceptsMember rest name json

def acceptsLatest : List (Text × Shape) → List (Text × Json) → Bool
  | [], _ => true
  | (known, shape) :: rest, members =>
    ((latest? known members).all fun json => accepts shape json) && acceptsLatest rest members

end

def check {α : Type} (shape : Shape) : Json.Over α := fun old json =>
  if shape.accepts json then .ok old else .error .wrongType

end Shape

end LintServer
