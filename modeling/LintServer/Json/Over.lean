import LintServer.Json.Basic
import LintServer.Text.Fold

set_option autoImplicit false

namespace LintServer.Json

inductive Mismatch where
  | wrongType
  | unknownField (name : Text)
deriving DecidableEq, Repr

/-- Reading over an earlier value. What the JSON does not mention stays as it was, and so does a
plain value given as null. Null makes an optional value absent and a list empty. A repeated member
is read again over the result of the one before it. A list is filled from its start, and what lay
in it beyond the end of a shorter filling is there again for a longer one. -/
abbrev Over (α : Type) := α → Json → Except Mismatch α

def overText : Over Text
  | old, .null => .ok old
  | _, .string s => .ok s
  | _, _ => .error .wrongType

def overBool : Over Bool
  | old, .null => .ok old
  | _, .bool b => .ok b
  | _, _ => .error .wrongType

def integer? : Text → Option Int
  | 0x2D :: digits => (Text.decimal? digits).map fun n => -(n : Int)
  | digits => (Text.decimal? digits).map fun n => (n : Int)

def overInt64 : Over Int64
  | old, .null => .ok old
  | _, .number literal =>
    match integer? literal with
    | some n =>
      if -9223372036854775808 ≤ n ∧ n < 9223372036854775808 then .ok (Int64.ofInt n)
      else .error .wrongType
    | none => .error .wrongType
  | _, _ => .error .wrongType

/-- A minus sign is refused even before zero. -/
def overUInt32 : Over UInt32
  | old, .null => .ok old
  | _, .number literal =>
    match Text.decimal? literal with
    | some n => if n < UInt32.size then .ok n.toUInt32 else .error .wrongType
    | none => .error .wrongType
  | _, _ => .error .wrongType

def overOption {α : Type} (zero : α) (read : Over α) : Over (Option α)
  | _, .null => .ok none
  | old, json => (read (old.getD zero) json).map some

/-- A list that was filled, and what is left beyond its end of longer fillings before. -/
structure Slots (α : Type) where
  items : List α
  spare : List α
deriving DecidableEq, Repr

namespace Slots

def empty {α : Type} : Slots α := ⟨[], []⟩

def cons {α : Type} (item : α) (slots : Slots α) : Slots α := ⟨item :: slots.items, slots.spare⟩

def held {α : Type} (slots : Slots α) : List α := slots.items ++ slots.spare

def fill {α : Type} (zero : α) (read : Over α) : List α → List Json → Except Mismatch (Slots α)
  | held, [] => .ok ⟨[], held⟩
  | held, json :: rest => do
    let item ← read (held.headD zero) json
    return cons item (← fill zero read held.tail rest)

end Slots

def overSlots {α : Type} (zero : α) (read : Over α) : Over (Slots α)
  | _, .null | _, .array [] => .ok .empty
  | old, .array items => Slots.fill zero read old.held items
  | _, _ => .error .wrongType

abbrev Fields (α : Type) := List (Text × Over α)

def Fields.find? {α : Type} (fields : Fields α) (name : Text) : Option (Over α) :=
  (List.find? (fun f => f.1.sameName name) fields).map Prod.snd

inductive Unknown where
  | ignored
  | refused
deriving DecidableEq, Repr

def overMember {α : Type} (unknown : Unknown) (fields : Fields α) (old : α) (name : Text)
    (json : Json) : Except Mismatch α :=
  match fields.find? name, unknown with
  | some read, _ => read old json
  | none, .ignored => .ok old
  | none, .refused => .error (.unknownField name)

def overObject {α : Type} (unknown : Unknown) (fields : Fields α) : Over α
  | old, .null => .ok old
  | old, .object members =>
    members.foldlM (fun old member => overMember unknown fields old member.1 member.2) old
  | _, _ => .error .wrongType

end LintServer.Json
