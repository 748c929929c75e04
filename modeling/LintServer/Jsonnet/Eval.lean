import LintServer.Json.Basic
import LintServer.Jsonnet.Expr
import LintServer.Number.Decimal

set_option autoImplicit false

namespace LintServer.Jsonnet

abbrev Place := Nat

structure Scope where
  directory : Text
  names : List (Text × Place)

/-- A field is evaluated once in each object that it is part of, so an object that takes it over
needs to know what it stands for. -/
structure Field where
  name : Text
  visibility : Visibility
  scope : Scope
  expr : Expr
  place : Place

inductive Value where
  | null
  | boolean (value : Bool)
  | number (value : Double)
  | string (value : Text)
  | array (items : List Place)
  | object (fields : List Field)
  | external

inductive Cell where
  | waiting (scope : Scope) (expr : Expr)
  | ready (value : Value)

structure Heap where
  cells : Array Cell
  imported : List (Text × Place)

namespace Heap

def library : Value := .object [⟨"extVar", .hidden, ⟨[], []⟩, .external, 0⟩]

def initial : Heap := ⟨#[.ready .external, .ready library], []⟩

def libraryPlace : Place := 1

end Heap

def Scope.ofFile (directory : Text) : Scope := ⟨directory, [(Expr.libraryName, Heap.libraryPlace)]⟩

abbrev Eval (α : Type) := StateT Heap Option α

structure Source where
  path : Text
  directory : Text
  content : Text

structure Surroundings where
  file? : Text → Text → Option Source
  external : List (Text × Text)

namespace Eval

def ofOption {α : Type} (value : Option α) : Eval α := fun heap => value.map fun a => (a, heap)

def allocate (cells : List Cell) : Eval (List Place) := fun heap =>
  some (List.range' heap.cells.size cells.length, { heap with cells := heap.cells ++ cells.toArray })

def cell (place : Place) : Eval Cell := fun heap => (heap.cells[place]?).map fun c => (c, heap)

def settle (place : Place) (value : Value) : Eval Unit := fun heap =>
  some ((), { heap with cells := heap.cells.setIfInBounds place (.ready value) })

def bind (scope : Scope) (locals : List (Text × Expr)) : Eval Scope := fun heap =>
  let places := List.range' heap.cells.size locals.length
  let inner := { scope with names := (locals.map Prod.fst).zip places ++ scope.names }
  let cells := locals.map fun l => Cell.waiting inner l.2
  some (inner, { heap with cells := heap.cells ++ cells.toArray })

def load (source : Source) : Eval Place := fun heap =>
  match heap.imported.lookup source.path with
  | some place => some (place, heap)
  | none => do
    let expr ← Expr.parse? source.content
    let place := heap.cells.size
    let cell := Cell.waiting (.ofFile source.directory) expr
    some (place, ⟨heap.cells.push cell, (source.path, place) :: heap.imported⟩)

end Eval

namespace Field

/-- A field keeps the visibility of the one that it takes the place of, unless it has its own. -/
def replacing (f : Field) : Option Field → Field
  | some old => if f.visibility = .inherited then { f with visibility := old.visibility } else f
  | none => f

def extend (left right : List Field) : List Field :=
  left.filter (fun f => !right.any fun g => g.name = f.name) ++
    right.map fun f => f.replacing (left.find? fun g => g.name = f.name)

def cell (f : Field) : Cell :=
  match f.expr with
  | .external => .ready .external
  | expr => .waiting f.scope expr

def renew (fields : List Field) : Eval Value := do
  let places ← Eval.allocate (fields.map cell)
  return .object ((fields.zip places).map fun (f, place) => { f with place := place })

end Field

def escapeChar (p : CodePoint) : Text :=
  match [(0x22, 0x22), (0x5C, 0x5C), (0x08, 0x62), (0x0C, 0x66), (0x0A, 0x6E), (0x0D, 0x72),
      (0x09, 0x74)].lookup p.scalar with
  | some letter => [0x5C, letter]
  | none =>
    if p.scalar < 0x20 ∨ (0x7F ≤ p.scalar ∧ p.scalar ≤ 0x9F) then
      "\\u" ++ Text.lowerHex p.scalar 4
    else p.bytes

def quote (text : Text) : Text := "\"" ++ text.codePoints.flatMap escapeChar ++ "\""

mutual

def spaced : Json → Text
  | .array [] => "[ ]"
  | .object [] => "\x7b \x7d"
  | .array items => "[" ++ Text.joinWith ", " (spacedAll items) ++ "]"
  | .object members => "\x7b" ++ Text.joinWith ", " (spacedMembers members) ++ "\x7d"
  | .null => "null"
  | .bool true => "true"
  | .bool false => "false"
  | .number literal => literal
  | .string value => quote value

def spacedAll : List Json → List Text
  | [] => []
  | item :: rest => spaced item :: spacedAll rest

def spacedMembers : List (Text × Json) → List Text
  | [] => []
  | (name, value) :: rest => (quote name ++ ": " ++ spaced value) :: spacedMembers rest

end

def position? (n : Double) : Option Nat :=
  let whole := n.split.1
  if n.negative ∧ whole ≠ 0 then none else some whole

/-- What an evaluation can still do within the calls that are left to it: find the value of a cell,
and the JSON that a value stands for. -/
structure Calls where
  force : Place → Eval Value
  manifest : Value → Eval Json

namespace Calls

def inText (calls : Calls) : Value → Eval Text
  | .string value => return value
  | value => return spaced (← calls.manifest value)

def addValues (calls : Calls) : Value → Value → Eval Value
  | left, .string b => return .string ((← calls.inText left) ++ b)
  | .string a, right => return .string (a ++ (← calls.inText right))
  | .number a, .number b => Eval.ofOption ((a.add? b).map .number)
  | .array a, .array b => return .array (a ++ b)
  | .object a, .object b => Field.renew (Field.extend a b)
  | _, _ => failure

def fieldOf (calls : Calls) (fields : List Field) (name : Text) : Eval Value := do
  let field ← Eval.ofOption (fields.find? fun f => f.name = name)
  calls.force field.place

def itemOf (calls : Calls) : Value → Value → Eval Value
  | .object fields, .string name => calls.fieldOf fields name
  | .array items, .number n => do
    let index ← Eval.ofOption (position? n)
    calls.force (← Eval.ofOption items[index]?)
  | .string text, .number n => do
    let index ← Eval.ofOption (position? n)
    let point ← Eval.ofOption text.codePoints[index]?
    return .string point.bytes
  | _, _ => failure

end Calls

def UnaryOp.apply : UnaryOp → Value → Option Value
  | minus, .number n => some (.number n.neg)
  | plus, .number n => some (.number n)
  | not, .boolean b => some (.boolean !b)
  | _, _ => none

def parameter : Text := "x"

def eval (around : Surroundings) (calls : Calls) (scope : Scope) : Expr → Eval Value
  | .null => return .null
  | .boolean value => return .boolean value
  | .number literal => Eval.ofOption (((Decimal.read? literal).bind Decimal.toDouble?).map .number)
  | .string value => return .string value
  | .array items => return .array (← Eval.allocate (items.map (.waiting scope)))
  | .object locals fields =>
    if Expr.distinct (fields.map Prod.fst) then
      Field.renew (fields.map fun (name, visibility, value) =>
        ⟨name, visibility, scope, .bind locals value, 0⟩)
    else failure
  | .reference name => do calls.force (← Eval.ofOption (scope.names.lookup name))
  | .bind locals body => do
    let inner ← Eval.bind scope locals
    eval around calls inner body
  | .choose condition yes no => do
    match ← eval around calls scope condition with
    | .boolean true => eval around calls scope yes
    | .boolean false => eval around calls scope no
    | _ => failure
  | .add left right => do
    let left ← eval around calls scope left
    let right ← eval around calls scope right
    calls.addValues left right
  | .unary op operand => do
    let value ← eval around calls scope operand
    Eval.ofOption (op.apply value)
  | .field target name => do
    match ← eval around calls scope target with
    | .object fields => calls.fieldOf fields name
    | _ => failure
  | .index target key => do
    let target ← eval around calls scope target
    let key ← eval around calls scope key
    calls.itemOf target key
  | .apply function arguments => do
    match ← eval around calls scope function, arguments with
    | .external, [(name, argument)] =>
      if name.all (· = parameter) then do
        let places ← Eval.allocate [.waiting scope argument]
        match ← calls.force (places.headD 0) with
        | .string name => Eval.ofOption ((around.external.lookup name).map .string)
        | _ => failure
      else failure
    | _, _ => failure
  | .external => return .external
  | .failure _ => failure
  | .file path => do
    let source ← Eval.ofOption (around.file? scope.directory path)
    calls.force (← Eval.load source)

namespace Calls

def none : Calls where
  force place := do
    match ← Eval.cell place with
    | .ready value => return value
    | .waiting _ _ => failure
  manifest _ := failure

/-- One call more than `inner`. The JSON of a value holds all of it without the hidden fields. -/
def more (around : Surroundings) (inner : Calls) : Calls where
  force place := do
    match ← Eval.cell place with
    | .ready value => return value
    | .waiting scope expr =>
      let value ← eval around inner scope expr
      Eval.settle place value
      return value
  manifest
    | .null => return .null
    | .boolean value => return .bool value
    | .number value => return .number value.text
    | .string value => return .string value
    | .external => failure
    | .array items => return .array (← items.mapM fun place => do
        inner.manifest (← inner.force place))
    | .object fields => do
      let shown := fields.filter fun f => f.visibility ≠ .hidden
      let sorted := shown.mergeSort fun f g => f.name ≤ g.name
      return .object (← sorted.mapM fun f => do
        return (f.name, ← inner.manifest (← inner.force f.place)))

def atMost (around : Surroundings) : Nat → Calls
  | 0 => none
  | n + 1 => more around (atMost around n)

end Calls

def maxCalls : Nat := 500

def evaluate? (around : Surroundings) (text : Text) : Option Json := do
  let expr ← Expr.parse? text
  let calls := Calls.atMost around maxCalls
  let evaluation : Eval Json := do
    let places ← Eval.allocate [.waiting (.ofFile []) expr]
    calls.manifest (← calls.force (places.headD 0))
  (evaluation.run Heap.initial).map Prod.fst

end LintServer.Jsonnet
