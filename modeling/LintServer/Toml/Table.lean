import LintServer.Toml.Syntax

set_option autoImplicit false

namespace LintServer.Toml

inductive Node where
  | text (value : Text)
  | boolean (value : Bool)
  | number
  | array (items : List Node)
  | table (members : List (Text × Node))
  | tables (elements : List (List (Text × Node)))
deriving Repr

abbrev Table := List (Text × Node)

namespace Table

def set (name : Text) (node : Node) : Table → Table
  | [] => [(name, node)]
  | (other, old) :: rest =>
    if other = name then (name, node) :: rest else (other, old) :: set name node rest

def find? (key : Key) (t : Table) : Option Table :=
  match key with
  | [] => some t
  | name :: rest =>
    match t.lookup name with
    | some (.table inner) => find? rest inner
    | some (.tables elements) => elements.getLast?.bind (find? rest)
    | _ => none

def modify? (key : Key) (f : Table → Option Table) (t : Table) : Option Table :=
  match key with
  | [] => f t
  | name :: rest =>
    match t.lookup name with
    | some (.table inner) => do
      let inner ← modify? rest f inner
      some (set name (.table inner) t)
    | some (.tables elements) => do
      let inner ← modify? rest f (← elements.getLast?)
      some (set name (.tables (elements.dropLast ++ [inner])) t)
    | _ => none

end Table

structure Draft where
  table : Table
  /-- The keys that longer keys passed through and that no statement has defined. -/
  passed : List Key
  arrays : List Key
  context : Key

namespace Draft

def empty : Draft := ⟨[], [], [], []⟩

def enter (d : Draft) (context : Key) : Draft := { d with context := context }

def mark (d : Draft) (key : Key) : Draft := { d with passed := key :: d.passed }

def unmark (d : Draft) (key : Key) : Draft := { d with passed := d.passed.filter (· ≠ key) }

def noteArray (d : Draft) (key : Key) : Draft := { d with arrays := key :: d.arrays }

def noteOther (d : Draft) (key : Key) : Draft := { d with arrays := d.arrays.filter (· ≠ key) }

/-- The key that the kind of a name's node is noted under: that of the context if the name is empty,
unless the context is the top. -/
def noteKey (context : Key) (name : Text) : Key :=
  if name = [] ∧ context ≠ [] then context else context ++ [name]

def at? (d : Draft) (key : Key) (f : Table → Option Table) : Option Draft := do
  let table ← d.table.modify? key f
  some { d with table := table }

def define? (d : Draft) (name : Text) (node : Node) : Option Draft := do
  let key := d.context ++ [name]
  let table ← d.table.find? d.context
  let given ← d.at? d.context fun t => some (t.set name node)
  if (table.lookup name).isNone then some given
  else if d.arrays.contains key then some (given.unmark key)
  else if d.passed.contains key then some (d.unmark key)
  else none

def openPath? (d : Draft) (done : Key) : Key → Option Draft
  | [] => some d
  | name :: rest => do
    let here := done ++ [name]
    let table ← d.table.find? done
    let d ← if (table.lookup name).isSome then some d
      else (d.mark here).at? done fun t => some (t.set name (.table []))
    openPath? d here rest

def enterTable? (d : Draft) (key : Key) : Option Draft := do
  let name ← key.getLast?
  let d ← d.openPath? [] key.dropLast
  let d ← (d.enter key.dropLast).define? name (.table [])
  some (d.enter key)

def enterElement? (d : Draft) (key : Key) : Option Draft := do
  let name ← key.getLast?
  let d ← d.openPath? [] key.dropLast
  let d ← d.at? key.dropLast fun t =>
    match t.lookup name with
    | none => some (t.set name (.tables [[]]))
    | some (.tables elements) => some (t.set name (.tables (elements ++ [[]])))
    | some _ => none
  some (d.enter key)

def passThrough? (d : Draft) : Key → Option Draft
  | [] => some d
  | name :: rest => do
    let key := d.context ++ [name]
    let d ← (d.mark key).enterTable? key
    passThrough? d rest

def note (d : Draft) (key : Key) : Node → Draft
  | .array _ => d.noteArray key
  | _ => d.noteOther key

def assign? (d : Draft) (name : Text) (node : Node) : Option Draft := do
  let d' ← d.define? name node
  some (d'.note (noteKey d.context name) node)

end Draft

mutual

/-- Builds the node of a term that is given to the name in the context. The members of a table in
braces are defined in the draft one by one; `inArray` says whether the table is an item. The node of
such a table holds each member under the last part of its key; the draft holds it in full. -/
def build? (d : Draft) (name : Text) (inArray : Bool) : Term → Option (Node × Draft)
  | .text value => some (.text value, d)
  | .boolean value => some (.boolean value, d)
  | .number => some (.number, d)
  | .array items => do
    let (nodes, d) ← buildItems? (d.noteArray (Draft.noteKey d.context name)) name items
    some (.array nodes, d)
  | .table members => do
    let key := d.context ++ [name]
    let marked := d.mark key
    let inner ← if inArray then marked.enterElement? key else marked.enterTable? key
    let (table, inner) ← buildMembers? inner [] members
    some (.table table, inner.enter d.context)

def buildItems? (d : Draft) (name : Text) : List Term → Option (List Node × Draft)
  | [] => some ([], d)
  | item :: rest => do
    let (node, d) ← build? d name true item
    let (nodes, d) ← buildItems? d name rest
    some (node :: nodes, d)

def buildMembers? (d : Draft) (table : Table) : List (Key × Term) → Option (Table × Draft)
  | [] => some (table, d)
  | (key, value) :: rest => do
    let name ← key.getLast?
    let inner ← d.passThrough? key.dropLast
    let (node, inner) ← build? inner name false value
    let inner ← inner.assign? name node
    buildMembers? (inner.enter d.context) (table.set name node) rest

end

def Draft.run? (d : Draft) : Statement → Option Draft
  | .assign key value => do
    let name ← key.getLast?
    let inner ← d.passThrough? key.dropLast
    let (node, inner) ← build? inner name false value
    let inner ← inner.assign? name node
    some (inner.enter d.context)
  | .table key => do
    let d ← d.enterTable? key
    some (d.noteOther key)
  | .tables key => do
    let d ← d.enterElement? key
    some (d.noteOther key)

def table? (text : Text) : Option Table := do
  let statements ← parse? text
  let d ← statements.foldlM Draft.run? Draft.empty
  some d.table

end LintServer.Toml
