import LintServer.Host.Effect

set_option autoImplicit false

namespace LintServer

inductive Glob.Item where
  | range (low high : UInt8)
  | kind (holds : UInt8 → Bool)

inductive Glob where
  | byte (b : UInt8)
  | one
  | many
  | set (negated : Bool) (items : List Glob.Item)

namespace Glob

def isBlank (b : UInt8) : Bool := b == 0x20 || b == 0x09

def isSpace (b : UInt8) : Bool := b == 0x20 || (0x09 ≤ b && b ≤ 0x0D)

def isGraph (b : UInt8) : Bool := 0x21 ≤ b && b ≤ 0x7E

def isLetterOrDigit (b : UInt8) : Bool := Text.isLetter b || Text.isDigit b

def kinds : List (Text × (UInt8 → Bool)) :=
  [(":alnum:]", isLetterOrDigit), (":cntrl:]", fun b => b < 0x20 || b == 0x7F),
    (":lower:]", Text.isLower), (":space:]", isSpace), (":alpha:]", Text.isLetter),
    (":digit:]", Text.isDigit), (":print:]", fun b => b == 0x20 || isGraph b),
    (":upper:]", Text.isUpper), (":blank:]", isBlank), (":graph:]", isGraph),
    (":punct:]", fun b => isGraph b && !isLetterOrDigit b), (":xdigit:]", Text.isHex)]

def items : Nat → UInt8 → Text → Option (List Item × Text)
  | 0, _, _ => none
  | fuel + 1, c, rest =>
    let next (item : Item) : Text → Option (List Item × Text)
      | [] => none
      | 0x5D :: rest => some ([item], rest)
      | c :: rest => (items fuel c rest).map fun (found, rest) => (item :: found, rest)
    match if c = 0x5B then kinds.find? fun k => Text.startsWith rest k.1 else none with
    | some (name, holds) => next (.kind holds) (rest.drop name.length)
    | none =>
      let plain (c : UInt8) : Text → Option (List Item × Text)
        | 0x2D :: high :: rest =>
          if high = 0x5D then next (.range c c) (0x2D :: high :: rest)
          else if high = 0x5C then
            match rest with
            | high :: rest => next (.range c high) rest
            | [] => none
          else next (.range c high) rest
        | rest => next (.range c c) rest
      if c = 0x5C then
        match rest with
        | c :: rest => plain c rest
        | [] => none
      else plain c rest

def bracket? (text : Text) : Option (Glob × Text) :=
  let negated := text.head? == some 0x21
  match if negated then text.drop 1 else text with
  | [] => none
  | c :: rest =>
    (items (text.length + 1) c rest).map fun (found, rest) => (.set negated found, rest)

def elements : Nat → Text → List Glob
  | 0, _ => []
  | _ + 1, [] => []
  | fuel + 1, b :: rest =>
    if b = 0x5C then
      match rest with
      | c :: rest => .byte c :: elements fuel rest
      | [] => [.byte b]
    else if b = 0x3F then .one :: elements fuel rest
    else if b = 0x2A then .many :: elements fuel (rest.dropWhile (· == 0x2A))
    else if b = 0x5B then
      match bracket? rest with
      | some (element, rest) => element :: elements fuel rest
      | none => .byte b :: elements fuel rest
    else .byte b :: elements fuel rest

def ofText (pattern : Text) : List Glob := elements (pattern.length + 1) pattern

def Item.holds (b : UInt8) : Item → Bool
  | range low high => low.toInt8 ≤ b.toInt8 && b.toInt8 ≤ high.toInt8
  | kind holds => holds b

def accepts (element : Glob) (b : UInt8) : Bool :=
  match element with
  | .byte c => b == c
  | .one | .many => true
  | .set negated found => (found.any (Item.holds b)) != negated

def suffixes : Text → List Text
  | [] => [[]]
  | b :: rest => (b :: rest) :: suffixes rest

def fits : List Glob → Text → Bool
  | [], text => text.isEmpty
  | [.many], _ => true
  | .many :: rest, text => (suffixes text).any fun tail => fits rest tail
  | element :: rest, text =>
    match text with
    | [] => false
    | b :: tail => element.accepts b && fits rest tail

def isClosed : Nat → Text → Bool
  | 0, _ => false
  | fuel + 1, text =>
    match if text.head? = some 0x5C then text.drop 1 else text with
    | [] => false
    | b :: rest =>
      if b = Text.slash then false else rest.head? == some 0x5D || isClosed fuel rest

def opensSet (rest : Text) : Bool :=
  isClosed (rest.length + 1) (if rest.head? = some 0x21 then rest.drop 1 else rest)

structure Level where
  before : Text
  element : Text
  after : Option Text
deriving DecidableEq, Repr

def level? (before part : Text) (wild : Bool) : Nat → Text → Option Level
  | 0, _ => none
  | _ + 1, [] => if wild then some ⟨before, part, none⟩ else none
  | fuel + 1, b :: rest =>
    let further (taken : Text) (rest : Text) : Option Level :=
      level? before (part ++ taken) wild fuel rest
    let slash (taken : Text) (rest : Text) : Option Level :=
      if wild then some ⟨before, part, some rest⟩
      else level? (before ++ part ++ taken) [] wild fuel rest
    if b = 0x2A ∨ b = 0x3F ∨ (b = 0x5B ∧ opensSet rest) then
      level? before (part ++ [b]) true fuel rest
    else if b = Text.slash then slash [b] rest
    else if b = 0x5C then
      match rest with
      | [] => further [b] []
      | c :: rest => if c = Text.slash then slash [b, c] rest else further [b, c] rest
    else further [b] rest

def plain : Text → Text
  | [] => []
  | 0x5C :: b :: rest => b :: plain rest
  | b :: rest => b :: plain rest

def names (h : Host) (working directory element : Text) : List Text :=
  let dotted := (if element.head? = some 0x5C then element.drop 1 else element).head? = some 0x2E
  let pattern := ofText element
  match h.kind working (if directory = [] then "." else directory) with
  | .ok .directory =>
    match h.files.locate working (if directory = [] then "." else directory) with
    | .ok place => (([".", ".."] : List Text) ++ h.files.names place).filter fun name =>
      (dotted || name.head? != some 0x2E) && fits pattern name
    | .error _ => []
  | _ => []

def paths (h : Host) (working : Text) : Nat → Text → Text → List Text
  | 0, _, _ => []
  | fuel + 1, directory, pattern =>
    match level? [] [] false (pattern.length + 1) pattern with
    | none =>
      let path := directory ++ plain pattern
      if directory ≠ [] ∧ (h.kind working path).isOk then [path] else []
    | some found =>
      let directory := directory ++ plain found.before
      (names h working directory found.element).flatMap fun name =>
        match found.after with
        | none => [directory ++ name]
        | some rest => paths h working fuel (directory ++ name ++ [Text.slash]) rest

def before : Text → Text → Bool
  | [], _ => true
  | _, [] => false
  | a :: as, b :: bs => if a = b then before as bs else a < b

def matching (h : Host) (working pattern : Text) : List Text :=
  (paths h working (pattern.length + 1) [] pattern).mergeSort before

end Glob

end LintServer
