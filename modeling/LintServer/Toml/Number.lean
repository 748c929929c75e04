import LintServer.Number.Decimal

set_option autoImplicit false

namespace LintServer.Toml

inductive Literal where
  | sign
  | zero
  | digits
  | integer
  | float
  | based (base : Nat)
  | date
deriving DecidableEq, Repr

def isFloatMark (b : UInt8) : Bool := List.contains [0x2E, 0x65, 0x45] b

def isDigitOf (base : Nat) (b : UInt8) : Bool :=
  match Text.hexValue? b with
  | some value => value < base
  | none => false

def underscore : UInt8 := 0x5F

def Literal.next : Literal → UInt8 → Option Literal
  | sign, b => if b = 0x30 then some zero else if Text.isDigit b then some digits else none
  | zero, b =>
    if Text.isDigit b then some digits
    else if b = underscore then some integer
    else if isFloatMark b then some float
    else [(0x62, based 2), (0x6F, based 8), (0x78, based 16)].lookup b
  | digits, b =>
    if Text.isDigit b then some digits
    else if b = 0x2D ∨ b = 0x3A then some date
    else if b = underscore then some integer
    else if isFloatMark b then some float
    else none
  | integer, b =>
    if Text.isDigit b ∨ b = underscore then some integer
    else if isFloatMark b then some float
    else none
  | float, b =>
    if Text.isDigit b ∨ b = underscore ∨ isFloatMark b ∨ b = 0x2B ∨ b = 0x2D then some float
    else none
  | based base, b => if isDigitOf base b ∨ b = underscore then some (based base) else none
  | date, b =>
    if Text.isDigit b || ("-:Tt .Zz+" : Text).contains b then some date else none

def scanLiteral (kind : Literal) : Text → Text × Literal × Text
  | [] => ([], kind, [])
  | b :: rest =>
    match kind.next b with
    | some kind =>
      let (more, kind, rest) := scanLiteral kind rest
      (b :: more, kind, rest)
    | none => ([], kind, b :: rest)

def dropSign : Text → Text
  | 0x2B :: rest => rest
  | 0x2D :: rest => rest
  | text => text

def isNegative : Text → Bool
  | 0x2D :: _ => true
  | _ => false

/-- Each underscore stands between two digits of base sixteen at most, and a digit is last. -/
def underscoresOk (text : Text) : Bool :=
  let step (state : Option Bool) (b : UInt8) : Option Bool := do
    let afterDigit ← state
    if b = underscore then (if afterDigit then some false else none) else some (Text.isHex b)
  text.foldl step (some false) == some true

def noLeadingZero (text : Text) : Bool :=
  match dropSign text with
  | 0x30 :: b :: _ => !(Text.isDigit b || b == underscore)
  | _ => true

def digitsValue (base : Nat) (digits : Text) : Nat :=
  digits.foldl (fun sum b => sum * base + (Text.hexValue? b).getD 0) 0

def isInteger (base : Nat) (text : Text) : Bool :=
  let digits := (if base = 10 then dropSign text else text.drop 2).filter (· != underscore)
  let limit := if isNegative text then 9223372036854775808 else 9223372036854775807
  underscoresOk text && noLeadingZero text && digits ≠ [] && digitsValue base digits ≤ limit

def floatPieces (text : Text) : List Text :=
  (text.foldr (fun b pieces =>
    if isFloatMark b then [] :: pieces
    else match pieces with
      | [] => [[b]]
      | piece :: rest => (b :: piece) :: rest) [[]]).filter (· ≠ [])

def pointsOk : Text → Bool
  | [] => true
  | b :: rest => (b != 0x2E || (rest.head?.map Text.isDigit).getD false) && pointsOk rest

def isFloat (text : Text) : Bool :=
  (floatPieces text).all underscoresOk &&
    noLeadingZero (text.takeWhile fun b => !isFloatMark b) &&
    pointsOk text && Decimal.isInRange (text.filter (· != underscore))

def isLeapYear (year : Nat) : Bool := year % 4 = 0 && (year % 100 ≠ 0 || year % 400 = 0)

def daysIn (year month : Nat) : Nat :=
  if month = 2 then (if isLeapYear year then 29 else 28)
  else if List.contains [4, 6, 9, 11] month then 30
  else 31

def twoDigits? (text : Text) : Option Nat :=
  if text.length = 2 then Text.decimal? text else none

def isDay (text : Text) : Bool :=
  match text.splitAt 0x2D with
  | [year, month, day] =>
    match Text.decimal? year, twoDigits? month, twoDigits? day with
    | some y, some m, some d =>
      year.length = 4 && 1 ≤ m && m ≤ 12 && 1 ≤ d && d ≤ daysIn y m
    | _, _, _ => false
  | _ => false

def shortDigits? (text : Text) : Option Nat :=
  if text.length ≤ 2 then Text.decimal? text else none

def isTime (text : Text) : Bool :=
  let (clock, fraction) := text.cut 0x2E
  let fractionOk :=
    match fraction with
    | none => true
    | some digits => digits ≠ [] && digits.all Text.isDigit
  match clock.splitAt 0x3A with
  | [hour, minute, second] =>
    match shortDigits? hour, twoDigits? minute, twoDigits? second with
    | some h, some m, some s => fractionOk && h < 24 && m < 60 && s < 60
    | _, _, _ => false
  | _ => false

def isOffset (text : Text) : Bool :=
  match text with
  | [0x5A] => true
  | sign :: rest =>
    (sign == 0x2B || sign == 0x2D) &&
      match Text.splitAt 0x3A rest with
      | [hour, minute] =>
        match twoDigits? hour, twoDigits? minute with
        | some h, some m => h ≤ 24 && m ≤ 60
        | _, _ => false
      | _ => false
  | [] => false

def isZonedTime (text : Text) : Bool :=
  let time := text.takeWhile fun b => !List.contains [0x5A, 0x2B, 0x2D] b
  let offset := text.drop time.length
  isTime time && (offset = [] || isOffset offset)

def isDate (text : Text) : Bool :=
  let text := text.map fun b => if b = 0x20 ∨ b = 0x74 then 0x54 else if b = 0x7A then 0x5A else b
  match Text.cut 0x54 text with
  | (text, none) => isDay text || isTime text
  | (day, some time) => isDay day && isZonedTime time

def trimSpaces (text : Text) : Text :=
  ((text.dropWhile (· == 0x20)).reverse.dropWhile (· == 0x20)).reverse

def Literal.accepts : Literal → Text → Bool
  | sign, _ => false
  | zero, text | digits, text | integer, text => isInteger 10 text
  | float, text => isFloat text
  | based base, text =>
    dropSign text = text && (text.drop 2).head?.any (isDigitOf base) && isInteger base text
  | date, text => isDate (trimSpaces text)

def afterNumber? (text : Text) : Option Text :=
  let unsigned := dropSign text
  if unsigned.startsWith "inf" ∨ unsigned.startsWith "nan" then some (unsigned.drop 3)
  else
    let signed := unsigned.length < text.length
    let (literal, kind, rest) := scanLiteral .sign unsigned
    if kind.accepts (text.take (if signed then 1 else 0) ++ literal) then some rest else none

end LintServer.Toml
