import LintServer.Host.Script.Source

set_option autoImplicit false

namespace LintServer.Script.Reader

def isDelimiter (b : UInt8) : Bool := (" \t\n<>();&|" : Text).contains b

def isKeyword (name : Text) : Bool := keywords.contains name

structure Quoting where
  double : Bool
  braces : Bool
  isMark : Bool
  document : Option Mark

namespace Quoting

def none : Quoting := ⟨false, false, false, .none⟩

def openError (q : Quoting) : SyntaxError :=
  if q.document.isSome then .openBrace else .openQuote

def openBraceError (q : Quoting) : SyntaxError := if q.double then q.openError else .openBrace

def endsLine (q : Quoting) (b : UInt8) : Bool := q.document.isSome && b = Text.lf

def isEscapable (q : Quoting) (b : UInt8) : Bool :=
  ("\\`$" : Text).contains b || (b == 0x22 && (q.braces || q.document.isNone)) ||
    (b == 0x7D && q.braces)

end Quoting

def nextLine (q : Quoting) (missing : SyntaxError) : Reader Word := do
  match q.document with
  | none => return []
  | some mark =>
    match ← startLine mark with
    | none => fail missing
    | some start => return start

def escape (q : Quoting) : Reader Word := do
  match ← peekRaw with
  | none => return [.byte 0x5C true]
  | some b =>
    take
    if q.double && !q.isEscapable b then return [.byte 0x5C true, .byte b true]
    else return [.byte b true]

def single (q : Quoting) : Reader Word := do
  let text ← upTo (· = 0x27)
  if (← peekRaw).isNone then fail q.openError
  take
  return .mark :: bytes true text ++ [.mark]

def backquoted (double : Bool) : Nat → Reader Text
  | 0 => fail .openBackquote
  | fuel + 1 => do
    let text ← upTo fun b => b = 0x60 || b = 0x5C
    match ← peek with
    | none => fail .openBackquote
    | some b =>
      take
      if b = 0x60 then return text
      else if b ≠ 0x5C then return text ++ b :: (← backquoted double fuel)
      else match ← peekRaw with
        | none => fail .openBackquote
        | some c =>
          take
          let plain := ("\\`$" : Text).contains c || (double && c = 0x22)
          let escaped := if plain then [c] else [0x5C, c]
          return text ++ escaped ++ (← backquoted double fuel)

def useOf : Reader (Use × Bool × Bool) := do
  let letter? (b : UInt8) : Option Use :=
    [(0x2D, Use.orElse), (0x2B, .ifSet), (0x3F, .orFail), (0x3D, .orAssign)].lookup b
  match ← peek with
  | none => return (.invalid, false, true)
  | some b =>
    takeUncounted
    if b = 0x7D then return (.value, false, false)
    else if b = 0x3A then
      match ← peek with
      | none => return (.invalid, true, true)
      | some c =>
        takeUncounted
        return (if c = 0x7D then .value else (letter? c).getD .invalid, true, true)
    else if b = 0x25 then return (.withoutEnd (← take? b), false, true)
    else if b = 0x23 then return (.withoutStart (← take? b), false, true)
    else return ((letter? b).getD .invalid, false, true)

def braceName (fuel : Nat) : Reader (Option (Text × Option Use)) := do
  let named (b : UInt8) : Reader Text :=
    if isNameStart b then names isNamePart fuel else names Text.isDigit fuel
  match ← peek with
  | none => return none
  | some b =>
    if isNameStart b || Text.isDigit b then return some (← named b, none)
    else if b = 0x7D then return none
    else if b ≠ 0x23 then
      takeUncounted
      return if isSign b then some ([b], none) else none
    else
      take
      match ← peek with
      | none => return none
      | some c =>
        if isNamePart c then return some (← named c, some .length)
        else
          let before ← get
          takeUncounted
          if c ≠ 0x7D && (← peek) = some 0x7D then
            return if isSign c then some ([c], some .length) else none
          else
            set before
            return some ([b], none)

def isTrim : Use → Bool
  | .withoutStart _ | .withoutEnd _ => true
  | _ => false

mutual

def double : Nat → Quoting → Reader Word
  | 0, q => fail q.openError
  | fuel + 1, q => do
    let text ← upTo fun b => ("\"\\$`" : Text).contains b || q.endsLine b
    match ← peek with
    | none => fail q.openError
    | some b =>
      take
      if b = 0x22 then return bytes true text
      else if b = Text.lf then
        let start ← nextLine q q.openError
        return bytes true (text ++ [b]) ++ start ++ (← double fuel q)
      else
        let piece ← special fuel { q with double := true } b
        return bytes true text ++ piece ++ (← double fuel q)

def special : Nat → Quoting → UInt8 → Reader Word
  | 0, _, b => return [.byte b false]
  | fuel + 1, q, b => do
    if q.isMark && (b = 0x24 || b = 0x60) then return [.byte b q.double]
    else if b = 0x5C then escape q
    else if b = 0x24 then dollar fuel q
    else if b = 0x60 then backquote fuel q
    else if b = 0x27 then single q
    else if b = 0x22 then return .mark :: (← double fuel q) ++ [.mark]
    else return [.byte b q.double]

def operand : Nat → Quoting → Reader Word
  | 0, _ => fail .openBrace
  | fuel + 1, q => do
    let text ← upTo fun b =>
      ("\x7d\"\\$`" : Text).contains b || (!q.double && b = 0x27) || q.endsLine b
    match ← peek with
    | none => fail q.openBraceError
    | some b =>
      take
      if b = 0x7D then return bytes q.double text
      else if b = Text.lf then
        let start ← nextLine q q.openBraceError
        return bytes q.double (text ++ [b]) ++ start ++ (← operand fuel q)
      else
        let piece ← special fuel q b
        return bytes q.double text ++ piece ++ (← operand fuel q)

def dollar : Nat → Quoting → Reader Word
  | 0, q => return [.byte 0x24 q.double]
  | fuel + 1, q => do
    match ← peek with
    | none => return [.byte 0x24 q.double]
    | some b =>
      if b = 0x28 then
        take
        if ← take? 0x28 then return [.arithmetic (← arithmetic fuel q 0)]
        else return [.command (← substitution fuel)]
      else if b = 0x7B then
        take
        braces fuel q
      else if isNameStart b then
        return [.parameter (← names isNamePart fuel) .value false []]
      else if isSign b then
        take
        return [.parameter [b] .value false []]
      else return [.byte 0x24 q.double]

def braces : Nat → Quoting → Reader Word
  | 0, _ => fail .openBrace
  | fuel + 1, q => do
    let inner (use : Use) : Quoting := { q with double := q.double && !isTrim use, braces := true }
    match ← braceName fuel with
    | none => return [.parameter [] .invalid false (← operand fuel (inner .invalid))]
    | some (name, some use) =>
      let use := if (← peek) = some 0x7D then use else .invalid
      return [.parameter name use false (← operand fuel (inner use))]
    | some (name, none) =>
      let (use, colon, more) ← useOf
      return [.parameter name use colon (← if more then operand fuel (inner use) else pure [])]

def arithmetic : Nat → Quoting → Nat → Reader Word
  | 0, _, _ => fail .openArithmetic
  | fuel + 1, q, depth => do
    let text ← upTo fun b => ("()\\$`" : Text).contains b || q.endsLine b
    let before := bytes false text
    match ← peek with
    | none => fail .openArithmetic
    | some b =>
      take
      if b = 0x28 then return before ++ .byte b false :: (← arithmetic fuel q (depth + 1))
      else if b = 0x29 then
        if depth > 0 then return before ++ .byte b false :: (← arithmetic fuel q (depth - 1))
        else if ← take? 0x29 then return before
        else return before ++ .byte b false :: (← arithmetic fuel q 0)
      else
        let piece ← if b = Text.lf then
            pure (.byte b false :: (← nextLine q .openArithmetic))
          else special fuel { q with double := true, braces := false } b
        return before ++ piece ++ (← arithmetic fuel q depth)

def substitution : Nat → Reader Command
  | 0 => return .nothing
  | fuel + 1 => do
    let before := (← get).awaited
    modify fun s => { s with awaited := [] }
    let body ← list fuel false true
    match ← token fuel false false false with
    | .rightParen => pure ()
    | t => unexpected t (some .rightParen)
    modify fun s => { s with awaited := before }
    return body

def backquote : Nat → Quoting → Reader Word
  | 0, q => return [.byte 0x60 q.double]
  | fuel + 1, q => do
    let text ← backquoted q.double fuel
    let outside ← get
    set { outside with rest := text, line := 1, returned := none, awaited := [], active := [] }
    let body ← list fuel false true
    documents fuel
    let inside ← get
    set { outside with documents := inside.documents, count := inside.count }
    return [.command body]

def word : Nat → Bool → Reader Word
  | 0, _ => return []
  | fuel + 1, isMark => do
    match ← peek with
    | none => return []
    | some b =>
      if isDelimiter b then return []
      else
        let text ← upTo fun b => isDelimiter b || ("'\"\\$`" : Text).contains b
        if text ≠ [] then return bytes false text ++ (← word fuel isMark)
        else
          take
          let piece ← special fuel { Quoting.none with isMark := isMark } b
          return piece ++ (← word fuel isMark)

def documentLines : Nat → Mark → Reader Word
  | 0, _ => return []
  | fuel + 1, mark => do
    match ← startLine mark with
    | none => return []
    | some start =>
      let line ← documentLine fuel mark
      return start ++ line ++ (← documentLines fuel mark)

def documentLine : Nat → Mark → Reader Word
  | 0, _ => return []
  | fuel + 1, mark => do
    let text ← upTo fun b => ("\n\\$`" : Text).contains b
    match ← peek with
    | none => return bytes true text
    | some b =>
      take
      if b = Text.lf then return bytes true (text ++ [b])
      else
        let piece ← special fuel ⟨true, false, false, some mark⟩ b
        return bytes true text ++ piece ++ (← documentLine fuel mark)

def documents : Nat → Reader Unit
  | 0 => return ()
  | fuel + 1 => do
    match (← get).awaited with
    | [] => return ()
    | d :: rest =>
      modify fun s => { s with awaited := rest }
      if d.plain then keep d.id (.plain (← plainLines d.mark fuel))
      else keep d.id (.expanded (← documentLines fuel d.mark))
      documents fuel

def lex : Nat → Bool → Reader Token
  | 0, _ => return .endOfFile
  | fuel + 1, isMark => do
    let twice (b : UInt8) (single twice : Token) : Reader Token := do
      take
      return if ← take? b then twice else single
    match ← peek with
    | none => return .endOfFile
    | some b =>
      if b = 0x20 || b = 0x09 then
        take
        lex fuel isMark
      else if b = 0x23 then
        let _ ← upTo (· = Text.lf)
        lex fuel isMark
      else if b = Text.lf then
        take
        return .newline
      else if b = 0x26 then twice b .ampersand .both
      else if b = 0x7C then twice b .bar .either
      else if b = 0x3B then twice b .semicolon .endCase
      else if b = 0x28 then
        take
        return .leftParen
      else if b = 0x29 then
        take
        return .rightParen
      else
        let w ← word fuel isMark
        let next ← peek
        let isQuoted := w.any fun
          | .mark | .byte _ true => true
          | _ => false
        let digit? : Option (Option Nat) := match w with
          | [] => some none
          | [.byte d false] => if Text.isDigit d then some (some (d.toNat - 0x30)) else none
          | _ => none
        match digit?, next with
        | some digit, some 0x3E =>
          take
          let direction ←
            if ← take? 0x3E then pure Direction.append
            else if ← take? 0x7C then pure .replace
            else if ← take? 0x26 then pure .copy
            else pure .output
          return .redirect direction (digit.getD 1)
        | some digit, some 0x3C =>
          take
          let direction ←
            if ← take? 0x3C then pure (Direction.document (← take? 0x2D))
            else if ← take? 0x26 then pure .copy
            else if ← take? 0x3E then pure .update
            else pure .input
          return .redirect direction (digit.getD 0)
        | _, _ => return .word w isQuoted

def token : Nat → Bool → Bool → Bool → Reader Token
  | 0, _, _, _ => return .endOfFile
  | fuel + 1, skipsLines, keyword, aliased => do
    let s ← get
    let before := if s.active.isEmpty then 0 else s.rest.length
    let t ← match s.returned with
      | some t =>
        set { s with returned := none }
        pure t
      | none => lex fuel false
    match t with
    | .newline =>
      if skipsLines then
        documents fuel
        token fuel skipsLines keyword aliased
      else return t
    | .word w false =>
      let s ← get
      match w.plain? with
      | none => return t
      | some text =>
        if keyword && isKeyword text then return .keyword text
        else if aliased || (before > 0 && s.passedBlank before s.rest.length) then
          match s.aliases.lookup text with
          | some value =>
            if s.isActive text then return t
            else
              set (s.expand text value)
              token fuel skipsLines keyword true
          | none => return t
        else return t
    | _ => return t

/-- Commands up to a line end, or up to a token that ends a list; `line` tells which. At the start
of a list such a token is no command, unless `empty` allows it. -/
def list : Nat → Bool → Bool → Reader Command
  | 0, _, _ => return .nothing
  | fuel + 1, line, empty => listAfter fuel line empty none

def listAfter : Nat → Bool → Bool → Option Command → Reader Command
  | 0, _, _, before => return before.getD .nothing
  | fuel + 1, line, empty, before => do
    match ← token fuel (!line) true true with
    | .newline =>
      documents fuel
      return before.getD .nothing
    | .endOfFile =>
      documents fuel
      giveBack .endOfFile
      return before.getD .nothing
    | t =>
      giveBack t
      if !line && empty && t.endsList then return before.getD .nothing
      let first ← andOr fuel
      let end_ ← token fuel false false false
      let first := match end_, first with
        | .ampersand, .pipe commands _ => .pipe commands true
        | .ampersand, .redirected line body redirects => .background line body redirects
        | .ampersand, other => .background 0 other []
        | _, other => other
      let all := match before with
        | some before => .sequence before first
        | none => first
      match end_ with
      | .newline | .endOfFile =>
        giveBack end_
        listAfter fuel line true (some all)
      | .ampersand | .semicolon => listAfter fuel line true (some all)
      | _ =>
        if line then unexpected end_ none
        giveBack end_
        return all

def andOr : Nat → Reader Command
  | 0 => return .nothing
  | fuel + 1 => do andOrAfter fuel (← pipeline fuel false)

def andOrAfter : Nat → Command → Reader Command
  | 0, first => return first
  | fuel + 1, first => do
    match ← token fuel false false false with
    | .both => andOrAfter fuel (.both first (← pipeline fuel true))
    | .either => andOrAfter fuel (.either first (← pipeline fuel true))
    | t =>
      giveBack t
      return first

def pipeline : Nat → Bool → Reader Command
  | 0, _ => return .nothing
  | fuel + 1, skipsLines => do
    let t ← token fuel skipsLines skipsLines skipsLines
    match t with
    | .keyword name =>
      if name = "!" then return .negated (← commands fuel (← command fuel false true))
      giveBack t
      commands fuel (← command fuel false false)
    | _ =>
      giveBack t
      commands fuel (← command fuel false false)

def commands : Nat → Command → Reader Command
  | 0, first => return first
  | fuel + 1, first => do
    match ← token fuel false false false with
    | .bar => return .pipe (first :: (← commandsAfter fuel)) false
    | t =>
      giveBack t
      return first

def commandsAfter : Nat → Reader (List Command)
  | 0 => return []
  | fuel + 1 => do
    let first ← command fuel true true
    match ← token fuel false false false with
    | .bar => return first :: (← commandsAfter fuel)
    | t =>
      giveBack t
      return [first]

def command : Nat → Bool → Bool → Reader Command
  | 0, _, _ => return .nothing
  | fuel + 1, skipsLines, keyword => do
    let line := (← get).line
    let t ← token fuel skipsLines keyword keyword
    match t with
    | .keyword name =>
      if name = "if" then
        let body ← choice fuel
        expect fuel "fi"
        redirected fuel line body
      else if name = "while" || name = "until" then
        let condition ← list fuel false false
        expect fuel "do"
        let body ← list fuel false false
        expect fuel "done"
        redirected fuel line (.loop (name = "while") condition body)
      else if name = "for" then
        let body ← loopOver fuel line
        redirected fuel line body
      else if name = "case" then
        let body ← selection fuel line
        redirected fuel line body
      else if name = "\x7b" then
        let body ← list fuel false false
        expect fuel "\x7d"
        redirected fuel line body
      else unexpected t none
    | .leftParen =>
      let body ← list fuel false false
      match ← token fuel false false false with
      | .rightParen => redirected fuel line (.subshell line body [])
      | t => unexpected t (some .rightParen)
    | .word _ _ | .redirect _ _ =>
      let line := (← get).line
      giveBack t
      simple fuel line [] [] []
    | _ => unexpected t none

def expect : Nat → Text → Reader Unit
  | 0, _ => return ()
  | fuel + 1, name => do
    match ← token fuel false false false with
    | .keyword found =>
      if found = name then return ()
      else unexpected (.keyword found) (some (.keyword name))
    | t => unexpected t (some (.keyword name))

def redirected : Nat → Nat → Command → Reader Command
  | 0, _, body => return body
  | fuel + 1, line, body => do
    match ← redirects fuel, body with
    | [], _ => return body
    | found, .subshell line body _ => return .subshell line body found
    | found, _ => return .redirected line body found

def redirects : Nat → Reader (List Redirect)
  | 0 => return []
  | fuel + 1 => do
    match ← token fuel false true true with
    | .redirect direction descriptor =>
      let r ← redirect fuel direction descriptor
      return r :: (← redirects fuel)
    | t =>
      giveBack t
      return []

def redirect : Nat → Direction → Nat → Reader Redirect
  | 0, _, descriptor => return .read descriptor []
  | fuel + 1, direction, descriptor => do
    let isMark := match direction with
      | .document _ => true
      | _ => false
    match ← if isMark then lex fuel true else token fuel false false false with
    | .word w isQuoted =>
      match direction with
      | .input => return .read descriptor w
      | .output => return .write descriptor w
      | .replace => return .replace descriptor w
      | .append => return .append descriptor w
      | .update => return .update descriptor w
      | .copy => return .copy descriptor w
      | .document indented => return .document descriptor (← await ⟨w.bytes, indented⟩ isQuoted)
    | t => unexpected t none

def choice : Nat → Reader Command
  | 0 => return .nothing
  | fuel + 1 => do
    let condition ← list fuel false false
    expect fuel "then"
    let body ← list fuel false false
    match ← token fuel false false false with
    | .keyword name =>
      if name = "elif" then return .choice condition body (some (← choice fuel))
      else if name = "else" then return .choice condition body (some (← list fuel false false))
      else
        giveBack (.keyword name)
        return .choice condition body none
    | t =>
      giveBack t
      return .choice condition body none

def loopOver : Nat → Nat → Reader Command
  | 0, _ => return .nothing
  | fuel + 1, line => do
    let name ← match ← token fuel false false false with
      | .word w false =>
        match w.plain? with
        | some text => if isName text then pure text else fail .loopVariable
        | none => fail .loopVariable
      | _ => fail .loopVariable
    let all : Word := [.mark, .parameter "@" .value false [], .mark]
    let values ← match ← token fuel true true true with
      | .keyword word =>
        if word = "in" then words fuel
        else
          giveBack (.keyword word)
          pure [all]
      | .semicolon => pure [all]
      | t =>
        giveBack t
        pure [all]
    match ← token fuel true true true with
    | .keyword word =>
      if word ≠ "do" then unexpected (.keyword word) (some (.keyword "do"))
    | t => unexpected t (some (.keyword "do"))
    let body ← list fuel false false
    expect fuel "done"
    return .each line name values body

def words : Nat → Reader (List Word)
  | 0 => return []
  | fuel + 1 => do
    match ← token fuel false false false with
    | .word w _ => return w :: (← words fuel)
    | .newline =>
      documents fuel
      return []
    | .semicolon => return []
    | t => unexpected t none

def selection : Nat → Nat → Reader Command
  | 0, _ => return .nothing
  | fuel + 1, line => do
    match ← token fuel false false false with
    | .word w _ =>
      match ← token fuel true true true with
      | .keyword word =>
        if word ≠ "in" then unexpected (.keyword word) (some (.keyword "in"))
      | t => unexpected t (some (.keyword "in"))
      return .select line w (← branches fuel)
    | t => unexpected t (some (.word [] false))

def branches : Nat → Reader (List (List Word × Command))
  | 0 => return []
  | fuel + 1 => do
    match ← token fuel true true false with
    | .keyword word => if word = "esac" then return [] else branch fuel (.keyword word)
    | .leftParen => branch fuel (← token fuel false false false)
    | t => branch fuel t

def branch : Nat → Token → Reader (List (List Word × Command))
  | 0, _ => return []
  | fuel + 1, first => do
    let patterns ← patterns fuel first
    let body ← list fuel false true
    match ← token fuel true true false with
    | .endCase => return (patterns, body) :: (← branches fuel)
    | .keyword word =>
      if word = "esac" then return [(patterns, body)]
      else unexpected (.keyword word) (some .endCase)
    | t => unexpected t (some .endCase)

def patterns : Nat → Token → Reader (List Word)
  | 0, _ => return []
  | fuel + 1, first => do
    let w : Word := match first with
      | .word w _ => w
      | .keyword text => bytes false text
      | _ => []
    match ← token fuel false false false with
    | .bar => return w :: (← patterns fuel (← token fuel false false false))
    | .rightParen => return [w]
    | t => unexpected t (some .rightParen)

def simple : Nat → Nat → List Word → List Word → List Redirect → Reader Command
  | 0, line, assignments, words, redirects =>
    return .simple line assignments.reverse words.reverse redirects.reverse
  | fuel + 1, line, assignments, words, redirects => do
    match ← token fuel false false words.isEmpty with
    | .word w _ =>
      if words.isEmpty && w.assignment?.isSome then
        simple fuel line (w :: assignments) words redirects
      else simple fuel line assignments (w :: words) redirects
    | .redirect direction descriptor =>
      let r ← redirect fuel direction descriptor
      simple fuel line assignments words (r :: redirects)
    | t =>
      match t, assignments, words, redirects with
      | .leftParen, [], [name], [] =>
        match ← token fuel false false false with
        | .rightParen => pure ()
        | t => unexpected t (some .rightParen)
        match name.plain? with
        | some text =>
          if isName text && !reserved.contains text then
            let line := (← get).line
            return .define text line (← command fuel true true)
          else fail .functionName
        | none => fail .functionName
      | _, _, _, _ =>
        giveBack t
        return .simple line assignments.reverse words.reverse redirects.reverse

end

def depth : Nat := 1000000

def body : Reader Word := documentLines depth ⟨[0], false⟩

def line : Reader (Option Command) := do
  let fuel := depth
  match ← token fuel false true true with
  | .endOfFile =>
    documents fuel
    return none
  | t =>
    giveBack t
    return some (← list fuel true false)

end LintServer.Script.Reader
