import LintServer.Address
import LintServer.Document.Store
import LintServer.Path

set_option autoImplicit false

namespace LintServer.FileUri

def isPlain (b : UInt8) : Bool :=
  Text.isLetter b || Text.isDigit b || (Text.ofString "-_.~$&+,/:;=@").contains b

def encodeByte (b : UInt8) : Text :=
  if isPlain b then [b]
  else [0x25, Text.upperHexDigit (b.toNat / 16), Text.upperHexDigit b.toNat]

def ofPath (path : Text) : Uri :=
  let path := if Path.isAbsolute path then path else Text.slash :: path
  "file://" ++ path.flatMap encodeByte

def decode? : Text → Option Text
  | [] => some []
  | b :: rest =>
    if b = 0x25 then
      match rest with
      | h :: l :: rest => do
        let high ← Text.hexValue? h
        let low ← Text.hexValue? l
        return (high * 16 + low).toUInt8 :: (← decode? rest)
      | _ => none
    else (decode? rest).map (b :: ·)

def isHostByte (b : UInt8) : Bool :=
  0x80 ≤ b || Text.isLetter b || Text.isDigit b ||
    (Text.ofString "-_.~!$&'()*+,;=:[]<>\"").contains b

/-- Whether a host is written correctly. Only bytes from 0x80 on and the percent sign may be
encoded, in the zone of an address also a space and every byte allowed as it is. -/
def validHost (zone : Bool) : Text → Bool
  | [] => true
  | b :: rest =>
    if b = 0x25 then
      match rest with
      | h :: l :: rest =>
        match Text.hexValue? h, Text.hexValue? l with
        | some high, some low =>
          let c := (high * 16 + low).toUInt8
          (c == 0x25 || (if zone then c == 0x20 || (c < 0x80 && isHostByte c) else 0x80 ≤ c)) &&
            validHost zone rest
        | _, _ => false
      | _ => false
    else isHostByte b && validHost zone rest

def validPort : Text → Bool
  | [] => true
  | b :: rest => b == 0x3A && rest.all Text.isDigit

def fromLast (separator : UInt8) (text : Text) : Text :=
  let tail := text.reverse.takeWhile (· != separator)
  if tail.length = text.length then [] else separator :: tail.reverse

def splitZone : Text → Text × Text
  | [] => ([], [])
  | b :: rest =>
    if Text.startsWith (b :: rest) "%25" then ([], b :: rest)
    else let (name, zone) := splitZone rest; (b :: name, zone)

def validHostPort (host : Text) : Bool :=
  match fromLast 0x5B host with
  | [] => validPort (fromLast 0x3A host) && validHost false host
  | opening =>
    let closing := fromLast 0x5D host
    let inside := (host.take (host.length - closing.length)).drop 1
    let (name, zone) := splitZone inside
    opening = host && closing ≠ [] && validPort (closing.drop 1) &&
      validHost false name && validHost true zone &&
      ((decode? inside).map Address.isValid).getD false

def isUserByte (b : UInt8) : Bool :=
  Text.isLetter b || Text.isDigit b || (Text.ofString "-._:~!$&'()*+,;=%@").contains b

def validAuthority (authority : Text) : Bool :=
  match fromLast 0x40 authority with
  | [] => validHostPort authority
  | _ :: host =>
    let user := authority.take (authority.length - (host.length + 1))
    validHostPort host && user.all isUserByte && (decode? user).isSome

def isControl (b : UInt8) : Bool := b < 0x20 || b == 0x7F

def afterAuthority? (rest : Text) : Option Text :=
  match rest with
  | 0x2F :: 0x2F :: rest =>
    let authority := rest.takeWhile (· != Text.slash)
    if validAuthority authority then some (rest.drop authority.length) else none
  | _ => some rest

def path? (uri : Uri) : Option Text := do
  let (whole, fragment) := uri.cut 0x23
  guard (!whole.any isControl)
  guard ((whole.take 5).map Text.toLower = Text.ofString "file:")
  let (rest, _) := Text.cut 0x3F (whole.drop 5)
  guard (rest.head? = some Text.slash)
  let path ← (← afterAuthority? rest) |> decode?
  let _ ← decode? (fragment.getD [])
  return path

def toPath (uri : Uri) : Text := (path? uri).getD []

end LintServer.FileUri
