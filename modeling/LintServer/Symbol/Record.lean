import LintServer.Grouping
import LintServer.Protocol.Geometry
import LintServer.Symbol.Table
import LintServer.Text.Records

set_option autoImplicit false

namespace LintServer

namespace Symbol

def toJson (s : Symbol) : Json :=
  .object [("name", .string s.name), ("type", .string s.type), ("range", s.range.toJson)]

structure Record where
  uri : Uri
  symbol : Symbol
deriving DecidableEq, Repr, Inhabited

namespace Record

def fields : Json.Fields Record := [
  ("uri", fun r json => return { r with uri := ← Json.overText r.uri json }),
  ("name", fun r json =>
    return { r with symbol.name := ← Json.overText r.symbol.name json }),
  ("type", fun r json =>
    return { r with symbol.type := ← Json.overText r.symbol.type json }),
  ("range", fun r json =>
    return { r with symbol.range := ← Range.readOver r.symbol.range json })]

def ofJson (json : Json) : Except Json.Mismatch Record :=
  Json.overObject .ignored fields ⟨[], ⟨[], [], ⟨⟨0, 0⟩, ⟨0, 0⟩⟩⟩⟩ json

end Record

inductive RecordError where
  | malformed (line : Nat)
  | missingUri (line : Nat)
  | lineTooLong
deriving DecidableEq, Repr

def RecordError.message : RecordError → Text
  | malformed line => "analyzer record " ++ Text.ofNat line
  | missingUri line => "analyzer record " ++ Text.ofNat line ++ ": missing uri"
  | lineTooLong => "reading analyzer output: bufio.Scanner: token too long"

def maxLine : Nat := 16 * 1024 * 1024

def decodeLine : RecordLine → Except RecordError (Uri × Symbol) :=
  RecordLine.read Record.ofJson (fun number => .error (.malformed number)) fun number record =>
    if record.uri = [] then .error (.missingUri number) else .ok (record.uri, record.symbol)

def decodeLines (output : Text) : List (Except RecordError (Uri × Symbol)) :=
  readRecords maxLine .lineTooLong (fun line => [decodeLine line]) output

def decode (output : Text) : Groups Symbol :=
  Groups.ofList ((decodeLines output).filterMap Except.toOption)

def decodeErrors (output : Text) : List RecordError := failures (decodeLines output)

end Symbol

end LintServer
