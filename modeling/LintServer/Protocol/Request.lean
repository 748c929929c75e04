import LintServer.Document.Store
import LintServer.Protocol.Capabilities
import LintServer.Protocol.Geometry

set_option autoImplicit false

namespace LintServer

inductive Request where
  | setup (rootUri rootPath : Option Text) (folders : List Uri)
  | ready
  | shutdown
  | exit
  | setTrace
  | didOpen (uri : Uri) (text : Text)
  | didChange (uri : Uri) (changes : List Change)
  | didSave (uri : Uri)
  | didClose (uri : Uri)
  | hover (uri : Uri) (position : Position)
  | formatting (uri : Uri)
  | codeAction (uri : Uri) (range : Range)
deriving DecidableEq, Repr

inductive RequestError where
  | unknownMethod
  | missingParams
  | invalidParams
deriving DecidableEq, Repr

/-- The parameters of all methods together; a method has the members that its fields name. -/
structure Params where
  uri : Uri
  text : Text
  position : Position
  range : Range
  changes : List Json
  rootUri : Option Text
  rootPath : Option Text
  folders : Json.Slots Uri
deriving Repr

namespace Params

def empty : Params := ⟨[], [], ⟨0, 0⟩, ⟨⟨0, 0⟩, ⟨0, 0⟩⟩, [], none, none, .empty⟩

def checked {α : Type} (name : Text) (shape : Shape) : Text × Json.Over α := (name, shape.check)

def token : Shape := .either .int32 .text

def workToken : Text × Json.Over Params := checked "workDoneToken" token

def overUri : Text × Json.Over Params :=
  ("uri", fun p json => return { p with uri := ← Json.overText p.uri json })

def identifierFields : Json.Fields Params := [overUri]

def versionedFields : Json.Fields Params := [overUri, checked "version" .int32]

def itemFields : Json.Fields Params := [
  overUri,
  checked "version" .int32,
  checked "languageId" .text,
  ("text", fun p json => return { p with text := ← Json.overText p.text json })]

def document (fields : Json.Fields Params) : Text × Json.Over Params :=
  ("textDocument", Json.overObject .ignored fields)

def changeFields : Json.Fields Change := [
  ("range", fun c json =>
    return { c with range := ← Json.overOption ⟨⟨0, 0⟩, ⟨0, 0⟩⟩ Range.readOver c.range json }),
  checked "rangeLength" .uint32,
  ("text", fun c json => return { c with text := ← Json.overText c.text json })]

def decodeChange (json : Json) : Except Json.Mismatch Change :=
  Json.overObject .ignored changeFields ⟨none, []⟩ json

/-- The changes are taken as they are and decoded when all members are read. -/
def overChanges : Json.Over Params
  | p, .null => .ok { p with changes := [] }
  | p, .array items => .ok { p with changes := items }
  | _, _ => .error .wrongType

def decodeChanges (p : Params) : Except RequestError (List Change) :=
  (p.changes.mapM decodeChange).mapError fun _ => .invalidParams

def folder : Json.Over Uri := fun uri json => do
  let p ← Json.overObject .ignored [overUri, checked "name" .text] { empty with uri := uri } json
  return p.uri

def setupFields : Json.Fields Params := [
  ("rootUri", fun p json =>
    return { p with rootUri := ← Json.overOption [] Json.overText p.rootUri json }),
  ("rootPath", fun p json =>
    return { p with rootPath := ← Json.overOption [] Json.overText p.rootPath json }),
  ("workspaceFolders", fun p json =>
    return { p with folders := ← Json.overSlots [] folder p.folders json }),
  workToken,
  checked "processId" .int32,
  checked "clientInfo" (.object [("name", .text), ("version", .text)]),
  checked "locale" .text,
  checked "initializationOptions" .any,
  checked "capabilities" Capabilities.shape,
  checked "trace" .text]

def saveFields : Json.Fields Params := [document identifierFields, checked "text" .text]

def hoverFields : Json.Fields Params := [
  workToken,
  document identifierFields,
  ("position", fun p json => return { p with position := ← Position.readOver p.position json })]

def formattingFields : Json.Fields Params := [
  workToken,
  document identifierFields,
  checked "options" .map]

def positionShape : Shape := .object [("line", .uint32), ("character", .uint32)]

def rangeShape : Shape := .object [("start", positionShape), ("end", positionShape)]

def diagnosticShape : Shape :=
  .object [
    ("range", rangeShape),
    ("severity", .int32),
    ("code", token),
    ("codeDescription", .object [("href", .text)]),
    ("source", .text),
    ("message", .text),
    ("tags", .list .int32),
    ("relatedInformation", .list (.object [
      ("location", .object [("uri", .text), ("range", rangeShape)]),
      ("message", .text)])),
    ("data", .any)]

def codeActionFields : Json.Fields Params := [
  workToken,
  checked "partialResultToken" token,
  document identifierFields,
  ("range", fun p json => return { p with range := ← Range.readOver p.range json }),
  checked "context" (.object [("diagnostics", .list diagnosticShape), ("only", .list .text)])]

def decode (fields : Json.Fields Params) (params : Option Json) : Except RequestError Params :=
  match params.map (Json.overObject .ignored fields empty) with
  | some (.ok p) => .ok p
  | some (.error _) => .error .invalidParams
  | none => .error .missingParams

end Params

namespace Request

open Params in
def decode (method : Text) (params : Option Json) : Except RequestError Request :=
  if method = "initialize" then do
    let p ← Params.decode setupFields params
    return setup p.rootUri p.rootPath p.folders.items
  else if method = "initialized" then do
    let _ ← Params.decode [] params
    return ready
  else if method = "shutdown" then return shutdown
  else if method = "exit" then return exit
  else if method = "$/setTrace" then do
    let _ ← Params.decode [checked "value" .text] params
    return setTrace
  else if method = "textDocument/didOpen" then do
    let p ← Params.decode [document itemFields] params
    return didOpen p.uri p.text
  else if method = "textDocument/didChange" then do
    let p ← Params.decode [document versionedFields, ("contentChanges", overChanges)] params
    return didChange p.uri (← p.decodeChanges)
  else if method = "textDocument/didSave" then do
    let p ← Params.decode saveFields params
    return didSave p.uri
  else if method = "textDocument/didClose" then do
    let p ← Params.decode [document identifierFields] params
    return didClose p.uri
  else if method = "textDocument/hover" then do
    let p ← Params.decode hoverFields params
    return hover p.uri p.position
  else if method = "textDocument/formatting" then do
    let p ← Params.decode formattingFields params
    return formatting p.uri
  else if method = "textDocument/codeAction" then do
    let p ← Params.decode codeActionFields params
    return codeAction p.uri p.range
  else throw .unknownMethod

end Request

end LintServer
