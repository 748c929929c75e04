import LintServer.Json.Over
import LintServer.Path

set_option autoImplicit false

namespace LintServer

inductive Applicability where
  | unspecified
  | machineApplicable
  | maybeIncorrect
  | hasPlaceholders
deriving DecidableEq, Repr

namespace Applicability

def name : Applicability → Text
  | unspecified => "Unspecified"
  | machineApplicable => "MachineApplicable"
  | maybeIncorrect => "MaybeIncorrect"
  | hasPlaceholders => "HasPlaceholders"

def ofName (name : Text) : Applicability :=
  if name = "MachineApplicable" then machineApplicable
  else if name = "MaybeIncorrect" then maybeIncorrect
  else if name = "HasPlaceholders" then hasPlaceholders
  else unspecified

/-- Null is read as a name, an unknown one. -/
def readOver : Json.Over Applicability
  | _, .null => .ok unspecified
  | _, .string name => .ok (ofName name)
  | _, _ => .error .wrongType

end Applicability

/-- A place in a file. Lines and columns count from one; the end column is past the end. -/
structure Span where
  fileName : Text
  lineStart : Int64
  lineEnd : Int64
  columnStart : Int64
  columnEnd : Int64
  label : Option Text
  replacement : Option Text
  applicability : Option Applicability
deriving DecidableEq, Repr

namespace Span

def zero : Span := ⟨[], 0, 0, 0, 0, none, none, none⟩

def fields : Json.Fields Span := [
  ("file_name", fun s json => return { s with fileName := ← Json.overText s.fileName json }),
  ("line_start", fun s json => return { s with lineStart := ← Json.overInt64 s.lineStart json }),
  ("line_end", fun s json => return { s with lineEnd := ← Json.overInt64 s.lineEnd json }),
  ("column_start", fun s json =>
    return { s with columnStart := ← Json.overInt64 s.columnStart json }),
  ("column_end", fun s json => return { s with columnEnd := ← Json.overInt64 s.columnEnd json }),
  ("label", fun s json =>
    return { s with label := ← Json.overOption [] Json.overText s.label json }),
  ("suggested_replacement", fun s json =>
    return { s with replacement := ← Json.overOption [] Json.overText s.replacement json }),
  ("suggestion_applicability", fun s json =>
    return { s with applicability :=
      ← Json.overOption .unspecified Applicability.readOver s.applicability json })]

def readOver : Json.Over Span := Json.overObject .ignored fields

end Span

structure Node where
  level : Text
  message : Text
  spans : List Span
  code : Option Text
  children : List Node
deriving Repr

namespace Node

/-- A node as it is read: with what longer lists before left in its lists. -/
structure Draft where
  level : Text
  message : Text
  spans : Json.Slots Span
  code : Option Text
  children : List Draft
  spareChildren : List Draft
deriving Repr

namespace Draft

def zero : Draft := ⟨[], [], .empty, none, [], []⟩

def overCode : Json.Over Text :=
  Json.overObject .ignored [("code", Json.overText)]

def fields : Json.Fields Draft := [
  ("level", fun n json => return { n with level := ← Json.overText n.level json }),
  ("message", fun n json => return { n with message := ← Json.overText n.message json }),
  ("spans", fun n json =>
    return { n with spans := ← Json.overSlots .zero Span.readOver n.spans json }),
  ("code", fun n json => return { n with code := ← Json.overOption [] overCode n.code json })]

def fillChildren (n : Draft) (children : Json.Slots Draft) : Draft :=
  { n with children := children.items, spareChildren := children.spare }

mutual

def readOver : Draft → Json → Except Json.Mismatch Draft
  | old, .null => .ok old
  | old, .object members => overMembers old members
  | _, _ => .error .wrongType

def overMembers : Draft → List (Text × Json) → Except Json.Mismatch Draft
  | old, [] => .ok old
  | old, (name, json) :: rest => do
    let node ←
      if Text.sameName "children" name then
        match json with
        | .null | .array [] => pure (old.fillChildren .empty)
        | .array (item :: items) => do
          let children ← overChildren (old.children ++ old.spareChildren) (item :: items)
          pure (old.fillChildren children)
        | _ => throw .wrongType
      else Json.overMember .ignored fields old name json
    overMembers node rest

def overChildren : List Draft → List Json → Except Json.Mismatch (Json.Slots Draft)
  | held, [] => .ok ⟨[], held⟩
  | held, json :: rest => do
    let child ← readOver (held.headD zero) json
    return .cons child (← overChildren held.tail rest)

end

end Draft

mutual

def ofDraft : Draft → Node
  | ⟨level, message, spans, code, children, _⟩ =>
    ⟨level, message, spans.items, code, ofDrafts children⟩

def ofDrafts : List Draft → List Node
  | [] => []
  | d :: rest => ofDraft d :: ofDrafts rest

end

end Node

/-- One line of linter output. A line about anything but a message has another reason. -/
structure Record where
  reason : Text
  manifestPath : Text
  root : Text
  message : Option Node
deriving Repr

namespace Record

structure Draft where
  reason : Text
  manifestPath : Text
  root : Text
  message : Option Node.Draft
deriving Repr

def fields : Json.Fields Draft := [
  ("reason", fun r json => return { r with reason := ← Json.overText r.reason json }),
  ("manifest_path", fun r json =>
    return { r with manifestPath := ← Json.overText r.manifestPath json }),
  ("root", fun r json => return { r with root := ← Json.overText r.root json }),
  ("message", fun r json =>
    return { r with message := ← Json.overOption .zero Node.Draft.readOver r.message json })]

def ofDraft (d : Draft) : Record := ⟨d.reason, d.manifestPath, d.root, d.message.map Node.ofDraft⟩

def ofJson (json : Json) : Except Json.Mismatch Record :=
  (Json.overObject .ignored fields ⟨[], [], [], none⟩ json).map ofDraft

def diagnostic? (r : Record) : Option Node :=
  if r.reason = [] ∨ r.reason = "compiler-message" then r.message else none

def directory (r : Record) (fallback : Text) : Text :=
  if r.root ≠ [] then r.root
  else if r.manifestPath ≠ [] then Path.directory r.manifestPath
  else fallback

end Record

end LintServer
