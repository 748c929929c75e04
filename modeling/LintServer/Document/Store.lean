import Std.Data.ExtTreeMap
import LintServer.Document.Basic

set_option autoImplicit false

namespace LintServer

abbrev Uri := Text

structure NotOpen where
  uri : Uri
deriving DecidableEq, Repr

def NotOpen.message (e : NotOpen) : Text := e.uri ++ ": document not open"

structure Store where
  documents : Std.ExtTreeMap Uri Document

namespace Store

def empty : Store := ⟨∅⟩

def put (s : Store) (uri : Uri) (text : Text) : Store :=
  ⟨s.documents.insert uri (Document.ofText text)⟩

def text? (s : Store) (uri : Uri) : Option Text := s.documents[uri]?.map Document.text

def close (s : Store) (uri : Uri) : Except NotOpen Store :=
  match s.documents[uri]? with
  | none => .error ⟨uri⟩
  | some _ => .ok ⟨s.documents.erase uri⟩

def edit (s : Store) (uri : Uri) (changes : List Change) : Except NotOpen Store :=
  match s.documents[uri]? with
  | none => .error ⟨uri⟩
  | some document => .ok ⟨s.documents.insert uri (changes.foldl Document.apply document)⟩

def uris (s : Store) : List Uri := s.documents.keys

end Store

end LintServer
