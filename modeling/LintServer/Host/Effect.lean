import LintServer.Host.Files

set_option autoImplicit false

namespace LintServer

inductive Ending where
  | exit (status : Nat)
  | signal (number : Nat)
deriving DecidableEq, Repr

def Ending.status : Ending → Nat
  | exit status => status
  | signal n => 128 + n

structure Access where
  reads : Bool
  writes : Bool
  appends : Bool
deriving DecidableEq, Repr

inductive Channel where
  | source (left : Text)
  | sink (backwards : Text)
  | file (place : List Text) (offset : Nat) (access : Access)
  | directory
  | device (full : Bool) (access : Access)
deriving DecidableEq, Repr

inductive ChannelError where
  | notOpen
  | isDirectory
  | noSpace
deriving DecidableEq, Repr

def ChannelError.reason : ChannelError → Text
  | notOpen => "Bad file descriptor"
  | isDirectory => "Is a directory"
  | noSpace => "No space left on device"

def FileError.reason : FileError → Text
  | notFound => "No such file or directory"
  | notDirectory => "Not a directory"
  | isDirectory => "Is a directory"
  | nameTooLong => "File name too long"
  | invalidName => "Invalid argument"
  | notPermitted => "Permission denied"
  | alreadyThere => "File exists"

structure Host where
  files : Files
  channels : Array Channel
  nextProcess : Nat

structure Process where
  directory : Text
  environment : List (Text × Text)
  descriptors : List (Nat × Nat)
  ignored : List Nat

abbrev Program := Process → Text → List Text → Host → Ending × Host

namespace Host

def firstProcess : Nat := 4242

def ofFiles (files : Files) (input : Text) : Host :=
  ⟨files, #[.source input, .sink [], .sink []], firstProcess⟩

def channel? (h : Host) (index : Option Nat) : Option Channel := index.bind fun i => h.channels[i]?

def addChannel (h : Host) (c : Channel) : Nat × Host :=
  (h.channels.size, { h with channels := h.channels.push c })

def setChannel (h : Host) (index : Nat) (c : Channel) : Host :=
  { h with channels := h.channels.setIfInBounds index c }

def textOf (h : Host) (index : Nat) : Text :=
  match h.channels[index]? with
  | some (.source left) => left
  | some (.sink backwards) => backwards.reverse
  | _ => []

def overwritten (content : Text) (offset : Nat) (text : Text) : Text :=
  content.take offset ++ List.replicate (offset - content.length) 0 ++ text ++
    content.drop (offset + text.length)

def contentAt (h : Host) (place : List Text) : Text :=
  match h.files.node? place with
  | some (.file content) => content
  | _ => []

def write (h : Host) (index : Option Nat) (text : Text) : Except ChannelError Host :=
  if text.isEmpty then .ok h
  else match index, h.channel? index with
    | some i, some (.sink backwards) => .ok (h.setChannel i (.sink (text.reverse ++ backwards)))
    | some i, some (.file place offset access) =>
      if access.writes then
        let content := h.contentAt place
        let offset := if access.appends then content.length else offset
        let h := { h with files := h.files.setContent place (overwritten content offset text) }
        .ok (h.setChannel i (.file place (offset + text.length) access))
      else .error .notOpen
    | _, some (.device full access) =>
      if !access.writes then .error .notOpen else if full then .error .noSpace else .ok h
    | _, _ => .error .notOpen

def left (h : Host) (index : Option Nat) : Except ChannelError Text :=
  match h.channel? index with
  | some (.source left) => .ok left
  | some (.file place offset access) =>
    if access.reads then .ok ((h.contentAt place).drop offset) else .error .notOpen
  | some .directory => .error .isDirectory
  | some (.device _ access) => if access.reads then .ok [] else .error .notOpen
  | _ => .error .notOpen

def skip (h : Host) (index : Option Nat) (count : Nat) : Host :=
  match index, h.channel? index with
  | some i, some (.source left) => h.setChannel i (.source (left.drop count))
  | some i, some (.file place offset access) => h.setChannel i (.file place (offset + count) access)
  | _, _ => h

inductive Opening where
  | read
  | write
  | create
  | append
  | update
deriving DecidableEq, Repr

def Opening.access : Opening → Access
  | read => ⟨true, false, false⟩
  | write | create => ⟨false, true, false⟩
  | append => ⟨false, true, true⟩
  | update => ⟨true, true, false⟩

def programs : List Text := ["sh", "cat", "echo", "true", "false"]

def programPlaces : List (List Text) := [["usr", "bin"], ["bin"]]

def programAt? (place : List Text) : Option Text :=
  place.getLast?.bind fun name =>
    if programs.contains name && programPlaces.contains place.dropLast then some name else none

def isSystemDirectory (place : List Text) : Bool :=
  ([[], ["usr"], ["usr", "bin"], ["bin"], ["dev"], ["tmp"], ["etc"], ["var"], ["root"],
    ["home"], ["proc"], ["usr", "lib"], ["lib"], ["opt"], ["run"], ["sbin"],
    ["usr", "local"], ["usr", "local", "bin"], ["usr", "sbin"]] : List (List Text)).contains place

inductive Kind where
  | file (content : Text)
  | directory
  | program (name : Text)
  | device (full : Bool)
deriving DecidableEq, Repr

def systemKind? (place : List Text) : Option Kind :=
  match programAt? place with
  | some name => some (.program name)
  | none =>
    if isSystemDirectory place then some .directory
    else if place = [("dev" : Text), "null"] then some (.device false)
    else if place = [("dev" : Text), "full"] then some (.device true)
    else none

def kindAt? (h : Host) (place : List Text) : Option Kind :=
  match h.files.node? place with
  | some (.file content) => some (.file content)
  | some .directory => some .directory
  | none => systemKind? place

def isDirectory? (h : Host) (place : List Text) : Option Bool :=
  (h.kindAt? place).map (· = .directory)

def locate (h : Host) (directory path : Text) : Except FileError (List Text) := do
  Files.follow h.isDirectory? (← Files.startOf directory path) (path.splitAt Text.slash)

def kind (h : Host) (directory path : Text) : Except FileError Kind := do
  match h.kindAt? (← h.locate directory path) with
  | some kind => return kind
  | none => throw .notFound

def descriptorAt? (place : List Text) : Option Nat :=
  match place with
  | [dev, name] =>
    if dev ≠ "dev" then none
    else ([("stdin", 0), ("stdout", 1), ("stderr", 2)] : List (Text × Nat)).lookup name
  | [dev, fd, number] => if dev = "dev" ∧ fd = "fd" then Text.decimal? number else none
  | [proc, self, fd, number] =>
    if proc = "proc" ∧ self = "self" ∧ fd = "fd" then Text.decimal? number else none
  | _ => none

def openPlace (h : Host) (place : List Text) (way : Opening) : Nat × Host :=
  let there := (h.files.node? place).isSome
  let empties : Bool := way = .write || way = .create
  let files := if empties || !there then h.files.setContent place [] else h.files
  { h with files := files }.addChannel (.file place 0 way.access)

def opened (h : Host) (p : Process) (path : Text) (way : Opening) :
    Except FileError (Nat × Host) :=
  let place := Path.elements (Path.absolute p.directory path)
  match if path = [] then none else descriptorAt? place with
  | some descriptor =>
    match p.descriptors.lookup descriptor with
    | none => .error .notFound
    | some index =>
      match h.channels[index]? with
      | some (.file place _ _) => .ok (h.openPlace place way)
      | _ => .ok (index, h)
  | none =>
    match h.kind p.directory path with
    | .ok (.device full) => .ok (h.addChannel (.device full way.access))
    | .ok .directory =>
      if way = .read then .ok (h.addChannel .directory)
      else if way = .create then .error .alreadyThere
      else .error .isDirectory
    | .ok (.program _) =>
      if way = .read then .ok (h.addChannel (.source [])) else .error .notPermitted
    | found =>
      if way = .read then do
        let _ ← found
        let place ← h.locate p.directory path
        return h.openPlace place way
      else if way = .create ∧ found.isOk then .error .alreadyThere
      else do
        let place ← Files.placeToWrite h.isDirectory? p.directory path
        return h.openPlace place way

end Host

namespace Process

def start (directory : Text) (environment : List (Text × Text)) : Process :=
  ⟨directory, environment, [(0, 0), (1, 1), (2, 2)], []⟩

def write (p : Process) (h : Host) (descriptor : Nat) (text : Text) : Except ChannelError Host :=
  h.write (p.descriptors.lookup descriptor) text

def tell (p : Process) (h : Host) (descriptor : Nat) (text : Text) : Host :=
  match p.write h descriptor text with
  | .ok h => h
  | .error _ => h

end Process

end LintServer
