import Std.Data.ExtTreeMap
import LintServer.Path

set_option autoImplicit false

namespace LintServer

inductive FileNode where
  | file (content : Text)
  | directory
deriving DecidableEq, Repr

inductive FileError where
  | notFound
  | notDirectory
  | isDirectory
  | nameTooLong
  | invalidName
  | notPermitted
  | alreadyThere
deriving DecidableEq, Repr

def FileError.message : FileError → Text
  | notFound => "no such file or directory"
  | notDirectory => "not a directory"
  | isDirectory => "is a directory"
  | nameTooLong => "file name too long"
  | invalidName => "invalid argument"
  | notPermitted => "permission denied"
  | alreadyThere => "file exists"

structure Files where
  nodes : Std.ExtTreeMap (List Text) FileNode

namespace Files

def empty : Files := ⟨∅⟩

def node? (f : Files) (elements : List Text) : Option FileNode :=
  if elements = [] then some .directory else f.nodes[elements]?

def addDirectories (f : Files) (done : List Text) : List Text → Files
  | [] => f
  | element :: rest =>
    let here := done ++ [element]
    addDirectories ⟨f.nodes.alter here fun old => some (old.getD .directory)⟩ here rest

def addDirectory (f : Files) (path : Text) : Files := f.addDirectories [] (Path.elements path)

def setContent (f : Files) (elements : List Text) (content : Text) : Files :=
  ⟨f.nodes.insert elements (.file content)⟩

def addFile (f : Files) (path content : Text) : Files :=
  let elements := Path.elements path
  (f.addDirectories [] elements.dropLast).setContent elements content

def maxElement : Nat := 255

def maxPath : Nat := 4095

def isDirectory? (f : Files) (place : List Text) : Option Bool :=
  (f.node? place).map (· = .directory)

/-- Follows the elements of a path from a directory. An element `..` leads to the directory above,
and only a directory can be followed further. -/
def follow (isDirectory? : List Text → Option Bool) (here : List Text) :
    List Text → Except FileError (List Text)
  | [] => .ok here
  | element :: rest =>
    match isDirectory? here with
    | some true =>
      if element = [] ∨ element = "." then follow isDirectory? here rest
      else if element = ".." then follow isDirectory? here.dropLast rest
      else if maxElement < element.length then .error .nameTooLong
      else
        let there := here ++ [element]
        if (isDirectory? there).isSome then follow isDirectory? there rest else .error .notFound
    | some false => .error .notDirectory
    | none => .error .notFound

def startOf (working path : Text) : Except FileError (List Text) :=
  if path = [] then .error .notFound
  else if path.contains 0 then .error .invalidName
  else if maxPath < path.length then .error .nameTooLong
  else .ok (if Path.isAbsolute path then [] else Path.elements working)

def locate (f : Files) (working path : Text) : Except FileError (List Text) := do
  follow f.isDirectory? (← startOf working path) (path.splitAt Text.slash)

def stat (f : Files) (working path : Text) : Except FileError FileNode := do
  let place ← f.locate working path
  match f.node? place with
  | some node => return node
  | none => throw .notFound

/-- The place of a file that is opened for writing. One that is not there is made, but not its
directory, and a path that ends as that of a directory names no file. -/
def placeToWrite (isDirectory? : List Text → Option Bool) (working path : Text) :
    Except FileError (List Text) := do
  let start ← startOf working path
  let elements := path.splitAt Text.slash
  let named := (elements.reverse.dropWhile (· = [])).reverse
  let parent ← follow isDirectory? start named.dropLast
  if isDirectory? parent ≠ some true then throw .notDirectory
  match named.getLast? with
  | none => throw .isDirectory
  | some name =>
    let place := parent ++ [name]
    if named.length < elements.length ∨ name = "." ∨ name = ".." then throw .isDirectory
    if maxElement < name.length then throw .nameTooLong
    if isDirectory? place = some true then throw .isDirectory
    return place

def openWriting (f : Files) (working path : Text) : Except FileError (List Text) :=
  placeToWrite f.isDirectory? working path

def names (f : Files) (directory : List Text) : List Text :=
  f.nodes.keys.filterMap fun place =>
    if place ≠ [] ∧ place.dropLast = directory then place.getLast? else none

def read (f : Files) (working path : Text) : Except Text Text :=
  match f.stat working path with
  | .ok (.file content) => .ok content
  | .ok .directory => .error ("read " ++ path ++ ": " ++ FileError.isDirectory.message)
  | .error e => .error ("open " ++ path ++ ": " ++ e.message)

end Files

end LintServer
