import LintServer.Text.Basic

set_option autoImplicit false

namespace LintServer.Path

def isAbsolute (path : Text) : Bool := path.head? == some Text.slash

/-- One step of cleaning: `kept` are the elements so far, last first. An element `..` takes the one
before it away; at the root there is none, and a relative path keeps it. -/
def keep (rooted : Bool) (kept : List Text) (element : Text) : List Text :=
  if element = [] ∨ element = "." then kept
  else if element = ".." then
    match kept with
    | [] => if rooted then [] else [element]
    | last :: rest => if last = ".." then element :: kept else rest
  else element :: kept

def elements (path : Text) : List Text :=
  ((path.splitAt Text.slash).foldl (keep (isAbsolute path)) []).reverse

def ofElements (rooted : Bool) (elements : List Text) : Text :=
  match rooted, elements with
  | true, elements => Text.slash :: Text.joinWith "/" elements
  | false, [] => "."
  | false, elements => Text.joinWith "/" elements

def clean (path : Text) : Text := ofElements (isAbsolute path) (elements path)

def join (a b : Text) : Text :=
  if a ≠ [] then clean (a ++ "/" ++ b) else if b ≠ [] then clean b else []

def base (path : Text) : Text := (path.reverse.takeWhile (· != Text.slash)).reverse

def directory (path : Text) : Text := clean (path.take (path.length - (base path).length))

def extension (path : Text) : Text :=
  let reversed := (base path).reverse
  let tail := reversed.takeWhile (· != 0x2E)
  if tail.length = reversed.length then [] else 0x2E :: tail.reverse

def absolute (working path : Text) : Text :=
  if isAbsolute path then clean path else join working path

def dropShared : List Text → List Text → List Text × List Text
  | a :: as, b :: bs => if a = b then dropShared as bs else (a :: as, b :: bs)
  | as, bs => (as, bs)

/-- A path that leads from `start` to `target`; `none` if only one of them is absolute, or if
`start` is above the working directory. -/
def relative? (start target : Text) : Option Text :=
  if clean start = clean target then some "."
  else if isAbsolute start != isAbsolute target then none
  else
    let goal : List Text := if clean target = "." then [("." : Text)] else elements target
    let (up, down) := dropShared (elements start) goal
    if up.head? = some (".." : Text) then none
    else some (Text.joinWith "/" (up.map (fun _ => (".." : Text)) ++ down))

end LintServer.Path
