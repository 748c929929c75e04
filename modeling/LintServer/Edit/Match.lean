import LintServer.Text.Basic

set_option autoImplicit false

namespace LintServer

structure Block where
  old : Nat
  new : Nat
  size : Nat
deriving DecidableEq, Repr

namespace Block

def commonPrefix : List Text → List Text → Nat
  | a :: as, b :: bs => if a = b then commonPrefix as bs + 1 else 0
  | _, _ => 0

/-- For each line of `new`, the size of the shared block that ends there and at `line`, given those
for the line before it. -/
def runs (common : Text → Bool) (line : Text) (before : List Nat) (new : List Text) : List Nat :=
  if common line then new.map fun _ => 0
  else List.zipWith (fun other size => if other = line then size + 1 else 0) new (0 :: before)

def larger (last : Nat) (best : Block) (run : Nat × Nat) : Block :=
  if best.size < run.1 then ⟨last + 1 - run.1, run.2 + 1 - run.1, run.1⟩ else best

/-- The largest block of lines that are not too common, the earliest in `old` and then in `new`. -/
def seed (common : Text → Bool) (old new : List Text) : Block :=
  (old.zipIdx.foldl (fun (best, before) (line, i) =>
    let sizes := runs common line before new
    (sizes.zipIdx.foldl (larger i) best, sizes))
    (⟨0, 0, 0⟩, List.replicate new.length 0)).1

def extend (old new : List Text) (b : Block) : Block :=
  let back := commonPrefix (old.take b.old).reverse (new.take b.new).reverse
  let ahead := commonPrefix (old.drop (b.old + b.size)) (new.drop (b.new + b.size))
  ⟨b.old - back, b.new - back, back + b.size + ahead⟩

def longest (common : Text → Bool) (old new : List Text) : Block :=
  extend old new (seed common old new)

end Block

end LintServer
