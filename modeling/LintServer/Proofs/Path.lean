import Mathlib.Data.List.TakeWhile
import LintServer.Path
import LintServer.Proofs.Text.Records

set_option autoImplicit false

namespace LintServer

namespace Text

theorem not_mem_of_mem_splitAt {separator : UInt8} {text piece : Text}
    (member : piece ∈ splitAt separator text) : separator ∉ piece := by
  induction text generalizing piece with
  | nil => simp_all [splitAt]
  | cons b text ih =>
    obtain ⟨first, rest, pieces⟩ := List.exists_cons_of_ne_nil (splitAt_ne_nil separator text)
    rw [splitAt_cons] at member
    rw [pieces] at ih member
    split at member
    · rcases List.mem_cons.mp member with rfl | member
      · simp
      · exact ih member
    · next other =>
      rcases List.mem_cons.mp member with rfl | member
      · have apart := ih (List.mem_cons_self (a := first) (l := rest))
        simpa [Ne.symm other] using apart
      · exact ih (List.mem_cons_of_mem _ member)

theorem joinWith_cons (separator piece : Text) {rest : List Text} (more : rest ≠ []) :
    joinWith separator (piece :: rest) = piece ++ separator ++ joinWith separator rest := by
  cases rest with
  | nil => contradiction
  | cons next rest => rfl

theorem splitAt_joinWith {separator : UInt8} {pieces : List Text} (filled : pieces ≠ [])
    (whole : ∀ piece ∈ pieces, separator ∉ piece) :
    splitAt separator (joinWith [separator] pieces) = pieces := by
  induction pieces with
  | nil => contradiction
  | cons piece rest ih =>
    obtain ⟨first, later⟩ := List.forall_mem_cons.mp whole
    cases rest with
    | nil => exact splitAt_of_not_mem first
    | cons next rest =>
      rw [joinWith_cons _ _ (by simp), List.append_assoc, List.singleton_append, splitAt_append,
        splitAt_of_not_mem first, ih (by simp) later, List.singleton_append]

end Text

namespace Path

open Text (slash)

-- An element that cleaning leaves in a path, if it does not follow one that it takes away.
def IsElement (rooted : Bool) (element : Text) : Prop :=
  element ≠ [] ∧ element ≠ "." ∧ slash ∉ element ∧ (rooted → element ≠ "..")

theorem keep_element {rooted : Bool} {element : Text} (name : IsElement true element)
    (kept : List Text) : keep rooted kept element = element :: kept := by
  obtain ⟨filled, proper, -, down⟩ := name
  unfold keep
  rw [if_neg (by simp [filled, proper]), if_neg (down rfl)]

theorem keep_up {rooted : Bool} {last : Text} (down : last ≠ "..") (kept : List Text) :
    keep rooted (last :: kept) ".." = kept := by
  unfold keep
  rw [if_neg (by decide), if_pos rfl]
  exact if_neg down

theorem keep_isElement {rooted : Bool} {kept : List Text}
    (proper : ∀ e ∈ kept, IsElement rooted e) {element : Text} (whole : slash ∉ element) :
    ∀ e ∈ keep rooted kept element, IsElement rooted e := by
  unfold keep
  split
  · exact proper
  next filled =>
  rw [not_or] at filled
  split
  · next up =>
    have climbs (relative : rooted = false) : IsElement rooted element :=
      ⟨filled.1, filled.2, whole, by simp [relative]⟩
    split
    · split
      · simp
      · next relative => simpa using climbs (by simpa using relative)
    · next last rest =>
      obtain ⟨first, later⟩ := List.forall_mem_cons.mp proper
      split
      · next climbed =>
        have relative : rooted = false :=
          Bool.eq_false_iff.mpr fun absolute => first.2.2.2 absolute climbed
        exact List.forall_mem_cons.mpr ⟨climbs relative, proper⟩
      · exact later
  · next down => exact List.forall_mem_cons.mpr ⟨⟨filled.1, filled.2, whole, fun _ => down⟩, proper⟩

theorem foldl_keep_isElement {rooted : Bool} (pieces kept : List Text)
    (proper : ∀ e ∈ kept, IsElement rooted e) (whole : ∀ piece ∈ pieces, slash ∉ piece) :
    ∀ e ∈ pieces.foldl (keep rooted) kept, IsElement rooted e := by
  induction pieces generalizing kept with
  | nil => exact proper
  | cons piece rest ih =>
    obtain ⟨first, later⟩ := List.forall_mem_cons.mp whole
    exact ih _ (keep_isElement proper first) later

theorem elements_isElement (path : Text) :
    ∀ e ∈ elements path, IsElement (isAbsolute path) e := by
  intro e member
  exact foldl_keep_isElement _ [] (by simp) (fun _ => Text.not_mem_of_mem_splitAt) e
    (List.mem_reverse.mp member)

-- The place that a path leads to from a directory, both given by their elements from the root.
def walk (here : List Text) (path : Text) : List Text :=
  ((path.splitAt slash).foldl (keep true) here.reverse).reverse

theorem walk_append (here : List Text) (a b : Text) :
    walk here (a ++ slash :: b) = walk (walk here a) b := by
  rw [walk, Text.splitAt_append, List.foldl_append, walk, walk, List.reverse_reverse]

theorem walk_nil (here : List Text) : walk here [] = here := by
  simp [walk, Text.splitAt, keep]

theorem walk_dot (here : List Text) : walk here "." = here := by
  rw [walk, show (("." : String) : Text).splitAt slash = ([("." : Text)] : List Text) from rfl]
  simp [keep]

theorem walk_element {element : Text} (name : IsElement true element) (here : List Text) :
    walk here element = here ++ [element] := by
  rw [walk, Text.splitAt_of_not_mem name.2.2.1, List.foldl_cons, List.foldl_nil, keep_element name,
    List.reverse_cons, List.reverse_reverse]

theorem elements_of_isAbsolute {path : Text} (absolute : isAbsolute path) :
    elements path = walk [] path := by
  rw [elements, absolute, walk, List.reverse_nil]

theorem foldl_keep_elements {rooted : Bool} {names : List Text} (kept : List Text)
    (proper : ∀ e ∈ names, IsElement true e) :
    names.foldl (keep rooted) kept = names.reverse ++ kept := by
  induction names generalizing kept with
  | nil => rfl
  | cons name rest ih =>
    obtain ⟨first, later⟩ := List.forall_mem_cons.mp proper
    rw [List.foldl_cons, keep_element first, ih _ later]
    simp

theorem walk_joinWith {names : List Text} (here : List Text)
    (proper : ∀ e ∈ names, IsElement true e) : walk here (Text.joinWith "/" names) = here ++ names := by
  cases names with
  | nil => simp [Text.joinWith, walk_nil]
  | cons name rest =>
    rw [walk, show (("/" : String) : Text) = [slash] from rfl,
      Text.splitAt_joinWith (by simp) fun e member => (proper e member).2.2.1,
      foldl_keep_elements _ proper]
    simp

theorem isAbsolute_ofElements (elements : List Text) : isAbsolute (ofElements true elements) := rfl

theorem elements_ofElements {names : List Text} (proper : ∀ e ∈ names, IsElement true e) :
    elements (ofElements true names) = names := by
  have split : ofElements true names = [] ++ slash :: Text.joinWith "/" names := rfl
  rw [elements_of_isAbsolute rfl, split, walk_append, walk_nil, walk_joinWith [] proper,
    List.nil_append]

theorem clean_of_isAbsolute {path : Text} (absolute : isAbsolute path) :
    clean path = ofElements true (elements path) := by
  rw [clean, absolute]

theorem walk_isElement {here : List Text} (proper : ∀ e ∈ here, IsElement true e) (path : Text) :
    ∀ e ∈ walk here path, IsElement true e := by
  intro e member
  exact foldl_keep_isElement _ here.reverse (by simpa using proper)
    (fun _ => Text.not_mem_of_mem_splitAt) e (List.mem_reverse.mp member)

theorem isAbsolute_of_not_mem {path : Text} (plain : slash ∉ path) : isAbsolute path = false := by
  cases path with
  | nil => rfl
  | cons first rest =>
    rw [isAbsolute, List.head?_cons, beq_eq_false_iff_ne]
    rintro ⟨⟩
    exact plain List.mem_cons_self

theorem isAbsolute_append {a : Text} (filled : a ≠ []) (b : Text) :
    isAbsolute (a ++ b) = isAbsolute a := by
  obtain ⟨first, rest, rfl⟩ := List.exists_cons_of_ne_nil filled
  rfl

theorem ne_nil_of_isAbsolute {path : Text} (absolute : isAbsolute path) : path ≠ [] := by
  rintro rfl
  contradiction

theorem join_of_ne_nil {a : Text} (filled : a ≠ []) (b : Text) :
    join a b = clean (a ++ slash :: b) := by
  rw [join, if_pos filled, List.append_assoc]
  rfl

theorem join_of_isAbsolute {a : Text} (absolute : isAbsolute a) (b : Text) :
    join a b = ofElements true (walk (elements a) b) := by
  have filled := ne_nil_of_isAbsolute absolute
  have longer : isAbsolute (a ++ slash :: b) := by rwa [isAbsolute_append filled]
  rw [join_of_ne_nil filled, clean_of_isAbsolute longer, elements_of_isAbsolute longer, walk_append,
    elements_of_isAbsolute absolute]

theorem isAbsolute_joinWith {pieces : List Text} (whole : ∀ e ∈ pieces, e ≠ [] ∧ slash ∉ e) :
    isAbsolute (Text.joinWith "/" pieces) = false := by
  cases pieces with
  | nil => rfl
  | cons piece rest =>
    obtain ⟨filled, plain⟩ := whole piece (by simp)
    have first := isAbsolute_of_not_mem plain
    cases rest with
    | nil => exact first
    | cons next rest =>
      rw [Text.joinWith_cons _ _ (by simp), List.append_assoc, isAbsolute_append filled, first]

theorem isAbsolute_clean (path : Text) : isAbsolute (clean path) = isAbsolute path := by
  cases rooted : isAbsolute path with
  | true => rw [clean, rooted, isAbsolute_ofElements]
  | false =>
    have proper := elements_isElement path
    rw [clean, rooted]
    cases found : elements path with
    | nil => rfl
    | cons first rest =>
      rw [found] at proper
      exact isAbsolute_joinWith fun e member => ⟨(proper e member).1, (proper e member).2.2.1⟩

-- What a relative path leaves of itself when it is cleaned does what its pieces do, wherever it is
-- followed from.
theorem foldl_keep_step {stack : List Text} (proper : ∀ e ∈ stack, IsElement false e)
    (kept : List Text) (piece : Text) :
    (keep false stack piece).reverse.foldl (keep true) kept =
      keep true (stack.reverse.foldl (keep true) kept) piece := by
  by_cases skipped : piece = [] ∨ piece = "."
  · simp [keep, skipped]
  by_cases up : piece = ".."
  · subst up
    cases stack with
    | nil => rfl
    | cons last rest =>
      by_cases climbed : last = ".."
      · simp [keep, skipped, climbed]
      · have name : IsElement true last := by
          obtain ⟨filled, proper, whole, -⟩ := proper last (by simp)
          exact ⟨filled, proper, whole, fun _ => climbed⟩
        rw [keep_up climbed, List.reverse_cons, List.foldl_append, List.foldl_cons, List.foldl_nil,
          keep_element name, keep_up climbed]
  · have kept_piece : keep false stack piece = piece :: stack := by simp [keep, skipped, up]
    rw [kept_piece, List.reverse_cons, List.foldl_append, List.foldl_cons, List.foldl_nil]

theorem foldl_keep_foldl_keep {stack pieces : List Text}
    (proper : ∀ e ∈ stack, IsElement false e) (whole : ∀ piece ∈ pieces, slash ∉ piece)
    (kept : List Text) :
    (pieces.foldl (keep false) stack).reverse.foldl (keep true) kept =
      pieces.foldl (keep true) (stack.reverse.foldl (keep true) kept) := by
  induction pieces generalizing stack with
  | nil => rfl
  | cons piece rest ih =>
    obtain ⟨first, later⟩ := List.forall_mem_cons.mp whole
    rw [List.foldl_cons, ih (keep_isElement proper first) later, foldl_keep_step proper,
      List.foldl_cons]

theorem walk_clean {path : Text} (relative : isAbsolute path = false) (here : List Text) :
    walk here (clean path) = walk here path := by
  have proper := elements_isElement path
  have pieces : ((clean path).splitAt slash).foldl (keep true) here.reverse =
      (elements path).foldl (keep true) here.reverse := by
    rw [clean, relative]
    cases found : elements path with
    | nil => rfl
    | cons first rest =>
      rw [found] at proper
      have split := Text.splitAt_joinWith (List.cons_ne_nil first rest) fun e member =>
        (proper e member).2.2.1
      exact congrArg (List.foldl (keep true) here.reverse) split
  rw [walk, pieces, elements, relative, foldl_keep_foldl_keep (by simp) fun _ =>
    Text.not_mem_of_mem_splitAt]
  rfl

theorem slash_not_mem_base (path : Text) : slash ∉ base path := by
  intro member
  have other := List.mem_takeWhile_imp (List.mem_reverse.mp member)
  simp at other

theorem exists_front (path : Text) :
    (slash ∉ path ∧ base path = path) ∨ ∃ front, path = front ++ slash :: base path := by
  have cut := List.takeWhile_append_dropWhile (p := (· != slash)) (l := path.reverse)
  have reversed : path.reverse.takeWhile (· != slash) = (base path).reverse := by
    rw [base, List.reverse_reverse]
  rw [reversed] at cut
  cases rest : path.reverse.dropWhile (· != slash) with
  | nil =>
    have whole : base path = path := by simpa [rest] using cut
    exact .inl ⟨whole ▸ slash_not_mem_base path, whole⟩
  | cons first front =>
    have found := List.dropWhile_get_zero_not (· != slash) path.reverse (by simp [rest])
    obtain rfl : first = slash := by simpa [rest] using found
    refine .inr ⟨front.reverse, ?_⟩
    rw [rest] at cut
    simpa using congrArg List.reverse cut.symm

theorem directory_of_base {path : Text} (whole : base path = path) : directory path = "." := by
  rw [directory, whole, Nat.sub_self]
  rfl

theorem directory_of_front {path front : Text} (split : path = front ++ slash :: base path) :
    directory path = clean (front ++ [slash]) := by
  have cut : path = front ++ [slash] ++ base path := by simpa using split
  have length : path.length - (base path).length = (front ++ [slash]).length := by
    rw [congrArg List.length cut, List.length_append, Nat.add_sub_cancel]
  rw [directory, length]
  exact congrArg clean ((congrArg _ cut).trans (List.take_left' rfl))

theorem getLast?_splitAt (path : Text) : (path.splitAt slash).getLast? = some (base path) := by
  rcases exists_front path with ⟨plain, whole⟩ | ⟨front, split⟩
  · rw [Text.splitAt_of_not_mem plain, whole, List.getLast?_singleton]
  · have last := Text.splitAt_of_not_mem (slash_not_mem_base path)
    rw [congrArg (Text.splitAt slash) split, Text.splitAt_append, last, List.getLast?_concat]

theorem isAbsolute_directory (path : Text) : isAbsolute (directory path) = isAbsolute path := by
  rcases exists_front path with ⟨plain, whole⟩ | ⟨front, split⟩
  · rw [directory_of_base whole, isAbsolute_of_not_mem plain]
    rfl
  · rw [directory_of_front split, isAbsolute_clean, congrArg isAbsolute split]
    cases front <;> rfl

theorem walk_directory {path : Text} (relative : isAbsolute path = false)
    (name : IsElement true (base path)) (here : List Text) :
    walk here path = walk here (directory path) ++ [base path] := by
  rcases exists_front path with ⟨plain, whole⟩ | ⟨front, split⟩
  · rw [whole] at name
    rw [directory_of_base whole, walk_dot, whole, walk_element name]
  · have above : isAbsolute (front ++ [slash]) = false := by
      rw [← isAbsolute_clean, ← directory_of_front split, isAbsolute_directory, relative]
    rw [directory_of_front split, walk_clean above, walk_append, walk_nil,
      congrArg (walk here) split, walk_append, walk_element name]

theorem directory_of_isAbsolute {path : Text} (absolute : isAbsolute path)
    (name : IsElement true (base path)) :
    directory path = ofElements true (elements path).dropLast := by
  rcases exists_front path with ⟨plain, whole⟩ | ⟨front, split⟩
  · rw [isAbsolute_of_not_mem plain] at absolute
    contradiction
  · have above : isAbsolute (front ++ [slash]) := by
      rw [← isAbsolute_clean, ← directory_of_front split, isAbsolute_directory, absolute]
    rw [directory_of_front split, clean_of_isAbsolute above, elements_of_isAbsolute above, walk_append,
      walk_nil, elements_of_isAbsolute absolute, congrArg (walk []) split, walk_append,
      walk_element name, List.dropLast_concat]

theorem base_ofElements {names : List Text} {last : Text}
    (proper : ∀ e ∈ names ++ [last], IsElement true e) :
    base (ofElements true (names ++ [last])) = last := by
  have split : ofElements true (names ++ [last]) = [] ++ slash :: Text.joinWith [slash] (names ++ [last]) :=
    rfl
  have ending := getLast?_splitAt (ofElements true (names ++ [last]))
  rw [split, Text.splitAt_append, Text.splitAt_joinWith (by simp) fun e member =>
    (proper e member).2.2.1, ← List.append_assoc, List.getLast?_concat, ← split] at ending
  exact (Option.some.inj ending).symm

theorem directory_ofElements {names : List Text} (proper : ∀ e ∈ names, IsElement true e) :
    directory (ofElements true names) = ofElements true names.dropLast := by
  rcases List.eq_nil_or_concat names with rfl | ⟨front, last, rfl⟩
  · rfl
  · rw [List.concat_eq_append] at proper ⊢
    have name := proper last (by simp)
    rw [directory_of_isAbsolute rfl (by rwa [base_ofElements proper]), elements_ofElements proper]

theorem absolute_eq {working : Text} (rooted : isAbsolute working) (path : Text) :
    ∃ names, absolute working path = ofElements true names ∧ ∀ e ∈ names, IsElement true e := by
  unfold absolute
  split
  · next given => 
    refine ⟨_, clean_of_isAbsolute given, ?_⟩
    simpa [given] using elements_isElement path
  · refine ⟨_, join_of_isAbsolute rooted path, walk_isElement ?_ path⟩
    simpa [rooted] using elements_isElement working

end Path

end LintServer
