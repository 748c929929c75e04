import LintServer.Config.Decode
import LintServer.Proofs.Path

set_option autoImplicit false

namespace LintServer

namespace Path

theorem clean_ne_nil (path : Text) : clean path ≠ [] := by
  have proper := elements_isElement path
  rw [clean]
  cases isAbsolute path with
  | true => simp [ofElements]
  | false =>
    cases found : elements path with
    | nil => decide
    | cons first rest =>
      have filled := (proper first (by simp [found])).1
      cases rest <;> simp [ofElements, Text.joinWith, filled]

theorem directory_ne_nil (path : Text) : directory path ≠ [] := clean_ne_nil _

theorem join_directory_ne_nil (path name : Text) : join (directory path) name ≠ [] := by
  rw [join_of_ne_nil (directory_ne_nil path)]
  exact clean_ne_nil _

theorem isAbsolute_join_directory (path name : Text) :
    isAbsolute (join (directory path) name) = isAbsolute path := by
  have filled := directory_ne_nil path
  rw [join_of_ne_nil filled, isAbsolute_clean, isAbsolute_append filled, isAbsolute_directory]

theorem clean_ofElements {names : List Text} (proper : ∀ e ∈ names, IsElement true e) :
    clean (ofElements true names) = ofElements true names := by
  rw [clean_of_isAbsolute rfl, elements_ofElements proper]

-- A name that is taken from the directory of a file, where the path of the file is itself taken
-- from a directory.
theorem absolute_join_directory {here path : Text} (rooted : isAbsolute here)
    (named : IsElement true (base path)) (name : Text) :
    absolute here (join (directory path) name) = join (directory (absolute here path)) name := by
  have joined := isAbsolute_join_directory path name
  cases given : isAbsolute path with
  | true =>
    have proper := elements_isElement path
    have above : isAbsolute (directory path) := by rw [isAbsolute_directory, given]
    have places := elements_isElement (directory path)
    rw [given] at proper joined
    rw [above] at places
    have same : directory (clean path) = directory path := by
      rw [clean_of_isAbsolute given, directory_ofElements proper, directory_of_isAbsolute given named]
    rw [absolute, if_pos joined, absolute, if_pos given, same, join_of_isAbsolute above,
      clean_ofElements (walk_isElement places name)]
  | false =>
    have filled := directory_ne_nil path
    have places := elements_isElement here
    rw [given] at joined
    rw [rooted] at places
    have relative : isAbsolute (directory path ++ Text.slash :: name) = false := by
      rw [isAbsolute_append filled, isAbsolute_directory, given]
    have start : directory (join here path) = ofElements true (walk (elements here) (directory path)) := by
      rw [join_of_isAbsolute rooted, directory_ofElements (walk_isElement places path),
        walk_directory given named, List.dropLast_concat]
    rw [absolute, if_neg (by simp [joined]), absolute, if_neg (by simp [given]), start,
      join_of_isAbsolute rooted, join_of_ne_nil filled, walk_clean relative, walk_append,
      join_of_isAbsolute rfl, elements_ofElements (walk_isElement places _)]

end Path

namespace Config

theorem Format.isElement_base {path : Text} {format : Format}
    (known : Format.ofPath? path = some format) : Path.IsElement true (Path.base path) := by
  -- These names have no extension that is known.
  have other (name : Text) (unknown : name ∈ ([[], ".", ".."] : List Text)) : Path.base path ≠ name := by
    intro same
    rw [Format.ofPath?, Path.extension, same] at known
    simp only [List.mem_cons, List.not_mem_nil, or_false] at unknown
    rcases unknown with rfl | rfl | rfl <;> cases known
  exact ⟨other _ (by simp), other _ (by simp), Path.slash_not_mem_base path, fun _ => other _ (by simp)⟩

section Load

variable {decoders : Decoders} {files : Files} {working path : Text} {c : Config}

theorem load_eq_ok (loaded : load decoders files working path = .ok c) :
    ∃ given, readFile decoders files working path = .ok given ∧ c = given.resolveRoot path := by
  unfold load at loaded
  cases read : readFile decoders files working path with
  | error e =>
    rw [read] at loaded
    cases loaded
  | ok given =>
    rw [read] at loaded
    dsimp only [bind, Except.bind] at loaded
    split at loaded
    · exact ⟨given, rfl, (Except.ok.inj loaded).symm⟩
    · cases loaded

theorem ofPath?_of_readFile (read : readFile decoders files working path = .ok c) :
    ∃ format, Format.ofPath? path = some format := by
  unfold readFile at read
  split at read
  · cases read
  · next known => exact ⟨_, known⟩
  · next known => exact ⟨_, known⟩

theorem resolveRoot_root (given : Config) (path : Text) : (given.resolveRoot path).root =
    if given.root = [] ∨ Path.isAbsolute given.root then given.root
    else Path.join (Path.directory path) given.root := by
  unfold resolveRoot
  split <;> rfl

theorem resolveRoot_eq (given : Config) (path : Text) :
    given.resolveRoot path = { given with root := (given.resolveRoot path).root } := by
  unfold resolveRoot
  split <;> rfl

-- From an absolute directory a root that is left relative leads where the file is read from there.
theorem load_resolves_root (loaded : load decoders files working path = .ok c) :
    ∃ given, readFile decoders files working path = .ok given ∧ c = { given with root := c.root } ∧
      (given.root = [] → c.root = []) ∧
      (Path.isAbsolute given.root → c.root = given.root) ∧
      (given.root ≠ [] → Path.isAbsolute given.root = false →
        c.root = Path.join (Path.directory path) given.root ∧
        ∀ here, Path.isAbsolute here → Path.absolute here c.root =
          Path.join (Path.directory (Path.absolute here path)) given.root) ∧
      (c.root = [] ∨ Path.isAbsolute c.root ↔
        given.root = [] ∨ Path.isAbsolute given.root ∨ Path.isAbsolute path) := by
  obtain ⟨given, read, rfl⟩ := load_eq_ok loaded
  obtain ⟨format, known⟩ := ofPath?_of_readFile read
  refine ⟨given, read, resolveRoot_eq given path, ?_⟩
  rw [resolveRoot_root]
  by_cases kept : given.root = [] ∨ Path.isAbsolute given.root
  · rw [if_pos kept]
    refine ⟨id, fun _ => rfl, fun filled relative => ?_, ?_⟩
    · simp [filled, relative] at kept
    · rw [← or_assoc, or_iff_left_of_imp fun _ => kept]
  · have joined := Path.isAbsolute_join_directory path given.root
    have filled := Path.join_directory_ne_nil path given.root
    rw [if_neg kept]
    rw [not_or] at kept
    refine ⟨fun empty => absurd empty kept.1, fun absolute => absurd absolute kept.2,
      fun _ _ => ⟨rfl, fun here rooted => ?_⟩, ?_⟩
    · exact Path.absolute_join_directory rooted (Format.isElement_base known) given.root
    · simp [filled, kept, joined]

end Load

theorem load_resolves_root_above :
    let files := Files.empty.addFile "/p/conf/tycheck.toml" "root = \"../crate//./src\""
    let decoders := Decoders.ofFiles files "/"
    let path : Text := "/p/./conf//tycheck.toml"
    let given := { defaults with root := "../crate//./src" }
    let c := { defaults with root := "/p/crate/src" }
    load decoders files "/" path = .ok c ∧ readFile decoders files "/" path = .ok given ∧
      c.root = Path.join (Path.directory path) given.root ∧ (c.root = [] ∨ Path.isAbsolute c.root) := by
  intro files decoders path given c
  have loaded : load decoders files "/" path = .ok c := by decide +kernel
  have read : readFile decoders files "/" path = .ok given := by decide +kernel
  obtain ⟨_, same, -, -, -, resolved, usable⟩ := load_resolves_root loaded
  obtain rfl := Except.ok.inj (same.symm.trans read)
  exact ⟨loaded, read, (resolved (by decide) rfl).1, usable.mpr (.inr (.inr rfl))⟩

-- A file that is named by a relative path leaves its root relative.
theorem load_keeps_relative_root :
    let files := Files.empty.addFile "/p/tycheck.toml" "root = \"crate\""
    load (.ofFiles files "/p") files "/p" "tycheck.toml" = .ok { defaults with root := "crate" } ∧
      Path.isAbsolute "crate" = false := by
  decide +kernel

end Config

end LintServer
