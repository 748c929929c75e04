import Mathlib.Logic.Function.Iterate
import LintServer.Config.Find
import LintServer.Proofs.Path

set_option autoImplicit false

namespace LintServer.Config

theorem iterate_directory {names : List Text} (proper : ∀ e ∈ names, Path.IsElement true e) (n : Nat) :
    Path.directory^[n] (Path.ofElements true names) =
      Path.ofElements true (names.take (names.length - n)) := by
  induction n with
  | zero => simp
  | succ n ih =>
    rw [Function.iterate_succ_apply', ih,
      Path.directory_ofElements fun e member => proper e (List.mem_of_mem_take member),
      List.dropLast_eq_take, List.take_take, List.length_take]
    congr 2
    omega

theorem ancestors_eq (names : List Text) : ancestors names =
    (List.range (names.length + 1)).map fun n => names.take (names.length - n) := by
  apply List.ext_getElem
  · simp [ancestors]
  · intro n _ _
    simp [ancestors]

theorem candidates_eq {names : List Text} (proper : ∀ e ∈ names, Path.IsElement true e) :
    candidates (Path.ofElements true names) = (List.range (names.length + 1)).flatMap fun n =>
      fileNames.map (Path.join (Path.directory^[n] (Path.ofElements true names))) := by
  rw [candidates, Path.elements_ofElements proper, ancestors_eq, List.flatMap_map]
  simp only [iterate_directory proper]

theorem iterate_directory_succ_iff {names : List Text}
    (proper : ∀ e ∈ names, Path.IsElement true e) (n : Nat) :
    Path.directory^[n + 1] (Path.ofElements true names) = Path.directory^[n] (Path.ofElements true names) ↔
      names.length ≤ n := by
  rw [iterate_directory proper, iterate_directory proper]
  constructor
  · intro same
    have kept (m : Nat) : ∀ e ∈ names.take m, Path.IsElement true e := fun e member =>
      proper e (List.mem_of_mem_take member)
    have lengths := congrArg (fun path => (Path.elements path).length) same
    simp only [Path.elements_ofElements (kept _), List.length_take] at lengths
    omega
  · intro above
    rw [Nat.sub_eq_zero_of_le above, Nat.sub_eq_zero_of_le (Nat.le_succ_of_le above)]

def decisive? (stat : Text → Stat) (paths : List Text) : Option Text :=
  paths.find? (stat · ≠ .missing)

theorem decisive?_eq_none_iff {stat : Text → Stat} {paths : List Text} :
    decisive? stat paths = none ↔ ∀ path ∈ paths, stat path = .missing := by
  simp [decisive?]

theorem firstFound_cases (stat : Text → Stat) (paths : List Text) :
    (decisive? stat paths = none ∧ firstFound stat paths = .ok none) ∨
    ∃ path, decisive? stat paths = some path ∧
      (stat path = .found ∧ firstFound stat paths = .ok (some path) ∨
        ∃ message, stat path = .failed message ∧ firstFound stat paths = .error ⟨path, message⟩) := by
  induction paths with
  | nil => exact .inl ⟨rfl, rfl⟩
  | cons path rest ih =>
    rw [firstFound]
    cases asked : stat path with
    | found => exact .inr ⟨path, by simp [decisive?, asked], .inl ⟨asked, rfl⟩⟩
    | missing =>
      have later : decisive? stat (path :: rest) = decisive? stat rest := by simp [decisive?, asked]
      rw [later]
      exact ih
    | failed message => exact .inr ⟨path, by simp [decisive?, asked], .inr ⟨message, asked, rfl⟩⟩

theorem firstFound_append {stat other : Text → Stat} {before : List Text} {path : Text}
    (same : ∀ p ∈ before ++ [path], other p = stat p) (there : stat path ≠ .missing)
    (after : List Text) :
    firstFound other (before ++ path :: after) = firstFound stat (before ++ path :: after) := by
  induction before with
  | nil =>
    have here := same path (by simp)
    simp only [List.nil_append, firstFound, here]
    cases asked : stat path <;> simp_all
  | cons first before ih =>
    obtain ⟨here, later⟩ := List.forall_mem_cons.mp same
    rw [List.cons_append, firstFound, firstFound, here, ih later]

theorem firstFound_eq_found_iff (stat : Text → Stat) (paths : List Text) (path : Text) :
    firstFound stat paths = .ok (some path) ↔ decisive? stat paths = some path ∧ stat path = .found := by
  rcases firstFound_cases stat paths with
    ⟨none, result⟩ | ⟨first, found, ⟨asked, result⟩ | ⟨message, asked, result⟩⟩
  · simp [none, result]
  · rw [result, found]
    refine ⟨?_, fun ⟨same, _⟩ => congrArg _ same⟩
    rintro ⟨⟩
    exact ⟨rfl, asked⟩
  · rw [result, found]
    refine iff_of_false (by simp) ?_
    rintro ⟨⟨⟩, there⟩
    simp [asked] at there

theorem firstFound_eq_failed_iff (stat : Text → Stat) (paths : List Text) (e : StatFailure) :
    firstFound stat paths = .error e ↔
      decisive? stat paths = some e.path ∧ stat e.path = .failed e.message := by
  rcases firstFound_cases stat paths with
    ⟨none, result⟩ | ⟨first, found, ⟨asked, result⟩ | ⟨message, asked, result⟩⟩
  · simp [none, result]
  · rw [result, found]
    refine iff_of_false (by simp) ?_
    rintro ⟨same, there⟩
    simp [← Option.some.inj same, asked] at there
  · rw [result, found]
    constructor
    · rintro ⟨⟩
      exact ⟨rfl, asked⟩
    · rintro ⟨same, there⟩
      obtain rfl := Option.some.inj same
      rw [asked, Stat.failed.injEq] at there
      rw [there]

theorem firstFound_eq_none_iff (stat : Text → Stat) (paths : List Text) :
    firstFound stat paths = .ok none ↔ ∀ path ∈ paths, stat path = .missing := by
  rw [← decisive?_eq_none_iff]
  rcases firstFound_cases stat paths with
    ⟨none, result⟩ | ⟨first, found, ⟨asked, result⟩ | ⟨message, asked, result⟩⟩
  · simp [none, result]
  · simp [found, result]
  · simp [found, result]

-- `level n` is the directory after `n` steps up. Steps are made as long as they lead to another
-- directory, and what is asked after the decisive file changes nothing.
theorem find_nearest (stat : Text → Stat) (working directory : Text)
    (rooted : Path.isAbsolute working) :
    let level (n : Nat) : Text := Path.directory^[n] (Path.absolute working directory)
    ∃ depth, (∀ n, level (n + 1) = level n ↔ depth ≤ n) ∧ level depth = "/" ∧
      let paths := (List.range (depth + 1)).flatMap fun n => fileNames.map (Path.join (level n))
      (∀ path, find stat working directory = .ok (some path) ↔
        decisive? stat paths = some path ∧ stat path = .found) ∧
      (∀ e, find stat working directory = .error e ↔
        decisive? stat paths = some e.path ∧ stat e.path = .failed e.message) ∧
      (find stat working directory = .ok none ↔ ∀ path ∈ paths, stat path = .missing) ∧
      ∀ other before path after, paths = before ++ path :: after → stat path ≠ .missing →
        (∀ p ∈ before ++ [path], other p = stat p) →
        find other working directory = find stat working directory := by
  intro level
  obtain ⟨names, start, proper⟩ := Path.absolute_eq rooted directory
  have searched (ask : Text → Stat) : find ask working directory =
      firstFound ask ((List.range (names.length + 1)).flatMap fun n =>
        fileNames.map (Path.join (level n))) := by
    simp only [find, level, start, candidates_eq proper]
  refine ⟨names.length, fun n => ?_, ?_, ?_⟩
  · simp only [level, start]
    exact iterate_directory_succ_iff proper n
  · simp only [level, start, iterate_directory proper, Nat.sub_self]
    rfl
  intro paths
  refine ⟨fun path => ?_, fun e => ?_, ?_, fun other before path after split there same => ?_⟩
  · rw [searched]
    exact firstFound_eq_found_iff stat paths path
  · rw [searched]
    exact firstFound_eq_failed_iff stat paths e
  · rw [searched]
    exact firstFound_eq_none_iff stat paths
  · rw [searched, searched]
    change firstFound other paths = firstFound stat paths
    rw [split]
    exact firstFound_append same there after

theorem find_nearest_two_up :
    let stat (path : Text) : Stat :=
      if path = "/a/tycheck.jsonnet" then .found
      else if path = "/tycheck.toml" then .failed "permission denied"
      else .missing
    let level (n : Nat) : Text := Path.directory^[n] (Path.absolute "/x" "../a/b/./c")
    Path.isAbsolute "/x" ∧ level 0 = "/a/b/c" ∧
      find stat "/x" "../a/b/./c" = .ok (some "/a/tycheck.jsonnet") ∧
      ∃ depth, level depth = "/" ∧ decisive? stat ((List.range (depth + 1)).flatMap fun n =>
        fileNames.map (Path.join (level n))) = some ("/a/tycheck.jsonnet" : Text) := by
  intro stat level
  have result : find stat "/x" "../a/b/./c" = .ok (some "/a/tycheck.jsonnet") := by decide +kernel
  obtain ⟨depth, -, top, found, -⟩ := find_nearest stat "/x" "../a/b/./c" rfl
  exact ⟨rfl, by decide +kernel, result, depth, top, ((found _).mp result).1⟩

end LintServer.Config
