import LintServer.Proofs.Config.Root
import LintServer.Proofs.Config.Setting

set_option autoImplicit false

namespace LintServer.Config

open Json (Slots)

-- What a value that is given for a command leaves in one place of it: `none` if nothing was written
-- there yet.
def write (i : Nat) (before : Option Text) : Json → Option Text
  | .null | .array [] => some []
  | .array items =>
    match items[i]? with
    | some (.string word) => some word
    | _ => before
  | _ => before

def written (i : Nat) (values : List Json) : Option Text := values.foldl (write i) none

def filled (default : List Text) (values : List Json) (n : Nat) : List Text :=
  (List.range n).map fun i => (written i values).getD (default.getD i [])

theorem write_cons (i : Nat) (before : Option Text) (item : Json) (items : List Json) :
    write i before (.array (item :: items)) =
      match (item :: items)[i]? with
      | some (.string word) => some word
      | _ => before := rfl

theorem overCommand_getD {old new : Slots Text} {json : Json}
    (read : Draft.overCommand old json = .ok new) {i : Nat} {before : Option Text} {default : Text}
    (lay : old.held.getD i [] = before.getD default) :
    new.held.getD i [] = (write i before json).getD default := by
  match json with
  | .null | .array [] =>
    obtain rfl := Except.ok.inj read
    rfl
  | .array (item :: items) =>
    have slot := Slots.getD_fill read i
    rw [write_cons]
    cases here : (item :: items)[i]? with
    | none =>
      rw [here] at slot
      exact slot.trans lay
    | some word =>
      rw [here] at slot
      rcases Json.overText_cases slot with ⟨rfl, same⟩ | rfl
      · exact same.trans lay
      · rfl
  | .bool _ | .number _ | .string _ | .object _ => cases read

theorem foldlM_overCommand_getD {values : List Json} {old new : Slots Text}
    (read : values.foldlM Draft.overCommand old = .ok new) {i : Nat} {before : Option Text}
    {default : Text} (lay : old.held.getD i [] = before.getD default) :
    new.held.getD i [] = (values.foldl (write i) before).getD default := by
  induction values generalizing old before with
  | nil =>
    obtain rfl := Except.ok.inj read
    exact lay
  | cons json values ih =>
    rw [List.foldlM_cons] at read
    obtain ⟨next, first, later⟩ := ok_of_bind_eq_ok read
    exact ih later (overCommand_getD first lay)

theorem written_of_last {values items : List Json} {i : Nat} {word : Text}
    (last : values.getLast? = some (.array items)) (here : items[i]? = some (.string word)) :
    written i values = some word := by
  obtain ⟨earlier, rfl⟩ := List.getLast?_eq_some_iff.mp last
  cases items with
  | nil => cases here
  | cons item items => rw [written, List.foldl_append, List.foldl_cons, List.foldl_nil, write_cons, here]

theorem length_overCommand {old new : Slots Text} {items : List Json}
    (read : Draft.overCommand old (.array items) = .ok new) : new.items.length = items.length := by
  cases items with
  | nil =>
    obtain rfl := Except.ok.inj read
    rfl
  | cons item items => exact Slots.length_fill read

theorem overCommand_without_null {old new : Slots Text} {items : List Json}
    (read : Draft.overCommand old (.array items) = .ok new) (given : .null ∉ items) :
    new.items.map .string = items := by
  cases items with
  | nil =>
    obtain rfl := Except.ok.inj read
    rfl
  | cons first rest =>
    have length : new.items.length = (first :: rest).length := Slots.length_fill read
    refine List.ext_getElem ((List.length_map _).trans length) fun i _ within => ?_
    have slot := Slots.getD_fill read i
    rw [List.getElem?_eq_getElem within] at slot
    obtain ⟨_, word⟩ := List.getElem_of_getElem? (new.getElem?_items [] (length ▸ within))
    rcases Json.overText_cases slot with ⟨null, -⟩ | text
    · exact absurd (null ▸ List.getElem_mem within) given
    · rw [List.getElem_map, word, text]

theorem filled_eq_iff {a b : List Text} {values : List Json} {n : Nat} :
    filled a values n = filled b values n ↔
      ∀ i < n, written i values = none → a.getD i [] = b.getD i [] := by
  unfold filled
  rw [List.map_inj_left]
  refine forall_congr' fun i => ?_
  rw [List.mem_range]
  refine imp_congr_right fun _ => ?_
  cases written i values with
  | none => exact ⟨fun same _ => same, fun same => same rfl⟩
  | some word => exact ⟨nofun, fun _ => rfl⟩

theorem items_foldlM_overCommand {values items : List Json} {default : List Text} {new : Slots Text}
    (read : values.foldlM Draft.overCommand ⟨default, []⟩ = .ok new)
    (last : values.getLast? = some (.array items)) :
    new.items = filled default values items.length := by
  obtain ⟨before, step⟩ := foldlM_last read last
  have length := length_overCommand step
  refine List.ext_getElem? fun i => ?_
  by_cases within : i < items.length
  · have start : (Slots.mk default []).held.getD i [] = (none : Option Text).getD (default.getD i []) := by
      rw [Slots.held, List.append_nil, Option.getD_none]
    rw [new.getElem?_items [] (length ▸ within), foldlM_overCommand_getD read start, filled,
      List.getElem?_map, List.getElem?_range within]
    rfl
  · have beyond := Nat.le_of_not_lt within
    rw [List.getElem?_eq_none (length ▸ beyond), List.getElem?_eq_none]
    rwa [filled, List.length_map, List.length_range]

theorem Role.slots_items (role : Role) (draft : Draft) :
    (role.slots draft).items = role.command draft.config := by
  cases role <;> rfl

theorem Role.slots_start (role : Role) (c : Config) :
    role.slots ⟨c, [], [], []⟩ = ⟨role.command c, []⟩ := by
  cases role <;> rfl

section ReadOver

variable {unknown : Json.Unknown} {old new : Config} {json : Json} {role : Role} {items : List Json}

theorem foldlM_overCommand_readOver (read : readOver unknown old json = .ok new) (role : Role) :
    ∃ words : Slots Text, words.items = role.command new ∧
      (json.valuesAt [role.name]).foldlM Draft.overCommand ⟨role.command old, []⟩ = .ok words := by
  obtain ⟨draft, done, rfl⟩ := readOver_eq_ok.mp read
  have words := (Setting.command role).follows unknown _ json draft done
  exact ⟨role.slots draft, role.slots_items draft, role.slots_start old ▸ words⟩

theorem command_readOver (read : readOver unknown old json = .ok new)
    (last : (json.valuesAt [role.name]).getLast? = some (.array items)) :
    role.command new = filled (role.command old) (json.valuesAt [role.name]) items.length := by
  obtain ⟨words, same, read⟩ := foldlM_overCommand_readOver read role
  rw [← same, items_foldlM_overCommand read last]

-- Another spelling of the name is read first, and its words are there for null.
example :
    let json : Json := .object [("Linter", .array [.string "a", .string "b", .string "c"]),
      ("linter", .array [.string "x", .null, .string "y", .null])]
    readOver .refused defaults json =
      .ok { defaults with linter := ["x", "b", "y", "--message-format"] } := by
  decide +kernel

theorem command_without_null (read : readOver unknown old json = .ok new)
    (last : (json.valuesAt [role.name]).getLast? = some (.array items)) (given : .null ∉ items) :
    (role.command new).map .string = items := by
  obtain ⟨words, same, read⟩ := foldlM_overCommand_readOver read role
  obtain ⟨before, step⟩ := foldlM_last read last
  rw [← same, overCommand_without_null step given]

theorem same_of_valuesAt_eq_nil (read : readOver unknown old json = .ok new) {s : Setting}
    (absent : json.valuesAt s.path = []) : s.Same new old := by
  obtain ⟨draft, done, rfl⟩ := readOver_eq_ok.mp read
  have kept := s.follows unknown _ json draft done
  rw [absent] at kept
  have kept := Except.ok.inj kept
  cases s with
  | root | minimalEdits | logLevel | logFile => exact kept.symm
  | command role =>
    have kept : role.slots ⟨old, [], [], []⟩ = role.slots draft := kept
    rw [Setting.Same, ← role.slots_items, ← kept, role.slots_start]

-- Two runs of one value: over any other configuration the same command comes out if and only if
-- every word of it was written.
theorem command_independent_iff (read : readOver unknown old json = .ok new)
    (last : (json.valuesAt [role.name]).getLast? = some (.array items)) :
    (∀ other result, readOver unknown other json = .ok result →
        role.command result = role.command new) ↔
      ∀ i < items.length, (written i (json.valuesAt [role.name])).isSome := by
  constructor
  · intro same i within
    cases here : written i (json.valuesAt [role.name]) with
    | some word => rfl
    | none =>
      -- a configuration whose command has another word in this place
      let word : Text := 0 :: (role.command old).getD i []
      let draft := (Setting.command role).set ⟨old, [], [], []⟩ ⟨List.replicate (i + 1) word, []⟩
      have words : role.command draft.config = List.replicate (i + 1) word := by
        cases role <;> rfl
      obtain ⟨result, done⟩ := readOver_steady unknown old draft.config json new read
      have equal := same draft.config result done
      rw [command_readOver done last, command_readOver read last, filled_eq_iff] at equal
      have equal := equal i within here
      rw [words, List.getD_eq_getElem?_getD, List.getElem?_replicate_of_lt (Nat.lt_succ_self i)] at equal
      exact absurd equal (List.cons_ne_self _ _)
  · intro all other result done
    rw [command_readOver done last, command_readOver read last, filled_eq_iff]
    intro i within here
    have given := all i within
    rw [here] at given
    cases given

end ReadOver

theorem readFile_of_jsonnet? {decoders : Decoders} {files : Files} {working path content : Text}
    {json : Json} {given : Config} (known : Format.ofPath? path = some .jsonnet)
    (there : files.read working path = .ok content)
    (value : decoders.jsonnet? (snippet path content) = some json)
    (read : readFile decoders files working path = .ok given) :
    readOver .refused defaults json = .ok given := by
  unfold readFile at read
  simp only [known, there, value, ofJson] at read
  split at read
  · next same => rw [same, Except.ok.inj read]
  · cases read
  · cases read

theorem Role.command_resolveRoot (role : Role) (given : Config) (path : Text) :
    role.command (given.resolveRoot path) = role.command given := by
  rw [resolveRoot_eq]
  cases role <;> rfl

theorem Setting.same_resolveRoot {s : Setting} {given : Config} (path : Text)
    (same : s.Same given defaults) : s.Same (given.resolveRoot path) defaults := by
  cases s with
  | root =>
    have empty : given.root = [] := same
    rw [Setting.Same, resolveRoot_root, if_pos (.inl empty), same]
  | command role => exact (role.command_resolveRoot given path).trans same
  | minimalEdits | logLevel | logFile =>
    rw [resolveRoot_eq]
    exact same

-- A place where nothing was written is one where the last array has null and no earlier value for
-- the command, under another spelling of its name, left anything.
theorem load_over_defaults {decoders : Decoders} {files : Files} {working path content : Text}
    {json : Json} {c : Config} (known : Format.ofPath? path = some .jsonnet)
    (there : files.read working path = .ok content)
    (value : decoders.jsonnet? (snippet path content) = some json)
    (loaded : load decoders files working path = .ok c) :
    (∀ s : Setting, json.valuesAt s.path = [] → s.Same c defaults) ∧
      ∀ (role : Role) (items : List Json),
        (json.valuesAt [role.name]).getLast? = some (.array items) →
        let values := json.valuesAt [role.name]
        role.command c = filled (role.command defaults) values items.length ∧
        (∀ other, ∃ result, readOver .refused other json = .ok result ∧
          role.command result = filled (role.command other) values items.length) ∧
        ((∀ other result, readOver .refused other json = .ok result →
            role.command result = role.command c) ↔
          ∀ i < items.length, (written i values).isSome) ∧
        (∀ i word, items[i]? = some (.string word) → written i values = some word) ∧
        (.null ∉ items → (role.command c).map .string = items) := by
  obtain ⟨given, read, rfl⟩ := load_eq_ok loaded
  have read := readFile_of_jsonnet? known there value read
  constructor
  · intro s absent
    exact Setting.same_resolveRoot path (same_of_valuesAt_eq_nil read absent)
  · intro role items last values
    rw [role.command_resolveRoot]
    refine ⟨command_readOver read last, fun other => ?_, command_independent_iff read last,
      fun i word here => written_of_last last here, command_without_null read last⟩
    obtain ⟨result, done⟩ := readOver_steady .refused defaults other json given read
    exact ⟨result, done, command_readOver done last⟩

theorem load_over_defaults_null_word :
    let content : Text := "\x7b linter: [\"a\", null, \"c\"] \x7d"
    let files := Files.empty.addFile "/p/tycheck.jsonnet" content
    let decoders := Decoders.ofFiles files "/"
    let path : Text := "/p/tycheck.jsonnet"
    let json : Json := .object [("linter", .array [.string "a", .null, .string "c"])]
    let c := { defaults with linter := ["a", "clippy", "c"] }
    Format.ofPath? path = some .jsonnet ∧ files.read "/" path = .ok content ∧
      decoders.jsonnet? (snippet path content) = some json ∧
      load decoders files "/" path = .ok c ∧ Setting.logLevel.Same c defaults ∧
      c.linter = filled defaults.linter (json.valuesAt ["linter"]) 3 ∧
      written 2 (json.valuesAt ["linter"]) = some "c" := by
  intro content files decoders path json c
  have known : Format.ofPath? path = some .jsonnet := by decide +kernel
  have there : files.read "/" path = .ok content := by decide +kernel
  have value : decoders.jsonnet? (snippet path content) = some json := by with_unfolding_all rfl
  have loaded : load decoders files "/" path = .ok c := by decide +kernel
  obtain ⟨unmentioned, commands⟩ := load_over_defaults known there value loaded
  obtain ⟨words, -, -, strings, -⟩ := commands .linter _ rfl
  exact ⟨known, there, value, loaded, unmentioned .logLevel rfl, words, strings 2 _ rfl⟩

theorem load_keeps_default_word :
    let files := Files.empty.addFile "/p/tycheck.jsonnet" "\x7b linter: [\"a\", null] \x7d"
    let json : Json := .object [("linter", .array [.string "a", .null])]
    load (.ofFiles files "/") files "/" "/p/tycheck.jsonnet" =
        .ok { defaults with linter := ["a", "clippy"] } ∧
      readOver .refused defaults json = .ok { defaults with linter := ["a", "clippy"] } ∧
      readOver .refused { defaults with linter := [] } json =
        .ok { defaults with linter := ["a", []] } := by
  decide +kernel

end LintServer.Config
