import Mathlib.Data.List.Nodup
import LintServer.Json.Over
import LintServer.Proofs.Fold

set_option autoImplicit false

namespace LintServer.Json

def values (name : Text) : Json → List Json
  | .object members => (members.filter fun m => name.sameName m.1).map Prod.snd
  | _ => []

def valuesAt : List Text → Json → List Json
  | [], json => [json]
  | name :: path, json => (json.values name).flatMap (valuesAt path)

section Reading

variable {α β : Type} {fields : Fields α}

theorem sameName_iff {a b : Text} : a.sameName b ↔ a.fold = b.fold := beq_iff_eq

theorem Fields.find?_eq_some {name : Text} {read : Over α} (found : fields.find? name = some read) :
    ∃ f ∈ fields, f.1.fold = name.fold ∧ f.2 = read := by
  obtain ⟨f, first, same⟩ := Option.map_eq_some_iff.mp found
  have named := List.find?_some (p := fun g : Text × Over α => g.1.sameName name) first
  exact ⟨f, List.mem_of_find?_eq_some first, sameName_iff.mp named, same⟩

theorem Fields.find?_ne_none {f : Text × Over α} (listed : f ∈ fields) {name : Text}
    (same : f.1.fold = name.fold) : fields.find? name ≠ none := by
  intro missing
  rw [Fields.find?, Option.map_eq_none_iff, List.find?_eq_none] at missing
  exact missing f listed (sameName_iff.mpr same)

theorem overMember_cases {unknown : Unknown} {name : Text} {old new : α} {json : Json}
    (read : overMember unknown fields old name json = .ok new) :
    (fields.find? name = none ∧ unknown = .ignored ∧ new = old) ∨
      ∃ f ∈ fields, fields.find? name = some f.2 ∧ f.1.fold = name.fold ∧ f.2 old json = .ok new := by
  unfold overMember at read
  cases found : fields.find? name with
  | none =>
    rw [found] at read
    cases unknown with
    | ignored => exact .inl ⟨rfl, rfl, (Except.ok.inj read).symm⟩
    | refused => cases read
  | some reader =>
    rw [found] at read
    obtain ⟨f, listed, same, rfl⟩ := Fields.find?_eq_some found
    exact .inr ⟨f, listed, rfl, same, read⟩

-- The part of a value that `get` gives is left alone.
def Ignores (read : Over α) (get : α → β) : Prop :=
  ∀ old json new, read old json = .ok new → get new = get old

-- The part of a value that `get` gives is read from the values at a path, one after the other.
def Follows (read : Over α) (path : List Text) (get : α → β) (readPart : Over β) : Prop :=
  ∀ old json new, read old json = .ok new →
    (json.valuesAt path).foldlM readPart (get old) = .ok (get new)

theorem Ignores.set {γ : Type} {readPart : Over γ} {part : α → γ} {set : α → γ → α} {get : α → β}
    (apart : ∀ old value, get (set old value) = get old) :
    Ignores (fun old json => return set old (← readPart (part old) json)) get := by
  intro old json new read
  obtain ⟨value, -, done⟩ := ok_of_bind_eq_ok read
  rw [← Except.ok.inj done, apart]

theorem Follows.set {readPart : Over β} {get : α → β} {set : α → β → α}
    (kept : ∀ old value, get (set old value) = value) :
    Follows (fun old json => return set old (← readPart (get old) json)) [] get readPart := by
  intro old json new read
  obtain ⟨value, first, done⟩ := ok_of_bind_eq_ok read
  rw [valuesAt, List.foldlM_cons, first, ← Except.ok.inj done, kept]
  rfl

theorem Ignores.overObject {get : α → β} (all : ∀ f ∈ fields, Ignores f.2 get) (unknown : Unknown) :
    Ignores (overObject unknown fields) get := by
  intro old json new read
  cases json with
  | null => rw [Except.ok.inj read]
  | object members =>
    refine foldlM_preserves (P := (get · = get old)) (fun before m after step same => ?_) read rfl
    rcases overMember_cases step with ⟨-, -, rfl⟩ | ⟨f, listed, -, -, step⟩
    · exact same
    · rw [all f listed before m.2 after step, same]
  | _ => cases read

-- A member of the name of a field is read by this field, as no other has a name that is the same.
theorem Follows.overMember {f : Text × Over α} {path : List Text} {get : α → β} {readPart : Over β}
    (distinct : (fields.map fun f => f.1.fold).Nodup) (listed : f ∈ fields)
    (own : Follows f.2 path get readPart) (rest : ∀ g ∈ fields, g.1 ≠ f.1 → Ignores g.2 get)
    {unknown : Unknown} {name : Text} {old new : α} {json : Json}
    (read : overMember unknown fields old name json = .ok new) :
    (if f.1.sameName name then (json.valuesAt path).foldlM readPart (get old) else .ok (get old)) =
      .ok (get new) := by
  by_cases same : f.1.sameName name
  · rw [if_pos same]
    rw [sameName_iff] at same
    rcases overMember_cases read with ⟨missing, -, -⟩ | ⟨g, found, -, first, read⟩
    · exact absurd missing (Fields.find?_ne_none listed same)
    · obtain rfl := List.inj_on_of_nodup_map distinct found listed (first.trans same.symm)
      exact own old json new read
  · rw [if_neg same]
    rcases overMember_cases read with ⟨-, -, rfl⟩ | ⟨g, found, -, first, read⟩
    · rfl
    · have apart : g.1 ≠ f.1 := fun here => same (sameName_iff.mpr (here ▸ first))
      rw [rest g found apart old json new read]

theorem Follows.overObject {f : Text × Over α} {path : List Text} {get : α → β} {readPart : Over β}
    (distinct : (fields.map fun f => f.1.fold).Nodup) (listed : f ∈ fields)
    (own : Follows f.2 path get readPart) (rest : ∀ g ∈ fields, g.1 ≠ f.1 → Ignores g.2 get)
    (unknown : Unknown) : Follows (overObject unknown fields) (f.1 :: path) get readPart := by
  intro old json new read
  rw [valuesAt, foldlM_flatMap]
  cases json with
  | null =>
    obtain rfl := Except.ok.inj read
    rfl
  | object members =>
    rw [values, List.foldlM_map, List.foldlM_filter]
    exact foldlM_project _ get (fun old m new => Follows.overMember distinct listed own rest) read
  | _ => cases read

-- Whether a value is accepted does not depend on what it is read over.
def Steady (read : Over α) : Prop :=
  ∀ old other json new, read old json = .ok new → ∃ result, read other json = .ok result

theorem overText_steady : Steady overText := by
  intro old other json new read
  cases json with
  | null => exact ⟨other, rfl⟩
  | string text => exact ⟨text, rfl⟩
  | _ => cases read

theorem overBool_steady : Steady overBool := by
  intro old other json new read
  cases json with
  | null => exact ⟨other, rfl⟩
  | bool value => exact ⟨value, rfl⟩
  | _ => cases read

theorem Steady.set {readPart : Over β} (steady : Steady readPart) (get : α → β) (set : α → β → α) :
    Steady fun old json => return set old (← readPart (get old) json) := by
  intro old other json new read
  obtain ⟨part, first, -⟩ := ok_of_bind_eq_ok read
  obtain ⟨result, here⟩ := steady (get old) (get other) json part first
  exact ⟨set other result, by simp only [here]; rfl⟩

theorem Steady.fill {zero : α} {read : Over α} (steady : Steady read) {items : List Json}
    {held : List α} {slots : Slots α} (done : Slots.fill zero read held items = .ok slots)
    (other : List α) : ∃ result, Slots.fill zero read other items = .ok result := by
  induction items generalizing held other slots with
  | nil => exact ⟨_, rfl⟩
  | cons json items ih =>
    rw [Slots.fill] at done
    obtain ⟨item, first, done⟩ := ok_of_bind_eq_ok done
    obtain ⟨rest, later, -⟩ := ok_of_bind_eq_ok done
    obtain ⟨result, here⟩ := steady _ (other.headD zero) json item first
    obtain ⟨results, more⟩ := ih later other.tail
    exact ⟨.cons result results, by rw [Slots.fill, here, more]; rfl⟩

theorem Steady.overSlots {zero : α} {read : Over α} (steady : Steady read) :
    Steady (overSlots zero read) := by
  intro old other json new done
  match json with
  | .null | .array [] => exact ⟨_, rfl⟩
  | .array (item :: items) => exact steady.fill done other.held
  | .bool _ | .number _ | .string _ | .object _ => cases done

theorem overObject_steady (steady : ∀ f ∈ fields, Steady f.2) (unknown : Unknown) :
    Steady (overObject unknown fields) := by
  have member (old other : α) (m : Text × Json) (new : α)
      (read : overMember unknown fields old m.1 m.2 = .ok new) :
      ∃ result, overMember unknown fields other m.1 m.2 = .ok result := by
    unfold overMember
    rcases overMember_cases read with ⟨missing, rfl, -⟩ | ⟨f, listed, found, -, read⟩
    · exact ⟨other, by rw [missing]⟩
    · rw [found]
      exact steady f listed old other m.2 new read
  intro old other json new read
  cases json with
  | null => exact ⟨other, rfl⟩
  | object members => exact foldlM_succeeds member read other
  | _ => cases read

theorem overText_cases {old new : Text} {json : Json} (read : overText old json = .ok new) :
    (json = .null ∧ new = old) ∨ json = .string new := by
  cases json with
  | null => exact .inl ⟨rfl, (Except.ok.inj read).symm⟩
  | string text => exact .inr (by rw [Except.ok.inj read])
  | _ => cases read

theorem Slots.length_fill {zero : α} {read : Over α} {items : List Json} {held : List α}
    {slots : Slots α} (done : Slots.fill zero read held items = .ok slots) :
    slots.items.length = items.length := by
  induction items generalizing held slots with
  | nil =>
    obtain rfl := Except.ok.inj done
    rfl
  | cons json items ih =>
    rw [Slots.fill] at done
    obtain ⟨item, -, done⟩ := ok_of_bind_eq_ok done
    obtain ⟨rest, later, done⟩ := ok_of_bind_eq_ok done
    obtain rfl := Except.ok.inj done
    exact congrArg (· + 1) (ih later)

-- Each slot by itself: it is read over, or it is left alone if it is beyond the last item.
theorem Slots.getD_fill {zero : α} {read : Over α} {items : List Json} {held : List α}
    {slots : Slots α} (done : Slots.fill zero read held items = .ok slots) (i : Nat) :
    match items[i]? with
    | some json => read (held.getD i zero) json = .ok (slots.held.getD i zero)
    | none => slots.held.getD i zero = held.getD i zero := by
  induction items generalizing held slots i with
  | nil =>
    obtain rfl := Except.ok.inj done
    rfl
  | cons json items ih =>
    rw [Slots.fill] at done
    obtain ⟨item, first, done⟩ := ok_of_bind_eq_ok done
    obtain ⟨rest, later, done⟩ := ok_of_bind_eq_ok done
    obtain rfl := Except.ok.inj done
    cases i with
    | zero => cases held <;> exact first
    | succ i => cases held <;> exact ih later i

theorem Slots.getElem?_items (slots : Slots α) (zero : α) {i : Nat}
    (within : i < slots.items.length) : slots.items[i]? = some (slots.held.getD i zero) := by
  rw [Slots.held, List.getD_eq_getElem?_getD, List.getElem?_append_left within,
    List.getElem?_eq_getElem within, Option.getD_some]

end Reading

end LintServer.Json
