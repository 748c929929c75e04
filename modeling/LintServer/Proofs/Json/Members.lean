import Mathlib.Data.List.Forall2
import LintServer.Json.Over
import LintServer.Proofs.Text.Decimal

set_option autoImplicit false

namespace LintServer.Json

-- The members of an object by name, with what is written for each that has a value.
abbrev Spec := List (Text × Option (Json → Prop))

def Stands : Option (Json → Prop) → Json → Prop
  | some written, json => written json
  | none, json => json = null

def ObjectOf (spec : Spec) (json : Json) : Prop :=
  ∃ members, json = object members ∧ (members.map Prod.fst).Nodup ∧
    (∀ member ∈ members, ∃ value, (member.1, value) ∈ spec ∧ Stands value member.2) ∧
    ∀ field ∈ spec, field.2.isSome → field.1 ∈ members.map Prod.fst

def ArrayOf {α : Type} (written : α → Json → Prop) (values : List α) (json : Json) : Prop :=
  ∃ items, json = array items ∧ List.Forall₂ written values items

theorem ObjectOf.ne_null {spec : Spec} {json : Json}
    (written : ObjectOf spec json) : json ≠ null := by
  obtain ⟨members, rfl, -⟩ := written
  simp

theorem objectOf_ofFields {fields : List (Text × Option Json)} {spec : Spec}
    (aligned : List.Forall₂ (fun field entry => field.1 = entry.1 ∧
      Option.Rel (fun json written => written json) field.2 entry.2) fields spec)
    (distinct : (spec.map Prod.fst).Nodup) : ObjectOf spec (ofFields fields) := by
  have agree : ∃ members, ofFields fields = object members ∧
      (members.map Prod.fst).Sublist (spec.map Prod.fst) ∧
      (∀ member ∈ members, ∃ value, (member.1, value) ∈ spec ∧ Stands value member.2) ∧
      ∀ field ∈ spec, field.2.isSome → field.1 ∈ members.map Prod.fst := by
    clear distinct
    induction aligned with
    | nil => exact ⟨[], rfl, by simp⟩
    | @cons field entry fields spec here _ ih =>
      obtain ⟨name, value⟩ := field
      obtain ⟨_, entry⟩ := entry
      obtain ⟨rfl, related⟩ := here
      obtain ⟨members, written, kept, listed, complete⟩ := ih
      have later : ∀ member ∈ members, ∃ value,
          (member.1, value) ∈ (name, entry) :: spec ∧ Stands value member.2 := by
        intro member inside
        obtain ⟨value, found, stands⟩ := listed member inside
        exact ⟨value, List.mem_cons_of_mem _ found, stands⟩
      rw [ofFields, object.injEq] at written
      cases related with
      | none =>
        refine ⟨members, by simpa [ofFields] using written, kept.cons _, later, ?_⟩
        exact List.forall_mem_cons.mpr ⟨by simp, complete⟩
      | @some json =>
        next here =>
        refine ⟨(name, json) :: members, by simpa [ofFields] using written, kept.cons_cons _,
          List.forall_mem_cons.mpr ⟨⟨_, .head _, here⟩, later⟩,
          List.forall_mem_cons.mpr ⟨by simp, fun field inside present => ?_⟩⟩
        exact List.mem_cons_of_mem _ (complete field inside present)
  obtain ⟨members, written, kept, listed, complete⟩ := agree
  exact ⟨members, written, distinct.sublist kept, listed, complete⟩

theorem rel_map {α : Type} {encode : α → Json} {written : α → Json → Prop}
    (encoded : ∀ a, written a (encode a)) (value : Option α) :
    Option.Rel (fun json written => written json) (value.map encode) (value.map written) := by
  cases value with
  | none => exact .none
  | some a => exact .some (encoded a)

section Reading

variable {α : Type} {spec : Spec}

-- `state seen` is what has been read when the members of these names have been.
theorem foldlM_members {read : α → Text × Json → Except Mismatch α} {state : List Text → α}
    (step : ∀ seen field json, field ∈ spec → Stands field.2 json → field.1 ∉ seen →
      read (state seen) (field.1, json) = .ok (state (field.1 :: seen)))
    {members : List (Text × Json)} (distinct : (members.map Prod.fst).Nodup)
    (listed : ∀ member ∈ members, ∃ value, (member.1, value) ∈ spec ∧ Stands value member.2)
    (seen : List Text) (unseen : ∀ name ∈ members.map Prod.fst, name ∉ seen) :
    members.foldlM read (state seen) = .ok (state ((members.map Prod.fst).reverse ++ seen)) := by
  induction members generalizing seen with
  | nil => rfl
  | cons member rest ih =>
    obtain ⟨name, json⟩ := member
    rw [List.map_cons, List.nodup_cons] at distinct
    obtain ⟨value, found, stands⟩ := listed (name, json) (by simp)
    have here := step seen (name, value) json found stands (unseen name (by simp))
    rw [List.foldlM_cons, here]
    refine (ih distinct.2 (fun member later => listed member (by simp [later])) (name :: seen) ?_).trans
      (by simp)
    -- A later name is not the one just read, as no name is written twice.
    intro other later
    rw [List.mem_cons, not_or]
    exact ⟨fun same => distinct.1 (same ▸ later), unseen other (by simp [later])⟩

theorem ObjectOf.foldlM {json : Json} (written : ObjectOf spec json)
    (read : α → Text × Json → Except Mismatch α) (state : List Text → α)
    (step : ∀ seen field json, field ∈ spec → Stands field.2 json → field.1 ∉ seen →
      read (state seen) (field.1, json) = .ok (state (field.1 :: seen))) :
    ∃ members seen, json = object members ∧
      (∀ field ∈ spec, field.2.isSome → field.1 ∈ seen) ∧
      members.foldlM read (state []) = .ok (state seen) := by
  obtain ⟨members, same, distinct, listed, complete⟩ := written
  have folded := foldlM_members step distinct listed [] (by simp)
  refine ⟨members, _, same, fun field member present => ?_, folded⟩
  simpa using complete field member present

theorem ObjectOf.overObject {json : Json} (written : ObjectOf spec json) {unknown : Unknown}
    {fields : Fields α} (state : List Text → α)
    (step : ∀ seen field json, field ∈ spec → Stands field.2 json → field.1 ∉ seen →
      overMember unknown fields (state seen) field.1 json = .ok (state (field.1 :: seen))) :
    ∃ seen, (∀ field ∈ spec, field.2.isSome → field.1 ∈ seen) ∧
      Json.overObject unknown fields (state []) json = .ok (state seen) := by
  obtain ⟨members, seen, rfl, complete, folded⟩ := written.foldlM
    (fun old member => overMember unknown fields old member.1 member.2) state step
  exact ⟨seen, complete, folded⟩

-- The value of a field that is among the names seen; its zero before that.
def given {β : Type} (names : List Text) (name : Text) (value zero : β) : β :=
  if name ∈ names then value else zero

theorem given_cons {β : Type} (names : List Text) (first name : Text) (value zero : β) :
    given (first :: names) name value zero =
      if name = first then value else given names name value zero := by
  by_cases same : name = first <;> simp [given, same]

theorem given_option {β : Type} {names : List Text} {name : Text} {value : Option β}
    (present : value.isSome → name ∈ names) : given names name value none = value := by
  cases value with
  | none => simp [given]
  | some a => exact if_pos (present rfl)

theorem overMember_of_find {β : Type} {unknown : Unknown} {fields : Fields α} {name : Text}
    {get : α → β} {set : α → β → α} {read : Over β}
    (found : fields.find? name = some fun old json => return set old (← read (get old) json))
    {old next : α} {json : Json} {value : β} (result : read (get old) json = .ok value)
    (same : set old value = next) : overMember unknown fields old name json = .ok next := by
  simp [overMember, found, result, same]

end Reading

theorem overOption_of_ne_null {α : Type} (zero : α) (read : Over α) (old : Option α) {json : Json}
    (filled : json ≠ null) : overOption zero read old json = (read (old.getD zero) json).map some := by
  cases json <;> first | rfl | contradiction

theorem overOption_stands {α : Type} {zero : α} {read : Over α} {old value : Option α} {json : Json}
    {written : α → Json → Prop} (filled : ∀ a, written a json → json ≠ null)
    (reads : ∀ a, written a json → read (old.getD zero) json = .ok a)
    (stands : Stands (value.map written) json) : overOption zero read old json = .ok value := by
  cases value with
  | none =>
    rw [show json = null from stands]
    rfl
  | some a =>
    rw [overOption_of_ne_null zero read old (filled a stands), reads a stands]
    rfl

theorem fill_of_forall₂ {α : Type} {zero : α} {read : Over α} {written : α → Json → Prop}
    (reads : ∀ value json, written value json → read zero json = .ok value) {values : List α}
    {items : List Json} (all : List.Forall₂ written values items) :
    Slots.fill zero read [] items = .ok ⟨values, []⟩ := by
  induction all with
  | nil => rfl
  | cons first _ ih =>
    rw [Slots.fill, List.headD_nil, reads _ _ first, List.tail_nil, ih]
    rfl

theorem overSlots_arrayOf {α : Type} {zero : α} {read : Over α} {written : α → Json → Prop}
    (reads : ∀ value json, written value json → read zero json = .ok value) {values : List α}
    {json : Json} (all : ArrayOf written values json) :
    overSlots zero read .empty json = .ok ⟨values, []⟩ := by
  obtain ⟨items, rfl, all⟩ := all
  cases all with
  | nil => rfl
  | cons first more => exact fill_of_forall₂ reads (.cons first more)

theorem integer?_ofInt (n : Int) : integer? (Text.ofInt n) = some n := by
  cases n with
  | ofNat n =>
    obtain ⟨first, rest, split, all, -⟩ := Text.ofNat_spec n
    have read := Text.decimal?_ofNat n
    rw [Text.ofInt]
    unfold integer?
    split
    · next digits signed =>
      have digit := all 0x2D (by simp [signed])
      exact absurd digit (by decide)
    · rw [read]
      rfl
  | negSucc n =>
    rw [Text.ofInt, integer?, Text.decimal?_ofNat]
    rfl

theorem overInt64_ofInt (old n : Int64) : overInt64 old (ofInt n.toInt) = .ok n := by
  have least := n.le_toInt
  have most := n.toInt_lt
  simp only [ofInt, overInt64, integer?_ofInt]
  rw [if_pos (by omega), Int64.ofInt_toInt]

end LintServer.Json
