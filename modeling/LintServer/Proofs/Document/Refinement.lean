import Mathlib.Data.Finmap
import Mathlib.Data.Finset.Sort
import LintServer.Proofs.Document.Walk
import LintServer.Proofs.Grouping

set_option autoImplicit false

namespace LintServer

namespace Store

inductive Call where
  | put (uri : Uri) (text : Text)
  | close (uri : Uri)
  | edit (uri : Uri) (changes : List Change)
  | text (uri : Uri)
  | uris

inductive Answer where
  | done
  | notOpen (error : NotOpen)
  | text (text : Option Text)
  | uris (uris : List Uri)

def Call.uri? : Call → Option Uri
  | put uri _ | close uri | edit uri _ | text uri => some uri
  | uris => none

-- A call that fails leaves the store as it is.
def outcome (s : Store) : Except NotOpen Store → Store × Answer
  | .ok next => (next, .done)
  | .error error => (s, .notOpen error)

def respond (s : Store) : Call → Store × Answer
  | .put uri text => (s.put uri text, .done)
  | .close uri => s.outcome (s.close uri)
  | .edit uri changes => s.outcome (s.edit uri changes)
  | .text uri => (s, .text (s.text? uri))
  | .uris => (s, .uris s.uris)

def stateAfter {State : Type} (respond : State → Call → State × Answer) (start : State)
    (calls : List Call) : State :=
  calls.foldl (fun state call => (respond state call).1) start

def answers {State : Type} (respond : State → Call → State × Answer) : State → List Call → List Answer
  | _, [] => []
  | state, call :: rest => (respond state call).2 :: answers respond (respond state call).1 rest

end Store

abbrev Texts := Finmap fun _ : Uri => Text

namespace Texts

def change (text : Text) (c : Change) : Text :=
  match c.range with
  | none => c.text
  | some range =>
    let a := Walk.point text range.start
    let b := Walk.point text range.stop
    text.take (min a b) ++ c.text ++ text.drop (max a b)

def respond (texts : Texts) : Store.Call → Texts × Store.Answer
  | .put uri text => (texts.insert uri text, .done)
  | .close uri =>
    if uri ∈ texts then (texts.erase uri, .done) else (texts, .notOpen ⟨uri⟩)
  | .edit uri changes =>
    match texts.lookup uri with
    | none => (texts, .notOpen ⟨uri⟩)
    | some text => (texts.insert uri (changes.foldl change text), .done)
  | .text uri => (texts, .text (texts.lookup uri))
  | .uris => (texts, .uris (texts.keys.sort (· ≤ ·)))

end Texts

namespace Document

@[simp]
theorem ofText_text (text : Text) : (ofText text).text = text := rfl

theorem apply_text (d : Document) (c : Change) : (d.apply c).text = Texts.change d.text c := by
  rw [apply, ofText_text, changedText, Texts.change]
  cases c.range <;> simp only [Walk.offset_eq_point]

theorem foldl_apply_text (d : Document) (changes : List Change) :
    (changes.foldl apply d).text = changes.foldl Texts.change d.text := by
  induction changes generalizing d with
  | nil => rfl
  | cons c rest ih => rw [List.foldl_cons, ih, apply_text, List.foldl_cons]

end Document

namespace Store

theorem text?_put (s : Store) (uri key : Uri) (text : Text) :
    (s.put uri text).text? key = if uri = key then some text else s.text? key := by
  simp only [text?, put, Std.ExtTreeMap.getElem?_insert, Std.compare_eq_iff_eq]
  split <;> simp

theorem close_eq (s : Store) (uri : Uri) :
    s.close uri = if s.text? uri = none then .error ⟨uri⟩ else .ok ⟨s.documents.erase uri⟩ := by
  unfold close text?
  cases s.documents[uri]? <;> simp

theorem text?_erase (s : Store) (uri key : Uri) :
    text? ⟨s.documents.erase uri⟩ key = if uri = key then none else s.text? key := by
  simp only [text?, Std.ExtTreeMap.getElem?_erase, Std.compare_eq_iff_eq]
  split <;> simp

theorem edit_of_text?_none {s : Store} {uri : Uri} (closed : s.text? uri = none)
    (changes : List Change) : s.edit uri changes = .error ⟨uri⟩ := by
  have missing : s.documents[uri]? = none := Option.map_eq_none_iff.mp closed
  simp [edit, missing]

theorem edit_of_text?_some {s : Store} {uri : Uri} {text : Text} (tracked : s.text? uri = some text)
    (changes : List Change) :
    ∃ next, s.edit uri changes = .ok next ∧ ∀ key, next.text? key =
      if uri = key then some (changes.foldl Texts.change text) else s.text? key := by
  obtain ⟨d, found, rfl⟩ := Option.map_eq_some_iff.mp tracked
  refine ⟨⟨s.documents.insert uri (changes.foldl Document.apply d)⟩, by simp [edit, found], ?_⟩
  intro key
  simp only [text?, Std.ExtTreeMap.getElem?_insert, Std.compare_eq_iff_eq]
  split <;> simp [Document.foldl_apply_text]

def Agrees (s : Store) (texts : Texts) : Prop := ∀ uri, texts.lookup uri = s.text? uri

theorem Agrees.uris {s : Store} {texts : Texts} (agrees : s.Agrees texts) :
    s.uris = texts.keys.sort (· ≤ ·) := by
  have increasing := keys_increasing s.documents
  have same : s.uris.toFinset = texts.keys := by
    ext uri
    rw [List.mem_toFinset, Store.uris, Std.ExtTreeMap.mem_keys, Finmap.mem_keys,
      ← Finmap.lookup_isSome, agrees uri, text?, Option.isSome_map,
      Std.ExtTreeMap.isSome_getElem?_iff_mem]
  rw [← same]
  symm
  apply (List.toFinset_sort (· ≤ ·) _).mpr
  · exact increasing.imp List.le_of_lt
  · exact s.documents.nodup_keys

theorem Agrees.respond {s : Store} {texts : Texts} (agrees : s.Agrees texts) (call : Call) :
    (s.respond call).2 = (Texts.respond texts call).2 ∧
      (s.respond call).1.Agrees (Texts.respond texts call).1 := by
  cases call with
  | put uri text =>
    refine ⟨rfl, fun key => ?_⟩
    simp only [Store.respond, Texts.respond, text?_put]
    by_cases same : uri = key
    · simp [same, Finmap.lookup_insert]
    · rw [Finmap.lookup_insert_of_ne _ (Ne.symm same), agrees, if_neg same]
  | close uri =>
    simp only [Store.respond, Texts.respond, close_eq, ← agrees uri, Finmap.lookup_eq_none]
    by_cases tracked : uri ∈ texts
    · simp only [tracked, not_true, if_true, if_false, outcome]
      refine ⟨trivial, fun key => ?_⟩
      rw [text?_erase]
      by_cases same : uri = key
      · simp [same]
      · rw [Finmap.lookup_erase_ne (Ne.symm same), agrees, if_neg same]
    · simpa [tracked, outcome] using agrees
  | edit uri changes =>
    simp only [Store.respond, Texts.respond, agrees uri]
    cases tracked : s.text? uri with
    | none =>
      rw [edit_of_text?_none tracked]
      exact ⟨rfl, agrees⟩
    | some text =>
      obtain ⟨next, result, texts⟩ := edit_of_text?_some tracked changes
      rw [result]
      refine ⟨rfl, fun key => ?_⟩
      simp only [outcome, texts]
      by_cases same : uri = key
      · simp [same, Finmap.lookup_insert]
      · rw [Finmap.lookup_insert_of_ne _ (Ne.symm same), agrees, if_neg same]
  | text uri => exact ⟨congrArg Answer.text (agrees uri).symm, agrees⟩
  | uris => exact ⟨congrArg Answer.uris agrees.uris, agrees⟩

theorem Agrees.answers {s : Store} {texts : Texts} (agrees : s.Agrees texts) (calls : List Call) :
    answers Store.respond s calls = answers Texts.respond texts calls := by
  induction calls generalizing s texts with
  | nil => rfl
  | cons call rest ih =>
    obtain ⟨answer, next⟩ := agrees.respond call
    simp only [Store.answers, answer, ih next]

theorem empty_agrees : empty.Agrees ∅ := by
  intro uri
  simp [empty, text?, Finmap.lookup_empty]

theorem respond_of_text?_none {s : Store} {call : Call} {uri : Uri} (closed : s.text? uri = none)
    (late : call = .close uri ∨ ∃ changes, call = .edit uri changes) :
    s.respond call = (s, .notOpen ⟨uri⟩) := by
  rcases late with rfl | ⟨changes, rfl⟩
  · simp [respond, close_eq, closed, outcome]
  · simp [respond, edit_of_text?_none closed, outcome]

theorem respond_text?_of_ne (s : Store) (call : Call) {uri : Uri} (other : call.uri? ≠ some uri) :
    (s.respond call).1.text? uri = s.text? uri := by
  cases call with
  | put key text => simp_all [respond, Call.uri?, text?_put]
  | close key =>
    simp only [respond, close_eq]
    split
    · rfl
    · simp_all [outcome, Call.uri?, text?_erase]
  | edit key changes =>
    cases tracked : s.text? key with
    | none => rw [respond, edit_of_text?_none tracked, outcome]
    | some text =>
      obtain ⟨next, result, texts⟩ := edit_of_text?_some tracked changes
      simp_all [respond, outcome, Call.uri?]
  | text key => rfl
  | uris => rfl

theorem answers_eq_texts_answers (calls : List Call) :
    answers respond empty calls = answers Texts.respond ∅ calls ∧
      (∀ uri, (stateAfter respond empty calls).text? uri = none →
        ∀ call, call = .close uri ∨ (∃ changes, call = .edit uri changes) →
          (stateAfter respond empty calls).respond call =
            (stateAfter respond empty calls, .notOpen ⟨uri⟩)) ∧
      ∀ call uri, call.uri? ≠ some uri →
        ((stateAfter respond empty calls).respond call).1.text? uri =
          (stateAfter respond empty calls).text? uri :=
  ⟨empty_agrees.answers calls,
    fun _ closed _ late => respond_of_text?_none closed late,
    fun call _ other => respond_text?_of_ne _ call other⟩

theorem answers_eq_texts_answers_reversed :
    let calls : List Call :=
      [.put [0x61] [0x78, 0x0D, 0x0A, 0xF0, 0x9F, 0x98, 0x80],
        .edit [0x61] [⟨some ⟨⟨1, 1⟩, ⟨0, 9⟩⟩, [0x2D]⟩], .text [0x61]]
    let s := stateAfter respond empty calls
    answers respond empty calls = answers Texts.respond ∅ calls ∧
      answers respond empty calls = [.done, .done, .text (some [0x78, 0x2D])] ∧
      s.text? [0x62] = none ∧ s.respond (.close [0x62]) = (s, .notOpen ⟨[0x62]⟩) ∧
      (s.respond (.close [0x61])).1.text? [0x62] = s.text? [0x62] := by
  intro calls s
  obtain ⟨same, late, apart⟩ := answers_eq_texts_answers calls
  have closed : s.text? [0x62] = none := by decide
  exact ⟨same, rfl, closed, late [0x62] closed _ (.inl rfl), apart (.close [0x61]) [0x62] (by decide)⟩

end Store

end LintServer
