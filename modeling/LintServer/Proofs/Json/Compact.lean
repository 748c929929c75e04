import Mathlib.Data.List.Chain
import LintServer.Json.Over
import LintServer.Proofs.Json.Literal
import LintServer.Proofs.Json.Tokens
import LintServer.Proofs.Text.Decimal

set_option autoImplicit false

namespace LintServer.Json

namespace Token

@[simp]
def isScalar : Token → Bool
  | scalar _ => true
  | _ => false

-- A token as text. Numbers are integers, as the records here have no others.
inductive Spelled : Token → Text → Prop where
  | openBrace : Spelled openBrace [0x7B]
  | closeBrace : Spelled closeBrace [0x7D]
  | openBracket : Spelled openBracket [0x5B]
  | closeBracket : Spelled closeBracket [0x5D]
  | colon : Spelled colon [0x3A]
  | comma : Spelled comma [0x2C]
  | null : Spelled (scalar null) "null"
  | true : Spelled (scalar (bool true)) "true"
  | false : Spelled (scalar (bool false)) "false"
  | integer (n : Int) : Spelled (scalar (number (Text.ofInt n))) (Text.ofInt n)
  | string {value text : Text} (literal : Literal value text) : Spelled (scalar (.string value)) text

inductive SpelledAll : List Token → Text → Prop where
  | nil : SpelledAll [] []
  | cons {token : Token} {tokens : List Token} {piece text : Text} (first : Spelled token piece)
      (more : SpelledAll tokens text) : SpelledAll (token :: tokens) (piece ++ text)

end Token

def Compact (json : Json) (text : Text) : Prop := Token.SpelledAll json.tokens text

section Scanner

open Token

theorem scanFrom_eq (skip : Nat) (text : Text) : scanFrom skip text = scan (text.drop skip) := by
  induction text generalizing skip with
  | nil => simp [scan, scanFrom]
  | cons b rest ih =>
    cases skip with
    | zero => rfl
    | succ n => rw [scanFrom, ih, List.drop_succ_cons]

def ReadsAt (token : Token) (piece rest : Text) : Prop :=
  ∃ b more, piece = b :: more ∧ isSpace b = false ∧
    first? b (more ++ rest) = some (token, piece.length)

theorem ReadsAt.scan {token : Token} {piece rest : Text} (reads : ReadsAt token piece rest) :
    scan (piece ++ rest) = (Token.scan rest).map (token :: ·) := by
  obtain ⟨b, more, rfl, visible, first⟩ := reads
  rw [Token.scan, List.cons_append, scanFrom]
  simp [visible, first, scanFrom_eq]

def extendsNumber (b : UInt8) : Bool := Text.isDigit b || b == 0x2E || b == 0x65 || b == 0x45

def EndsNumber (rest : Text) : Prop := ∀ b ∈ rest.head?, extendsNumber b = false

theorem wholeLength?_ofNat (n : Nat) {rest : Text} (ends : EndsNumber rest) :
    wholeLength? (Text.ofNat n ++ rest) = some (Text.ofNat n).length := by
  obtain ⟨first, more, split, all, zero⟩ := Text.ofNat_spec n
  have stops : rest.takeWhile Text.isDigit = [] := by
    cases rest with
    | nil => rfl
    | cons b rest =>
      have other := ends b rfl
      simp only [extendsNumber, Bool.or_eq_false_iff] at other
      simp [other]
  have taken : digits (Text.ofNat n ++ rest) = (Text.ofNat n).length := by
    rw [digits, List.takeWhile_append_of_pos all, stops, List.append_nil]
  rw [split] at all taken ⊢
  rw [List.cons_append, wholeLength?]
  by_cases leading : first = 0x30
  · simp [leading, zero leading]
  · rw [if_neg leading, if_pos (all first (by simp)), ← List.cons_append, taken]

theorem fractionLength?_of_ends {rest : Text} (ends : EndsNumber rest) :
    fractionLength? rest = some 0 := by
  unfold fractionLength?
  split
  · exact absurd (ends 0x2E rfl) (by decide)
  · rfl

theorem exponentLength?_of_ends {rest : Text} (ends : EndsNumber rest) :
    exponentLength? rest = some 0 := by
  cases rest with
  | nil => rfl
  | cons b rest =>
    have other := ends b rfl
    simp only [extendsNumber, Bool.or_eq_false_iff, beq_eq_false_iff_ne] at other
    simp [exponentLength?, other]

theorem numberLength?_ofInt (n : Int) {rest : Text} (ends : EndsNumber rest) :
    numberLength? (Text.ofInt n ++ rest) = some (Text.ofInt n).length := by
  have fraction := fractionLength?_of_ends ends
  have exponent := exponentLength?_of_ends ends
  cases n with
  | ofNat n =>
    obtain ⟨first, more, split, all, -⟩ := Text.ofNat_spec n
    have unsigned : (Text.ofNat n ++ rest).head? ≠ some 0x2D := by
      rw [split]
      intro sign
      have digit := all 0x2D (by simp_all)
      exact absurd digit (by decide)
    have left : (Text.ofNat n ++ rest).drop (Text.ofNat n).length = rest := List.drop_left
    simp only [numberLength?, Text.ofInt, unsigned, if_false, List.drop_zero, Nat.zero_add,
      wholeLength?_ofNat n ends, Option.bind_eq_bind, Option.bind_some, left, fraction,
      exponent, Nat.add_zero]
    rfl
  | negSucc n =>
    have left : (0x2D :: Text.ofNat (n + 1) ++ rest).drop (1 + (Text.ofNat (n + 1)).length) = rest := by
      rw [Nat.add_comm, List.cons_append, List.drop_succ_cons, List.drop_left]
    simp only [numberLength?, Text.ofInt, List.cons_append, List.head?_cons, if_true,
      List.drop_succ_cons, List.drop_zero, wholeLength?_ofNat (n + 1) ends, Option.bind_eq_bind,
      Option.bind_some]
    rw [← List.cons_append, left, fraction, Option.bind_some, Nat.add_zero, left, exponent]
    simp [Nat.add_comm]

theorem first?_of_digit {b : UInt8} (starts : b = 0x2D ∨ Text.isDigit b) (rest : Text) :
    isSpace b = false ∧ first? b rest =
      (numberLength? (b :: rest)).map fun n => (scalar (.number ((b :: rest).take n)), n) := by
  have other : ∀ c ∈ [0x20, 0x09, 0x0A, 0x0D, 0x7B, 0x7D, 0x5B, 0x5D, 0x3A, 0x2C, (0x22 : UInt8)],
      b ≠ c := by
    have none : ∀ c ∈ [0x20, 0x09, 0x0A, 0x0D, 0x7B, 0x7D, 0x5B, 0x5D, 0x3A, 0x2C, (0x22 : UInt8)],
        ¬(c = 0x2D ∨ Text.isDigit c) := by simp [Text.isDigit]
    rintro c listed rfl
    exact none b listed starts
  simp only [List.forall_mem_cons] at other
  refine ⟨by simp [isSpace, other], ?_⟩
  unfold first?
  split <;> simp_all

-- The one kind of token whose end the scanner knows only from what follows.
theorem readsAt_integer (n : Int) {rest : Text} (ends : EndsNumber rest) :
    ReadsAt (scalar (.number (Text.ofInt n))) (Text.ofInt n) rest := by
  have start : ∃ b more, Text.ofInt n = b :: more ∧ (b = 0x2D ∨ Text.isDigit b) := by
    cases n with
    | ofNat n =>
      obtain ⟨first, more, split, all, -⟩ := Text.ofNat_spec n
      exact ⟨first, more, split, .inr (all first (by simp [split]))⟩
    | negSucc n => exact ⟨0x2D, _, rfl, .inl rfl⟩
  obtain ⟨b, more, split, starts⟩ := start
  obtain ⟨visible, first⟩ := first?_of_digit starts (more ++ rest)
  have length := numberLength?_ofInt n ends
  refine ⟨b, more, split, visible, ?_⟩
  rw [first, ← List.cons_append, ← split, length, Option.map_some, List.take_left]

theorem Token.Spelled.readsAt {token : Token} {piece rest : Text} (spelled : Spelled token piece)
    (ends : token.isScalar → EndsNumber rest) : ReadsAt token piece rest := by
  cases spelled with
  | integer n => exact readsAt_integer n (ends rfl)
  | string literal =>
    obtain ⟨body, rfl, first⟩ := literal.first? rest
    exact ⟨0x22, body, rfl, rfl, first⟩
  | openBrace | closeBrace | openBracket | closeBracket | colon | comma | null | true | false =>
    exact ⟨_, _, rfl, rfl, rfl⟩

def Apart (tokens : List Token) : Prop :=
  tokens.IsChain fun first second => first.isScalar → ¬second.isScalar

theorem Token.SpelledAll.endsNumber {token : Token} {tokens : List Token} {text : Text}
    (spelled : SpelledAll tokens text) (apart : Apart (token :: tokens)) (flat : token.isScalar) :
    EndsNumber text := by
  cases spelled with
  | nil => simp [EndsNumber]
  | cons first more =>
    have other := (List.isChain_cons_cons.mp apart).1 flat
    cases first <;> first | exact absurd rfl other | (simp [EndsNumber, extendsNumber]; decide)

theorem Token.SpelledAll.scan {tokens : List Token} {text : Text} (spelled : SpelledAll tokens text)
    (apart : Apart tokens) : scan text = some tokens := by
  induction spelled with
  | nil => rfl
  | cons first more ih =>
    -- What follows a number begins with another token, and not with a scalar.
    rw [(first.readsAt (more.endsNumber apart)).scan, ih apart.tail, Option.map_some]

theorem apart_cons {token : Token} (flat : ¬token.isScalar) {tokens : List Token}
    (apart : Apart tokens) : Apart (token :: tokens) :=
  List.isChain_cons.mpr ⟨fun _ _ isScalar => absurd isScalar flat, apart⟩

def StaysApart (json : Json) : Prop :=
  ∀ close more, ¬close.isScalar → Apart more → Apart (tokens json ++ close :: more)

theorem apart_items {items : List Json} (values : ∀ item ∈ items, StaysApart item)
    {more : List Token} (apart : Apart more) :
    Apart (itemTokens items ++ .closeBracket :: more) := by
  induction items with
  | nil => exact apart_cons (by simp) apart
  | cons item rest ih =>
    have first := values item (by simp)
    cases rest with
    | nil => exact first _ _ (by simp) apart
    | cons next rest =>
      have later := ih fun item member => values item (by simp [member])
      rw [itemTokens, List.append_assoc]
      · exact first _ _ (by simp) later
      · simp

theorem apart_members {members : List (Text × Json)}
    (values : ∀ member ∈ members, StaysApart member.2) {more : List Token} (apart : Apart more) :
    Apart (memberTokens members ++ .closeBrace :: more) := by
  have named {name : Text} {tokens : List Token} (apart : Apart tokens) :
      Apart (.scalar (.string name) :: .colon :: tokens) :=
    List.isChain_cons_cons.mpr ⟨by simp, apart_cons (by simp) apart⟩
  induction members with
  | nil => exact apart_cons (by simp) apart
  | cons member rest ih =>
    obtain ⟨name, value⟩ := member
    have first := values (name, value) (by simp)
    cases rest with
    | nil => exact named (first _ _ (by simp) apart)
    | cons next rest =>
      have later := ih fun member inside => values member (by simp [inside])
      rw [memberTokens, List.cons_append, List.cons_append, List.append_assoc]
      · exact named (first _ _ (by simp) later)
      · simp

theorem apart_tokens (json : Json) : StaysApart json := by
  induction json using nestedInduction with
  | scalar json flat =>
    intro close more closes apart
    rw [tokens_scalar flat]
    exact List.isChain_cons_cons.mpr ⟨fun _ => closes, apart_cons closes apart⟩
  | array items values =>
    intro close more closes apart
    rw [tokens, List.cons_append, List.append_assoc]
    exact apart_cons (by simp) (apart_items values (apart_cons closes apart))
  | object members values =>
    intro close more closes apart
    rw [tokens, List.cons_append, List.append_assoc]
    exact apart_cons (by simp) (apart_members values (apart_cons closes apart))

end Scanner

theorem Compact.parse? {json : Json} {text : Text} (compact : Compact json text)
    (shallow : json.depth ≤ maxDepth) : parse? text = some json := by
  have apart : Apart json.tokens :=
    (apart_tokens json .comma [] (by simp) .nil).left_of_append
  have read := runsThrough json [] .value (.inl rfl) (by simpa using shallow) []
  rw [List.append_nil] at read
  simp [Json.parse?, Token.SpelledAll.scan compact apart, read, run]

theorem Token.SpelledAll.visible {tokens : List Token} {text : Text}
    (spelled : SpelledAll tokens text) : ∀ b ∈ text, 0x20 ≤ b := by
  have digit (b : UInt8) (isDigit : Text.isDigit b) : 0x20 ≤ b := by
    simp only [Text.isDigit, Bool.and_eq_true, decide_eq_true_eq] at isDigit
    exact UInt8.le_trans (by decide) isDigit.1
  have number (n : Nat) : ∀ b ∈ Text.ofNat n, 0x20 ≤ b := by
    obtain ⟨-, -, -, all, -⟩ := Text.ofNat_spec n
    exact fun b member => digit b (all b member)
  have shown {piece : Text} (all : piece.all (0x20 ≤ ·) = true) : ∀ b ∈ piece, 0x20 ≤ b := by
    simpa using all
  induction spelled with
  | nil => simp
  | cons first more ih =>
    refine List.forall_mem_append.mpr ⟨?_, ih⟩
    cases first with
    | integer n =>
      cases n with
      | ofNat n => exact number n
      | negSucc n => exact List.forall_mem_cons.mpr ⟨by decide, number (n + 1)⟩
    | string literal => exact literal.visible
    | openBrace | closeBrace | openBracket | closeBracket | colon | comma | null | true | false =>
      exact shown rfl

theorem Token.SpelledAll.of_append {first second : List Token} {text : Text}
    (spelled : SpelledAll (first ++ second) text) :
    ∃ x y, text = x ++ y ∧ SpelledAll second y := by
  induction first generalizing text with
  | nil => exact ⟨[], text, rfl, spelled⟩
  | cons token tokens ih =>
    cases spelled with
    | cons _ more =>
      obtain ⟨x, y, rfl, later⟩ := ih more
      exact ⟨_, y, (List.append_assoc ..).symm, later⟩

theorem Compact.object {members : List (Text × Json)} {text : Text}
    (compact : Compact (object members) text) : ∃ body, text = 0x7B :: body ++ [0x7D] := by
  rw [Compact, tokens] at compact
  cases compact with
  | cons brace more =>
    cases brace
    obtain ⟨body, rest, rfl, closing⟩ := more.of_append
    cases closing with
    | cons brace ended =>
      cases brace
      cases ended
      exact ⟨body, by simp⟩

section Render

mutual

def isPlain : Json → Bool
  | null | bool _ => true
  | number literal => (integer? literal).any fun n => Text.ofInt n == literal
  | string value => value.isUtf8
  | array items => plainItems items
  | object members => plainMembers members

def plainItems : List Json → Bool
  | [] => true
  | item :: rest => isPlain item && plainItems rest

def plainMembers : List (Text × Json) → Bool
  | [] => true
  | (name, value) :: rest => name.isUtf8 && isPlain value && plainMembers rest

end

open Token

theorem Token.SpelledAll.append {first second : List Token} {x y : Text}
    (spelled : SpelledAll first x) (more : SpelledAll second y) :
    SpelledAll (first ++ second) (x ++ y) := by
  induction spelled with
  | nil => exact more
  | cons piece _ ih => exact List.append_assoc .. ▸ .cons piece ih

theorem spelled_items {items : List Json}
    (values : ∀ item ∈ items, item.isPlain → Compact item item.render) (plain : plainItems items) :
    SpelledAll (itemTokens items) (renderItems items) := by
  induction items with
  | nil => exact .nil
  | cons item rest ih =>
    obtain ⟨here, later⟩ := Bool.and_eq_true_iff.mp plain
    have first := values item (by simp) here
    cases rest with
    | nil => exact first
    | cons next rest =>
      have more := ih (fun item member => values item (by simp [member])) later
      rw [itemTokens, renderItems, List.append_assoc]
      · exact first.append (.cons .comma more)
      · simp
      · simp

theorem spelled_members {members : List (Text × Json)}
    (values : ∀ member ∈ members, member.2.isPlain → Compact member.2 member.2.render)
    (plain : plainMembers members) :
    SpelledAll (memberTokens members) (renderMembers members) := by
  induction members with
  | nil => exact .nil
  | cons member rest ih =>
    obtain ⟨name, value⟩ := member
    obtain ⟨here, later⟩ := Bool.and_eq_true_iff.mp plain
    obtain ⟨unicode, here⟩ := Bool.and_eq_true_iff.mp here
    have first := values (name, value) (by simp) here
    have named {tokens : List Token} {text : Text} (more : SpelledAll tokens text) :
        SpelledAll (.scalar (.string name) :: .colon :: tokens) (renderString name ++ (":" ++ text)) :=
      .cons (.string (literal_renderString unicode)) (.cons .colon more)
    cases rest with
    | nil =>
      rw [memberTokens, renderMembers, List.append_assoc]
      exact named first
    | cons next rest =>
      have more := ih (fun member inside => values member (by simp [inside])) later
      rw [memberTokens, renderMembers, List.append_assoc, List.append_assoc, List.append_assoc]
      · exact named (first.append (.cons .comma more))
      · simp
      · simp

theorem compact_render (json : Json) (plain : json.isPlain) : Compact json json.render := by
  have alone {token : Token} {piece : Text} (spelled : Spelled token piece) :
      SpelledAll [token] piece := by
    have all := SpelledAll.cons spelled .nil
    rwa [List.append_nil] at all
  induction json using nestedInduction with
  | scalar json flat =>
    cases json with
    | null => exact alone .null
    | bool b => cases b <;> [exact alone .false; exact alone .true]
    | number literal =>
      have written : ∃ n, Text.ofInt n = literal := by
        rw [isPlain] at plain
        cases read : integer? literal with
        | none => simp [read] at plain
        | some n => exact ⟨n, by simpa [read] using plain⟩
      obtain ⟨n, rfl⟩ := written
      exact alone (.integer n)
    | string value => exact alone (.string (literal_renderString plain))
    | array | object => contradiction
  | array items values =>
    rw [Compact, tokens, render, List.append_assoc]
    exact .cons .openBracket ((spelled_items values plain).append (alone .closeBracket))
  | object members values =>
    rw [Compact, tokens, render, List.append_assoc]
    exact .cons .openBrace ((spelled_members values plain).append (alone .closeBrace))

end Render

end LintServer.Json
