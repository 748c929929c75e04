import LintServer.Json.Render
import LintServer.Json.Token
import LintServer.Proofs.Text.Unicode

set_option autoImplicit false

namespace LintServer

namespace Text

def IsHexDigit (n : Nat) (b : UInt8) : Prop := b = lowerHexDigit n ∨ b = upperHexDigit n

theorem hexDigit_small : ∀ n < 16,
    (hexValue? (lowerHexDigit n) = some n ∧ 0x20 ≤ lowerHexDigit n) ∧
      hexValue? (upperHexDigit n) = some n ∧ 0x20 ≤ upperHexDigit n := by
  decide

theorem IsHexDigit.value {n : Nat} {b : UInt8} (digit : IsHexDigit n b) :
    hexValue? b = some (n % 16) ∧ 0x20 ≤ b := by
  obtain ⟨lower, upper⟩ := hexDigit_small (n % 16) (Nat.mod_lt n (by decide))
  simp only [lowerHexDigit, upperHexDigit, Nat.mod_mod] at lower upper
  rcases digit with rfl | rfl
  · exact lower
  · exact upper

end Text

namespace Json

open Text (IsHexDigit)

inductive UnitDigits (u : Nat) : Text → Prop where
  | mk {a b c d : UInt8} (first : IsHexDigit (u / 0x1000) a) (second : IsHexDigit (u / 0x100) b)
      (third : IsHexDigit (u / 0x10) c) (fourth : IsHexDigit u d) : UnitDigits u [a, b, c, d]

def shortEscapes : List (UInt8 × Nat) :=
  [(0x22, 0x22), (0x5C, 0x5C), (0x2F, 0x2F), (0x62, 0x08), (0x66, 0x0C), (0x6E, 0x0A), (0x72, 0x0D),
    (0x74, 0x09)]

inductive Escaped (p : CodePoint) : Text → Prop where
  | raw (visible : 0x20 ≤ p.scalar) (noQuote : p.scalar ≠ 0x22) (noBackslash : p.scalar ≠ 0x5C) :
      Escaped p p.bytes
  | short {letter : UInt8} (listed : (letter, p.scalar) ∈ shortEscapes) : Escaped p [0x5C, letter]
  | unit {digits : Text} (basic : p.scalar < 0x10000) (written : UnitDigits p.scalar digits) :
      Escaped p ([0x5C, 0x75] ++ digits)
  | pair {high low : Text} (astral : 0x10000 ≤ p.scalar)
      (first : UnitDigits (0xD800 + (p.scalar - 0x10000) / 0x400) high)
      (second : UnitDigits (0xDC00 + (p.scalar - 0x10000) % 0x400) low) :
      Escaped p ([0x5C, 0x75] ++ high ++ ([0x5C, 0x75] ++ low))

inductive EscapedAll : List CodePoint → Text → Prop where
  | nil : EscapedAll [] []
  | cons {p : CodePoint} {points : List CodePoint} {piece body : Text} (first : Escaped p piece)
      (more : EscapedAll points body) : EscapedAll (p :: points) (piece ++ body)

-- A string literal, quotes included. Only well-formed text has one.
inductive Literal (value : Text) : Text → Prop where
  | mk {body : Text} (unicode : value.isUtf8) (escaped : EscapedAll value.codePoints body) :
      Literal value ([0x22] ++ body ++ [0x22])

open Token (stringPieces?)
open StringPiece (join)

def ReadsAs (piece : Text) (pieces : List StringPiece) : Prop :=
  ∀ rest, stringPieces? (piece ++ rest) =
    (stringPieces? rest).map fun read => (pieces ++ read.1, read.2 + piece.length)

theorem ReadsAs.append {a b : Text} {as bs : List StringPiece} (first : ReadsAs a as)
    (second : ReadsAs b bs) : ReadsAs (a ++ b) (as ++ bs) := by
  intro rest
  rw [List.append_assoc, first, second, Option.map_map]
  congr 1
  funext read
  simp [Nat.add_comm a.length, Nat.add_assoc]

theorem readsAs_nil : ReadsAs [] [] := by
  intro rest
  simp

def IsPlain (b : UInt8) : Prop := 0x20 ≤ b ∧ b ≠ 0x22 ∧ b ≠ 0x5C

theorem stringPieces?_quote (rest : Text) : stringPieces? (0x22 :: rest) = some ([], 1) := by
  rw [Token.stringPieces?.eq_def]
  simp

theorem stringPieces?_plain {b : UInt8} (plain : IsPlain b) (rest : Text) :
    stringPieces? (b :: rest) =
      (stringPieces? rest).map fun read => (.byte b :: read.1, read.2 + 1) := by
  obtain ⟨visible, noQuote, noBackslash⟩ := plain
  rw [Token.stringPieces?.eq_def]
  simp [noQuote, noBackslash, UInt8.not_lt.mpr visible]

theorem stringPieces?_short {letter byte : UInt8} (escape : Token.simpleEscape? letter = some byte)
    (rest : Text) : stringPieces? (0x5C :: letter :: rest) =
      (stringPieces? rest).map fun read => (.byte byte :: read.1, read.2 + 2) := by
  rw [Token.stringPieces?.eq_def]
  simp [escape]

theorem stringPieces?_unit {a b c d : UInt8} {u : Nat}
    (number : Text.hexNumber? [a, b, c, d] = some u) (rest : Text) :
    stringPieces? (0x5C :: 0x75 :: a :: b :: c :: d :: rest) =
      (stringPieces? rest).map fun read => (.unit u :: read.1, read.2 + 6) := by
  rw [Token.stringPieces?.eq_def]
  simp [Token.simpleEscape?, number]

theorem readsAs_plain {bytes : Text} (plain : ∀ b ∈ bytes, IsPlain b) :
    ReadsAs bytes (bytes.map .byte) := by
  induction bytes with
  | nil => exact readsAs_nil
  | cons b bytes ih =>
    intro rest
    have later := ih (fun b member => plain b (by simp [member])) rest
    rw [List.cons_append, stringPieces?_plain (plain b (by simp)), later, Option.map_map]
    rfl

theorem UnitDigits.hexNumber? {u : Nat} {digits : Text} (written : UnitDigits u digits)
    (small : u < 0x10000) : Text.hexNumber? digits = some u := by
  obtain ⟨first, second, third, fourth⟩ := written
  simp only [Text.hexNumber?, List.foldl_cons, List.foldl_nil, first.value.1, second.value.1,
    third.value.1, fourth.value.1]
  simp only [Option.bind_eq_bind, Option.bind_some, Option.some.injEq]
  omega

theorem readsAs_unit {u : Nat} {digits : Text} (written : UnitDigits u digits)
    (small : u < 0x10000) : ReadsAs ([0x5C, 0x75] ++ digits) [.unit u] := by
  have number := written.hexNumber? small
  obtain ⟨-, -, -, -⟩ := written
  exact stringPieces?_unit number

@[simp]
theorem join_bytes (bytes : Text) (rest : List StringPiece) :
    join (bytes.map .byte ++ rest) = bytes ++ join rest := by
  induction bytes with
  | nil => rfl
  | cons b bytes ih => simp [join, ih]

theorem join_unit {u : Nat} (notHigh : StringPiece.isHigh u = false) (rest : List StringPiece) :
    join (.unit u :: rest) = CodePoint.encode u ++ join rest := by
  match rest with
  | [] => rfl
  | .byte b :: rest => rfl
  | .unit v :: rest => simp [join, notHigh]

theorem join_pair {u v : Nat} (high : StringPiece.isHigh u) (low : StringPiece.isLow v)
    (rest : List StringPiece) : join (.unit u :: .unit v :: rest) =
      CodePoint.encode (0x10000 + (u - 0xD800) * 0x400 + (v - 0xDC00)) ++ join rest := by
  simp [join, high, low]

theorem isPlain_of_mem_bytes {p : CodePoint} (sound : p.Sound) (visible : 0x20 ≤ p.scalar)
    (noQuote : p.scalar ≠ 0x22) (noBackslash : p.scalar ≠ 0x5C) : ∀ b ∈ p.bytes, IsPlain b := by
  intro b member
  rw [sound.bytes] at member
  unfold IsPlain
  simp only [UInt8.le_iff_toNat_le, ne_eq, ← UInt8.toNat_inj]
  rcases CodePoint.mem_encode member with ⟨ascii, rfl⟩ | tail
  · simp only [UInt8.toNat_ofNat', UInt8.reduceToNat]
    omega
  · simp only [UInt8.reduceToNat]
    omega

theorem Escaped.read {p : CodePoint} {piece : Text} (escaped : Escaped p piece) (sound : p.Sound) :
    ∃ pieces, ReadsAs piece pieces ∧ ∀ rest, join (pieces ++ rest) = p.bytes ++ join rest := by
  have bytes := sound.bytes
  have notSurrogate := sound.notSurrogate
  have small := sound.small
  cases escaped with
  | raw visible noQuote noBackslash =>
    have plain := isPlain_of_mem_bytes sound visible noQuote noBackslash
    exact ⟨p.bytes.map .byte, readsAs_plain plain, join_bytes p.bytes⟩
  | @short letter listed =>
    simp only [shortEscapes, List.mem_cons, Prod.mk.injEq, List.not_mem_nil, or_false] at listed
    rcases listed with ⟨rfl, same⟩ | ⟨rfl, same⟩ | ⟨rfl, same⟩ | ⟨rfl, same⟩ | ⟨rfl, same⟩ |
      ⟨rfl, same⟩ | ⟨rfl, same⟩ | ⟨rfl, same⟩ <;>
    exact ⟨[.byte _], stringPieces?_short rfl, fun rest => by rw [bytes, same]; rfl⟩
  | unit basic written =>
    refine ⟨_, readsAs_unit written basic, fun rest => ?_⟩
    rw [bytes]
    apply join_unit
    simp [StringPiece.isHigh]
    omega
  | pair astral first second =>
    refine ⟨_, (readsAs_unit first (by omega)).append (readsAs_unit second (by omega)), fun rest => ?_⟩
    have high : StringPiece.isHigh (0xD800 + (p.scalar - 0x10000) / 0x400) := by
      simp [StringPiece.isHigh]
      omega
    have low : StringPiece.isLow (0xDC00 + (p.scalar - 0x10000) % 0x400) := by
      simp [StringPiece.isLow]
      omega
    -- The two halves of the number above the basic plane, put together again.
    have value : 0x10000 + (0xD800 + (p.scalar - 0x10000) / 0x400 - 0xD800) * 0x400 +
        (0xDC00 + (p.scalar - 0x10000) % 0x400 - 0xDC00) = p.scalar := by omega
    have joined := join_pair high low rest
    rw [value, ← bytes] at joined
    exact joined

theorem EscapedAll.read {points : List CodePoint} {body : Text} (escaped : EscapedAll points body)
    (sound : ∀ p ∈ points, p.Sound) :
    ∃ pieces, ReadsAs body pieces ∧ join pieces = Text.ofCodePoints points := by
  induction escaped with
  | nil => exact ⟨[], readsAs_nil, rfl⟩
  | @cons p points piece body first more ih =>
    obtain ⟨pieces, reads, joined⟩ := first.read (sound p (by simp))
    obtain ⟨rest, later, joinedRest⟩ := ih fun p member => sound p (by simp [member])
    refine ⟨pieces ++ rest, reads.append later, ?_⟩
    rw [joined, joinedRest]
    rfl

theorem Literal.first? {value text : Text} (literal : Literal value text) (rest : Text) :
    ∃ body, text = 0x22 :: body ∧
      Token.first? 0x22 (body ++ rest) = some (.scalar (.string value), text.length) := by
  obtain ⟨unicode, escaped⟩ := literal
  rename_i body
  obtain ⟨pieces, reads, joined⟩ := escaped.read (Text.sound_of_isUtf8 unicode)
  refine ⟨body ++ [0x22], rfl, ?_⟩
  change Token.string? _ = _
  rw [Token.string?, List.append_assoc, reads, List.singleton_append, stringPieces?_quote]
  simp [joined, Text.ofCodePoints_codePoints, Text.repair_of_isUtf8 unicode]
  omega

theorem Escaped.visible {p : CodePoint} {piece : Text} (escaped : Escaped p piece) (sound : p.Sound) :
    ∀ b ∈ piece, 0x20 ≤ b := by
  have unit {u : Nat} {digits : Text} (written : UnitDigits u digits) :
      ∀ b ∈ [0x5C, 0x75] ++ digits, 0x20 ≤ b := by
    obtain ⟨first, second, third, fourth⟩ := written
    have slash : (0x20 : UInt8) ≤ 0x5C := by decide
    have letter : (0x20 : UInt8) ≤ 0x75 := by decide
    simp [slash, letter, first.value.2, second.value.2, third.value.2, fourth.value.2]
  cases escaped with
  | raw visible noQuote noBackslash =>
    exact fun b member => (isPlain_of_mem_bytes sound visible noQuote noBackslash b member).1
  | short listed =>
    simp only [shortEscapes, List.mem_cons, Prod.mk.injEq, List.not_mem_nil, or_false] at listed
    rcases listed with ⟨rfl, -⟩ | ⟨rfl, -⟩ | ⟨rfl, -⟩ | ⟨rfl, -⟩ | ⟨rfl, -⟩ | ⟨rfl, -⟩ |
      ⟨rfl, -⟩ | ⟨rfl, -⟩ <;> simp
  | unit _ written => exact unit written
  | pair _ first second =>
    rw [List.forall_mem_append]
    exact ⟨unit first, unit second⟩

theorem EscapedAll.visible {points : List CodePoint} {body : Text}
    (escaped : EscapedAll points body) (sound : ∀ p ∈ points, p.Sound) : ∀ b ∈ body, 0x20 ≤ b := by
  induction escaped with
  | nil => simp
  | @cons p points piece body first more ih =>
    rw [List.forall_mem_append]
    exact ⟨first.visible (sound p (by simp)), ih fun p member => sound p (by simp [member])⟩

theorem Literal.visible {value text : Text} (literal : Literal value text) : ∀ b ∈ text, 0x20 ≤ b := by
  obtain ⟨unicode, escaped⟩ := literal
  have quote : ∀ b ∈ [(0x22 : UInt8)], 0x20 ≤ b := by simp
  rw [List.forall_mem_append, List.forall_mem_append]
  exact ⟨⟨quote, escaped.visible (Text.sound_of_isUtf8 unicode)⟩, quote⟩

theorem shortEscape?_listed {scalar : Nat} {letter : UInt8} (found : shortEscape? scalar = some letter) :
    (letter, scalar) ∈ shortEscapes := by
  rw [shortEscape?, List.lookup_eq_some_iff] at found
  obtain ⟨before, after, split, -⟩ := found
  have member : (scalar, letter) ∈ before ++ (scalar, letter) :: after := by simp
  rw [← split] at member
  simp only [List.mem_cons, Prod.mk.injEq, List.not_mem_nil, or_false] at member
  rcases member with ⟨rfl, rfl⟩ | ⟨rfl, rfl⟩ | ⟨rfl, rfl⟩ | ⟨rfl, rfl⟩ | ⟨rfl, rfl⟩ | ⟨rfl, rfl⟩ |
    ⟨rfl, rfl⟩ <;> decide

theorem escaped_escape {p : CodePoint} (wellFormed : p.wellFormed) : Escaped p (escape p) := by
  unfold escape
  split
  · next letter found => exact .short (shortEscape?_listed found)
  · next missing =>
    split
    · next numbered =>
      have basic : p.scalar < 0x10000 := by
        simp [isNumbered, wellFormed] at numbered
        omega
      have last : p.scalar / Nat.pow 16 0 = p.scalar := Nat.div_one _
      exact .unit basic (.mk (.inl rfl) (.inl rfl) (.inl rfl) (.inl (by rw [last])))
    · next plain =>
      have visible : 0x20 ≤ p.scalar := by
        simp [isNumbered] at plain
        omega
      refine .raw visible ?_ ?_ <;>
      · intro same
        rw [same] at missing
        contradiction

theorem literal_renderString {value : Text} (unicode : value.isUtf8) :
    Literal value (renderString value) := by
  have all (points : List CodePoint) (wellFormed : ∀ p ∈ points, p.wellFormed) :
      EscapedAll points (points.flatMap escape) := by
    induction points with
    | nil => exact .nil
    | cons p points ih =>
      exact .cons (escaped_escape (wellFormed p (by simp)))
        (ih fun p member => wellFormed p (by simp [member]))
  exact .mk unicode (all _ (List.all_eq_true.mp unicode))

end Json

end LintServer
