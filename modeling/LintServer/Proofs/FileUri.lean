import Mathlib.Data.List.TakeWhile
import LintServer.Proofs.Diagnostic.Preorder

set_option autoImplicit false

namespace LintServer

theorem Text.cut_of_not_mem {separator : UInt8} {text : Text} (missing : separator ∉ text) :
    text.cut separator = (text, none) := by
  have none : text.dropWhile (· != separator) = [] := by
    rw [List.dropWhile_eq_nil_iff]
    intro b member
    simpa using fun same : b = separator => missing (same ▸ member)
  rw [cut, none]

namespace FileUri

def rooted (path : Text) : Text := if Path.isAbsolute path then path else Text.slash :: path

theorem ofPath_eq (path : Text) : ofPath path = "file://" ++ (rooted path).flatMap encodeByte := rfl

theorem isAbsolute_iff {path : Text} : Path.isAbsolute path ↔ ∃ rest, path = Text.slash :: rest := by
  cases path <;> simp [Path.isAbsolute]

theorem rooted_eq_self {path : Text} (absolute : Path.isAbsolute path) : rooted path = path :=
  if_pos absolute

theorem isAbsolute_rooted (path : Text) : Path.isAbsolute (rooted path) := by
  unfold rooted
  split
  · assumption
  · rfl

def isReserved (b : UInt8) : Bool := isControl b || b == 0x23 || b == 0x3F

theorem reserved_of_isPlain {b : UInt8} (plain : isPlain b) : isReserved b = false ∧ b ≠ 0x25 := by
  have all : ∀ n < 256, isPlain n.toUInt8 → isReserved n.toUInt8 = false ∧ n.toUInt8 ≠ 0x25 := by
    decide +kernel
  have found := all b.toNat b.toNat_lt
  rw [Nat.toUInt8, UInt8.ofNat_toNat] at found
  exact found plain

theorem decode?_plain {b : UInt8} (other : b ≠ 0x25) (rest : Text) :
    decode? (b :: rest) = (decode? rest).map (b :: ·) := by
  rw [decode?.eq_def]
  exact if_neg other

theorem decode?_encodeByte (b : UInt8) (rest : Text) :
    decode? (encodeByte b ++ rest) = (decode? rest).map (b :: ·) := by
  unfold encodeByte
  by_cases plain : isPlain b
  · rw [if_pos plain, List.singleton_append, decode?_plain (reserved_of_isPlain plain).2]
  · have high := (Text.IsHexDigit.value (.inr rfl : Text.IsHexDigit (b.toNat / 16) _)).1
    have low := (Text.IsHexDigit.value (.inr rfl : Text.IsHexDigit b.toNat _)).1
    have value : b.toNat / 16 % 16 * 16 + b.toNat % 16 = b.toNat := by
      have small := b.toNat_lt
      omega
    rw [if_neg plain]
    simp only [List.cons_append, List.nil_append, decode?, if_true, high, low,
      Option.bind_eq_bind, Option.bind_some, value]
    cases decode? rest <;> simp

theorem decode?_encode (path : Text) : decode? (path.flatMap encodeByte) = some path := by
  induction path with
  | nil => rfl
  | cons b path ih => rw [List.flatMap_cons, decode?_encodeByte, ih, Option.map_some]

theorem mem_encodeByte {b c : UInt8} (member : c ∈ encodeByte b) : isPlain c ∨ c = 0x25 := by
  unfold encodeByte at member
  by_cases plain : isPlain b
  · rw [if_pos plain] at member
    exact .inl (List.mem_singleton.mp member ▸ plain)
  · have digits : ∀ k < 16, isPlain (if k < 10 then (0x30 + k).toUInt8 else (0x37 + k).toUInt8) := by
      decide
    have digit (n : Nat) : isPlain (Text.upperHexDigit n) := digits (n % 16) (Nat.mod_lt n (by decide))
    rw [if_neg plain] at member
    simp only [List.mem_cons, List.not_mem_nil, or_false] at member
    rcases member with rfl | rfl | rfl
    · exact .inr rfl
    · exact .inl (digit _)
    · exact .inl (digit _)

theorem isReserved_of_mem_encode {path : Text} {c : UInt8} (member : c ∈ path.flatMap encodeByte) :
    isReserved c = false := by
  obtain ⟨b, -, member⟩ := List.mem_flatMap.mp member
  rcases mem_encodeByte member with plain | rfl
  · exact (reserved_of_isPlain plain).1
  · rfl

theorem guard_of {p : Prop} [Decidable p] (holds : p) : (guard p : Option Unit) = some () :=
  if_pos holds

theorem path?_of_not_reserved {rest : Text} (allowed : ∀ c ∈ rest, isReserved c = false)
    (start : rest.head? = some Text.slash) :
    path? ("file:" ++ rest) = (afterAuthority? rest).bind decode? := by
  have scheme : ("file:" : Text).any isReserved = false := rfl
  have whole : ∀ c ∈ ("file:" : Text) ++ rest, isReserved c = false := by
    rw [List.forall_mem_append]
    exact ⟨by simpa using List.any_eq_false.mp scheme, allowed⟩
  have noFragment : (0x23 : UInt8) ∉ ("file:" : Text) ++ rest := fun member =>
    absurd (whole _ member) (by decide)
  have noQuery : (0x3F : UInt8) ∉ rest := fun member => absurd (allowed _ member) (by decide)
  have noControl : (("file:" : Text) ++ rest).any isControl = false := by
    rw [List.any_eq_false]
    intro c member
    have allowed := whole c member
    simp_all [isReserved]
  have taken : (("file:" : Text) ++ rest).take 5 = "file:" := List.take_left' rfl
  have dropped : (("file:" : Text) ++ rest).drop 5 = rest := List.drop_left' rfl
  have lower : ("file:" : Text).map Text.toLower = "file:" := rfl
  unfold path?
  rw [Text.cut_of_not_mem noFragment]
  dsimp only
  rw [guard_of (by rw [noControl]; rfl), guard_of (by rw [taken, lower]), dropped,
    Text.cut_of_not_mem noQuery]
  dsimp only
  rw [guard_of start]
  cases afterAuthority? rest with
  | none => rfl
  | some path =>
    change (decode? path).bind some = decode? path
    exact Option.bind_fun_some _

theorem afterAuthority?_absolute (rest : Text) :
    afterAuthority? (0x2F :: 0x2F :: Text.slash :: rest) = some (Text.slash :: rest) := rfl

theorem path?_ofPath (path : Text) : path? (ofPath path) = some (rooted path) := by
  obtain ⟨rest, absolute⟩ := isAbsolute_iff.mp (isAbsolute_rooted path)
  have encoded : (rooted path).flatMap encodeByte = Text.slash :: rest.flatMap encodeByte := by
    rw [absolute]
    rfl
  have split : ofPath path = "file:" ++ 0x2F :: 0x2F :: (rooted path).flatMap encodeByte := rfl
  rw [split, path?_of_not_reserved ?_ rfl, encoded, afterAuthority?_absolute, ← encoded,
    Option.bind_some, decode?_encode]
  intro c member
  rcases List.mem_cons.mp member with rfl | member
  · rfl
  rcases List.mem_cons.mp member with rfl | member
  · rfl
  exact isReserved_of_mem_encode member

theorem toPath_ofPath (path : Text) : toPath (ofPath path) = rooted path := by
  rw [toPath, path?_ofPath, Option.getD_some]

theorem ofPath_eq_iff {p q : Text} : ofPath p = ofPath q ↔ rooted p = rooted q := by
  constructor
  · intro same
    rw [← toPath_ofPath, same, toPath_ofPath]
  · intro same
    rw [ofPath_eq, same, ofPath_eq]

end FileUri

namespace Place

-- The file that a span is in. A directory that is itself relative is taken from the root.
def file (p : Place) : Text :=
  let name := p.span.fileName
  FileUri.rooted (if Path.isAbsolute name then name else Path.join p.directory name)

theorem toPath_uri (p : Place) : FileUri.toPath p.uri = p.file := FileUri.toPath_ofPath _

theorem uri_eq_iff {p q : Place} : p.uri = q.uri ↔ p.file = q.file := FileUri.ofPath_eq_iff

end Place

namespace Finding

theorem lists_eq_ofList (root output : Text) : lists (ofOutput root output) =
    Groups.ofList (((Place.ofOutput root output).filter (·.span.Converts)).map fun p =>
      (p.uri, p.entry)) := by
  rw [lists_eq, entries_ofOutput, Place.filterMap_entry?]

end Finding

namespace FileUri

theorem ofPath_separates_files :
    (∀ p, toPath (ofPath p) = if p.head? = some Text.slash then p else Text.slash :: p) ∧
    (∀ p q, Path.isAbsolute p → Path.isAbsolute q → (ofPath p = ofPath q ↔ p = q)) ∧
    ∀ root output,
      let places := (Place.ofOutput root output).filter (·.span.Converts)
      let lists := Finding.lists (Finding.ofOutput root output)
      (∀ uri, uri ∈ lists ↔ ∃ p ∈ places, p.uri = uri) ∧
        ∀ p ∈ places, lists.of p.uri = (places.filter (·.file = p.file)).map Place.entry := by
  refine ⟨fun p => ?_, fun p q first second => ?_, fun root output => ?_⟩
  · rw [toPath_ofPath, rooted]
    simp only [Path.isAbsolute, beq_iff_eq]
  · rw [ofPath_eq_iff, rooted_eq_self first, rooted_eq_self second]
  · intro places lists
    have grouped : lists = _ := Finding.lists_eq_ofList root output
    refine ⟨fun uri => ?_, fun p member => ?_⟩
    · rw [grouped, Groups.ofList, Groups.mem_foldl_add]
      simp [places]
    · rw [grouped, Groups.of_ofList, List.filter_map, List.map_map]
      simp only [Function.comp_def, Place.uri_eq_iff]
      rfl

theorem ofPath_separates_files_encoded :
    let output : Text := "\x7b\"message\":\x7b\"spans\":[\x7b\"file_name\":\"a b\"\x7d," ++
      "\x7b\"file_name\":\"a%20b\"\x7d,\x7b\"file_name\":\"/r/a b\"\x7d]\x7d\x7d"
    let places := (Place.ofOutput "/r" output).filter (·.span.Converts)
    let lists := Finding.lists (Finding.ofOutput "/r" output)
    Path.isAbsolute "/r/a b" ∧ Path.isAbsolute "/r/a%20b" ∧ ofPath "/r/a b" ≠ ofPath "/r/a%20b" ∧
      (∃ p ∈ places, p.file = "/r/a b" ∧ p.uri = "file:///r/a%20b" ∧
        lists.of p.uri = (places.filter (·.file = p.file)).map Place.entry) ∧
      (lists.of "file:///r/a%20b").length = 2 ∧
      lists.keys = ["file:///r/a%20b", "file:///r/a%2520b"] := by
  intro output places lists
  obtain ⟨back, injective, separate⟩ := ofPath_separates_files
  obtain ⟨listed, own⟩ := separate "/r" output
  have distinct := (injective "/r/a b" "/r/a%20b" rfl rfl).not.mpr (by decide)
  obtain ⟨p, member, uri⟩ := (listed "file:///r/a%20b").mp (by decide +kernel)
  have file : p.file = "/r/a b" := by
    rw [← p.toPath_uri, uri, show ("file:///r/a%20b" : Uri) = ofPath "/r/a b" by decide, back]
    rfl
  exact ⟨rfl, rfl, distinct, ⟨p, member, file, uri, own p member⟩, by decide +kernel,
    by decide +kernel⟩

end FileUri

end LintServer
