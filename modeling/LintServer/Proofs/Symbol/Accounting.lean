import LintServer.Proofs.Grouping
import LintServer.Proofs.Text.Records
import LintServer.Symbol.Record

set_option autoImplicit false

namespace LintServer.Symbol

open Text (lf)

def RecordError.shift (count : Nat) : RecordError → RecordError
  | malformed line => malformed (line + count)
  | missingUri line => missingUri (line + count)
  | lineTooLong => lineTooLong

theorem decodeLine_cases (line : RecordLine) :
    (∃ uri symbol, uri ≠ [] ∧ decodeLine line = .ok (uri, symbol)) ∨
      decodeLine line = .error (.malformed line.number) ∨
      decodeLine line = .error (.missingUri line.number) := by
  rw [decodeLine, RecordLine.read]
  cases Json.read? Record.ofJson line.text with
  | none => exact .inr (.inl rfl)
  | some record =>
    by_cases missing : record.uri = []
    · exact .inr (.inr (if_pos missing))
    · exact .inl ⟨record.uri, record.symbol, missing, if_neg missing⟩

theorem decodeLine_shift (count : Nat) (line : RecordLine) :
    [decodeLine (line.shift count)] =
      [decodeLine line].map (Except.mapError (RecordError.shift count)) := by
  rw [List.map_singleton, List.singleton_inj]
  unfold decodeLine
  apply RecordLine.read_shift
  · intro number
    rfl
  · intro number record
    by_cases missing : record.uri = []
    · simp only [if_pos missing]
      rfl
    · simp only [if_neg missing]
      rfl

theorem values_decodeLines_append {x y : Text} (short : Short maxLine (x ++ lf :: y)) :
    (decodeLines (x ++ lf :: y)).filterMap Except.toOption =
      (decodeLines x).filterMap Except.toOption ++ (decodeLines y).filterMap Except.toOption :=
  values_readRecords_append decodeLine_shift short

theorem decode_of (output : Text) (uri : Uri) : (decode output).of uri =
    (((decodeLines output).filterMap Except.toOption).filter (·.1 = uri)).map Prod.snd :=
  Groups.of_ofList _ uri

def filledLines (output : Text) : List (Text × Nat) :=
  (output.lines.zipIdx 1).filter (·.1.trim ≠ [])

def decodeFilled (line : Text × Nat) : Except RecordError (Uri × Symbol) :=
  decodeLine ⟨line.2, line.1.trim⟩

theorem decodeLines_eq_map {output : Text} (short : Short maxLine output) :
    decodeLines output = (filledLines output).map decodeFilled := by
  rw [decodeLines, readRecords_of_short short, ← List.map_eq_flatMap, recordLines_of_short short,
    List.map_map]
  rfl

theorem length_filledLines {output : Text} (short : Short maxLine output) :
    (filledLines output).length = (decode output).flatten.length + (decodeErrors output).length := by
  have outcomes := length_eq_add_failures (decodeLines output)
  have symbols : (decode output).flatten.length =
      ((decodeLines output).filterMap Except.toOption).length :=
    (Groups.flatten_ofList_perm _).length_eq
  rw [symbols, decodeErrors, ← outcomes, decodeLines_eq_map short, List.length_map]

theorem uri_ne_nil_of_mem_decode {output : Text} (short : Short maxLine output) {uri : Uri}
    (present : uri ∈ decode output) : uri ≠ [] := by
  rw [decode, Groups.ofList, Groups.mem_foldl_add] at present
  rcases present with none | ⟨pair, member, rfl⟩
  · simp at none
  rw [decodeLines_eq_map short, List.filterMap_map] at member
  obtain ⟨line, -, decoded⟩ := List.mem_filterMap.mp member
  rcases decodeLine_cases ⟨line.2, line.1.trim⟩ with ⟨uri, symbol, named, found⟩ | failed | failed
  · obtain rfl : (uri, symbol) = pair := by
      simpa [decodeFilled, found, Except.toOption] using decoded
    exact named
  · simp [decodeFilled, failed, Except.toOption] at decoded
  · simp [decodeFilled, failed, Except.toOption] at decoded

theorem decodeFilled_cases (line : Text × Nat) :
    (∃ uri symbol, uri ≠ [] ∧ decodeFilled line = .ok (uri, symbol)) ∨
      ∃ error, decodeFilled line = .error error ∧
        (error = .malformed line.2 ∨ error = .missingUri line.2) ∧
        Text.ofString "analyzer record " ++ Text.ofNat line.2 <+: error.message := by
  rcases decodeLine_cases ⟨line.2, line.1.trim⟩ with decoded | malformed | missing
  · exact .inl decoded
  · exact .inr ⟨_, malformed, .inl rfl, List.prefix_rfl⟩
  · exact .inr ⟨_, missing, .inr rfl, List.prefix_append ..⟩

theorem decode_accounts_for_lines :
    (∀ output : Text, (∀ line ∈ output.lines, line.dropLf.length < maxLine) →
      let outcomes := (filledLines output).map decodeFilled
      (∀ line ∈ filledLines output,
        (∃ uri symbol, uri ≠ [] ∧ decodeFilled line = .ok (uri, symbol)) ∨
          ∃ error, decodeFilled line = .error error ∧
            (error = .malformed line.2 ∨ error = .missingUri line.2) ∧
            Text.ofString "analyzer record " ++ Text.ofNat line.2 <+: error.message) ∧
      (∀ uri, (decode output).of uri =
        ((outcomes.filterMap Except.toOption).filter (·.1 = uri)).map Prod.snd) ∧
      decodeErrors output = failures outcomes ∧
      (filledLines output).length = (decode output).flatten.length + (decodeErrors output).length ∧
      ∀ (uri : Uri) table, (decode output)[uri]? = some table → uri ≠ [] ∧ table ≠ []) ∧
    ∀ x y : Text, (∀ line ∈ (x ++ lf :: y).lines, line.dropLf.length < maxLine) →
      (∀ uri, (decode (x ++ lf :: y)).of uri = (decode x).of uri ++ (decode y).of uri) ∧
      decodeErrors (x ++ lf :: y) =
        decodeErrors x ++ (decodeErrors y).map (RecordError.shift (x.count lf + 1)) := by
  refine ⟨fun output short => ?_, fun x y short => ?_⟩
  · intro outcomes
    have decoded : decodeLines output = outcomes := decodeLines_eq_map short
    refine ⟨fun line _ => decodeFilled_cases line, fun uri => ?_, ?_, length_filledLines short,
      fun uri table found => ⟨?_, Groups.ofList_populated _ uri table found⟩⟩
    · rw [decode_of, decoded]
    · rw [decodeErrors, decoded]
    · apply uri_ne_nil_of_mem_decode short
      rw [← Std.ExtTreeMap.isSome_getElem?_iff_mem, found]
      rfl
  · refine ⟨fun uri => ?_, ?_⟩
    · simp only [decode_of, values_decodeLines_append short, List.filter_append, List.map_append]
    · exact failures_readRecords_append decodeLine_shift short

-- A blank line and a malformed one with carriage returns, then records for two documents around one
-- without a URI.
theorem decode_accounts_for_lines_mixed :
    let x : Text := " \r\n[\r"
    let y : Text := "\x7b\"uri\":\"a\"\x7d\n\x7b\x7d\n\x7b\"uri\":\"b\"\x7d\n" ++
      "\x7b\"uri\":\"a\",\"name\":\"n\"\x7d\n"
    let output := x ++ lf :: y
    (∀ line ∈ output.lines, line.dropLf.length < maxLine) ∧
      (filledLines output).map Prod.snd = [2, 3, 4, 5, 6] ∧
      (decode output).keys = [("a" : Text), ("b" : Text)] ∧ ((decode output).of "a").length = 2 ∧
      decodeErrors output = [.malformed 2, .missingUri 4] ∧
      5 = (decode output).flatten.length + (decodeErrors output).length ∧
      decodeErrors y = [.missingUri 2] ∧
      decodeErrors output = decodeErrors x ++ (decodeErrors y).map (RecordError.shift 2) ∧
      (decode output).of "a" = (decode x).of "a" ++ (decode y).of "a" := by
  intro x y output
  have short : ∀ line ∈ output.lines, line.dropLf.length < maxLine := by decide
  obtain ⟨accounts, parts⟩ := decode_accounts_for_lines
  obtain ⟨-, -, -, counted, -⟩ := accounts output short
  obtain ⟨tables, errors⟩ := parts x y short
  have filled : (filledLines output).length = 5 := by decide +kernel
  exact ⟨short, by decide +kernel, by decide +kernel, by decide +kernel, by decide +kernel,
    filled ▸ counted, by decide +kernel, errors, tables "a"⟩

end LintServer.Symbol
