import LintServer.Text.Lines

set_option autoImplicit false

namespace LintServer.Text

def Terminated (line : Text) : Prop := ∃ body, line = body ++ [lf] ∧ lf ∉ body

inductive WellSplit : List Text → Prop where
  | nil : WellSplit []
  | unterminated {line : Text} (filled : line ≠ []) (noFeed : lf ∉ line) : WellSplit [line]
  | cons {line : Text} {rest : List Text} (terminated : Terminated line) (more : WellSplit rest) :
      WellSplit (line :: rest)

theorem wellSplit_lines (text : Text) : WellSplit text.lines := by
  induction text with
  | nil => exact .nil
  | cons b text ih =>
    rw [lines_cons]
    unfold consLine
    by_cases feed : b = lf
    · rw [if_pos feed]
      exact .cons ⟨[], by simp [feed], by simp⟩ ih
    · rw [if_neg feed]
      generalize lines text = rest at ih ⊢
      cases ih with
      | nil => exact .unterminated (by simp) (by simp [Ne.symm feed])
      | unterminated filled noFeed => exact .unterminated (by simp) (by simp [Ne.symm feed, noFeed])
      | cons terminated more =>
        obtain ⟨body, rfl, noFeed⟩ := terminated
        exact .cons ⟨b :: body, rfl, by simp [Ne.symm feed, noFeed]⟩ more

theorem Terminated.endsInLf {line : Text} (terminated : Terminated line) : line.endsInLf = true := by
  obtain ⟨body, rfl, -⟩ := terminated
  simp [Text.endsInLf]

theorem endsInLf_eq_false {line : Text} (noFeed : lf ∉ line) : line.endsInLf = false := by
  rw [endsInLf, beq_eq_false_iff_ne]
  exact fun last => noFeed (List.mem_of_getLast? last)

theorem WellSplit.terminated_of_append {before after : List Text} (split : WellSplit (before ++ after))
    (more : after ≠ []) : ∀ line ∈ before, Terminated line := by
  induction before with
  | nil => simp
  | cons line before ih =>
    rw [List.cons_append] at split
    generalize rest : before ++ after = lines at split
    cases split with
    | unterminated => simp_all
    | cons terminated split =>
      rw [← rest] at split
      simpa [terminated] using ih split

theorem WellSplit.ending {lines : List Text} (split : WellSplit lines) :
    (∀ line ∈ lines, Terminated line) ∨
      ∃ before last, lines = before ++ [last] ∧ (∀ line ∈ before, Terminated line) ∧
        last ≠ [] ∧ lf ∉ last := by
  induction split with
  | nil => exact .inl (by simp)
  | @unterminated line filled noFeed => exact .inr ⟨[], line, rfl, by simp, filled, noFeed⟩
  | @cons line rest terminated _ ih =>
    rcases ih with all | ⟨before, last, rfl, all, filled, noFeed⟩
    · exact .inl (by simpa [terminated] using all)
    · exact .inr ⟨line :: before, last, rfl, by simpa [terminated] using all, filled, noFeed⟩

theorem WellSplit.dropLast_getLast? {lines : List Text} (split : WellSplit lines) :
    (∀ line ∈ lines.dropLast, Terminated line) ∧
      ∀ line ∈ lines.getLast?, Terminated line ∨ line ≠ [] ∧ lf ∉ line := by
  rcases split.ending with all | ⟨before, last, rfl, all, filled, noFeed⟩
  · exact ⟨fun line member => all line (List.dropLast_subset _ member),
      fun line last => .inl (all line (List.mem_of_getLast? last))⟩
  · rw [List.dropLast_concat, List.getLast?_concat]
    exact ⟨all, by simp [filled, noFeed]⟩

theorem WellSplit.of_append {before after : List Text} (split : WellSplit (before ++ after)) :
    WellSplit before ∧ WellSplit after := by
  induction before with
  | nil => exact ⟨.nil, split⟩
  | cons line before ih =>
    rw [List.cons_append] at split
    generalize rest : before ++ after = lines at split
    cases split with
    | unterminated filled noFeed =>
      obtain ⟨rfl, rfl⟩ := List.append_eq_nil_iff.mp rest
      exact ⟨.unterminated filled noFeed, .nil⟩
    | cons terminated more =>
      obtain ⟨first, second⟩ := ih (rest ▸ more)
      exact ⟨.cons terminated first, second⟩

theorem WellSplit.ne_nil {lines : List Text} (split : WellSplit lines) : ∀ line ∈ lines, line ≠ [] := by
  induction split with
  | nil => simp
  | unterminated filled => simpa using filled
  | cons terminated _ ih =>
    obtain ⟨body, rfl, -⟩ := terminated
    simpa using ih

theorem lines_of_not_mem {line : Text} (filled : line ≠ []) (noFeed : lf ∉ line) :
    lines line = [line] := by
  induction line with
  | nil => exact absurd rfl filled
  | cons b line ih =>
    rw [List.mem_cons, not_or] at noFeed
    obtain ⟨other, later⟩ := noFeed
    cases line with
    | nil => simp [lines_cons, consLine, Ne.symm other]
    | cons next line => rw [lines_cons, ih (by simp) later, consLine, if_neg (Ne.symm other)]

theorem lines_append_lf {body : Text} (noFeed : lf ∉ body) (rest : Text) :
    lines (body ++ lf :: rest) = (body ++ [lf]) :: lines rest := by
  induction body with
  | nil => simp [lines_cons, consLine]
  | cons b body ih =>
    rw [List.mem_cons, not_or] at noFeed
    obtain ⟨other, later⟩ := noFeed
    rw [List.cons_append, lines_cons, ih later, consLine, if_neg (Ne.symm other)]
    rfl

theorem WellSplit.lines_flatten {list : List Text} (split : WellSplit list) :
    lines list.flatten = list := by
  induction split with
  | nil => rfl
  | unterminated filled noFeed => simpa using lines_of_not_mem filled noFeed
  | cons terminated _ ih =>
    obtain ⟨body, rfl, noFeed⟩ := terminated
    rw [List.flatten_cons, List.append_assoc, List.singleton_append, lines_append_lf noFeed, ih]

end LintServer.Text
