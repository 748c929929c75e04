import LintServer.Proofs.Symbol.Table

set_option autoImplicit false

namespace LintServer

namespace Symbol

def Covers (s : Symbol) (p : Position) : Prop :=
  s.range.start.line = p.line ∧ s.range.start.character ≤ p.character ∧
    p.character < s.range.stop.character

instance (s : Symbol) (p : Position) : Decidable (s.Covers p) :=
  inferInstanceAs (Decidable (_ ∧ _ ∧ _))

theorem covers_iff {s : Symbol} {p : Position} : s.Covers p ↔
    s.range.start.line.toNat = p.line.toNat ∧
      s.range.start.character.toNat ≤ p.character.toNat ∧
        p.character.toNat < s.range.stop.character.toNat := by
  rw [Covers, UInt32.toNat_inj, UInt32.le_iff_toNat_le, UInt32.lt_iff_toNat_lt]

theorem holds_iff_covers {s : Symbol} {p : Position} : s.holds p ↔ s.Covers p := by
  simp [holds, Covers, and_assoc]

theorem isBefore_iff {s : Symbol} {p : Position} : s.isBefore p ↔
    s.range.start.line.toNat < p.line.toNat ∨ s.range.start.line.toNat = p.line.toNat ∧
      s.range.stop.character.toNat ≤ p.character.toNat := by
  unfold isBefore
  split
  · next other =>
    have lines : s.range.start.line.toNat ≠ p.line.toNat := fun same =>
      other (UInt32.toNat_inj.mp same)
    simp [lines, UInt32.lt_iff_toNat_lt]
  · next same =>
    have lines : s.range.start.line = p.line := by simpa using same
    simp [lines, UInt32.le_iff_toNat_le]

theorem Covers.not_isBefore {s : Symbol} {p : Position} (covers : s.Covers p) : ¬ s.isBefore p := by
  rw [covers_iff] at covers
  rw [isBefore_iff]
  omega

theorem Precedes.isBefore_of_covers {a b : Symbol} {p : Position} (precedes : Precedes a b)
    (covers : b.Covers p) : a.isBefore p := by
  rw [covers_iff] at covers
  rw [isBefore_iff]
  unfold Precedes at precedes
  omega

theorem Precedes.isBefore {a b : Symbol} {p : Position} (precedes : Precedes a b)
    (proper : b.isProper) (before : b.isBefore p) : a.isBefore p := by
  rw [isProper_iff] at proper
  rw [isBefore_iff] at *
  unfold Precedes at precedes
  omega

-- Every probe keeps the answer between `lo` and `hi`.
theorem search_eq {p : Nat → Bool} {lo hi k : Nat} (low : lo ≤ k) (high : k ≤ hi)
    (below : ∀ n < k, p n = false) (above : ∀ n, k ≤ n → n < hi → p n = true) :
    search p lo hi = k := by
  fun_induction search p lo hi with
  | case1 lo hi less middle holds ih =>
    have left : k ≤ middle := Nat.le_of_not_lt fun right => by simp [below middle right] at holds
    exact ih low left fun n start stop => above n start (by omega)
  | case2 lo hi less middle fails ih =>
    have right : middle < k := Nat.lt_of_not_le fun left => fails (above middle left (by omega))
    exact ih right high above
  | case3 lo hi none => omega

theorem Tabular.precedes {table : Array Symbol} (tabular : Tabular table.toList) {i j : Nat}
    {s t : Symbol} (less : i < j) (first : table[i]? = some s) (second : table[j]? = some t) :
    Precedes s t := by
  obtain ⟨inside, rfl⟩ := Array.getElem?_eq_some_iff.mp first
  obtain ⟨bound, rfl⟩ := Array.getElem?_eq_some_iff.mp second
  exact List.pairwise_iff_getElem.mp tabular.ordered i j inside bound less

-- The probed property fails before the symbol that covers the position and holds from there on.
theorem Tabular.search_covers {table : Array Symbol} (tabular : Tabular table.toList) {k : Nat}
    {s : Symbol} {p : Position} (found : table[k]? = some s) (covers : s.Covers p) :
    search (fun n => table[n]?.all fun s => !s.isBefore p) 0 table.size = k := by
  have inside : k < table.size := (Array.getElem?_eq_some_iff.mp found).1
  apply search_eq (by omega) (by omega)
  · intro n less
    have here : table[n]? = some table[n] := Array.getElem?_eq_getElem (by omega)
    simp [here, (tabular.precedes less here found).isBefore_of_covers covers]
  · intro n start bound
    have here : table[n]? = some table[n] := Array.getElem?_eq_getElem bound
    have later : ¬ table[n].isBefore p := by
      intro before
      rcases Nat.eq_or_lt_of_le start with rfl | less
      · rw [here] at found
        exact covers.not_isBefore (Option.some.inj found ▸ before)
      · have proper := tabular.proper table[n] (by simp)
        exact covers.not_isBefore ((tabular.precedes less found here).isBefore proper before)
    simpa [here] using later

theorem Tabular.find?_eq_some_iff {table : Array Symbol} (tabular : Tabular table.toList)
    {p : Position} {s : Symbol} : find? table p = some s ↔ s ∈ table.toList ∧ s.Covers p := by
  constructor
  · intro found
    obtain ⟨found, holds⟩ := Option.filter_eq_some_iff.mp found
    exact ⟨Array.mem_toList_iff.mpr (Array.mem_of_getElem? found), holds_iff_covers.mp holds⟩
  · rintro ⟨member, covers⟩
    obtain ⟨k, found⟩ := Array.mem_iff_getElem?.mp (Array.mem_toList_iff.mp member)
    rw [find?, tabular.search_covers found covers, found]
    simp [holds_iff_covers.mpr covers]

theorem Tabular.countP_covers_le_one {table : List Symbol} (tabular : Tabular table)
    (p : Position) : table.countP (·.Covers p) ≤ 1 := by
  have ordered := tabular.ordered
  induction ordered with
  | nil => simp
  | @cons s rest first _ ih =>
    have later := ih ⟨fun t member => tabular.proper t (by simp [member]), by assumption⟩
    rw [List.countP_cons]
    split
    · next covers =>
      have none : rest.countP (·.Covers p) = 0 := by
        rw [List.countP_eq_zero]
        intro t member other
        have before := (first t member).isBefore_of_covers (of_decide_eq_true other)
        exact (of_decide_eq_true covers).not_isBefore before
      omega
    · omega

theorem Tabular.find?_eq_scan {table : Array Symbol} (tabular : Tabular table.toList)
    (p : Position) : find? table p = table.toList.find? (·.Covers p) := by
  cases scan : table.toList.find? (·.Covers p) with
  | none =>
    rw [Option.eq_none_iff_forall_not_mem]
    intro s found
    obtain ⟨member, covers⟩ := tabular.find?_eq_some_iff.mp found
    simpa [covers] using List.find?_eq_none.mp scan s member
  | some s =>
    have covers : s.Covers p := by simpa using List.find?_some scan
    exact tabular.find?_eq_some_iff.mpr ⟨List.mem_of_find?_eq_some scan, covers⟩

theorem Covers.start {s : Symbol} (proper : s.isProper) : s.Covers s.range.start := by
  rw [isProper_iff] at proper
  rw [covers_iff]
  omega

end Symbol

namespace Index

def tableOf (index : Index) (uri : Uri) : Array Symbol := index.tables[uri]?.getD #[]

theorem table?_getD (index : Index) (uri : Uri) :
    (index.table? uri).getD [] = (index.tableOf uri).toList := by
  unfold table? tableOf
  cases index.tables[uri]? <;> rfl

theorem find?_eq_find?_tableOf (index : Index) (uri : Uri) (p : Position) :
    index.find? uri p = Symbol.find? (index.tableOf uri) p := by
  unfold find? tableOf
  cases index.tables[uri]? with
  | none => simp [Symbol.find?]
  | some table => rfl

theorem Tabular.tableOf {index : Index} (tabular : index.Tabular) (uri : Uri) :
    Symbol.Tabular (index.tableOf uri).toList := by
  unfold Index.tableOf
  cases held : index.tables[uri]? with
  | none => exact ⟨by simp, .nil⟩
  | some table => exact tabular uri table held

theorem find?_eq_linear_scan (updates : List Update) (uri : Uri) (p : Position) :
    let index := reached updates
    let table := (index.table? uri).getD []
    (∀ s, index.find? uri p = some s ↔ s ∈ table ∧ s.Covers p) ∧
      table.countP (·.Covers p) ≤ 1 ∧
      index.find? uri p = table.find? (·.Covers p) ∧
      ∀ s, s ∈ table ↔ index.find? uri s.range.start = some s := by
  have tabular := (reached_tabular updates).tableOf uri
  simp only [table?_getD, find?_eq_find?_tableOf]
  refine ⟨fun s => tabular.find?_eq_some_iff, tabular.countP_covers_le_one p,
    tabular.find?_eq_scan p, fun s => ?_⟩
  rw [tabular.find?_eq_some_iff]
  constructor
  · intro member
    exact ⟨member, .start (tabular.proper s member)⟩
  · rintro ⟨member, -⟩
    exact member

end Index

end LintServer
