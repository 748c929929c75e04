import LintServer.Proofs.Position
import LintServer.Symbol.Index

set_option autoImplicit false

namespace LintServer

namespace Symbol

-- On a later line, or on the same line and not before the end of `a`.
def Precedes (a b : Symbol) : Prop :=
  a.range.start.line.toNat < b.range.start.line.toNat ∨
    a.range.start.line.toNat = b.range.start.line.toNat ∧
      a.range.stop.character.toNat ≤ b.range.start.character.toNat

structure Tabular (table : List Symbol) : Prop where
  proper : ∀ s ∈ table, s.isProper
  ordered : table.Pairwise Precedes

theorem isProper_iff {s : Symbol} : s.isProper ↔ s.range.start.line = s.range.stop.line ∧
    s.range.start.character.toNat < s.range.stop.character.toNat := by
  simp [isProper, UInt32.lt_iff_toNat_lt]

theorem filter_isProper (symbols : List Symbol) :
    symbols.filter (fun s => s.range.start.line = s.range.stop.line ∧
      s.range.start.character < s.range.stop.character) = symbols.filter isProper := by
  apply List.filter_congr
  intro s _
  rw [isProper, Bool.decide_and]
  rfl

theorem startsInside_iff {last s : Symbol} : startsInside last s ↔
    last.range.start.line.toNat = s.range.start.line.toNat ∧
      s.range.start.character.toNat < last.range.stop.character.toNat := by
  simp [startsInside, UInt32.lt_iff_toNat_lt, UInt32.toNat_inj]

theorem Precedes.trans {a b c : Symbol} (proper : b.isProper) (ab : Precedes a b)
    (bc : Precedes b c) : Precedes a c := by
  rw [isProper_iff] at proper
  unfold Precedes at *
  omega

theorem precedes_of_not_startsInside {last s : Symbol} (after : last.range.start ≤ s.range.start)
    (outside : ¬ startsInside last s) : Precedes last s := by
  rw [startsInside_iff] at outside
  rw [Position.le_iff] at after
  unfold Precedes
  omega

-- Only the last kept symbol is compared with the next one. That is enough, for all symbols kept
-- before it end even earlier.
theorem keepDisjoint_ordered {symbols : List Symbol} (last : Option Symbol)
    (sorted : symbols.Pairwise fun a b => a.range.start ≤ b.range.start)
    (proper : ∀ s ∈ symbols, s.isProper)
    (after : ∀ before ∈ last, ∀ s ∈ symbols, before.range.start ≤ s.range.start) :
    (keepDisjoint last symbols).Pairwise Precedes ∧
      ∀ before ∈ last, ∀ s ∈ keepDisjoint last symbols, Precedes before s := by
  induction symbols generalizing last with
  | nil => simp [keepDisjoint]
  | cons s rest ih =>
    obtain ⟨first, sorted⟩ := List.pairwise_cons.mp sorted
    have properRest : ∀ t ∈ rest, t.isProper := fun t member => proper t (by simp [member])
    rw [keepDisjoint]
    split
    · exact ih last sorted properRest
        fun before found t member => after before found t (by simp [member])
    · next outside =>
      obtain ⟨ordered, follow⟩ := ih (some s) sorted properRest (by simpa using first)
      have followed : ∀ t ∈ keepDisjoint (some s) rest, Precedes s t := follow s rfl
      refine ⟨.cons followed ordered, ?_⟩
      intro before found t member
      have here : Precedes before s := by
        apply precedes_of_not_startsInside (after before found s (by simp))
        rw [Option.mem_def] at found
        simpa [found] using outside
      rcases List.mem_cons.mp member with rfl | member
      · exact here
      · exact here.trans (proper s (by simp)) (followed t member)

theorem keepDisjoint_sublist (last : Option Symbol) (symbols : List Symbol) :
    (keepDisjoint last symbols).Sublist symbols := by
  induction symbols generalizing last with
  | nil => exact .slnil
  | cons s rest ih =>
    rw [keepDisjoint]
    split
    · exact .cons s (ih last)
    · exact .cons_cons s (ih (some s))

def startOrder (symbols : List Symbol) : List Symbol :=
  (symbols.filter isProper).mergeSort fun a b => a.range.start ≤ b.range.start

theorem startOrder_sorted (symbols : List Symbol) :
    (startOrder symbols).Pairwise fun a b => a.range.start ≤ b.range.start := by
  refine (List.pairwise_mergeSort ?_ ?_ (symbols.filter isProper)).imp of_decide_eq_true
  · exact fun a b c => by simpa using Position.le_trans
  · exact fun a b => by simpa using Position.le_total a.range.start b.range.start

theorem startOrder_proper {symbols : List Symbol} : ∀ s ∈ startOrder symbols, s.isProper :=
  fun _ member => (List.mem_filter.mp (List.mem_mergeSort.mp member)).2

theorem normalize_eq (symbols : List Symbol) :
    normalize symbols = keepDisjoint none (startOrder symbols) := rfl

theorem normalize_tabular (symbols : List Symbol) : Tabular (normalize symbols) := by
  rw [normalize_eq]
  refine ⟨?_, ?_⟩
  · intro s member
    exact startOrder_proper s ((keepDisjoint_sublist none _).subset member)
  · exact (keepDisjoint_ordered none (startOrder_sorted symbols) startOrder_proper (by simp)).1

end Symbol

namespace Index

inductive Update where
  | replace (uri : Uri) (symbols : List Symbol)
  | install (groups : Groups Symbol)

def update (index : Index) : Update → Index
  | .replace uri symbols => index.replace uri symbols
  | .install groups => index.install groups

def reached (updates : List Update) : Index := updates.foldl update empty

def Tabular (index : Index) : Prop :=
  ∀ (uri : Uri) table, index.tables[uri]? = some table → Symbol.Tabular table.toList

theorem Tabular.replace {index : Index} (tabular : index.Tabular) (uri : Uri)
    (symbols : List Symbol) : (index.replace uri symbols).Tabular := by
  intro key table found
  simp only [Index.replace, Std.ExtTreeMap.getElem?_insert] at found
  split at found
  · rw [← Option.some.inj found]
    exact Symbol.normalize_tabular symbols
  · exact tabular key table found

theorem Tabular.update {index : Index} (tabular : index.Tabular) (change : Update) :
    (index.update change).Tabular := by
  cases change with
  | replace uri symbols => exact tabular.replace uri symbols
  | install groups =>
    rw [Index.update, install]
    generalize groups.toList = groups
    induction groups generalizing index with
    | nil => exact tabular
    | cons group groups ih => exact ih (tabular.replace group.1 group.2)

theorem reached_tabular (updates : List Update) : (reached updates).Tabular := by
  have run (index : Index) (tabular : index.Tabular) : (updates.foldl update index).Tabular := by
    induction updates generalizing index with
    | nil => exact tabular
    | cons change updates ih => exact ih _ (tabular.update change)
  apply run
  intro uri table found
  simp [empty] at found

end Index

end LintServer
