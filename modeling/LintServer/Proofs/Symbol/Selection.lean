import Mathlib.Data.List.Induction
import Mathlib.Data.List.Pairwise
import LintServer.Proofs.Symbol.Lookup

set_option autoImplicit false

namespace LintServer

namespace Symbol

def Overlaps (a b : Symbol) : Prop := ∃ p, a.Covers p ∧ b.Covers p

theorem Overlaps.symm {a b : Symbol} (overlap : a.Overlaps b) : b.Overlaps a := by
  obtain ⟨p, inA, inB⟩ := overlap
  exact ⟨p, inB, inA⟩

theorem Precedes.not_overlaps {a b : Symbol} (precedes : Precedes a b) : ¬ a.Overlaps b := by
  rintro ⟨p, inA, inB⟩
  exact inA.not_isBefore (precedes.isBefore_of_covers inB)

theorem Precedes.start_lt {a b : Symbol} (precedes : Precedes a b) (proper : a.isProper) :
    a.range.start < b.range.start := by
  rw [isProper_iff] at proper
  rw [Position.lt_iff]
  unfold Precedes at precedes
  omega

theorem overlaps_iff_startsInside {a b : Symbol} (proper : b.isProper)
    (after : a.range.start ≤ b.range.start) : a.Overlaps b ↔ startsInside a b := by
  constructor
  · intro overlap
    by_contra outside
    exact (precedes_of_not_startsInside after outside).not_overlaps overlap
  · intro inside
    refine ⟨b.range.start, ?_, .start proper⟩
    rw [startsInside_iff] at inside
    rw [Position.le_iff] at after
    rw [covers_iff]
    omega

-- A list sorted by start, in which symbols of equal start stand as they were given.
structure StableOrder (given order : List Symbol) : Prop where
  perm : order.Perm given
  sorted : order.Pairwise fun a b => a.range.start ≤ b.range.start
  stable : ∀ p, order.filter (·.range.start = p) = given.filter (·.range.start = p)

theorem startOrder_stableOrder (symbols : List Symbol) :
    StableOrder (symbols.filter isProper) (startOrder symbols) := by
  have sorted := startOrder_sorted symbols
  unfold startOrder at *
  generalize symbols.filter isProper = valid at *
  have perm : (valid.mergeSort fun a b => a.range.start ≤ b.range.start).Perm valid :=
    List.mergeSort_perm ..
  refine ⟨perm, sorted, fun p => ?_⟩
  -- Symbols of one start are sorted as they stand, and sorting keeps such a sublist.
  have kept : (valid.filter (·.range.start = p)).Sublist
      (valid.mergeSort fun a b => a.range.start ≤ b.range.start) := by
    apply List.sublist_mergeSort
    · exact fun a b c => by simpa using Position.le_trans
    · exact fun a b => by simpa using Position.le_total a.range.start b.range.start
    · apply List.pairwise_of_forall_mem_list
      intro a inA b inB
      have startA : a.range.start = p := by simpa using (List.mem_filter.mp inA).2
      have startB : b.range.start = p := by simpa using (List.mem_filter.mp inB).2
      simp [startA, startB, Position.le_iff]
    · exact List.filter_sublist
  have inside := kept.filter (·.range.start = p)
  simp only [List.filter_filter, Bool.and_self] at inside
  exact (inside.eq_of_length (perm.filter _).length_eq.symm).symm

abbrev Marks := List (Symbol × Bool)

def Marks.order (marks : Marks) : List Symbol := marks.map Prod.fst

def Marks.kept (marks : Marks) : List Symbol := (marks.filter Prod.snd).map Prod.fst

def Marks.Greedy (earlier : List Symbol) (marks : Marks) : Prop :=
  ∀ before s keep after, marks = before ++ (s, keep) :: after →
    (keep = false ↔ ∃ t ∈ earlier ++ Marks.kept before, t.Overlaps s)

theorem Marks.Greedy.cons {earlier : List Symbol} {s : Symbol} {keep : Bool} {marks : Marks}
    (first : keep = false ↔ ∃ t ∈ earlier, t.Overlaps s)
    (greedy : marks.Greedy (if keep then earlier ++ [s] else earlier)) :
    Marks.Greedy earlier ((s, keep) :: marks) := by
  rintro (_ | ⟨head, before⟩) t kept after split
  · obtain ⟨⟨rfl, rfl⟩, -⟩ : (s = t ∧ keep = kept) ∧ marks = after := by simpa using split
    simpa [Marks.kept] using first
  · obtain ⟨rfl, rfl⟩ : (s, keep) = head ∧ marks = before ++ (t, kept) :: after := by
      simpa using split
    rw [greedy before t kept after rfl]
    cases keep <;> simp [Marks.kept]

-- Of the symbols kept so far only the last can reach a symbol that does not start before it.
theorem overlaps_last_iff {earlier : List Symbol} {s : Symbol} (tabular : Tabular earlier)
    (proper : s.isProper) (after : ∀ t ∈ earlier, t.range.start ≤ s.range.start) :
    (∃ t ∈ earlier, t.Overlaps s) ↔ earlier.getLast?.any fun last => startsInside last s := by
  rcases List.eq_nil_or_concat earlier with rfl | ⟨front, last, rfl⟩
  · simp
  · simp only [List.concat_eq_append] at *
    have reach := overlaps_iff_startsInside proper (after last (by simp))
    have properLast := tabular.proper last (by simp)
    simp only [List.getLast?_concat, Option.any_some, ← reach, List.mem_append,
      List.mem_singleton]
    constructor
    · rintro ⟨t, inFront | rfl, overlap⟩
      · have before := (List.pairwise_append.mp tabular.ordered).2.2 t inFront last (by simp)
        by_contra apart
        have follows := precedes_of_not_startsInside (after last (by simp)) (reach.not.mp apart)
        exact (before.trans properLast follows).not_overlaps overlap
      · exact overlap
    · intro overlap
      exact ⟨last, .inr rfl, overlap⟩

theorem keepDisjoint_greedy (earlier symbols : List Symbol) (tabular : Tabular earlier)
    (sorted : symbols.Pairwise fun a b => a.range.start ≤ b.range.start)
    (proper : ∀ s ∈ symbols, s.isProper)
    (after : ∀ t ∈ earlier, ∀ s ∈ symbols, t.range.start ≤ s.range.start) :
    ∃ marks : Marks, marks.order = symbols ∧
      marks.kept = keepDisjoint earlier.getLast? symbols ∧ marks.Greedy earlier := by
  induction symbols generalizing earlier with
  | nil => exact ⟨[], rfl, rfl, by simp [Marks.Greedy]⟩
  | cons s rest ih =>
    obtain ⟨first, sorted⟩ := List.pairwise_cons.mp sorted
    have properRest : ∀ t ∈ rest, t.isProper := fun t member => proper t (by simp [member])
    have reach := overlaps_last_iff tabular (proper s (by simp))
      fun t member => after t member s (by simp)
    rw [keepDisjoint]
    split
    · next inside =>
      obtain ⟨marks, order, kept, greedy⟩ := ih earlier tabular sorted properRest
        fun t member u later => after t member u (by simp [later])
      refine ⟨(s, false) :: marks, by simpa [Marks.order] using order, by simpa [Marks.kept] using kept, ?_⟩
      exact .cons (by simpa [inside] using reach) greedy
    · next outside =>
      have apart (t : Symbol) (member : t ∈ earlier) : Precedes t s := by
        have clear : ¬ t.Overlaps s := fun overlap => outside (reach.mp ⟨t, member, overlap⟩)
        have start := after t member s (by simp)
        exact precedes_of_not_startsInside start
          ((overlaps_iff_startsInside (proper s (by simp)) start).not.mp clear)
      have extended : Tabular (earlier ++ [s]) := by
        refine ⟨?_, List.pairwise_append.mpr ⟨tabular.ordered, List.pairwise_singleton .., ?_⟩⟩
        · intro t member
          rcases List.mem_append.mp member with old | new
          · exact tabular.proper t old
          · exact List.mem_singleton.mp new ▸ proper s (by simp)
        · simpa using apart
      obtain ⟨marks, order, kept, greedy⟩ := ih (earlier ++ [s]) extended sorted properRest (by
        intro t member u later
        rcases List.mem_append.mp member with old | new
        · exact after t old u (by simp [later])
        · exact List.mem_singleton.mp new ▸ first u later)
      refine ⟨(s, true) :: marks, by simpa [Marks.order] using order, ?_, ?_⟩
      · simpa [Marks.kept] using kept
      · exact .cons (by simpa [outside] using reach) greedy

theorem normalize_greedy (symbols : List Symbol) :
    ∃ marks : Marks, marks.order = startOrder symbols ∧ marks.kept = normalize symbols ∧
      marks.Greedy [] :=
  keepDisjoint_greedy [] (startOrder symbols) ⟨by simp, .nil⟩ (startOrder_sorted symbols)
    startOrder_proper (by simp)

theorem Marks.Greedy.kept_eq_order {marks : Marks} (greedy : marks.Greedy [])
    (disjoint : marks.order.Pairwise fun a b => ¬ a.Overlaps b) : marks.kept = marks.order := by
  have all : ∀ mark ∈ marks, mark.2 = true := by
    rintro ⟨s, keep⟩ member
    obtain ⟨before, after, rfl⟩ := List.append_of_mem member
    rw [← Bool.not_eq_false]
    intro dropped
    obtain ⟨t, kept, overlap⟩ := (greedy before s keep after rfl).mp dropped
    obtain ⟨mark, inside, rfl⟩ := List.mem_map.mp (show t ∈ Marks.kept before from kept)
    rw [Marks.order, List.map_append, List.pairwise_append] at disjoint
    exact disjoint.2.2 _ (List.mem_map_of_mem (List.mem_filter.mp inside).1) s (by simp) overlap
  rw [Marks.kept, List.filter_eq_self.mpr all, Marks.order]

theorem Tabular.disjoint {table : List Symbol} (tabular : Tabular table) :
    table.Pairwise fun a b => ¬ a.Overlaps b :=
  tabular.ordered.imp Precedes.not_overlaps

theorem Tabular.start_lt {table : List Symbol} (tabular : Tabular table) :
    table.Pairwise fun a b => a.range.start < b.range.start :=
  tabular.ordered.imp_of_mem fun inside _ precedes =>
    precedes.start_lt (tabular.proper _ inside)

theorem normalize_eq_startOrder {symbols : List Symbol}
    (disjoint : (symbols.filter isProper).Pairwise fun a b => ¬ a.Overlaps b) :
    normalize symbols = startOrder symbols := by
  obtain ⟨marks, order, kept, greedy⟩ := normalize_greedy symbols
  rw [← kept, ← order]
  apply greedy.kept_eq_order
  rw [order]
  exact (startOrder_stableOrder symbols).perm.symm.pairwise disjoint
    fun apart overlap => apart overlap.symm

theorem Tabular.normalize_eq {table : List Symbol} (tabular : Tabular table) :
    normalize table = table := by
  have all : table.filter isProper = table := List.filter_eq_self.mpr tabular.proper
  rw [normalize_eq_startOrder (by rw [all]; exact tabular.disjoint), startOrder, all]
  apply List.mergeSort_of_pairwise
  apply tabular.start_lt.imp
  intro a b less
  rw [Position.lt_iff] at less
  rw [decide_eq_true_eq, Position.le_iff]
  omega

end Symbol

namespace Index

theorem table?_replace (index : Index) (uri key : Uri) (symbols : List Symbol) :
    (index.replace uri symbols).table? key =
      if uri = key then some (Symbol.normalize symbols) else index.table? key := by
  simp only [table?, replace, Std.ExtTreeMap.getElem?_insert, Std.compare_eq_iff_eq]
  split <;> simp

theorem table?_foldl_replace (groups : List (Uri × List Symbol))
    (distinct : (groups.map Prod.fst).Nodup) (index : Index) (key : Uri) :
    (groups.foldl (fun index group => index.replace group.1 group.2) index).table? key =
      ((groups.find? (·.1 = key)).map fun group => Symbol.normalize group.2).or
        (index.table? key) := by
  induction groups generalizing index with
  | nil => simp
  | cons group groups ih =>
    obtain ⟨fresh, distinct⟩ := List.nodup_cons.mp distinct
    rw [List.foldl_cons, ih distinct, table?_replace]
    by_cases same : group.1 = key
    · have missing : groups.find? (·.1 = key) = none := by
        rw [List.find?_eq_none]
        intro other member found
        exact fresh (same ▸ of_decide_eq_true found ▸ List.mem_map_of_mem member)
      simp [missing, same]
    · simp [same]

theorem find?_toList (groups : Groups Symbol) (key : Uri) :
    (groups.toList.find? (·.1 = key)).map Prod.snd = groups[key]? := by
  cases found : groups.toList.find? (·.1 = key) with
  | none =>
    symm
    rw [Option.map_none, Option.eq_none_iff_forall_ne_some]
    intro symbols held
    have member := Std.ExtTreeMap.mem_toList_iff_getElem?_eq_some.mpr held
    simpa using List.find?_eq_none.mp found _ member
  | some group =>
    obtain ⟨uri, symbols⟩ := group
    obtain rfl : uri = key := by simpa using List.find?_some found
    exact (Std.ExtTreeMap.mem_toList_iff_getElem?_eq_some.mp (List.mem_of_find?_eq_some found)).symm

theorem table?_install (index : Index) (groups : Groups Symbol) (key : Uri) :
    (index.install groups).table? key =
      (groups[key]?.map Symbol.normalize).or (index.table? key) := by
  rw [install, table?_foldl_replace, ← find?_toList, Option.map_map]
  · rfl
  · rw [Std.ExtTreeMap.map_fst_toList_eq_keys]
    exact groups.nodup_keys

theorem ext_table? {a b : Index} (same : ∀ uri, a.table? uri = b.table? uri) : a = b := by
  obtain ⟨a⟩ := a
  obtain ⟨b⟩ := b
  rw [mk.injEq]
  apply Std.ExtTreeMap.ext_getElem?
  intro uri
  exact Option.map_injective (fun _ _ => Array.toList_inj.mp) (same uri)

def Update.given (uri : Uri) : Update → Option (List Symbol)
  | .replace key symbols => if key = uri then some symbols else none
  | .install groups => groups[uri]?

def lastGiven (updates : List Update) (uri : Uri) : Option (List Symbol) :=
  updates.reverse.findSome? (Update.given uri)

theorem table?_update (index : Index) (change : Update) (uri : Uri) :
    (index.update change).table? uri =
      ((change.given uri).map Symbol.normalize).or (index.table? uri) := by
  cases change with
  | replace key symbols =>
    rw [update, table?_replace, Update.given]
    split <;> rfl
  | install groups => exact table?_install index groups uri

theorem table?_reached (updates : List Update) (uri : Uri) :
    (reached updates).table? uri = (lastGiven updates uri).map Symbol.normalize := by
  induction updates using List.reverseRecOn with
  | nil => simp [reached, empty, table?, lastGiven]
  | append_singleton updates change ih =>
    have last : lastGiven (updates ++ [change]) uri =
        (change.given uri).or (lastGiven updates uri) := by
      rw [lastGiven, List.reverse_append, List.reverse_singleton, List.findSome?_append,
        List.findSome?_singleton]
      rfl
    rw [reached, List.foldl_append, ← reached, List.foldl_cons, List.foldl_nil, table?_update, ih,
      last]
    cases change.given uri <;> rfl

theorem find?_reached (updates : List Update) (uri : Uri) (p : Position) :
    (reached updates).find? uri p =
      (lastGiven updates uri).bind fun symbols => (Symbol.normalize symbols).find? (·.Covers p) := by
  have scan := ((reached_tabular updates).tableOf uri).find?_eq_scan p
  rw [find?_eq_find?_tableOf, scan, ← table?_getD, table?_reached]
  cases lastGiven updates uri <;> rfl

theorem Tabular.table? {index : Index} (tabular : index.Tabular) {uri : Uri} {table : List Symbol}
    (held : index.table? uri = some table) : Symbol.Tabular table := by
  obtain ⟨array, found, rfl⟩ := Option.map_eq_some_iff.mp held
  exact tabular uri array found

theorem Tabular.install_eq {index : Index} (tabular : index.Tabular) {groups : Groups Symbol}
    (held : ∀ (uri : Uri) table, groups[uri]? = some table → index.table? uri = some table) :
    index.install groups = index := by
  apply ext_table?
  intro uri
  rw [table?_install]
  cases found : groups[uri]? with
  | none => rfl
  | some table =>
    have again := held uri table found
    simp [again, (tabular.table? again).normalize_eq]

theorem Tabular.replace_eq {index : Index} (tabular : index.Tabular) {uri : Uri}
    {table : List Symbol} (held : index.table? uri = some table) :
    index.replace uri table = index := by
  apply ext_table?
  intro key
  rw [table?_replace, (tabular.table? held).normalize_eq]
  split
  · next same => rw [← same, held]
  · rfl

theorem table_exact_selection (updates : List Update) (uri : Uri) :
    let index := reached updates
    (index.table? uri = none ↔ lastGiven updates uri = none) ∧
      ∀ table, index.table? uri = some table →
        table.Pairwise (fun a b => a.range.start < b.range.start) ∧
        (∀ s ∈ table, s.range.start.line = s.range.stop.line ∧
          s.range.start.character < s.range.stop.character) ∧
        table.Pairwise (fun a b => ¬ a.Overlaps b) ∧
        (∃ given order, ∃ marks : Symbol.Marks, lastGiven updates uri = some given ∧
          let valid := given.filter fun s => s.range.start.line = s.range.stop.line ∧
            s.range.start.character < s.range.stop.character
          Symbol.StableOrder valid order ∧ table.Sublist order ∧
            marks.order = order ∧ marks.kept = table ∧
            (∀ before s keep after, marks = before ++ (s, keep) :: after →
              (keep = false ↔ ∃ t ∈ Symbol.Marks.kept before, t.Overlaps s)) ∧
            (valid.Pairwise (fun a b => ¬ a.Overlaps b) → table = order)) ∧
        index.replace uri table = index ∧
        ∀ groups : Groups Symbol, (∀ (key : Uri) symbols, groups[key]? = some symbols →
          index.table? key = some symbols) → index.install groups = index := by
  intro index
  have tabular : index.Tabular := reached_tabular updates
  refine ⟨by simp [index, table?_reached], fun table held => ?_⟩
  have here := tabular.table? held
  refine ⟨here.start_lt, fun s member => ?_, here.disjoint, ?_, tabular.replace_eq held,
    fun groups => tabular.install_eq⟩
  · simpa [Symbol.isProper] using here.proper s member
  · obtain ⟨given, last, rfl⟩ := Option.map_eq_some_iff.mp ((table?_reached updates uri).symm.trans held)
    obtain ⟨marks, order, kept, greedy⟩ := Symbol.normalize_greedy given
    refine ⟨given, Symbol.startOrder given, marks, last, ?_⟩
    rw [Symbol.filter_isProper]
    exact ⟨Symbol.startOrder_stableOrder given, Symbol.keepDisjoint_sublist none _, order, kept,
      greedy, Symbol.normalize_eq_startOrder⟩

-- Of two symbols with one start the first given stays, a symbol that starts where another ends
-- stays, and the one between them overlaps.
theorem table_exact_selection_equal_starts :
    let first : Symbol := ⟨[0x61], [], ⟨⟨0, 1⟩, ⟨0, 5⟩⟩⟩
    let second : Symbol := ⟨[0x62], [], ⟨⟨0, 1⟩, ⟨0, 2⟩⟩⟩
    let inside : Symbol := ⟨[0x63], [], ⟨⟨0, 4⟩, ⟨0, 9⟩⟩⟩
    let adjacent : Symbol := ⟨[0x64], [], ⟨⟨0, 5⟩, ⟨0, 7⟩⟩⟩
    let tall : Symbol := ⟨[0x65], [], ⟨⟨0, 0⟩, ⟨1, 1⟩⟩⟩
    let index := reached [.replace [0x75] [adjacent, inside, first, tall, second]]
    index.table? [0x75] = some [first, adjacent] ∧ first.range.start < adjacent.range.start ∧
      ¬ first.Overlaps adjacent ∧ index.replace [0x75] [first, adjacent] = index ∧
      index.install ∅ = index := by
  intro first second inside adjacent tall index
  have held : index.table? [0x75] = some [first, adjacent] := by
    have proper : [adjacent, inside, first, tall, second].filter Symbol.isProper =
        [adjacent, inside, first, second] := by decide
    have sorted : Symbol.startOrder [adjacent, inside, first, tall, second] =
        [first, second, inside, adjacent] := by
      have late : ¬adjacent.range.start ≤ inside.range.start := by decide
      have tie : first.range.start ≤ second.range.start := by decide
      have before : ¬inside.range.start ≤ first.range.start := by decide
      have between : ¬inside.range.start ≤ second.range.start := by decide
      rw [Symbol.startOrder, proper]
      simp [List.mergeSort, List.MergeSort.Internal.splitInTwo, late, tie, before, between]
    rw [table?_reached]
    change some (Symbol.normalize [adjacent, inside, first, tall, second]) = _
    rw [Symbol.normalize_eq, sorted]
    decide
  obtain ⟨-, selected⟩ :=
    table_exact_selection [.replace [0x75] [adjacent, inside, first, tall, second]] [0x75]
  obtain ⟨sorted, -, disjoint, -, replaced, installed⟩ := selected _ held
  exact ⟨held, (List.pairwise_cons.mp sorted).1 _ (by simp),
    (List.pairwise_cons.mp disjoint).1 _ (by simp), replaced, installed ∅ (by simp)⟩

end Index

end LintServer
