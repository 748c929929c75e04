import Mathlib.Data.List.Pairwise
import LintServer.Proofs.Grouping
import LintServer.Proofs.Symbol.Selection

set_option autoImplicit false

namespace LintServer

namespace Symbol

def DistinctStarts (symbols : List Symbol) : Prop :=
  (symbols.filter isProper).Pairwise fun a b => a.range.start ≠ b.range.start

variable {symbols given : List Symbol}

theorem DistinctStarts.perm (distinct : DistinctStarts symbols) (perm : given.Perm symbols) :
    DistinctStarts given :=
  (perm.filter isProper).symm.pairwise distinct Ne.symm

theorem DistinctStarts.increasing (distinct : DistinctStarts symbols) :
    (startOrder symbols).Pairwise fun a b => a.range.start < b.range.start := by
  have apart : (startOrder symbols).Pairwise fun a b => a.range.start ≠ b.range.start :=
    (startOrder_stableOrder symbols).perm.symm.pairwise distinct Ne.symm
  exact ((startOrder_sorted symbols).and apart).imp fun both =>
    Position.lt_of_le_of_ne both.1 both.2

theorem startOrder_perm (distinct : DistinctStarts symbols) (perm : given.Perm symbols) :
    startOrder given = startOrder symbols := by
  have same : (startOrder given).Perm (startOrder symbols) :=
    (startOrder_stableOrder given).perm.trans
      ((perm.filter isProper).trans (startOrder_stableOrder symbols).perm.symm)
  refine same.eq_of_pairwise ?_ (distinct.perm perm).increasing distinct.increasing
  intro a b _ _ ab ba
  rw [Position.lt_iff] at ab ba
  omega

theorem normalize_perm (distinct : DistinctStarts symbols) (perm : given.Perm symbols) :
    normalize given = normalize symbols := by
  rw [normalize_eq, normalize_eq, startOrder_perm distinct perm]

theorem mem_startOrder {s : Symbol} : s ∈ startOrder symbols ↔ s ∈ symbols ∧ s.isProper := by
  rw [(startOrder_stableOrder symbols).perm.mem_iff, List.mem_filter]

-- Which symbols are kept, with no mention of an order in which they are considered: only a symbol
-- that starts earlier can displace another.
theorem mem_normalize_iff (distinct : DistinctStarts symbols) (s : Symbol) :
    s ∈ normalize symbols ↔ (s ∈ symbols ∧ s.isProper) ∧
      ∀ t ∈ normalize symbols, t.range.start < s.range.start → ¬ t.Overlaps s := by
  obtain ⟨marks, order, kept, greedy⟩ := normalize_greedy symbols
  constructor
  · intro member
    refine ⟨mem_startOrder.mp ((keepDisjoint_sublist none _).subset member), ?_⟩
    intro t other less overlap
    have apart : t ≠ s := by
      rintro rfl
      rw [Position.lt_iff] at less
      omega
    have : Std.Symm fun a b : Symbol => ¬ a.Overlaps b := ⟨fun _ _ clear overlap => clear overlap.symm⟩
    exact (normalize_tabular symbols).disjoint.forall other member apart overlap
  · rintro ⟨member, clear⟩
    rw [← mem_startOrder, ← order] at member
    obtain ⟨⟨s, keep⟩, marked, rfl⟩ := List.mem_map.mp member
    obtain ⟨before, after, split⟩ := List.append_of_mem marked
    cases keep with
    | true =>
      rw [← kept]
      exact List.mem_map.mpr ⟨(s, true), List.mem_filter.mpr ⟨marked, rfl⟩, rfl⟩
    | false =>
      -- What displaced it was kept before it, so it starts earlier.
      obtain ⟨t, earlier, overlap⟩ := (greedy before s false after split).mp rfl
      obtain ⟨mark, inside, rfl⟩ := List.mem_map.mp (show t ∈ Marks.kept before from earlier)
      obtain ⟨inside, on⟩ := List.mem_filter.mp inside
      have less : mark.1.range.start < s.range.start := by
        have increasing := distinct.increasing
        rw [← order, Marks.order, split, List.map_append, List.pairwise_append] at increasing
        exact increasing.2.2 _ (List.mem_map_of_mem inside) s (by simp)
      refine absurd overlap (clear mark.1 ?_ less)
      rw [← kept]
      exact List.mem_map_of_mem (List.mem_filter.mpr ⟨by simp [split, inside], on⟩)

end Symbol

namespace Index

theorem replace_comm (index : Index) {a b : Uri} (different : a ≠ b) (first second : List Symbol) :
    (index.replace a first).replace b second = (index.replace b second).replace a first := by
  apply ext_table?
  intro key
  simp only [table?_replace]
  by_cases here : a = key
  · have other : b ≠ key := fun same => different (here.trans same.symm)
    simp [here, other]
  · simp [here]

theorem install_eq_foldl (index : Index) (groups : Groups Symbol) : index.install groups =
    groups.keys.foldl (fun index uri => index.replace uri (groups.of uri)) index := by
  rw [install, Groups.toList_eq, List.foldl_map]

theorem foldl_replace_perm (index : Index) (symbols : Uri → List Symbol) {order uris : List Uri}
    (perm : order.Perm uris) :
    order.foldl (fun index uri => index.replace uri (symbols uri)) index =
      uris.foldl (fun index uri => index.replace uri (symbols uri)) index := by
  apply perm.foldl_eq'
  intro a _ b _ index
  by_cases same : a = b
  · rw [same]
  · exact index.replace_comm same _ _

theorem find?_congr {a b : Index} {uri : Uri} (same : a.table? uri = b.table? uri) (p : Position) :
    a.find? uri p = b.find? uri p := by
  have arrays : a.tables[uri]? = b.tables[uri]? :=
    Option.map_injective (fun _ _ => Array.toList_inj.mp) same
  rw [find?, find?, arrays]

-- The table is told by the set of its symbols. Where two starts are equal the first of them counts,
-- so the condition cannot be left out.
theorem tables_ignore_report_order (index : Index) :
    (∀ (uri : Uri) (symbols given : List Symbol), given.Perm symbols →
      (symbols.filter fun s => s.range.start.line = s.range.stop.line ∧
        s.range.start.character < s.range.stop.character).Pairwise
          (fun a b => (a.range.start.line, a.range.start.character) ≠
            (b.range.start.line, b.range.start.character)) →
      ∃ table, (index.replace uri symbols).table? uri = some table ∧
        (index.replace uri given).table? uri = some table ∧
        (∀ s, s ∈ table ↔ (s ∈ symbols ∧ s.isProper) ∧
          ∀ t ∈ table, t.range.start < s.range.start → ¬ t.Overlaps s) ∧
        index.replace uri given = index.replace uri symbols ∧
        ∀ key p, (index.replace uri given).find? key p = (index.replace uri symbols).find? key p) ∧
    ∀ (groups : Groups Symbol) (order : List Uri), order.Perm groups.keys →
      index.install groups =
        order.foldl (fun index uri => index.replace uri (groups.of uri)) index ∧
      ∀ uri, uri ∉ groups → (index.install groups).table? uri = index.table? uri ∧
        ∀ p, (index.install groups).find? uri p = index.find? uri p := by
  refine ⟨fun uri symbols given perm apart => ?_, fun groups order perm => ⟨?_, ?_⟩⟩
  · have distinct : Symbol.DistinctStarts symbols := by
      rw [Symbol.filter_isProper] at apart
      exact apart.imp fun different same => different (by rw [same])
    have same : index.replace uri given = index.replace uri symbols := by
      rw [replace, replace, Symbol.normalize_perm distinct perm]
    refine ⟨Symbol.normalize symbols, by simp [table?_replace], by simp [same, table?_replace],
      Symbol.mem_normalize_iff distinct, same, fun key p => by rw [same]⟩
  · rw [install_eq_foldl]
    exact (index.foldl_replace_perm _ perm).symm
  · intro uri missing
    have kept : (index.install groups).table? uri = index.table? uri := by
      rw [table?_install, Std.ExtTreeMap.getElem?_eq_none missing]
      rfl
    exact ⟨kept, find?_congr kept⟩

theorem tables_ignore_report_order_overlapping :
    let first : Symbol := ⟨[0x61], [], ⟨⟨0, 1⟩, ⟨0, 5⟩⟩⟩
    let inside : Symbol := ⟨[0x62], [], ⟨⟨0, 4⟩, ⟨0, 9⟩⟩⟩
    let adjacent : Symbol := ⟨[0x63], [], ⟨⟨0, 5⟩, ⟨0, 7⟩⟩⟩
    let groups : Groups Symbol := .ofList [([0x75], inside), ([0x76], first)]
    let backward := empty.replace [0x75] [adjacent, inside, first]
    let forward := empty.replace [0x75] [first, inside, adjacent]
    forward = backward ∧ forward.find? [0x75] ⟨0, 5⟩ = backward.find? [0x75] ⟨0, 5⟩ ∧
      forward.install groups = (forward.replace [0x76] [first]).replace [0x75] [inside] ∧
      (forward.install groups).table? [0x77] = forward.table? [0x77] := by
  intro first inside adjacent groups backward forward
  obtain ⟨-, -, -, -, same, answers⟩ := (tables_ignore_report_order empty).1 [0x75]
    [adjacent, inside, first] [first, inside, adjacent] (by decide) (by decide)
  obtain ⟨installed, others⟩ := (tables_ignore_report_order forward).2 groups [[0x76], [0x75]]
    (by decide +kernel)
  exact ⟨same, answers [0x75] ⟨0, 5⟩, installed, (others [0x77] (by decide +kernel)).1⟩

end Index

end LintServer
