import LintServer.Diagnostic.Aggregator
import LintServer.Proofs.Grouping

set_option autoImplicit false

namespace LintServer.Aggregator

def reported (root : Text) (run : ToolRun) : Lists :=
  Finding.lists (Finding.ofOutput root run.output)

def afterRuns (a : Aggregator) (runs : List ToolRun) : Aggregator := runs.foldl refresh a

def history : Aggregator → List ToolRun → List Publish
  | _, [] => []
  | a, run :: rest => a.publishes run ++ history (a.refresh run) rest

def view (history : List Publish) (uri : Uri) : List Diagnostic :=
  ((history.reverse.find? (·.uri = uri)).map Publish.diagnostics).getD []

theorem view_append_singleton (history : List Publish) (p : Publish) (uri : Uri) :
    view (history ++ [p]) uri = if p.uri = uri then p.diagnostics else view history uri := by
  by_cases same : p.uri = uri <;> simp [view, same]

theorem view_append_map (history : List Publish) (uris : List Uri)
    (diagnostics : Uri → List Diagnostic) (uri : Uri) :
    view (history ++ uris.map fun key => ⟨key, diagnostics key⟩) uri =
      if uri ∈ uris then diagnostics uri else view history uri := by
  induction uris generalizing history with
  | nil => simp
  | cons key uris ih =>
    rw [List.map_cons, List.append_cons, ih, view_append_singleton]
    by_cases later : uri ∈ uris
    · simp [later]
    · by_cases same : key = uri
      · simp [same]
      · simp [later, same, Ne.symm same]

theorem mem_reported_iff (root : Text) (run : ToolRun) (uri : Uri) :
    uri ∈ reported root run ↔ (reported root run).of uri ≠ [] :=
  (Groups.ofList_populated _).mem_iff uri

theorem current_eq (a : Aggregator) : a.current =
    a.lists.keys.map fun uri => ⟨uri, (a.lists.of uri).map Entry.diagnostic⟩ := by
  rw [current, Groups.toList_eq, List.map_map]
  rfl

-- The snapshot is that of the lists, as it is whenever no linter runs.
def Agrees (a : Aggregator) : Prop := a.snapshot = a.lists

theorem start_agrees (root : Text) : (start root).Agrees := rfl

theorem refresh_agrees (a : Aggregator) (run : ToolRun) : (a.refresh run).Agrees := rfl

theorem Agrees.published_eq {a : Aggregator} (agrees : a.Agrees) (uri : Uri) :
    a.published uri = a.lists.of uri := by
  rw [published, agrees]

theorem Agrees.published_eq_nil {a : Aggregator} (agrees : a.Agrees) {uri : Uri}
    (missing : uri ∉ a.lists) : a.published uri = [] := by
  rw [agrees.published_eq, Groups.of_eq_nil missing]

theorem view_publishes (a : Aggregator) (run : ToolRun) (history : List Publish) (uri : Uri) :
    view (history ++ a.publishes run) uri =
      if uri ∈ (a.refresh run).lists then ((a.refresh run).published uri).map Entry.diagnostic
      else if uri ∈ a.lists then [] else view history uri := by
  rw [publishes, clears, current_eq, ← List.append_assoc, view_append_map, view_append_map]
  simp only [Std.ExtTreeMap.mem_keys]
  rfl

-- The client is up to date: it sees exactly the entries that the aggregator holds. In particular
-- every document it sees diagnostics of is among those that the next refresh clears.
structure Synchronized (a : Aggregator) (history : List Publish) : Prop where
  agrees : a.Agrees
  view : ∀ uri, view history uri = (a.published uri).map Entry.diagnostic

theorem Synchronized.refresh {a : Aggregator} {history : List Publish}
    (synchronized : a.Synchronized history) (run : ToolRun) :
    (a.refresh run).Synchronized (history ++ a.publishes run) := by
  refine ⟨a.refresh_agrees run, fun uri => ?_⟩
  rw [view_publishes, synchronized.view uri]
  by_cases new : uri ∈ (a.refresh run).lists
  · rw [if_pos new]
  · rw [if_neg new, (a.refresh_agrees run).published_eq_nil new]
    by_cases old : uri ∈ a.lists
    · rw [if_pos old, List.map_nil]
    · rw [if_neg old, synchronized.agrees.published_eq_nil old]

theorem afterRuns_concat (a : Aggregator) (runs : List ToolRun) (run : ToolRun) :
    a.afterRuns (runs ++ [run]) = (a.afterRuns runs).refresh run := by
  simp [afterRuns]

theorem history_append (a : Aggregator) (first second : List ToolRun) :
    a.history (first ++ second) = a.history first ++ (a.afterRuns first).history second := by
  induction first generalizing a with
  | nil => rfl
  | cons run first ih => simp [history, ih, afterRuns]

theorem synchronized_afterRuns {a : Aggregator} {past : List Publish}
    (synchronized : a.Synchronized past) (runs : List ToolRun) :
    (a.afterRuns runs).Synchronized (past ++ a.history runs) := by
  induction runs generalizing a past with
  | nil => simpa [history, afterRuns] using synchronized
  | cons run runs ih =>
    rw [history, ← List.append_assoc]
    exact ih (synchronized.refresh run)

theorem published_start (root : Text) (uri : Uri) : (start root).published uri = [] := by
  simp [start, published, Groups.of]

theorem start_synchronized (root : Text) : (start root).Synchronized [] := by
  refine ⟨start_agrees root, fun uri => ?_⟩
  simp [view, published_start]

theorem afterRuns_root (a : Aggregator) (runs : List ToolRun) : (a.afterRuns runs).root = a.root := by
  induction runs generalizing a with
  | nil => rfl
  | cons run runs ih => exact ih (a.refresh run)

def lastReported (root : Text) (runs : List ToolRun) : Lists :=
  (runs.getLast?.map (reported root)).getD ∅

theorem afterRuns_lists (root : Text) (runs : List ToolRun) :
    ((start root).afterRuns runs).lists = lastReported root runs := by
  rcases List.eq_nil_or_concat runs with rfl | ⟨earlier, run, rfl⟩
  · rfl
  · rw [List.concat_eq_append, afterRuns_concat, lastReported, List.getLast?_concat]
    simp only [refresh, emptied, setPublished, findings, afterRuns_root, Option.map_some,
      Option.getD_some]
    rfl

theorem afterRuns_snapshot (root : Text) (runs : List ToolRun) :
    ((start root).afterRuns runs).snapshot = lastReported root runs :=
  (synchronized_afterRuns (start_synchronized root) runs).agrees.trans (afterRuns_lists root runs)

theorem view_eq_reported (root : Text) (runs : List ToolRun) (run : ToolRun) :
    let lists := reported root run
    let before := (start root).afterRuns runs
    let after := (start root).afterRuns (runs ++ [run])
    (∀ uri, view ((start root).history (runs ++ [run])) uri = (lists.of uri).map Entry.diagnostic) ∧
      (∀ uri, after.published uri = lists.of uri) ∧
      ∃ stale fresh : List Uri,
        before.publishes run =
          stale.map (fun uri => ⟨uri, []⟩) ++
            fresh.map (fun uri => ⟨uri, (lists.of uri).map Entry.diagnostic⟩) ∧
        (start root).history (runs ++ [run]) = (start root).history runs ++ before.publishes run ∧
        stale.Pairwise (· < ·) ∧ (∀ uri, uri ∈ stale ↔ uri ∈ lastReported root runs) ∧
        fresh.Pairwise (· < ·) ∧ (∀ uri, uri ∈ fresh ↔ uri ∈ lists) ∧
        ∀ uri, uri ∈ fresh ↔ (lists.of uri).map Entry.diagnostic ≠ [] := by
  intro lists before after
  have now : ((start root).afterRuns (runs ++ [run])).lists = lists := by
    simpa [lastReported] using afterRuns_lists root (runs ++ [run])
  have shown := synchronized_afterRuns (start_synchronized root) (runs ++ [run])
  have published (uri : Uri) : after.published uri = lists.of uri := by
    rw [shown.agrees.published_eq, now]
  refine ⟨fun uri => ?_, published, before.lists.keys, lists.keys, ?_, ?_, keys_increasing _, ?_,
    keys_increasing _, fun uri => Std.ExtTreeMap.mem_keys, ?_⟩
  · exact (shown.view uri).trans (by rw [published])
  · rw [publishes, clears, current_eq, ← afterRuns_concat, now]
  · rw [history_append]
    simp [history, before]
  · intro uri
    rw [Std.ExtTreeMap.mem_keys, ← afterRuns_lists]
  · intro uri
    rw [Std.ExtTreeMap.mem_keys, mem_reported_iff, ne_eq, ne_eq, List.map_eq_nil_iff]

end LintServer.Aggregator
