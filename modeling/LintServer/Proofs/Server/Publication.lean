import LintServer.Proofs.Server.Isolation

set_option autoImplicit false

namespace LintServer

def Notification.publish? : Notification → Option Publish
  | publish p => some p
  | message _ _ => none

theorem QuickFix.diagnostic_ofEntry? {uri : Uri} {requested : Range} {e : Entry} {fix : QuickFix}
    (offered : ofEntry? uri requested e = some fix) : fix.diagnostic = e.diagnostic := by
  unfold ofEntry? at offered
  split at offered
  · cases offered
  · cases offered
  · split at offered
    · rw [← Option.some.inj offered]
    · cases offered

namespace Aggregator

-- The server can still tell what a client shows for a document.
structure Knows (a : Aggregator) (uri : Uri) (shown : List Diagnostic) : Prop where
  published : (a.published uri).map Entry.diagnostic = shown
  answered : ∀ requested, ((a.quickFixes uri requested).map QuickFix.diagnostic).Sublist shown
  cleared : ⟨uri, []⟩ ∈ a.clears

theorem quickFixes_sublist (a : Aggregator) (uri : Uri) (requested : Range) :
    ((a.quickFixes uri requested).map QuickFix.diagnostic).Sublist
      ((a.published uri).map Entry.diagnostic) := by
  unfold quickFixes
  induction a.published uri with
  | nil => exact .slnil
  | cons e entries ih =>
    rw [List.filterMap_cons, List.map_cons]
    cases offered : QuickFix.ofEntry? uri requested e with
    | none => exact ih.cons _
    | some fix =>
      rw [List.map_cons, QuickFix.diagnostic_ofEntry? offered]
      exact ih.cons_cons _

-- What a client has been shown by this aggregator or by one before it. It is up to date about every
-- document that this one holds entries for.
structure Shown (a : Aggregator) (history : List Publish) : Prop where
  agrees : a.Agrees
  populated : a.lists.Populated
  view : ∀ uri, a.published uri ≠ [] → view history uri = (a.published uri).map Entry.diagnostic

theorem start_shown (root : Text) (history : List Publish) : (start root).Shown history :=
  ⟨start_agrees root, fun uri values found => by simp [start] at found,
    fun uri held => absurd (published_start root uri) held⟩

theorem refresh_populated (a : Aggregator) (run : ToolRun) : (a.refresh run).lists.Populated :=
  Groups.ofList_populated _

theorem refresh_shown (a : Aggregator) (run : ToolRun) (history : List Publish) :
    (a.refresh run).Shown (history ++ a.publishes run) := by
  have populated := a.refresh_populated run
  refine ⟨a.refresh_agrees run, populated, fun uri held => ?_⟩
  rw [view_publishes, if_pos ((populated.mem_iff uri).mpr held)]

namespace Shown

variable {a : Aggregator} {history : List Publish} (shown : a.Shown history) (uri : Uri)

include shown

theorem published_ne_nil_iff {uri : Uri} : a.published uri ≠ [] ↔ uri ∈ a.lists := by
  rw [shown.agrees.published_eq, ← shown.populated.mem_iff]

theorem published_of_view_ne (outdated : Aggregator.view history uri ≠
    (a.published uri).map Entry.diagnostic) : a.published uri = [] :=
  Decidable.byContradiction fun held => outdated (shown.view uri held)

-- A client is out of date about a document after a refresh if it was so before, and the refresh
-- does not name the document.
theorem view_refresh (run : ToolRun) :
    Aggregator.view (history ++ a.publishes run) uri ≠
        ((a.refresh run).published uri).map Entry.diagnostic ↔
      Aggregator.view history uri ≠ (a.published uri).map Entry.diagnostic ∧
        (a.refresh run).published uri = [] := by
  rw [view_publishes]
  by_cases named : uri ∈ (a.refresh run).lists
  · have held : (a.refresh run).published uri ≠ [] :=
      ((a.refresh_populated run).mem_iff uri).mp named
    simp [named, held]
  · rw [if_neg named, (a.refresh_agrees run).published_eq_nil named]
    by_cases old : uri ∈ a.lists
    · have current := shown.view uri (shown.published_ne_nil_iff.mpr old)
      simp [old, current]
    · simp [old, shown.agrees.published_eq_nil old]

theorem view_ne_nil_iff : Aggregator.view history uri ≠ [] ↔
    Aggregator.view history uri ≠ (a.published uri).map Entry.diagnostic ∨ a.published uri ≠ [] := by
  by_cases held : a.published uri = []
  · simp [held]
  · simp [held, shown.view uri held]

theorem knows_iff :
    (Aggregator.view history uri ≠ [] → a.Knows uri (Aggregator.view history uri)) ↔
      Aggregator.view history uri = (a.published uri).map Entry.diagnostic := by
  constructor
  · intro known
    by_cases held : a.published uri = []
    · by_cases seen : Aggregator.view history uri = []
      · rw [seen, held, List.map_nil]
      · exact (known seen).published.symm
    · exact shown.view uri held
  · intro same seen
    have held : a.published uri ≠ [] := by
      intro gone
      rw [gone] at same
      exact seen same
    have member : uri ∈ a.lists := shown.published_ne_nil_iff.mp held
    exact ⟨same.symm, fun requested => same ▸ a.quickFixes_sublist uri requested,
      List.mem_map.mpr ⟨uri, Std.ExtTreeMap.mem_keys.mpr member, rfl⟩⟩

end Shown

end Aggregator

namespace Server

-- All that a message can do to the diagnostics, with what it publishes.
inductive Publishes (s t : Server) : List Publish → Prop
  | nothing : t.root = s.root → t.diagnostics = s.diagnostics → Publishes s t []
  | refreshed (run : ToolRun) : t.root = s.root → t.diagnostics = s.diagnostics.refresh run →
      Publishes s t (s.diagnostics.publishes run)
  | moved : t.root ≠ s.root → t.diagnostics = Aggregator.start t.root → Publishes s t []

theorem publish?_refreshNotifications (s : Server) (run : ToolRun) :
    (s.refreshNotifications run).filterMap Notification.publish? = s.diagnostics.publishes run := by
  rw [refreshNotifications, List.filterMap_append, List.filterMap_map, List.filterMap_map]
  have messages : (Notification.publish? ∘ fun e : RefreshError => .message 1 e.message) =
      fun _ => none := rfl
  have publishes : Notification.publish? ∘ Notification.publish = some := rfl
  rw [messages, publishes, List.filterMap_some]
  simp

theorem publish?_analyzerNotifications (pass : Option AnalyzerRun) :
    (analyzerNotifications pass).filterMap Notification.publish? = [] := by
  unfold analyzerNotifications
  cases analyzerFailure? pass <;> rfl

theorem setRoot_publishes (s : Server) (root : Text) (initialized : Bool) :
    s.Publishes { s.setRoot root with initialized := initialized } [] := by
  unfold setRoot
  split
  · next moves => exact .moved moves.2.2 rfl
  · exact .nothing rfl rfl

theorem handle_publishes (tools : Text → Tools) (s : Server) (r : Request) :
    s.Publishes (s.handle tools r).server ((s.handle tools r).sent.filterMap Notification.publish?) := by
  cases r with
  | setup rootUri rootPath folders => exact s.setRoot_publishes _ true
  | ready =>
    have sent := s.publish?_refreshNotifications (tools s.root).linter
    simp only [handle, readyMessage, List.filterMap_cons, Notification.publish?, sent]
    exact .refreshed _ rfl rfl
  | didSave uri =>
    simp only [handle, List.filterMap_append, publish?_refreshNotifications,
      publish?_analyzerNotifications, List.append_nil]
    rw [analyze_eq]
    exact .refreshed _ rfl rfl
  | didChange uri changes =>
    simp only [handle]
    cases s.documents.edit uri changes <;> exact .nothing rfl rfl
  | didClose uri =>
    simp only [handle]
    cases s.documents.close uri <;> exact .nothing rfl rfl
  | formatting uri =>
    simp only [handle]
    cases s.documents.text? uri with
    | none => exact .nothing rfl rfl
    | some text =>
      dsimp only
      cases formatEdits s.config.minimalEdits text ((tools s.root).formatter text) <;>
        exact .nothing rfl rfl
  | shutdown | exit | setTrace | didOpen | hover | codeAction => exact .nothing rfl rfl

theorem receive_publishes (tools : Text → Tools) (s : Server) (method : Text) (params : Option Json) :
    let outcome := s.receive tools method params
    s.Publishes outcome.server (outcome.sent.filterMap Notification.publish?) := by
  unfold receive
  split
  · exact .nothing rfl rfl
  · cases Request.decode method params with
    | error e => cases e <;> exact .nothing rfl rfl
    | ok r => exact handle_publishes tools s r

end Server

namespace Session

def publishes (s : Session) (step : Step) : List Publish :=
  (s.receive step.tools step.message).2.1.filterMap Notification.publish?

def history : Session → List Step → List Publish
  | _, [] => []
  | s, step :: rest => s.publishes step ++ history (s.receive step.tools step.message).1 rest

theorem history_concat (s : Session) (steps : List Step) (step : Step) :
    s.history (steps ++ [step]) = s.history steps ++ (s.after steps).publishes step := by
  induction steps generalizing s with
  | nil => simp [history, after]
  | cons first steps ih =>
    rw [List.cons_append, history, history, ih, List.append_assoc]
    rfl

theorem receive_publishes (s : Session) (step : Step) :
    s.server.Publishes (s.receive step.tools step.message).1.server (s.publishes step) := by
  unfold publishes receive
  by_cases closed : s.closed = true
  · rw [if_pos closed]
    exact .nothing rfl rfl
  · rw [if_neg closed]
    by_cases going : step.message.method = "exit"
    · rw [if_pos going]
      exact .nothing rfl rfl
    · rw [if_neg going]
      exact s.server.receive_publishes ..

theorem after_shown {s : Session} (shown : s.server.diagnostics.Shown []) (steps : List Step) :
    (s.after steps).server.diagnostics.Shown (s.history steps) := by
  induction steps using List.reverseRecOn with
  | nil => exact shown
  | append_singleton steps step ih =>
    rw [after_concat, history_concat]
    generalize published : (s.after steps).publishes step = now
    have effect := published ▸ (s.after steps).receive_publishes step
    cases effect with
    | nothing _ same => rwa [same, List.append_nil]
    | refreshed run _ same =>
      rw [same]
      exact Aggregator.refresh_shown ..
    | moved _ fresh =>
      rw [fresh]
      exact Aggregator.start_shown ..

-- A document is lost when the root moves while the server holds entries for it, until it holds
-- entries for it again.
def Lost (s : Session) (steps : List Step) (uri : Uri) : Prop :=
  ∃ early step late, steps = early ++ step :: late ∧
    (s.after (early ++ [step])).server.root ≠ (s.after early).server.root ∧
    (s.after early).server.diagnostics.published uri ≠ [] ∧
    ∀ more, more <+: late →
      (s.after (early ++ step :: more)).server.diagnostics.published uri = []

theorem not_lost_nil (s : Session) (uri : Uri) : ¬ s.Lost [] uri := by
  rintro ⟨early, step, late, split, -⟩
  simp at split

theorem lost_concat_iff (s : Session) (steps : List Step) (step : Step) (uri : Uri) :
    s.Lost (steps ++ [step]) uri ↔
      (s.after (steps ++ [step])).server.diagnostics.published uri = [] ∧
        (s.Lost steps uri ∨
          (s.after (steps ++ [step])).server.root ≠ (s.after steps).server.root ∧
            (s.after steps).server.diagnostics.published uri ≠ []) := by
  constructor
  · rintro ⟨early, moving, late, split, moves, held, gone⟩
    rcases List.eq_nil_or_concat late with rfl | ⟨before, last, rfl⟩
    · obtain ⟨rfl, same⟩ := List.append_inj' split rfl
      obtain rfl := List.singleton_inj.mp same
      exact ⟨gone [] List.prefix_rfl, .inr ⟨moves, held⟩⟩
    · rw [List.concat_eq_append, ← List.cons_append, ← List.append_assoc] at split
      obtain ⟨rfl, same⟩ := List.append_inj' split rfl
      obtain rfl := List.singleton_inj.mp same
      rw [List.concat_eq_append] at gone
      refine ⟨by simpa using gone _ List.prefix_rfl, .inl ⟨early, moving, before, rfl, moves, held, ?_⟩⟩
      exact fun more within => gone more (within.trans (List.prefix_append ..))
  · rintro ⟨gone, ⟨early, moving, late, rfl, moves, held, before⟩ | ⟨moves, held⟩⟩
    · refine ⟨early, moving, late ++ [step], by simp, moves, held, fun more within => ?_⟩
      rcases List.prefix_concat_iff.mp within with rfl | within
      · simpa using gone
      · exact before more within
    · refine ⟨steps, step, [], rfl, moves, held, fun more within => ?_⟩
      rw [List.prefix_nil.mp within]
      exact gone

-- By induction on the run from its end: each effect of the last message on what is shown and on
-- what is held is an effect on what is lost.
theorem view_ne_iff_lost {s : Session} (shown : s.server.diagnostics.Synchronized [])
    (populated : s.server.diagnostics.lists.Populated) (steps : List Step) (uri : Uri) :
    Aggregator.view (s.history steps) uri ≠
        ((s.after steps).server.diagnostics.published uri).map Entry.diagnostic ↔
      s.Lost steps uri := by
  induction steps using List.reverseRecOn with
  | nil => exact iff_of_false (not_not.mpr (shown.view uri)) (s.not_lost_nil uri)
  | append_singleton steps step ih =>
    have before := after_shown ⟨shown.agrees, populated, fun uri _ => shown.view uri⟩ steps
    rw [lost_concat_iff, ← ih, after_concat, history_concat]
    generalize published : (s.after steps).publishes step = now
    have effect := published ▸ (s.after steps).receive_publishes step
    cases effect with
    | nothing same kept =>
      rw [kept, List.append_nil]
      exact ⟨fun outdated => ⟨before.published_of_view_ne uri outdated, .inl outdated⟩,
        fun both => both.2.resolve_right fun moves => moves.1 same⟩
    | refreshed run same kept =>
      rw [kept, before.view_refresh]
      simp [same, and_comm]
    | moved moves fresh =>
      rw [fresh, List.append_nil, Aggregator.published_start, List.map_nil, before.view_ne_nil_iff]
      simp [moves]

theorem knows_seen_iff (config : Config) (working : Text) (steps : List Step) (uri : Uri) :
    let seen := Aggregator.view (history ⟨Server.start config working, false⟩ steps) uri
    (seen ≠ [] → (started config working steps).server.diagnostics.Knows uri seen) ↔
      ∀ early step late, steps = early ++ step :: late →
        (started config working (early ++ [step])).server.root ≠
          (started config working early).server.root →
        (started config working early).server.diagnostics.published uri ≠ [] →
        ∃ more, more <+: late ∧
          (started config working (early ++ step :: more)).server.diagnostics.published uri ≠ [] := by
  intro seen
  have fresh := Aggregator.start_shown (Server.start config working).root []
  have outdated := view_ne_iff_lost (s := ⟨Server.start config working, false⟩)
    (Aggregator.start_synchronized _) fresh.populated steps uri
  refine ((after_shown fresh steps).knows_iff uri).trans ?_
  rw [← not_not (a := _ = _), ← ne_eq, outdated]
  simp only [Lost, not_exists, not_and, not_forall, exists_prop]
  rfl

theorem knows_seen_moved :
    let tools : Text → Tools := fun _ => ⟨⟨"\x7b\"message\":\x7b\"level\":\"error\",\"spans\":[" ++
      "\x7b\"file_name\":\"a\",\"suggested_replacement\":\"z\"\x7d]\x7d\x7d", none⟩,
      fun text => ⟨text, none⟩, none⟩
    let enter (root : Text) : Step :=
      ⟨tools, some (.number 1), "initialize", some (.object [("rootUri", .string root)])⟩
    let save : Step := ⟨tools, none, "textDocument/didSave",
      some (.object [("textDocument", .object [("uri", .string "file:///one/a")])])⟩
    let steps := [enter "file:///one", save, enter "file:///two"]
    let seen := Aggregator.view (history ⟨Server.start .defaults "/w", false⟩ steps) "file:///one/a"
    let server := (started .defaults "/w" steps).server
    seen = [⟨⟨⟨0, 0⟩, ⟨0, 0⟩⟩, some 1, none, []⟩] ∧
      ¬ server.diagnostics.Knows "file:///one/a" seen ∧
      server.diagnostics.quickFixes "file:///one/a" ⟨⟨0, 0⟩, ⟨0, 0⟩⟩ = [] ∧
      ∀ publish ∈ server.diagnostics.publishes (tools server.root).linter,
        publish.uri ≠ "file:///one/a" := by
  intro tools enter save steps seen server
  refine ⟨by decide +kernel, fun known => ?_, by decide +kernel, by decide +kernel⟩
  exact absurd known.published (by decide +kernel)

end Session

end LintServer
