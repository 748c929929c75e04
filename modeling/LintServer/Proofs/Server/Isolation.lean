import LintServer.Proofs.Server.Run

set_option autoImplicit false

namespace LintServer

namespace Session

def started (config : Config) (working : Text) (steps : List Step) : Session :=
  after ⟨Server.start config working, false⟩ steps

def Opened (config : Config) (s : Session) : Prop :=
  ∃ working earlier handshake, started config working (earlier ++ [handshake]) = s ∧
    s.server.initialized = true ∧
    ∀ n ≤ earlier.length, (started config working (earlier.take n)).server.initialized = false

structure Fresh (config : Config) (s : Session) : Prop extends s.Live where
  config : s.server.config = config
  documents : s.server.documents = Store.empty
  symbols : s.server.symbols = Index.empty
  diagnostics : s.server.diagnostics = Aggregator.start s.server.root

theorem receive_start {s : Session} {config : Config} {working : Text}
    (idle : s.server = Server.start config working) (tools : Text → Tools) (m : Message) :
    (s.receive tools m).1.server = Server.start config working ∨ ∃ root, (s.receive tools m).1 =
      ⟨{ (Server.start config working).setRoot root with initialized := true }, false⟩ := by
  by_cases closed : s.closed = true
  · left
    rw [Session.receive, if_pos closed]
    exact idle
  by_cases going : m.method = "exit"
  · left
    rw [Session.receive, if_neg closed, if_pos going]
    exact idle
  rw [Session.receive, if_neg closed, if_neg going, idle, Server.receive]
  dsimp only
  by_cases named : m.method = "initialize"
  · rw [if_neg (by simp [named])]
    cases decoded : Request.decode m.method (m.params.map Json.sorted) with
    | error e => cases e <;> exact .inl rfl
    | ok r =>
      have method := (Request.method_of_decode decoded).trans named
      cases r with
      | setup rootUri rootPath folders =>
        rw [Bool.not_eq_true] at closed
        rw [closed]
        exact .inr ⟨_, rfl⟩
      | ready | shutdown | exit | setTrace | didOpen | didChange | didSave | didClose | hover
      | formatting | codeAction => exact absurd method (by simp only [Request.method]; decide)
  · rw [if_pos (by simp [named, Server.start])]
    exact .inl rfl

theorem started_concat (config : Config) (working : Text) (steps : List Step) (step : Step) :
    started config working (steps ++ [step]) =
      ((started config working steps).receive step.tools step.message).1 :=
  after_concat ..

theorem server_started {config : Config} {working : Text} {steps : List Step}
    (waiting : ∀ n ≤ steps.length,
      (started config working (steps.take n)).server.initialized = false) :
    (started config working steps).server = Server.start config working := by
  induction steps using List.reverseRecOn with
  | nil => rfl
  | append_singleton steps step ih =>
    have before := ih fun n within => by
      have sooner := waiting n (by simp; omega)
      rwa [List.take_append_of_le_length within] at sooner
    have here := waiting _ le_rfl
    rw [List.take_length, started_concat] at here
    rw [started_concat]
    rcases receive_start before step.tools step.message with same | ⟨root, opened⟩
    · exact same
    · rw [opened] at here
      cases here

theorem Opened.fresh {config : Config} {s : Session} (opened : s.Opened config) :
    s.Fresh config := by
  obtain ⟨working, earlier, handshake, rfl, initialized, waiting⟩ := opened
  rw [started_concat] at initialized ⊢
  rcases receive_start (server_started waiting) handshake.tools handshake.message with
    same | ⟨root, begun⟩
  · rw [same] at initialized
    cases initialized
  · rw [begun]
    exact ⟨⟨rfl, rfl⟩, Server.setRoot_config _ root, Server.setRoot_documents _ root,
      Server.setRoot_symbols _ root, Server.setRoot_diagnostics rfl root⟩

theorem receive_snd_eq {x y : Session} (liveX : x.Live) (liveY : y.Live) {m : Message}
    (going : m.method ≠ "exit") {toolsX toolsY : Text → Tools}
    (same : ∀ r, m.request? = some r →
      (x.server.handle toolsX r).answer = (y.server.handle toolsY r).answer ∧
        (x.server.handle toolsX r).sent = (y.server.handle toolsY r).sent) :
    (x.receive toolsX m).2 = (y.receive toolsY m).2 := by
  cases made : m.request? with
  | none =>
    obtain ⟨response, refused⟩ := receive_of_request?_none made going
    rw [refused x liveX, refused y liveY]
  | some r =>
    obtain ⟨answer, sent⟩ := same r made
    rw [liveX.receive toolsX made going, liveY.receive toolsY made going]
    simp only [answer, sent]

theorem hover_eq {x y : Session} (liveX : x.Live) (liveY : y.Live)
    (same : x.server.symbols = y.server.symbols) {m : Message}
    (named : m.method = "textDocument/hover") (toolsX toolsY : Text → Tools) :
    (x.receive toolsX m).2 = (y.receive toolsY m).2 := by
  refine receive_snd_eq liveX liveY (by rw [named]; decide) fun r made => ?_
  have method := (Request.method_of_decode (Message.decode_of_request? made)).trans named
  cases r with
  | hover uri p => simp only [Server.handle, Server.quietly, same, and_self]
  | setup | ready | shutdown | exit | setTrace | didOpen | didChange | didSave | didClose
  | formatting | codeAction => exact absurd method (by simp only [Request.method]; decide)

theorem codeAction_eq {x y : Session} (liveX : x.Live) (liveY : y.Live)
    (same : x.server.diagnostics.snapshot = y.server.diagnostics.snapshot) {m : Message}
    (named : m.method = "textDocument/codeAction") (toolsX toolsY : Text → Tools) :
    (x.receive toolsX m).2 = (y.receive toolsY m).2 := by
  refine receive_snd_eq liveX liveY (by rw [named]; decide) fun r made => ?_
  have method := (Request.method_of_decode (Message.decode_of_request? made)).trans named
  cases r with
  | codeAction uri range =>
    simp only [Server.handle, Server.quietly, Aggregator.quickFixes, Aggregator.published, same,
      and_self]
  | setup | ready | shutdown | exit | setTrace | didOpen | didChange | didSave | didClose
  | formatting | hover => exact absurd method (by simp only [Request.method]; decide)

theorem formatting_eq {x y : Session} (liveX : x.Live) (liveY : y.Live)
    (config : x.server.config = y.server.config) {uri : Uri}
    (same : x.server.documents.text? uri = y.server.documents.text? uri) {m : Message}
    (made : m.request? = some (.formatting uri)) {toolsX toolsY : Text → Tools}
    (formatted : ∀ text, x.server.documents.text? uri = some text →
      (toolsX x.server.root).formatter text = (toolsY y.server.root).formatter text) :
    (x.receive toolsX m).2 = (y.receive toolsY m).2 := by
  have named := Request.method_of_decode (Message.decode_of_request? made)
  refine receive_snd_eq liveX liveY (by rw [← named, Request.method]; decide) fun r also => ?_
  obtain rfl : .formatting uri = r := Option.some.inj (made.symm.trans also)
  simp only [Server.handle, ← config, ← same]
  cases held : x.server.documents.text? uri with
  | none => simp
  | some text =>
    dsimp only
    rw [formatted text held]
    cases formatEdits x.server.config.minimalEdits text ((toolsY y.server.root).formatter text) <;>
      simp [Server.quietly]

-- What decides the diagnostics: the last refresh, and the root that it resolved file names against.
def lastRefresh (root : Text) (steps : List Step) : Option (Text × ToolRun) :=
  (steps.filterMap (Step.linterRun? root)).getLast?.map (root, ·)

theorem Fresh.snapshot_after {config : Config} {s : Session} (fresh : s.Fresh config)
    {steps : List Step} (work : ∀ step ∈ steps, step.IsWork) :
    (s.after steps).server.diagnostics.snapshot =
      ((lastRefresh s.server.root steps).map fun last =>
        Aggregator.reported last.1 last.2).getD ∅ := by
  rw [fresh.after work]
  dsimp only
  rw [Server.diagnostics_run s.server work, fresh.diagnostics, Aggregator.afterRuns_snapshot,
    Aggregator.lastReported, lastRefresh, Option.map_map]
  rfl

theorem parts_independent {config : Config} {s t : Session} (openedS : s.Opened config)
    (openedT : t.Opened config) {a b : List Step} (workA : ∀ step ∈ a, step.IsWork)
    (workB : ∀ step ∈ b, step.IsWork) :
    let x := s.after a
    let y := t.after b
    (∀ uri, a.filterMap (Step.requestFor? uri) = b.filterMap (Step.requestFor? uri) →
      x.server.documents.text? uri = y.server.documents.text? uri ∧
        ∀ (m : Message) toolsX toolsY, m.request? = some (.formatting uri) →
          (∀ text, x.server.documents.text? uri = some text →
            (toolsX x.server.root).formatter text = (toolsY y.server.root).formatter text) →
          (x.receive toolsX m).2 = (y.receive toolsY m).2) ∧
      (a.filterMap (Step.pass? s.server.root) = b.filterMap (Step.pass? t.server.root) →
        ∀ (m : Message) toolsX toolsY, m.method = "textDocument/hover" →
          (x.receive toolsX m).2 = (y.receive toolsY m).2) ∧
      (lastRefresh s.server.root a = lastRefresh t.server.root b →
        ∀ (m : Message) toolsX toolsY, m.method = "textDocument/codeAction" →
          (x.receive toolsX m).2 = (y.receive toolsY m).2) := by
  intro x y
  have freshS := openedS.fresh
  have freshT := openedT.fresh
  have liveX : x.Live := freshS.toLive.after_live workA
  have liveY : y.Live := freshT.toLive.after_live workB
  have serverX : x.server = a.foldl Server.next s.server :=
    congrArg Session.server (freshS.after workA)
  have serverY : y.server = b.foldl Server.next t.server :=
    congrArg Session.server (freshT.after workB)
  refine ⟨fun uri same => ?_, fun same m toolsX toolsY named => ?_,
    fun same m toolsX toolsY named => ?_⟩
  · have held : x.server.documents.text? uri = y.server.documents.text? uri := by
      rw [serverX, serverY, Server.text?_run _ workA, Server.text?_run _ workB, same,
        freshS.documents, freshT.documents]
    have config : x.server.config = y.server.config := by
      rw [serverX, serverY, (s.server.foldl_next_continues workA).config,
        (t.server.foldl_next_continues workB).config, freshS.config, freshT.config]
    exact ⟨held, fun m toolsX toolsY made => formatting_eq liveX liveY config held made⟩
  · apply hover_eq liveX liveY ?_ named
    rw [serverX, serverY, Server.symbols_run _ workA, Server.symbols_run _ workB, same,
      Server.symbols_afterPasses, Server.symbols_afterPasses, freshS.symbols, freshT.symbols]
  · apply codeAction_eq liveX liveY ?_ named
    rw [freshS.snapshot_after workA, freshT.snapshot_after workB, same]

-- The second client asks too early, works on another document as well, formats, and saves once in
-- vain. What both save is the same.
theorem parts_independent_busy :
    let tools (linter : ToolRun) (analyzer : Option AnalyzerRun) : Text → Tools :=
      fun _ => ⟨linter, fun text => ⟨text, none⟩, analyzer⟩
    let good := tools ⟨"\x7b\"message\":\x7b\"level\":\"error\",\"spans\":[" ++
        "\x7b\"file_name\":\"a\",\"suggested_replacement\":\"z\"\x7d]\x7d\x7d", some (.exit "lint" 1 [])⟩
      (some (.ended ⟨"\x7b\"uri\":\"a\",\"name\":\"x\"," ++
        "\"range\":\x7b\"end\":\x7b\"character\":3\x7d\x7d\x7d", none⟩))
    let bad := tools ⟨"[", some (.other "gone")⟩ none
    let request (method uri text : Text) : Message := ⟨some (.number 1), method,
      some (.object [("textDocument", .object [("uri", .string uri), ("text", .string text)])])⟩
    let s := started .defaults "/w" [⟨bad, request "initialize" [] []⟩]
    let t := started .defaults "/w"
      [⟨bad, request "textDocument/hover" "a" []⟩, ⟨bad, request "initialize" [] []⟩]
    let a : List Step := [⟨bad, request "textDocument/didOpen" "a" "hi"⟩,
      ⟨good, request "textDocument/didSave" "a" []⟩]
    let b : List Step := [⟨bad, request "textDocument/didOpen" "b" "x"⟩,
      ⟨bad, request "textDocument/didOpen" "a" "hi"⟩,
      ⟨bad, request "textDocument/formatting" "a" []⟩,
      ⟨bad, request "textDocument/didSave" "b" []⟩, ⟨bad, request "textDocument/didClose" "b" []⟩,
      ⟨good, request "textDocument/didSave" "b" []⟩]
    (s.after a).server.documents.text? "a" = some "hi" ∧
      (s.after a).server.symbols.find? "a" ⟨0, 0⟩ = some ⟨"x", [], ⟨⟨0, 0⟩, ⟨0, 3⟩⟩⟩ ∧
      (s.after a).server.diagnostics.quickFixes "file:///w/a" ⟨⟨0, 0⟩, ⟨0, 0⟩⟩ ≠ [] ∧
      (s.after a).server.documents.text? "a" = (t.after b).server.documents.text? "a" ∧
      ((s.after a).receive bad (request "textDocument/hover" "a" [])).2 =
        ((t.after b).receive good (request "textDocument/hover" "a" [])).2 ∧
      ((s.after a).receive bad (request "textDocument/codeAction" "file:///w/a" [])).2 =
        ((t.after b).receive good (request "textDocument/codeAction" "file:///w/a" [])).2 := by
  intro tools good bad request s t a b
  have openedS : s.Opened .defaults := ⟨"/w", [], _, rfl, by decide +kernel, by decide +kernel⟩
  have openedT : t.Opened .defaults := ⟨"/w", [_], _, rfl, by decide +kernel, by decide +kernel⟩
  have workA : ∀ step ∈ a, step.IsWork := by decide +kernel
  have workB : ∀ step ∈ b, step.IsWork := by decide +kernel
  obtain ⟨texts, hovers, fixes⟩ := parts_independent openedS openedT workA workB
  exact ⟨by decide +kernel, by decide +kernel, by decide +kernel, (texts "a" (by decide +kernel)).1,
    hovers (by decide +kernel) _ _ _ rfl, fixes (by decide +kernel) _ _ _ rfl⟩

end Session

end LintServer
