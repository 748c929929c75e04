import LintServer.Proofs.Diagnostic.View
import LintServer.Proofs.Document.Refinement
import LintServer.Proofs.Server.Analysis
import LintServer.Protocol.Message

set_option autoImplicit false

namespace LintServer

namespace Request

def method : Request → Text
  | setup _ _ _ => "initialize"
  | ready => "initialized"
  | shutdown => "shutdown"
  | exit => "exit"
  | setTrace => "$/setTrace"
  | didOpen _ _ => "textDocument/didOpen"
  | didChange _ _ => "textDocument/didChange"
  | didSave _ => "textDocument/didSave"
  | didClose _ => "textDocument/didClose"
  | hover _ _ => "textDocument/hover"
  | formatting _ => "textDocument/formatting"
  | codeAction _ _ => "textDocument/codeAction"

theorem method_of_decode {name : Text} {params : Option Json} {r : Request}
    (decoded : decode name params = .ok r) : r.method = name := by
  have choice {other : Text} {here more : Except RequestError Request}
      (first : here = .ok r → r.method = other) (later : more = .ok r → r.method = name) :
      (if name = other then here else more) = .ok r → r.method = name := by
    intro chosen
    split at chosen
    · next named => exact named ▸ first chosen
    · exact later chosen
  have bound {α : Type} {x : Except RequestError α} {f : α → Except RequestError Request}
      (read : x >>= f = .ok r) : ∃ a, f a = .ok r := by
    cases x with
    | error e => cases read
    | ok a => exact ⟨a, read⟩
  revert decoded
  unfold decode
  -- One goal for each method; what is read on the way to the request does not matter.
  repeat' apply choice
  all_goals
    intro read
    repeat obtain ⟨_, read⟩ := bound read
    cases read
  all_goals rfl

def textAfter (uri : Uri) (held : Option Text) : Request → Option Text
  | didOpen key text => if key = uri then some text else held
  | didChange key changes =>
    if key = uri then held.map fun text => changes.foldl Texts.change text else held
  | didClose key => if key = uri then none else held
  | _ => held

def concerns (uri : Uri) : Request → Bool
  | didOpen key _ | didChange key _ | didClose key => key = uri
  | _ => false

theorem textAfter_of_not_concerns {uri : Uri} {r : Request} (other : r.concerns uri = false)
    (held : Option Text) : r.textAfter uri held = held := by
  cases r <;> simp_all [concerns, textAfter]

def analyzes : Request → Bool
  | didSave _ => true
  | _ => false

def refreshes : Request → Bool
  | ready | didSave _ => true
  | _ => false

-- All but what sets a session up or ends it.
def isWork : Request → Bool
  | setup _ _ _ | shutdown | exit => false
  | _ => true

end Request

namespace Server

theorem text?_edit (documents : Store) (uri : Uri) (key : Uri) (changes : List Change) :
    (documents.respond (.edit key changes)).1.text? uri =
      (Request.didChange key changes).textAfter uri (documents.text? uri) := by
  cases held : documents.text? key with
  | none =>
    rw [Store.respond, Store.edit_of_text?_none held, Store.outcome, Request.textAfter]
    by_cases same : key = uri
    · simp [← same, held]
    · simp [same]
  | some text =>
    obtain ⟨next, result, texts⟩ := Store.edit_of_text?_some held changes
    rw [Store.respond, result, Store.outcome, texts, Request.textAfter]
    by_cases same : key = uri
    · simp [← same, held]
    · simp [same]

theorem text?_close (documents : Store) (uri : Uri) (key : Uri) :
    (documents.respond (.close key)).1.text? uri =
      (Request.didClose key).textAfter uri (documents.text? uri) := by
  rw [Store.respond, Store.close_eq, Request.textAfter]
  by_cases held : documents.text? key = none
  · by_cases same : key = uri
    · simp [← same, held, Store.outcome]
    · simp [same, held, Store.outcome]
  · rw [if_neg held, Store.outcome, Store.text?_erase]

variable (tools : Text → Tools) (s : Server)

theorem handle_server (r : Request) : (s.handle tools r).server =
    match r with
    | .setup rootUri rootPath folders =>
      { s.setRoot (requestedRoot s.working rootUri rootPath folders) with initialized := true }
    | .ready => s.refresh (tools s.root).linter
    | .shutdown => { s with initialized := false }
    | .didOpen uri text => { s with documents := s.documents.put uri text }
    | .didChange uri changes =>
      { s with documents := (s.documents.respond (.edit uri changes)).1 }
    | .didSave _ => (s.refresh (tools s.root).linter).analyze (tools s.root).analyzer
    | .didClose uri => { s with documents := (s.documents.respond (.close uri)).1 }
    | .exit | .setTrace | .hover _ _ | .formatting _ | .codeAction _ _ => s := by
  cases r with
  | didChange uri changes =>
    simp only [handle, Store.respond]
    cases s.documents.edit uri changes <;> rfl
  | didClose uri =>
    simp only [handle, Store.respond]
    cases s.documents.close uri <;> rfl
  | formatting uri =>
    simp only [handle]
    cases s.documents.text? uri with
    | none => rfl
    | some text =>
      simp only []
      cases formatEdits s.config.minimalEdits text ((tools s.root).formatter text) <;> rfl
  | setup | ready | shutdown | exit | setTrace | didOpen | didSave | hover | codeAction => rfl

theorem analyze_eq (pass : Option AnalyzerRun) :
    s.analyze pass = { s with symbols := (s.analyze pass).symbols } := by
  match pass with
  | some (.ended ⟨_, none⟩) => rfl
  | some (.ended ⟨_, some _⟩) => rfl
  | some (.panicked _) => rfl
  | none => rfl

@[simp]
theorem setRoot_documents (root : Text) : (s.setRoot root).documents = s.documents := by
  unfold setRoot
  split <;> rfl

@[simp]
theorem setRoot_symbols (root : Text) : (s.setRoot root).symbols = s.symbols := by
  unfold setRoot
  split <;> rfl

@[simp]
theorem setRoot_config (root : Text) : (s.setRoot root).config = s.config := by
  unfold setRoot
  split <;> rfl

theorem setRoot_diagnostics {s : Server} (fresh : s.diagnostics = Aggregator.start s.root)
    (root : Text) : (s.setRoot root).diagnostics = Aggregator.start (s.setRoot root).root := by
  unfold setRoot
  split
  · rfl
  · exact fresh

theorem handle_text? (r : Request) (uri : Uri) :
    (s.handle tools r).server.documents.text? uri = r.textAfter uri (s.documents.text? uri) := by
  rw [handle_server]
  cases r with
  | setup => simp [Request.textAfter]
  | didOpen key text => exact s.documents.text?_put key uri text
  | didChange key changes => exact text?_edit s.documents uri key changes
  | didClose key => exact text?_close s.documents uri key
  | didSave key =>
    dsimp only
    rw [analyze_eq]
    rfl
  | ready | shutdown | exit | setTrace | hover | formatting | codeAction => rfl

theorem handle_symbols (r : Request) : (s.handle tools r).server.symbols =
    if r.analyzes then (s.analyze (tools s.root).analyzer).symbols else s.symbols := by
  rw [handle_server]
  cases r with
  | setup => simp [Request.analyzes]
  | didSave key => simp only [symbols_analyze, refresh, Request.analyzes, if_true]
  | ready | shutdown | exit | setTrace | didOpen | didChange | didClose | hover | formatting
  | codeAction => rfl

theorem handle_diagnostics {r : Request} (work : r.isWork) : (s.handle tools r).server.diagnostics =
    if r.refreshes then s.diagnostics.refresh (tools s.root).linter else s.diagnostics := by
  rw [handle_server]
  cases r with
  | setup | shutdown | exit => simp [Request.isWork] at work
  | didSave key =>
    dsimp only
    rw [analyze_eq]
    rfl
  | ready | setTrace | didOpen | didChange | didClose | hover | formatting | codeAction => rfl

structure Continues (s t : Server) : Prop where
  config : t.config = s.config
  root : t.root = s.root
  initialized : t.initialized = s.initialized

theorem handle_continues {r : Request} (work : r.isWork) :
    s.Continues (s.handle tools r).server := by
  rw [handle_server]
  cases r with
  | setup | shutdown | exit => simp [Request.isWork] at work
  | didSave key =>
    dsimp only
    rw [analyze_eq]
    exact ⟨rfl, rfl, rfl⟩
  | ready | setTrace | didOpen | didChange | didClose | hover | formatting | codeAction =>
    exact ⟨rfl, rfl, rfl⟩

end Server

def Message.request? (m : Message) : Option Request :=
  (Request.decode m.method (m.params.map Json.sorted)).toOption

theorem Message.decode_of_request? {m : Message} {r : Request} (made : m.request? = some r) :
    Request.decode m.method (m.params.map Json.sorted) = .ok r := by
  unfold request? at made
  cases decoded : Request.decode m.method (m.params.map Json.sorted) with
  | error e => simp [decoded, Except.toOption] at made
  | ok other => simpa [decoded, Except.toOption] using made

def RequestError.refusal (method : Text) : RequestError → ServerError
  | unknownMethod => .unknownMethod method
  | missingParams => .missingParams
  | invalidParams => .invalidParams

-- One message, and what the tools of each root do while it is handled.
structure Step where
  tools : Text → Tools
  message : Message

namespace Step

def IsWork (step : Step) : Prop :=
  step.message.method ≠ "initialize" ∧ step.message.method ≠ "shutdown" ∧
    step.message.method ≠ "exit"

instance : DecidablePred IsWork := fun _ => inferInstanceAs (Decidable (_ ∧ _ ∧ _))

theorem IsWork.request? {step : Step} (work : step.IsWork) {r : Request}
    (made : step.message.request? = some r) : r.isWork := by
  have named := Request.method_of_decode (Message.decode_of_request? made)
  cases r with
  | setup => exact absurd named.symm work.1
  | shutdown => exact absurd named.symm work.2.1
  | exit => exact absurd named.symm work.2.2
  | ready | setTrace | didOpen | didChange | didSave | didClose | hover | formatting
  | codeAction => rfl

def requestFor? (uri : Uri) (step : Step) : Option Request :=
  step.message.request?.filter (Request.concerns uri)

def pass? (root : Text) (step : Step) : Option AnalyzerRun :=
  if step.message.request?.any Request.analyzes then (step.tools root).analyzer else none

def linterRun? (root : Text) (step : Step) : Option ToolRun :=
  if step.message.request?.any Request.refreshes then some (step.tools root).linter else none

end Step

namespace Server

def next (s : Server) (step : Step) : Server :=
  match step.message.request? with
  | some r => (s.handle step.tools r).server
  | none => s

theorem next_continues (s : Server) {step : Step} (work : step.IsWork) :
    s.Continues (s.next step) := by
  unfold next
  cases made : step.message.request? with
  | none => exact ⟨rfl, rfl, rfl⟩
  | some r => exact handle_continues step.tools s (work.request? made)

theorem foldl_next_continues (s : Server) {steps : List Step} (work : ∀ step ∈ steps, step.IsWork) :
    s.Continues (steps.foldl next s) := by
  induction steps generalizing s with
  | nil => exact ⟨rfl, rfl, rfl⟩
  | cons step steps ih =>
    have here := s.next_continues (work step (by simp))
    have later := ih (s.next step) fun step member => work step (by simp [member])
    exact ⟨later.config.trans here.config, later.root.trans here.root,
      later.initialized.trans here.initialized⟩

-- A part of the server that each step changes only through an input of its own is decided by the
-- sequence of those inputs.
theorem foldl_next_follows {α β : Type} (part : Server → β) {input? : Step → Option α}
    {update : β → α → β} {root : Text}
    (single : ∀ (t : Server) step, t.root = root → step.IsWork →
      part (t.next step) = ((input? step).map (update (part t))).getD (part t))
    {s : Server} (here : s.root = root) {steps : List Step} (work : ∀ step ∈ steps, step.IsWork) :
    part (steps.foldl next s) = (steps.filterMap input?).foldl update (part s) := by
  induction steps generalizing s with
  | nil => rfl
  | cons step steps ih =>
    have first := work step (by simp)
    have there : (s.next step).root = root := (s.next_continues first).root.trans here
    rw [List.foldl_cons, ih there fun step member => work step (by simp [member]),
      single s step here first]
    cases input : input? step <;> simp [input]

theorem text?_run (s : Server) {steps : List Step} (work : ∀ step ∈ steps, step.IsWork)
    (uri : Uri) :
    (steps.foldl next s).documents.text? uri =
      (steps.filterMap (Step.requestFor? uri)).foldl (fun held r => r.textAfter uri held)
        (s.documents.text? uri) := by
  refine foldl_next_follows (fun t => t.documents.text? uri) ?_ rfl work
  intro t step _ _
  unfold next Step.requestFor?
  cases step.message.request? with
  | none => rfl
  | some r =>
    rw [handle_text?]
    cases about : r.concerns uri with
    | true => simp [Option.filter, about]
    | false => simp [Option.filter, about, Request.textAfter_of_not_concerns about]

theorem symbols_run (s : Server) {steps : List Step} (work : ∀ step ∈ steps, step.IsWork) :
    (steps.foldl next s).symbols =
      (s.afterPasses (steps.filterMap (Step.pass? s.root))).symbols := by
  have install (passes : List AnalyzerRun) : (s.afterPasses passes).symbols =
      passes.foldl (fun index pass => pass.update?.toList.foldl Index.update index) s.symbols := by
    rw [symbols_afterPasses, List.foldl_filterMap]
    congr 1
    funext index pass
    cases pass.update? <;> rfl
  rw [install]
  refine foldl_next_follows symbols ?_ rfl work
  intro t step same _
  unfold next Step.pass?
  cases step.message.request? with
  | none => rfl
  | some r =>
    dsimp only
    rw [handle_symbols, symbols_analyze, same]
    cases analyzes : r.analyzes with
    | true => cases (step.tools s.root).analyzer <;> simp [analyzes]
    | false => simp [analyzes]

theorem diagnostics_run (s : Server) {steps : List Step} (work : ∀ step ∈ steps, step.IsWork) :
    (steps.foldl next s).diagnostics =
      s.diagnostics.afterRuns (steps.filterMap (Step.linterRun? s.root)) := by
  refine foldl_next_follows diagnostics ?_ rfl work
  intro t step same isWork
  unfold next Step.linterRun?
  cases made : step.message.request? with
  | none => rfl
  | some r =>
    dsimp only
    rw [handle_diagnostics step.tools t (isWork.request? made), same]
    cases refreshes : r.refreshes <;> simp [refreshes]

end Server

namespace Session

structure Live (s : Session) : Prop where
  connected : s.closed = false
  initialized : s.server.initialized = true

theorem Live.receive {s : Session} (live : s.Live) (tools : Text → Tools) {m : Message}
    {r : Request} (made : m.request? = some r) (going : m.method ≠ "exit") :
    s.receive tools m =
      let outcome := s.server.handle tools r
      ({ s with server := outcome.server }, outcome.sent,
        m.id.map fun id => ⟨id, outcome.answer⟩) := by
  rw [Session.receive, if_neg (by simp [live.connected]), if_neg going, Server.receive,
    if_neg (by simp [live.initialized]), Message.decode_of_request? made]

theorem receive_of_request?_none {m : Message} (none : m.request? = none)
    (going : m.method ≠ "exit") : ∃ response, ∀ s : Session, s.Live → ∀ tools,
      s.receive tools m = (s, [], response) := by
  unfold Message.request? at none
  cases decoded : Request.decode m.method (m.params.map Json.sorted) with
  | ok r => simp [decoded, Except.toOption] at none
  | error e =>
    refine ⟨m.id.map fun id => ⟨id, .error (e.refusal m.method)⟩, fun s live tools => ?_⟩
    rw [Session.receive, if_neg (by simp [live.connected]), if_neg going, Server.receive,
      if_neg (by simp [live.initialized]), decoded]
    cases e <;> rfl

theorem Live.receive_next {s : Session} (live : s.Live) {step : Step} (work : step.IsWork) :
    (s.receive step.tools step.message).1 = { s with server := s.server.next step } := by
  unfold Server.next
  cases made : step.message.request? with
  | none =>
    obtain ⟨response, refused⟩ := receive_of_request?_none made work.2.2
    rw [refused s live]
  | some r => rw [live.receive step.tools made work.2.2]

def after (s : Session) (steps : List Step) : Session :=
  steps.foldl (fun s step => (s.receive step.tools step.message).1) s

theorem after_concat (s : Session) (steps : List Step) (step : Step) :
    s.after (steps ++ [step]) = ((s.after steps).receive step.tools step.message).1 := by
  simp [after]

theorem Live.after {s : Session} (live : s.Live) {steps : List Step}
    (work : ∀ step ∈ steps, step.IsWork) :
    s.after steps = { s with server := steps.foldl Server.next s.server } := by
  induction steps generalizing s with
  | nil => rfl
  | cons step steps ih =>
    have first := work step (by simp)
    have next : Live { s with server := s.server.next step } :=
      ⟨live.connected, (s.server.next_continues first).initialized.trans live.initialized⟩
    rw [Session.after, List.foldl_cons, live.receive_next first]
    exact ih next fun step member => work step (by simp [member])

theorem Live.after_live {s : Session} (live : s.Live) {steps : List Step}
    (work : ∀ step ∈ steps, step.IsWork) : (s.after steps).Live := by
  rw [live.after work]
  exact ⟨live.connected, (s.server.foldl_next_continues work).initialized.trans live.initialized⟩

end Session

end LintServer
