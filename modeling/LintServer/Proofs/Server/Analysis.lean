import LintServer.Proofs.Grouping
import LintServer.Proofs.Symbol.Selection
import LintServer.Server.Basic

set_option autoImplicit false

namespace LintServer

def Symbol.decodedFor (uri : Uri) (output : Text) : List Symbol :=
  (((Symbol.decodeLines output).filterMap Except.toOption).filter (·.1 = uri)).map Prod.snd

theorem Symbol.getElem?_decode (output : Text) (uri : Uri) : (Symbol.decode output)[uri]? =
    if decodedFor uri output = [] then none else some (decodedFor uri output) :=
  Groups.getElem?_ofList _ uri

namespace AnalyzerRun

def output? : AnalyzerRun → Option Text
  | ended ⟨output, none⟩ => some output
  | _ => none

def reason : AnalyzerRun → Text
  | panicked message => "panic: " ++ message
  | ended run => (run.failure.map ToolFailure.message).getD []

def decoded? (uri : Uri) (pass : AnalyzerRun) : Option (List Symbol) :=
  pass.output?.bind fun output =>
    if Symbol.decodedFor uri output = [] then none else some (Symbol.decodedFor uri output)

def lastDecoded (uri : Uri) (passes : List AnalyzerRun) : Option (List Symbol) :=
  (passes.filterMap (decoded? uri)).getLast?

def update? (pass : AnalyzerRun) : Option Index.Update :=
  pass.output?.map fun output => .install (Symbol.decode output)

theorem lastGiven_updates (uri : Uri) (passes : List AnalyzerRun) :
    Index.lastGiven (passes.filterMap update?) uri = lastDecoded uri passes := by
  rw [Index.lastGiven, ← List.getLast?_filterMap, List.filterMap_filterMap, lastDecoded]
  congr 2
  funext pass
  unfold update? decoded?
  cases pass.output? with
  | none => rfl
  | some output => exact Symbol.getElem?_decode output uri

end AnalyzerRun

namespace Server

open AnalyzerRun

def afterPasses (s : Server) (passes : List AnalyzerRun) : Server :=
  passes.foldl (fun s pass => s.analyze (some pass)) s

theorem analyze_of_output?_none {pass : AnalyzerRun} (failed : pass.output? = none) (s : Server) :
    s.analyze (some pass) = s := by
  match pass with
  | .ended ⟨_, none⟩ => simp [output?] at failed
  | .ended ⟨_, some _⟩ => rfl
  | .panicked _ => rfl

theorem analyzerFailure?_of_output?_none {pass : AnalyzerRun} (failed : pass.output? = none) :
    analyzerFailure? (some pass) = some ("analyzer pass failed: " ++ pass.reason) := by
  match pass with
  | .ended ⟨_, none⟩ => simp [output?] at failed
  | .ended ⟨_, some _⟩ => rfl
  | .panicked _ => rfl

theorem symbols_analyze (s : Server) (pass : Option AnalyzerRun) :
    (s.analyze pass).symbols = (pass.bind update?).toList.foldl Index.update s.symbols := by
  match pass with
  | some (.ended ⟨_, none⟩) => rfl
  | some (.ended ⟨_, some _⟩) => rfl
  | some (.panicked _) => rfl
  | none => rfl

theorem symbols_afterPasses (s : Server) (passes : List AnalyzerRun) :
    (s.afterPasses passes).symbols = (passes.filterMap update?).foldl Index.update s.symbols := by
  induction passes generalizing s with
  | nil => rfl
  | cons pass passes ih =>
    rw [afterPasses, List.foldl_cons, ← afterPasses, ih, symbols_analyze, ← List.foldl_append]
    cases update : pass.update? <;> simp [update]

theorem symbols_start_afterPasses (config : Config) (working : Text) (passes : List AnalyzerRun) :
    ((start config working).afterPasses passes).symbols =
      Index.reached (passes.filterMap update?) :=
  symbols_afterPasses (start config working) passes

theorem hover_after_passes (config : Config) (working : Text) (passes : List AnalyzerRun) :
    let s := (start config working).afterPasses passes
    (∀ tools uri p, s.handle tools (.hover uri p) =
      ⟨s, .ok (.hover ((lastDecoded uri passes).bind fun symbols =>
        (Symbol.normalize symbols).find? (·.Covers p))), []⟩) ∧
      (∀ (t : Server) pass, pass.output? = none →
        t.analyze (some pass) = t ∧
          analyzerFailure? (some pass) = some ("analyzer pass failed: " ++ pass.reason) ∧
          ∀ tools uri, (tools t.root).analyzer = some pass →
            (t.handle tools (.didSave uri)).server.symbols = t.symbols ∧
              .message 1 ("analyzer pass failed: " ++ pass.reason) ∈
                (t.handle tools (.didSave uri)).sent) ∧
      ∀ (t : Server) output uri, Symbol.decodedFor uri output = [] →
        analyzerFailure? (some (.ended ⟨output, none⟩)) = none ∧
          (t.analyze (some (.ended ⟨output, none⟩))).symbols.table? uri = t.symbols.table? uri := by
  intro s
  refine ⟨fun tools uri p => ?_, fun t pass failed => ?_, fun t output uri none => ⟨rfl, ?_⟩⟩
  · rw [handle, symbols_start_afterPasses, Index.find?_reached, lastGiven_updates]
    rfl
  · have reported := analyzerFailure?_of_output?_none failed
    refine ⟨analyze_of_output?_none failed t, reported, fun tools uri found => ?_⟩
    simp only [handle, found]
    rw [analyze_of_output?_none failed, analyzerNotifications, reported]
    exact ⟨rfl, by simp⟩
  · rw [analyze, Index.table?_install, Symbol.getElem?_decode, if_pos none]
    rfl

-- Two documents are analyzed; then passes exit with an output, panic, and complete with one record
-- that is malformed and one for the second document only.
theorem hover_after_passes_mixed :
    let both : Text := "\x7b\"uri\":\"a\",\"name\":\"x\",\"range\":\x7b\"start\":" ++
      "\x7b\"character\":2\x7d,\"end\":\x7b\"character\":5\x7d\x7d\x7d\n\x7b\"uri\":\"b\"\x7d"
    let second : Text := "[\n\x7b\"uri\":\"b\",\"name\":\"y\"\x7d"
    let exited : AnalyzerRun := .ended ⟨"\x7b\"uri\":\"a\"\x7d", some (.exit "an" 1 [])⟩
    let s := (start .defaults "/w").afterPasses
      [.ended ⟨both, none⟩, exited, .panicked "boom", .ended ⟨second, none⟩]
    (∀ tools, s.handle tools (.hover "a" ⟨0, 4⟩) =
      ⟨s, .ok (.hover (some ⟨"x", [], ⟨⟨0, 2⟩, ⟨0, 5⟩⟩⟩)), []⟩) ∧
      exited.output? = none ∧ s.analyze (some exited) = s ∧
      analyzerFailure? (some exited) = some "analyzer pass failed: an exited with status 1" ∧
      Symbol.decodedFor "a" second = [] ∧
      (s.analyze (some (.ended ⟨second, none⟩))).symbols.table? "a" = s.symbols.table? "a" := by
  intro both second exited s
  obtain ⟨hover, failed, kept⟩ := hover_after_passes .defaults "/w"
    [.ended ⟨both, none⟩, exited, .panicked "boom", .ended ⟨second, none⟩]
  have unmentioned : Symbol.decodedFor "a" second = [] := by decide +kernel
  have found : (lastDecoded "a" [.ended ⟨both, none⟩, exited, .panicked "boom",
      .ended ⟨second, none⟩]).bind (fun symbols => (Symbol.normalize symbols).find?
        (·.Covers ⟨0, 4⟩)) = some ⟨"x", [], ⟨⟨0, 2⟩, ⟨0, 5⟩⟩⟩ := by decide +kernel
  refine ⟨fun tools => ?_, rfl, (failed s exited rfl).1, ?_, unmentioned,
    (kept s second "a" unmentioned).2⟩
  · exact (hover tools "a" ⟨0, 4⟩).trans (by rw [found])
  · exact (failed s exited rfl).2.1

end Server

end LintServer
