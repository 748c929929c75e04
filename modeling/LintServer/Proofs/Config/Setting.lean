import LintServer.Config.Basic
import LintServer.Proofs.Json.Values

set_option autoImplicit false

namespace LintServer.Config

open Json (Over Slots Steady Ignores Follows overText overBool overObject overSlots)

inductive Role where
  | linter
  | formatter
  | analyzer
deriving DecidableEq, Repr

namespace Role

def name : Role → Text
  | linter => "linter"
  | formatter => "formatter"
  | analyzer => "analyzer"

def command : Role → Config → List Text
  | linter, c => c.linter
  | formatter, c => c.formatter
  | analyzer, c => c.analyzer

def slots : Role → Draft → Slots Text
  | linter, d => ⟨d.config.linter, d.spareLinter⟩
  | formatter, d => ⟨d.config.formatter, d.spareFormatter⟩
  | analyzer, d => ⟨d.config.analyzer, d.spareAnalyzer⟩

end Role

inductive Setting where
  | root
  | command (role : Role)
  | minimalEdits
  | logLevel
  | logFile
deriving DecidableEq, Repr

namespace Setting

def place : Setting → Text × List Text
  | root => ("root", [])
  | command role => (role.name, [])
  | minimalEdits => ("format", ["minimal_edits"])
  | logLevel => ("log", ["level"])
  | logFile => ("log", ["file"])

def path (s : Setting) : List Text := s.place.1 :: s.place.2

def Same : Setting → Config → Config → Prop
  | root, c, d => c.root = d.root
  | command role, c, d => role.command c = role.command d
  | minimalEdits, c, d => c.minimalEdits = d.minimalEdits
  | logLevel, c, d => c.logLevel = d.logLevel
  | logFile, c, d => c.logFile = d.logFile

def Held : Setting → Type
  | root | logLevel | logFile => Text
  | command _ => Slots Text
  | minimalEdits => Bool

def held : (s : Setting) → Draft → s.Held
  | root, d => d.config.root
  | command role, d => role.slots d
  | minimalEdits, d => d.config.minimalEdits
  | logLevel, d => d.config.logLevel
  | logFile, d => d.config.logFile

def readOver : (s : Setting) → Over s.Held
  | root | logLevel | logFile => overText
  | command _ => Draft.overCommand
  | minimalEdits => overBool

def set : (s : Setting) → Draft → s.Held → Draft
  | root, d, text => { d with config.root := text }
  | command .linter, d, words =>
    { d with config.linter := words.items, spareLinter := words.spare }
  | command .formatter, d, words =>
    { d with config.formatter := words.items, spareFormatter := words.spare }
  | command .analyzer, d, words =>
    { d with config.analyzer := words.items, spareAnalyzer := words.spare }
  | minimalEdits, d, flag => { d with config.minimalEdits := flag }
  | logLevel, d, text => { d with config.logLevel := text }
  | logFile, d, text => { d with config.logFile := text }

def reader (s : Setting) : Over Draft := fun d json => return s.set d (← s.readOver (s.held d) json)

def formatReaders : Json.Fields Draft := [("minimal_edits", minimalEdits.reader)]

def logReaders : Json.Fields Draft := [("level", logLevel.reader), ("file", logFile.reader)]

def readers (unknown : Json.Unknown) : Json.Fields Draft := [
  ("root", root.reader),
  ("linter", (command .linter).reader),
  ("formatter", (command .formatter).reader),
  ("analyzer", (command .analyzer).reader),
  ("format", overObject unknown formatReaders),
  ("log", overObject unknown logReaders)]

theorem fields_eq (unknown : Json.Unknown) : Draft.fields unknown = readers unknown := rfl

theorem held_set (s : Setting) (d : Draft) (value : s.Held) : s.held (s.set d value) = value := by
  rcases s with _ | (_ | _ | _) | _ | _ | _ <;> rfl

theorem held_set_of_ne {s t : Setting} (other : s ≠ t) (d : Draft) (value : s.Held) :
    t.held (s.set d value) = t.held d := by
  rcases s with _ | (_ | _ | _) | _ | _ | _ <;> rcases t with _ | (_ | _ | _) | _ | _ | _ <;>
    first | rfl | exact absurd rfl other

theorem follows_reader (s : Setting) : Follows s.reader [] s.held s.readOver := .set s.held_set

theorem ignores_reader {s t : Setting} (other : s ≠ t) : Ignores s.reader t.held :=
  .set (held_set_of_ne other)

theorem readers_distinct (unknown : Json.Unknown) :
    ((readers unknown).map fun f => f.1.fold).Nodup := by
  have names : ((readers unknown).map fun f => f.1.fold) =
      (["root", "linter", "formatter", "analyzer", "format", "log"] : List Text).map Text.fold := rfl
  rw [names]
  decide +kernel

theorem ignored (s : Setting) (unknown : Json.Unknown) :
    ∀ g ∈ readers unknown, g.1 ≠ s.place.1 → Ignores g.2 s.held := by
  have other (t : Setting) (apart : t.place.1 ≠ s.place.1) : Ignores t.reader s.held :=
    ignores_reader fun same => apart (same ▸ rfl)
  intro g listed apart
  simp only [readers, List.mem_cons, List.not_mem_nil, or_false] at listed
  rcases listed with rfl | rfl | rfl | rfl | rfl | rfl
  · exact other root apart
  · exact other (command .linter) apart
  · exact other (command .formatter) apart
  · exact other (command .analyzer) apart
  · exact .overObject (List.forall_mem_singleton.mpr (other minimalEdits apart)) unknown
  · exact .overObject (List.forall_mem_cons.mpr
      ⟨other logLevel apart, List.forall_mem_singleton.mpr (other logFile apart)⟩) unknown

theorem follows_format (unknown : Json.Unknown) :
    Follows (overObject unknown formatReaders) minimalEdits.place.2 minimalEdits.held
      minimalEdits.readOver := by
  have distinct : (formatReaders.map fun f => f.1.fold).Nodup := List.nodup_singleton _
  refine .overObject (f := ("minimal_edits", minimalEdits.reader)) distinct (.head _)
    minimalEdits.follows_reader ?_ unknown
  exact List.forall_mem_singleton.mpr fun apart => absurd rfl apart

theorem logReaders_distinct : (logReaders.map fun f => f.1.fold).Nodup := by
  have names : (logReaders.map fun f => f.1.fold) = (["level", "file"] : List Text).map Text.fold := rfl
  rw [names]
  decide +kernel

theorem follows_logLevel (unknown : Json.Unknown) :
    Follows (overObject unknown logReaders) logLevel.place.2 logLevel.held logLevel.readOver := by
  refine .overObject (f := ("level", logLevel.reader)) logReaders_distinct (.head _)
    logLevel.follows_reader ?_ unknown
  exact List.forall_mem_cons.mpr ⟨fun apart => absurd rfl apart,
    List.forall_mem_singleton.mpr fun _ => ignores_reader (by decide)⟩

theorem follows_logFile (unknown : Json.Unknown) :
    Follows (overObject unknown logReaders) logFile.place.2 logFile.held logFile.readOver := by
  refine .overObject (f := ("file", logFile.reader)) logReaders_distinct (.tail _ (.head _))
    logFile.follows_reader ?_ unknown
  exact List.forall_mem_cons.mpr ⟨fun _ => ignores_reader (by decide),
    List.forall_mem_singleton.mpr fun apart => absurd rfl apart⟩

theorem follows (s : Setting) (unknown : Json.Unknown) :
    Follows (overObject unknown (readers unknown)) s.path s.held s.readOver := by
  have within : ∃ read, (s.place.1, read) ∈ readers unknown ∧
      Follows read s.place.2 s.held s.readOver := by
    rcases s with _ | (_ | _ | _) | _ | _ | _
    · exact ⟨_, .head _, follows_reader _⟩
    · exact ⟨_, .tail _ (.head _), follows_reader _⟩
    · exact ⟨_, .tail _ (.tail _ (.head _)), follows_reader _⟩
    · exact ⟨_, .tail _ (.tail _ (.tail _ (.head _))), follows_reader _⟩
    · exact ⟨_, .tail _ (.tail _ (.tail _ (.tail _ (.head _)))), follows_format unknown⟩
    · exact ⟨_, .tail _ (.tail _ (.tail _ (.tail _ (.tail _ (.head _))))), follows_logLevel unknown⟩
    · exact ⟨_, .tail _ (.tail _ (.tail _ (.tail _ (.tail _ (.head _))))), follows_logFile unknown⟩
  obtain ⟨read, listed, own⟩ := within
  exact .overObject (readers_distinct unknown) listed own (s.ignored unknown) unknown

theorem reader_steady (s : Setting) : Steady s.reader := by
  have steady : Steady s.readOver := by
    cases s with
    | root | logLevel | logFile => exact Json.overText_steady
    | command => exact Json.overText_steady.overSlots
    | minimalEdits => exact Json.overBool_steady
  exact steady.set s.held s.set

theorem readers_steady (unknown : Json.Unknown) : ∀ f ∈ readers unknown, Steady f.2 := by
  have format : Steady (overObject unknown formatReaders) :=
    Json.overObject_steady (List.forall_mem_singleton.mpr minimalEdits.reader_steady) unknown
  have log : Steady (overObject unknown logReaders) :=
    Json.overObject_steady (List.forall_mem_cons.mpr
      ⟨logLevel.reader_steady, List.forall_mem_singleton.mpr logFile.reader_steady⟩) unknown
  intro f listed
  simp only [readers, List.mem_cons, List.not_mem_nil, or_false] at listed
  rcases listed with rfl | rfl | rfl | rfl | rfl | rfl
  · exact root.reader_steady
  · exact (command .linter).reader_steady
  · exact (command .formatter).reader_steady
  · exact (command .analyzer).reader_steady
  · exact format
  · exact log

end Setting

theorem readOver_eq_ok {unknown : Json.Unknown} {old new : Config} {json : Json} :
    readOver unknown old json = .ok new ↔ ∃ draft,
      overObject unknown (Setting.readers unknown) ⟨old, [], [], []⟩ json = .ok draft ∧
        draft.config = new := by
  unfold readOver
  rw [Setting.fields_eq]
  cases overObject unknown (Setting.readers unknown) ⟨old, [], [], []⟩ json with
  | error cause => exact ⟨nofun, nofun⟩
  | ok draft =>
    constructor
    · intro done
      exact ⟨draft, rfl, Except.ok.inj done⟩
    · rintro ⟨_, here, rfl⟩
      obtain rfl := Except.ok.inj here
      rfl

theorem readOver_steady (unknown : Json.Unknown) : Steady (readOver unknown) := by
  intro old other json new read
  obtain ⟨draft, first, -⟩ := readOver_eq_ok.mp read
  obtain ⟨result, here⟩ :=
    Json.overObject_steady (Setting.readers_steady unknown) unknown _ ⟨other, [], [], []⟩ json draft first
  exact ⟨result.config, readOver_eq_ok.mpr ⟨result, here, rfl⟩⟩

end LintServer.Config
