import DocBraces.Proofs.CommandLine.Acting
import DocBraces.Proofs.Config.Accepted
import DocBraces.Proofs.Docs.Sources

/-!
# Commands that turn one file into another

A command line that names a source and an output has the source read, and the output
holds what the command makes of it in the end. Logging starts first, and loading the
settings does no more than to log, so that neither of them gets between the two files.
-/

set_option autoImplicit false

namespace DocBraces.CommandLine

open DocBraces.Files DocBraces.Session DocBraces.Text

variable {s s' : Session}

variable {a : Action} {config : Option String}

/-- A path opens a file that holds some bytes and is not the log. -/
def Opens (p : Path) (bytes : List UInt8) (s : Session) : Prop :=
  ∃ place, outcome (opening .reading p.toString) s = .ok (.present place (.file bytes)) ∧
    s.logFile ≠ some place

/-- A word that names a file to be read. It is taken neither for an option nor for the
standard input, and the file does not keep the log. -/
structure Source (word : String) (bytes : List UInt8) (s : Session) : Prop where
  noOption : looksLikeOption word = false
  noHyphen : word ≠ "-"
  noNul : hasNul word = false
  there : ∃ place n, s.tree.resolve true s.here word = .ok (.present place n) ∧ n ≠ .folder ∧
    place ∉ s.unreadable
  opens : Opens (Path.ofString word) bytes s

variable {p out : Path} {bytes : List UInt8} {place : Place} {text : List Char}

theorem Opens.record (h : Opens p bytes s) (r : Log.Record) : Opens p bytes (s.record r) := by
  obtain ⟨place, ho, hl⟩ := h
  obtain ⟨locked, noNul, hr⟩ := opening_ok.mp ho
  obtain ⟨t, hr', hlike⟩ := Tree.resolve_alike (record_alike s r) hr
  have ho' : outcome (opening .reading p.toString) (s.record r) = .ok t := by
    refine opening_ok.mpr ⟨?_, noNul, ?_⟩
    · rwa [denies, record_locked, record_here]
    · rw [record_here, hr']
  have there : s.tree.node? place = some (.file bytes) := target_holds (target_ok.mpr ⟨noNul, hr⟩)
  have same : t = .present place (.file bytes) := by
    obtain rfl | ⟨_, a, b, hp, rfl⟩ := hlike
    · rfl
    · obtain ⟨rfl, rfl⟩ : place = _ ∧ bytes = a := by simpa using hp
      have hn : (s.record r).tree.node? place = some (.file b) :=
        target_holds (target_ok.mpr (opening_ok.mp ho').2)
      rw [node?_record r hl, there] at hn
      exact congrArg _ (Option.some.inj hn).symm
  exact ⟨place, same ▸ ho', by rwa [record_logFile]⟩

theorem Opens.reads (h : Opens p bytes s) : outcome (readBytes p) s = .ok bytes := by
  obtain ⟨place, ho, _⟩ := h
  unfold readBytes
  rw [outcome_bind, ho]
  rfl

theorem loadSettings_ends {scope : Scope} {st : Settings}
    (loaded : outcome (Config.load scope.config s.environment) s = .ok st) :
    Ends (loadSettings scope) s st (after (Config.load scope.config s.environment) s) := by
  have asked : Ends environment s s.environment s := ⟨rfl, rfl⟩
  unfold loadSettings
  refine .bind asked ⟨?_, ?_⟩
  · rw [ending_bind, ending_run, outcome_tryCatch, outcome_map, loaded]
    rfl
  · rw [left_bind, ending_run, outcome_tryCatch, outcome_map, loaded]
    dsimp only [Except.map]
    rw [left_run, after_tryCatch, outcome_map, loaded, left_pure]
    exact after_map _ _ _

variable {word outWord : String} {s₁ : Session}

end DocBraces.CommandLine
