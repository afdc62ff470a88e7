import DocBraces.Proofs.Config.Loading

/-!
# Checked configurations

The check judges the settings that loading gives, after the environment has had its say.
A command for rendering has to be named unless the fallback is switched off.
-/

set_option autoImplicit false

namespace DocBraces.Config

open DocBraces.Files DocBraces.Session

variable {file : Option Path} {e : Environment} {s : Session}

/-- Settings as they are before the environment is asked: the defaults, or those of the
file that is named or found. -/
def Given (file : Option Path) (s : Session) (given : Settings) : Prop :=
  outcome (choose file) s = .ok none ∧ given = {} ∨
    ∃ p, outcome (choose file) s = .ok (some p) ∧ outcome (loadFile p) s = .ok given

theorem load_ok_iff {st : Settings} : outcome (load file e) s = .ok st ↔
    ∃ given, Given file s given ∧ st = given.override (.ofEnvironment e) := by
  rw [outcome_load]
  unfold Given
  rcases outcome (choose file) s with f | (_ | p)
  · simp
  · simp [eq_comm]
  · cases hl : outcome (loadFile p) s with
    | error f => simp [hl, Except.map]
    | ok given => simp [hl, Except.map, eq_comm]

theorem load_congr {other : Option Path}
    (h : outcome (choose file) s = outcome (choose other) s) :
    outcome (load file e) s = outcome (load other e) s := by
  rw [outcome_load, outcome_load, h]

/-- A check that ends has settings to judge, or has met a fault of the configuration. -/
theorem check_ok {r : CheckResult} (h : outcome (check file e) s = .ok r) :
    r.settings = none ∧ r.valid = false ∨
      ∃ st, outcome (load file e) s = .ok st ∧ r.settings = some st ∧
        r.valid = (settingsErrors st).isEmpty := by
  rw [check_eq] at h
  obtain ⟨found, hc, h, -⟩ := ok_of_bind h
  rw [choose_looks] at h
  rw [load_congr (hc.trans (choose_again hc).symm)]
  unfold checkChosen at h
  dsimp only at h
  rw [outcome_bind, outcome_tryCatch, outcome_bind] at h
  rcases hl : outcome (load found e) s with g | st
  · rw [hl] at h
    cases g with
    | config fault =>
      obtain rfl := Except.ok.inj h
      exact .inl ⟨rfl, rfl⟩
    | _ => cases h
  · rw [hl] at h
    obtain rfl := Except.ok.inj h
    exact .inr ⟨st, rfl, rfl, rfl⟩

/-- The fallback is switched off: by the environment, or by the settings where the
environment does not say. -/
def SwitchedOff (given : FallbackSettings) (e : Environment) : Prop :=
  e.flag? noFallbackVariable = some true ∨
    e.flag? noFallbackVariable = none ∧ given.enabled = false

theorem switchedOff_iff {given : Settings} : SwitchedOff given.fallback e ↔
    (given.override (.ofEnvironment e)).fallback.enabled = false := by
  unfold SwitchedOff Settings.override Settings.Overrides.ofEnvironment
  cases e.flag? noFallbackVariable with
  | none => simp
  | some off => cases off <;> simp

theorem settingsErrors_isEmpty_iff {st : Settings} : (settingsErrors st).isEmpty = true ↔
    Path.ofString st.stagingDir ≠ Path.ofString st.docsDir ∧
      (st.fallback.enabled = true → st.fallback.primary ≠ []) := by
  unfold settingsErrors
  simp [List.isEmpty_iff]

end DocBraces.Config
