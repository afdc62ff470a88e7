import DocBraces.Config.Load

/-!
# Checking settings

Faults of the configuration and settings that contradict each other are errors;
settings that leave nothing to do are worth a warning.
-/

set_option autoImplicit false

namespace DocBraces.Config

open DocBraces.Files DocBraces.Session DocBraces.Text

structure CheckResult where
  valid : Bool := false
  settings : Option Settings := none
  file : Option Path := none
  errors : List String := []
  warnings : List String := []

def settingsErrors (s : Settings) : List String :=
  (if Path.ofString s.stagingDir = Path.ofString s.docsDir then
    [s!"staging_dir and docs_dir must differ (both are {quoted s.stagingDir})"] else []) ++
  (if s.fallback.enabled && s.fallback.primary.isEmpty then
    ["fallback.primary must name a renderer command."] else [])

def settingsWarnings (s : Settings) : List String :=
  (if s.patterns.isEmpty then
    ["No file patterns configured. Nothing will be staged."] else []) ++
  (if s.disabled then
    ["Staging and post-processing are disabled (BRACEFENCE_DISABLE)."] else [])

def check (file : Option Path) (e : Environment) : Run CheckResult := do
  let file ← match file with
    | some p => pure (some p)
    | none => find none
  let warnings := if file.isNone then [s!"No {fileName} found — using defaults."] else []
  try
    let s ← load file e
    let errors := settingsErrors s
    return { valid := errors.isEmpty, settings := some s, file, errors,
             warnings := warnings ++ settingsWarnings s }
  catch
    | .config f => return { file, errors := [f.message], warnings }
    | f => throw f

end DocBraces.Config
