import DocBraces.Config.Search
import DocBraces.Yaml.Value

/-!
# Loading settings

Settings come from a file, if there is one, and from the environment, which has the
last word on its switches.
-/

set_option autoImplicit false

namespace DocBraces.Config

open DocBraces.Files DocBraces.Session DocBraces.Data

def logger : String := "bracefence.core.config.loader"

def debug (message : String) : Run Unit := log logger Log.debugLevel message

def applyEnvironment (s : Settings) (e : Environment) : Run Settings := do
  let o := Settings.Overrides.ofEnvironment e
  unless o.names.isEmpty do
    debug ("Environment overrides: " ++ ", ".intercalate o.names)
  return s.override o

/-- The text of a file; a file that does not open is a fault of the configuration. -/
def readText (file : Path) : Run (List Char) := do
  let bytes ← try readBytes file catch
    | .file f => throw (.config (.unreadable file.toString f))
    | f => throw f
  match Text.Utf8.decode bytes with
  | .ok cs => return Text.unifyNewlines cs
  | .error f => throw (.undecodable f)

def parse (file : Path) (text : List Char) : Run Document :=
  match Yaml.load text with
  | .ok d => return d
  | .error .malformed => throw (.config (.malformed file.toString))
  | .error f => throw (.data f)

/-- The part of a document that holds the settings: what is under the program's name,
else the whole mapping. No data is an empty mapping. -/
def settingsPart (d : Document) : Except String Document :=
  let orEmpty := fun (d : Document) => match d.graph.cell d.root with
    | .scalar .null => (⟨[.mapping []], 0⟩ : Document)
    | _ => d
  let d := orEmpty d
  match d.graph.cell d.root with
  | .mapping entries => match (Cell.mapping entries).get? "bracefence" with
    | some r => .ok (orEmpty { d with root := r })
    | none => .ok d
  | c => .error c.typeName

def settingsOf (file : Path) (d : Document) : Except Fault Settings :=
  match settingsPart d with
  | .error typeName => .error (.notMapping file.toString typeName)
  | .ok part => (Schema.read part.graph part.root).mapError .invalid

def loadFile (file : Path) : Run Settings := do
  unless ← isFile file do throw (.config (.missing file.toString))
  debug s!"Loading config from {file.toString}"
  let d ← parse file (← readText file)
  match settingsOf file d with
  | .error f => throw (.config f)
  | .ok s =>
    log logger Log.infoLevel
      s!"Loaded config from {file.toString} (staging={s.stagingDir}, docs={s.docsDir})"
    return s

def load (file : Option Path) (e : Environment) : Run Settings := do
  let file ← match file with
    | some p => pure (some p)
    | none => find none
  match file with
  | none =>
    debug s!"No {fileName} found — using defaults"
    applyEnvironment {} e
  | some p => applyEnvironment (← loadFile p) e

end DocBraces.Config
