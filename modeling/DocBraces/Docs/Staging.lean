import DocBraces.Config.Settings
import DocBraces.Session.Files

/-!
# Staging

Sanitized copies of a project's texts, made in a directory of their own for the
documentation generator to read. The texts themselves stay as they are.
-/

set_option autoImplicit false

namespace DocBraces.Docs

open DocBraces.Files DocBraces.Session

structure StagingResult where
  stagingDir : Option Path := none
  written : List Path := []
  /-- Names of candidates that are no files or no UTF-8. -/
  skipped : List String := []
  docsCleaned : Bool := false
  disabled : Bool := false
  deriving DecidableEq, Repr

def stagingLogger : String := "bracefence.core.services.staging"

def stagingLog (level : Nat) (message : String) : Run Unit := log stagingLogger level message

def select (root : Path) (pattern : String) : Run (List Path) :=
  match Glob.Pattern.ofString pattern with
  | .error f => throw (.pattern f)
  | .ok pat => do
    let s ← get
    match Glob.find s.view s.levels root pat with
    | .ok ps => return ps
    | .error f => throw (.ofWalk f)

def candidates (root : Path) (patterns : List String) : Run (List Path) :=
  return Path.sort (← patterns.mapM (select root)).flatten

def codecOf (s : Settings) : Run Codec :=
  match s.codec with
  | .ok k => return k
  | .error f => throw (.codec f)

def sanitize (k : Codec) (text : List Char) : Run (List Char) := do
  if Codec.endsInFence text then
    log "bracefence.core.services.brace_fence" Log.debugLevel
      "Text ended inside an unterminated code fence"
  return k.sanitize text

def stageOne (k : Codec) (out : Path) (result : StagingResult) (source : Path) :
    Run StagingResult := do
  let name := source.baseName
  let skipping := { result with skipped := result.skipped ++ [name] }
  unless ← isFile source do
    stagingLog Log.debugLevel s!"Skipping non-file candidate {name}"
    return skipping
  match Text.Utf8.decode (← readBytes source) with
  | .error f =>
    stagingLog Log.warningLevel s!"Skipping {name}: not valid UTF-8 ({f.message})"
    return skipping
  | .ok text =>
    let copy := out.child name
    writeText copy (← sanitize k text)
    stagingLog Log.debugLevel s!"Staged {name} → {copy.toString}"
    return { result with written := result.written ++ [copy] }

def stage (root : Path) (s : Settings) : Run StagingResult := do
  if s.disabled then
    stagingLog Log.infoLevel "Staging disabled — nothing to do"
    return { disabled := true }
  let k ← codecOf s
  let out := root.join (Path.ofString s.stagingDir)
  makePath out
  let result ← (← candidates root s.patterns).foldlM (stageOne k out) { stagingDir := some out }
  stagingLog Log.infoLevel s!"Staged {result.written.length} file(s) into {out.toString}"
  return result

def clean (root : Path) (s : Settings) : Run Bool := do
  let docs := root.join (Path.ofString s.docsDir)
  unless ← isFolder docs do
    stagingLog Log.debugLevel s!"No docs directory at {docs.toString} — nothing to clean"
    return false
  removeTree docs
  stagingLog Log.infoLevel s!"Removed {docs.toString}"
  return true

/-- Removes the docs directory if that is wanted, and stages. `cleaning` has the last
word over the settings. -/
def prepare (root : Path) (s : Settings) (cleaning : Option Bool) : Run StagingResult := do
  if s.disabled then stage root s
  else
    let docsCleaned ← if cleaning.getD s.cleanDocs then clean root s else pure false
    return { ← stage root s with docsCleaned }

end DocBraces.Docs
