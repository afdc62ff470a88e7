import DocBraces.CommandLine.Act
import DocBraces.Report.Summary

/-!
# Running command lines

What each command does with its options, what it prints, and its exit status.
-/

set_option autoImplicit false

namespace DocBraces.CommandLine

open DocBraces.Files DocBraces.Report

/-- What the options in front of the command say. -/
structure Scope where
  verbose : Bool
  quiet : Bool
  config : Option Path

def nonemptyPath (s : Option String) : Option Path :=
  (s.filter (!·.isEmpty)).map Path.ofString

def Scope.ofGivens (gs : Givens) : Scope where
  verbose := Givens.has gs .verbose
  quiet := Givens.has gs .quiet
  config := nonemptyPath (Givens.value? gs .config)

def environment : Act Environment := return (← run get).environment

def startLogging (gs : Givens) : Act Unit := do
  let e ← environment
  let debug := Givens.has gs .debug
  run <| Session.setupLogging {
    level := Log.resolveLevel debug (Givens.has gs .verbose) (Givens.has gs .quiet) e
    file := e.get? logFileVariable
    fileLevel := e.get? logFileLevelVariable
    holdLibraries := !debug }

def loadSettings (scope : Scope) : Act Settings := do
  let e ← environment
  let loaded ← run <| try Sum.inl <$> Config.load scope.config e catch
    | .config f => pure (Sum.inr f)
    | f => throw f
  match loaded with
  | .inl s => return s
  | .inr f =>
    sayLine s!"❌ {f.message}"
    exit 1

def findRoot (scope : Scope) : Act Path := run do
  let file ← match scope.config with
    | some p => pure (some p)
    | none => Config.find none
  Config.projectRoot file

def readSource (source : String) : Act (List Char) := do
  let bytes ← if source = "-" then pure (← run get).input
    else run (Session.readBytes (Path.ofString source))
  match Text.Utf8.decode bytes with
  | .ok cs => return cs
  | .error f =>
    sayLine s!"❌ {source} is not valid UTF-8: {f.message}"
    exit 1

def writeOutput (text : List Char) (output : Option Path) : Act Unit :=
  match output with
  | some p => run (Session.writeText p text)
  | none => say (String.ofList text)

def sayJson (j : Json) : Act Unit := sayLine j.render

def sanitize (scope : Scope) (source : String) (output : Option Path) : Act Unit := do
  let k ← run (Docs.codecOf (← loadSettings scope))
  let text ← readSource source
  writeOutput (← run (Docs.sanitize k text)) output

def restore (source : String) (output : Option Path) : Act Unit := do
  writeOutput (Codec.default.restore (← readSource source)) output

def renderLogger : String := "bracefence.core.services.render_fallback"

def remarkLevel : Render.Remark → Nat
  | .retrying => Log.infoLevel
  | .adopted => Log.debugLevel
  | .kept => Log.debugLevel

def remarkText : Render.Remark → String
  | .retrying => "Primary render left fenced code unexpanded — trying fallback"
  | .adopted => "Fallback render adopted"
  | .kept => "Fallback render was no better — keeping primary output"

def logRemark (r : Render.Remark) (s : Session) : Session :=
  s.record { logger := renderLogger, level := remarkLevel r, message := remarkText r }

/-- The commands of the settings as renderers. No words for the fallback are no fallback. -/
def renderersOf (s : FallbackSettings) : Except Render.Failure
    (Render.ActiveRenderer Session Render.Failure ×
      Option (Render.ActiveRenderer Session Render.Failure)) := do
  let primary ← Render.rendererOf Session.runCommand s.primary .default
  let fallback ← if s.fallback.isEmpty then pure none
    else some <$> Render.rendererOf Session.runCommand s.fallback .default
  return (primary, fallback)

def renderPage (s : FallbackSettings) (source : List Char) :
    StateM Session (Except Render.Failure Render.Page) :=
  match renderersOf s with
  | .error f => return .error f
  | .ok (primary, fallback) =>
    (Render.renderIn logRemark primary fallback s.enabled source).run

def reportFault (json : Bool) (f : Render.Fault) : Act Unit :=
  if json then sayJson (.object [("error", .text f.message)]) else sayLine s!"❌ {f.message}"

def deliverPage (scope : Scope) (output : Option String) (json : Bool) (page : Render.Page) :
    Act Unit := do
  let file := nonemptyPath output
  if json then
    if file.isSome then writeOutput page.html file
    sayJson page.summary
  else
    writeOutput page.html file
    if file.isSome && !scope.quiet then
      let label := if page.usedFallback then " (fallback renderer)" else ""
      complain ("✅ Rendered: " ++ output.getD "" ++ label ++ "\n")

def conclude (scope : Scope) (output : Option String) (json : Bool) :
    Except Render.Failure Render.Page → Act Unit
  | .error (.fault f) => do
    reportFault json f
    exit 1
  | .error f => run (throw (.render f))
  | .ok page => deliverPage scope output json page

def render (scope : Scope) (source : String) (output : Option String) (json : Bool) :
    Act Unit := do
  let s ← loadSettings scope
  let text ← readSource source
  conclude scope output json (← run (ExceptT.lift (renderPage s.fallback text)))

def sayItems (items : List String) : Act Unit := items.forM fun t => sayLine s!"   • {t}"

def sayValid (file : Option Path) (s : Settings) : Act Unit := do
  sayLine "✅ Configuration is valid"
  if let some p := file then sayLine s!"   File: {p.toString}"
  sayLine s!"   Staging: {s.stagingDir}"
  sayLine s!"   Docs: {s.docsDir}"
  let patterns := ", ".intercalate s.patterns
  sayLine ("   Patterns: " ++ if patterns.isEmpty then "(none)" else patterns)

def check (scope : Scope) (json : Bool) : Act Unit := do
  let r ← run (Config.check scope.config (← environment))
  if json then
    sayJson r.summary
    exit (if r.valid then 0 else 1)
  match r.valid, r.settings with
  | true, some s => sayValid r.file s
  | _, _ =>
    sayLine "❌ Configuration errors:"
    sayItems r.errors
  unless r.warnings.isEmpty do
    sayLine ""
    sayLine "⚠️  Warnings:"
    sayItems r.warnings
  sayLine ""
  unless r.valid do exit 1

def prepare (scope : Scope) (cleaning : Option Bool) (json : Bool) : Act Unit := do
  let s ← loadSettings scope
  let root ← findRoot scope
  let r ← run (Docs.prepare root s cleaning)
  if json then sayJson r.summary
  else if r.disabled then sayLine "⊘ Staging disabled (BRACEFENCE_DISABLE)"
  else
    if r.docsCleaned then sayLine s!"🧹 Cleaned {s.docsDir}/"
    let out := (r.stagingDir.map Path.toString).getD "None"
    sayLine s!"✅ Staged {r.written.length} file(s) → {out}"
    if scope.verbose then sayItems (r.written.map Path.baseName)
    r.skipped.forM fun n => sayLine s!"   ⊘ {n} (skipped)"

def clean (scope : Scope) : Act Unit := do
  let s ← loadSettings scope
  let root ← findRoot scope
  if ← run (Docs.clean root s) then sayLine s!"🧹 Removed {s.docsDir}/"
  else sayLine s!"   Nothing to clean ({s.docsDir}/ not found)"

def postprocess (scope : Scope) (json : Bool) : Act Unit := do
  let s ← loadSettings scope
  let root ← findRoot scope
  let r ← run (Docs.postprocess root s)
  if json then sayJson r.summary
  else if r.disabled then sayLine "⊘ Post-processing disabled (BRACEFENCE_DISABLE)"
  else if r.docsDir.isNone then
    sayLine s!"   No {s.docsDir}/ directory — nothing to post-process"
  else
    if let some e := r.error then sayLine s!"⚠️  Post-processing stopped early: {e}"
    sayLine s!"✅ Restored braces in {r.changed.length}/{r.scanned} HTML file(s)"

def perform (scope : Scope) (a : Action) (words : List String) : Act Unit := do
  let (gs, source) ← readAction a words
  let output := Givens.value? gs .output
  let json := Givens.has gs .json
  match a with
  | .sanitize => sanitize scope source (nonemptyPath output)
  | .restore => restore source (nonemptyPath output)
  | .render => render scope source output json
  | .check => check scope json
  | .prepare => prepare scope (Givens.choice? gs .clean) json
  | .clean => clean scope
  | .postprocess => postprocess scope json

def dispatch (words : List String) : Act Unit := do
  let (gs, rest) ← readGroup .main words
  let (command, rest) ← findCommand .main rest
  startLogging gs
  let scope := Scope.ofGivens gs
  match command with
  | .action a => perform scope a rest
  | .group g =>
    let (_, rest) ← readGroup g rest
    match ← findCommand g rest with
    | (.action a, rest) => perform scope a rest
    | (.group _, _) => refuse g.spec true .commandMissing

def runWords (words : List String) : Run Nat := do
  match ← (dispatch words).run with
  | .ok () => return 0
  | .error status => return status

end DocBraces.CommandLine
