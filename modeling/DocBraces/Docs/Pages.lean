import DocBraces.Config.Settings
import DocBraces.Session.Files

/-!
# Pages

Puts the ASCII braces back into the HTML pages that a generator has written.
-/

set_option autoImplicit false

namespace DocBraces.Docs

open DocBraces.Files DocBraces.Session

structure PagesResult where
  docsDir : Option Path := none
  scanned : Nat := 0
  changed : List Path := []
  /-- Pages that are no UTF-8. -/
  skipped : List Path := []
  error : Option String := none
  disabled : Bool := false
  deriving DecidableEq, Repr

def pagesLogger : String := "bracefence.core.services.html_restore"

def pagesLog (level : Nat) (message : String) : Run Unit := log pagesLogger level message

/-- Restores one page; says whether it has changed. What is no file is left alone. -/
def restorePage (page : Path) : Run Bool := do
  unless ← isFile page do return false
  match Text.Utf8.decode (← readBytes page) with
  | .error f => throw (.undecodable f)
  | .ok text =>
    let restored := Codec.default.restore text
    if restored = text then return false
    writeText page restored
    return true

def pagePattern : Glob.Pattern := ⟨[.folders, .like (Glob.units "*.html")], false⟩

def restoreNext (result : PagesResult) (page : Path) : Run PagesResult := do
  let result := { result with scanned := result.scanned + 1 }
  try
    if ← restorePage page then return { result with changed := result.changed ++ [page] }
    else return result
  catch
    | .undecodable f =>
      pagesLog Log.warningLevel s!"Skipping {page.toString}: not valid UTF-8 ({f.message})"
      return { result with skipped := result.skipped ++ [page] }
    | f => throw f

def stopAt (result : PagesResult) (f : Files.Fault) : Run PagesResult := do
  let error := s!"{f.cause.name}: {f.message}"
  pagesLog Log.warningLevel s!"HTML post-processing failed: {error}"
  return { result with error := some error }

def restoreAll : List Path → PagesResult → Run PagesResult
  | [], result => return result
  | p :: ps, result => do
    let next ← try Sum.inl <$> restoreNext result p catch
      | .file f => pure (Sum.inr f)
      | f => throw f
    match next with
    | .inl result => restoreAll ps result
    | .inr f => stopAt { result with scanned := result.scanned + 1 } f

def postprocess (root : Path) (s : Settings) : Run PagesResult := do
  if s.disabled then return { disabled := true }
  let docs := root.join (Path.ofString s.docsDir)
  unless ← isFolder docs do
    pagesLog Log.debugLevel s!"No docs directory at {docs.toString} — skipping post-processing"
    return {}
  let session ← get
  let result ← match Glob.find session.view session.levels docs pagePattern with
    | .ok ps => restoreAll (Path.sort ps) { docsDir := some docs }
    | .error (.file f) => stopAt { docsDir := some docs } f
    | .error .tooDeep => throw .tooDeep
  pagesLog Log.infoLevel (s!"Post-processed {result.scanned} HTML file(s) in {docs.toString} " ++
    s!"({result.changed.length} changed)")
  return result

end DocBraces.Docs
