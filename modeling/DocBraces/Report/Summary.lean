import DocBraces.Config.Check
import DocBraces.Docs.Pages
import DocBraces.Docs.Staging
import DocBraces.Report.Json

/-!
# Summaries

Results as JSON, their fields in a fixed order.
-/

set_option autoImplicit false

namespace DocBraces

open DocBraces.Report DocBraces.Files

def optionalPath (p : Option Path) : Json := .ofOption (p.map Path.toString)

def paths (ps : List Path) : Json := .texts (ps.map Path.toString)

def Settings.summary (s : Settings) : Json := .object
  [("staging_dir", .text s.stagingDir),
   ("docs_dir", .text s.docsDir),
   ("patterns", .texts s.patterns),
   ("placeholder_chars", .text s.placeholder),
   ("clean_docs", .bool s.cleanDocs),
   ("disabled", .bool s.disabled),
   ("fallback", .object
    [("enabled", .bool s.fallback.enabled),
     ("primary", .texts s.fallback.primary),
     ("fallback", .texts s.fallback.fallback)])]

def Config.CheckResult.summary (r : Config.CheckResult) : Json := .object
  [("valid", .bool r.valid),
   ("config_path", optionalPath r.file),
   ("errors", .texts r.errors),
   ("warnings", .texts r.warnings),
   ("config", (r.settings.map Settings.summary).getD .null)]

def Docs.StagingResult.summary (r : Docs.StagingResult) : Json := .object
  [("staging_dir", optionalPath r.stagingDir),
   ("written", paths r.written),
   ("skipped", .texts r.skipped),
   ("docs_cleaned", .bool r.docsCleaned),
   ("disabled", .bool r.disabled)]

def Docs.PagesResult.summary (r : Docs.PagesResult) : Json := .object
  [("docs_dir", optionalPath r.docsDir),
   ("scanned", .number r.scanned),
   ("changed", paths r.changed),
   ("skipped", paths r.skipped),
   ("error", .ofOption r.error),
   ("disabled", .bool r.disabled)]

def Render.Page.summary (p : Render.Page) : Json := .object
  [("used_fallback", .bool p.usedFallback),
   ("fallback_attempted", .bool p.fallbackAttempted),
   ("length", .number p.html.length)]

end DocBraces
