import DocBraces.Braces.Codec
import DocBraces.Config.Environment

/-!
# Settings

What a project can set, with the usual layout as default: top-level Markdown and text
files are staged into `tmp/bracefence`, and pages are post-processed under `docs`.
-/

set_option autoImplicit false

namespace DocBraces

/-- Renderer commands; each reads Markdown and writes HTML. -/
structure FallbackSettings where
  enabled : Bool := true
  primary : List String := ["pandoc", "--from", "gfm", "--to", "html"]
  fallback : List String := ["pandoc", "--from", "markdown", "--to", "html"]
  deriving DecidableEq, Repr

structure Settings where
  stagingDir : String := "tmp/bracefence"
  docsDir : String := "docs"
  patterns : List String := ["*.md", "*.MD", "*.txt", "*.TXT"]
  placeholder : String := defaultPlaceholder
  cleanDocs : Bool := false
  disabled : Bool := false
  fallback : FallbackSettings := {}
  deriving DecidableEq, Repr

namespace Settings

def usesDefaultCodec (s : Settings) : Bool := s.placeholder == defaultPlaceholder

def codec (s : Settings) : Except Codec.Fault Codec :=
  if s.usesDefaultCodec then .ok .default else Codec.build .ascii .fullwidth s.placeholder

structure Overrides where
  disabled : Option Bool
  cleanDocs : Option Bool
  fallbackEnabled : Option Bool
  deriving DecidableEq, Repr

def Overrides.ofEnvironment (e : Environment) : Overrides where
  disabled := e.flag? disableVariable
  cleanDocs := e.flag? cleanVariable
  fallbackEnabled := (e.flag? noFallbackVariable).map (!·)

def Overrides.names (o : Overrides) : List String :=
  (if o.cleanDocs.isSome then ["clean_docs"] else []) ++
  (if o.disabled.isSome then ["disabled"] else []) ++
  (if o.fallbackEnabled.isSome then ["fallback"] else [])

def override (s : Settings) (o : Overrides) : Settings :=
  { s with
    disabled := o.disabled.getD s.disabled
    cleanDocs := o.cleanDocs.getD s.cleanDocs
    fallback := { s.fallback with enabled := o.fallbackEnabled.getD s.fallback.enabled } }

theorem override_override (s : Settings) (o : Overrides) :
    (s.override o).override o = s.override o := by
  cases h1 : o.disabled <;> cases h2 : o.cleanDocs <;> cases h3 : o.fallbackEnabled <;>
    simp [override, h1, h2, h3]

end Settings

end DocBraces
