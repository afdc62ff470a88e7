import DocBraces.Config.Schema
import DocBraces.Files.Tree

/-!
# Faults of configuration files
-/

set_option autoImplicit false

namespace DocBraces.Config

inductive Fault where
  | missing (path : String)
  | unreadable (path : String) (fault : Files.Fault)
  | malformed (path : String)
  | notMapping (path typeName : String)
  | invalid (failure : Schema.Failure)

/-- The parser's own text on a malformed file is not modelled; `<yaml error>` stands for it. -/
def Fault.message : Fault → String
  | .missing p => s!"Config file not found: {p}"
  | .unreadable p f => s!"Cannot read {p}: {f.message}"
  | .malformed p => s!"Invalid YAML in {p}: <yaml error>"
  | .notMapping p t => s!"Expected a YAML mapping in {p}, got {t}"
  | .invalid f => s!"Invalid bracefence configuration: {f.message}"

end DocBraces.Config
