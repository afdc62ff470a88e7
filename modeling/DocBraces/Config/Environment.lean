import DocBraces.Text.Blank
import DocBraces.Text.LetterCase

/-!
# Environment variables

Variables as a list of names with values, and the switches read from them.
-/

set_option autoImplicit false

namespace DocBraces

open DocBraces.Text

abbrev Environment := List (String × String)

namespace Environment

def get? (e : Environment) (name : String) : Option String := e.lookup name

def extend (e added : Environment) : Environment := added ++ e

def isTruthy (word : String) : Bool := ["1", "true", "yes", "on"].contains word

def flag? (e : Environment) (name : String) : Option Bool :=
  match trim ((e.get? name).getD "").toList with
  | [] => none
  | cs => some (isTruthy (String.ofList (cs.map lowerAscii)))

end Environment

def disableVariable : String := "BRACEFENCE_DISABLE"

def cleanVariable : String := "BRACEFENCE_CLEAN_DOCS"

def noFallbackVariable : String := "BRACEFENCE_DISABLE_FALLBACK"

def logLevelVariable : String := "BRACEFENCE_LOG_LEVEL"

def logFileVariable : String := "BRACEFENCE_LOG_FILE"

def logFileLevelVariable : String := "BRACEFENCE_LOG_FILE_LEVEL"

def environmentVariables : List String :=
  [disableVariable, cleanVariable, noFallbackVariable, logLevelVariable, logFileVariable,
   logFileLevelVariable]

end DocBraces
